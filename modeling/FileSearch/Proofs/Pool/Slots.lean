import FileSearch.Proofs.Pool.Turn

/-!
# Slots

A pull loop never has more calls under way than slots, starts the items of its source in their order
and drops none unless it gives up (`PoolLoop.never_exceeds`). As long as calls fail with what has a
text it does not give up, and left alone it comes to the pool that has seen the same things from
outside: clean-ups and wake-ups change nothing about that (`PoolLoop.rest_run`).
-/

namespace FileSearch

variable {α : Type}


-- ---------------------------------------------------------------------------
-- Waiting items
-- ---------------------------------------------------------------------------

namespace Pool

variable {p : Pool α}

theorem startWaiting_of_none (h : p.waiting = none) : p.startWaiting = (p, []) := by
  simp [startWaiting, h]

theorem startWaiting_of_slot {item : α} (h : p.waiting = some item) (hslot : p.hasSlot) :
    p.startWaiting = p.start item := by
  simp [startWaiting, h, hslot]

theorem startWaiting_of_full {item : α} (h : p.waiting = some item) (hfull : p.hasSlot = false) :
    p.startWaiting = (p, []) := by
  simp [startWaiting, h, hfull]

theorem ofConcurrency_real {c : Nat} (hc : 0 < c) :
    (ofConcurrency (.real c) : Except Fault (Pool α)) = .ok { limit := c } := by
  have hnot : ¬ (c : Int) < 1 := by omega
  simp [ofConcurrency, Number.toInt?, hnot]

/-- It makes no difference whether an item is started before or after a task has finished, if it had
a slot already. -/
theorem finished_startWaiting (hlength : p.live.length ≤ p.limit)
    (hstarted : ∀ t ∈ p.live, t.1 < p.started) {index : Nat} (hlive : p.isLive index)
    (failure : Option Thrown) :
    (p.startWaiting.1.step (.finished index failure)).1
      = (p.finish index failure).startWaiting.1 := by
  cases hwaiting : p.waiting with
  | none =>
    rw [startWaiting_of_none hwaiting]
    simp [step, hlive]
  | some item =>
    cases hslot : p.hasSlot with
    | false =>
      rw [startWaiting_of_full hwaiting hslot]
      simp [step, hlive]
    | true =>
      obtain ⟨t, ht, hindex⟩ : ∃ t ∈ p.live, t.1 = index := by simpa [isLive] using hlive
      -- The task that finishes is older than the one that is started.
      have hne : p.started ≠ index := by
        have hlt := hstarted t ht
        omega
      have hlive' : (p.start item).1.isLive index := by
        simp only [isLive, List.any_eq_true] at hlive ⊢
        obtain ⟨u, hu, hsame⟩ := hlive
        exact ⟨u, List.mem_append_left _ hu, hsame⟩
      have hslot' : (p.finish index failure).hasSlot := by
        have hlt := length_filter_lt hlive
        exact decide_eq_true (Nat.lt_of_lt_of_le hlt hlength)
      have hwaiting' : (p.finish index failure).waiting = some item := hwaiting
      have hnone : ((p.start item).1.finish index failure).waiting = none := rfl
      rw [startWaiting_of_slot hwaiting hslot, startWaiting_of_slot hwaiting' hslot']
      simp only [step, hlive', if_true, startWaiting_of_none hnone]
      simp [finish, start, List.filter_append, hne]

end Pool


-- ---------------------------------------------------------------------------
-- The loop left alone
-- ---------------------------------------------------------------------------

namespace PoolLoop

variable {l l' : PoolLoop α} {moments : List (PoolMoment α)}

/-- Turns that change nothing of what a pool knows change nothing of what the loop comes to. -/
theorem pool_eq (hlimit : l'.limit = l.limit) (hsource : l'.source = l.source)
    (hstarted : l'.started = l.started) (hrunning : l'.running = l.running)
    (hwaiting : l'.waiting = l.waiting) (hfailures : l'.failures = l.failures) :
    l'.pool = l.pool := by
  rw [pool, hlimit, hsource, hstarted, hrunning, hwaiting, hfailures]
  rfl

theorem pool_settle (l : PoolLoop α) (index : Nat) {failure : Option Reason}
    (htold : ∀ reason, failure = some reason → reason.hasText) :
    (l.settle index failure).pool = l.pool.finish index (failure.map Reason.told) := by
  have hphase : (l.settle index failure).source = l.source ∧
      (l.settle index failure).waiting = l.waiting := by
    rcases l.phase.learn_cases (.ofFailure failure) with hsame | ⟨item, hasleep, -⟩
    · simp [source, waiting, settle, hsame]
    · simp [source, waiting, settle, hasleep, LoopPhase.learn, LoopPhase.ending?]
  have hnoted : (TaskFailure.of? (index, failure)).toList
      = (failure.map Reason.told).toList.map fun t => { index, error := t.asError } := by
    cases failure with
    | none => rfl
    | some reason => simp [TaskFailure.of?, Reason.read_eq_ok (htold reason rfl)]
  rw [pool, running_settle, hphase.1, hphase.2]
  change Pool.mk _ _ _ _ _ (l.failures ++ _) = _
  rw [hnoted]
  rfl

theorem pool_start (hopen : l.source = .open) (item : α) :
    (l.start item).1.pool = (l.pool.start item).1 := by
  rw [pool, running_start, pool, hopen]
  rfl

theorem rest_of_waiting_none (h : l.waiting = none) : l.rest = l.pool := by
  rw [rest, Pool.startWaiting_of_none (p := l.pool) h]

/-- A task that runs has a slot. -/
theorem hasSlot_pool (h : l.hasSlot) : l.pool.hasSlot := by
  have hlt : l.inFlight.length < l.limit := by simpa [hasSlot] using h
  exact decide_eq_true (Nat.lt_of_le_of_lt (length_running_le l) hlt)

theorem asks_pool (h : l.phase = .asking) : l.pool.asks := by
  refine Pool.asks_iff.mpr ⟨?_, waiting_of_asking h⟩
  rw [pool, source_of_asking h]
  rfl

/-- One step: what is met from outside, the pool meets too, and all else leaves it as it is. -/
theorem Turn.rest (h : l.Turn moments l') (hl : l.Sound) (hbroke : ∀ fault, ¬ l.Broke fault)
    (htold : (PoolLedger.of moments).Told) :
    l'.rest = l.rest.run (moments.filterMap PoolMoment.event?) := by
  cases h with
  | idle => rfl
  | @launched item hphase hslot =>
    rw [rest_of_waiting_none (waiting_of_asking hphase),
      rest_of_waiting_none (l := (l.start item).1) rfl, pool_start (source_of_asking hphase)]
    have hstep : (l.pool.step (.delivered item)).1 = (l.pool.start item).1 := by
      rw [Pool.step_delivered (asks_pool hphase), if_pos (hasSlot_pool hslot)]
    exact hstep.symm
  | @slept item hphase hfull =>
    have hpool : (l.sleep item).pool = { l.pool with waiting := some item } := by
      rw [pool, pool, source_of_asking hphase]
      rfl
    rw [PoolLoop.rest, hpool, rest_of_waiting_none (waiting_of_asking hphase)]
    simp [Pool.run, Pool.step, PoolEvent.told, asks_pool hphase]
  | closed failure hphase =>
    rw [rest_of_waiting_none (waiting_of_asking hphase),
      rest_of_waiting_none (l := l.drain (.closing failure)) rfl]
    have hwaiting := waiting_of_asking hphase
    cases failure with
    | none =>
      refine Eq.trans ?_ (Pool.step_sourceEnded (asks_pool hphase)).symm
      rw [pool, pool, hwaiting]
      rfl
    | some reason =>
      refine Eq.trans ?_ (Pool.step_sourceFailed (asks_pool hphase) reason.told).symm
      rw [pool, pool, hwaiting]
      rfl
  | @finished index failure hrunning =>
    have hlength : l.pool.live.length ≤ l.pool.limit :=
      Nat.le_trans (length_running_le l) hl.length_le
    have hstarted : ∀ t ∈ l.pool.live, t.1 < l.pool.started := fun t ht =>
      hl.lt_started t.1 (mem_slots_of_running ht)
    rw [PoolLoop.rest, pool_settle l index (htold (index, failure) List.mem_cons_self)]
    exact (Pool.finished_startWaiting hlength hstarted hrunning (failure.map Reason.told)).symm
  | @cleared index t ht hindex hsettled =>
    subst hindex
    have hpool : (l.clear t.index).pool = l.pool :=
      pool_eq rfl rfl rfl (running_clear hl.nodup ht hsettled) rfl rfl
    rw [PoolLoop.rest, hpool]
    rfl
  | @resumed item hphase hslot =>
    have hwaiting : l.pool.waiting = some item := waiting_of_asleep hphase
    rw [rest_of_waiting_none (l := (l.start item).1) rfl, pool_start (source_of_asleep hphase),
      ← Pool.startWaiting_of_slot hwaiting (hasSlot_pool hslot)]
    rfl
  | @sleptOn item hphase =>
    have hpool : (l.sleep item).pool = l.pool :=
      pool_eq rfl (source_of_asleep hphase).symm rfl rfl (waiting_of_asleep hphase).symm rfl
    rw [PoolLoop.rest, hpool]
    rfl
  | @gaveUp item fault hphase => exact absurd (.inr (by rw [hphase]; rfl)) (hbroke fault)
  | @settled ending watched hphase =>
    have hwaiting : l.waiting = none := by simp [waiting, hphase]
    have hsource : l.source = ending.source := by simp [source, hphase, LoopPhase.ending?]
    have hpool : ({ l with phase := .settled ending } : PoolLoop α).pool = l.pool :=
      pool_eq rfl hsource.symm rfl rfl hwaiting.symm rfl
    rw [PoolLoop.rest, hpool]
    rfl

/-- Whatever order clean-ups and wake-ups come in, what the loop comes to depends only on what has
been met from outside, as long as calls fail with what has a text. -/
theorem rest_run (hl : l.Sound) {g : PoolLedger α} (hg : g.Fits l) {events : List (LoopEvent α)}
    (htold : (g ++ PoolLedger.of (l.history events)).Told) :
    (l.run events).rest = l.rest.run ((l.history events).filterMap PoolMoment.event?) := by
  induction events generalizing l g with
  | nil => rfl
  | cons e rest ih =>
    have hturn := step_turn l e
    rw [history_cons, PoolLedger.of_append, ← PoolLedger.append_assoc] at htold
    have hnow : (g ++ PoolLedger.of (l.moments e)).Told := htold.of_append
    have hbroke (fault : Fault) (h : l.Broke fault) : False :=
      (hg.broken fault h).2 hnow.of_append
    have hmoments : (PoolLedger.of (l.moments e)).Told := fun t ht =>
      hnow t (List.mem_append_right _ ht)
    rw [run_cons, ih (hturn.sound hl) (hturn.fits hl hg) htold, hturn.rest hl hbroke hmoments,
      history_cons, List.filterMap_append, Pool.run_append]


-- ---------------------------------------------------------------------------
-- Live calls and started items
-- ---------------------------------------------------------------------------

theorem ofConcurrency_real {c : Nat} (hc : 0 < c) :
    (ofConcurrency (.real c) : PoolLoop α) = { limit := c } := by
  rw [ofConcurrency, Pool.ofConcurrency_real hc]

theorem rest_new {c : Nat} (hc : 0 < c) :
    (ofConcurrency (.real c) : PoolLoop α).rest = { limit := c } := by
  rw [ofConcurrency_real hc]
  rfl

theorem run_new {c : Nat} (hc : 0 < c) (events : List (LoopEvent α)) :
    ((ofConcurrency (.real c) : PoolLoop α).run events).Sound ∧
      (PoolLedger.of ((ofConcurrency (.real c) : PoolLoop α).history events)).Fits
        ((ofConcurrency (.real c)).run events) := by
  rw [ofConcurrency_real hc]
  exact run_fits (sound_new c) (PoolLedger.fits_new c) events

end PoolLoop

/-- A call has failed with what has no text, and although the source is open the last item taken from
it will not be started. -/
structure PoolLedger.GaveUp (g : PoolLedger α) : Prop where
  not_told : ¬ g.Told
  closed_eq : g.closed = []
  dropped : ∃ item, g.pulled = g.started.map (·.2) ++ [item]

namespace PoolLoop

variable {l : PoolLoop α} {g : PoolLedger α}

theorem gaveUp_of_ending (hg : g.Fits l) {item : α} {fault : Fault}
    (hending : l.phase.ending? = some (.gaveUp item fault)) :
    g.GaveUp ∧ fault = Reason.noText := by
  have hclosed : l.phase.closed = [] := by simp [LoopPhase.closed, hending, LoopEnding.closed]
  have hphase : l.phase.fault? = some fault ∧ l.phase.unstarted = some item := by
    cases hphase : l.phase with
    | asking => simp [hphase, LoopPhase.ending?] at hending
    | asleep item first => simp [hphase, LoopPhase.ending?] at hending
    | draining ending watched =>
      simp only [hphase, LoopPhase.ending?, Option.some.injEq] at hending
      subst hending
      exact ⟨rfl, rfl⟩
    | settled ending =>
      simp only [hphase, LoopPhase.ending?, Option.some.injEq] at hending
      subst hending
      exact ⟨rfl, rfl⟩
  obtain ⟨hfault, hnot⟩ := hg.broken fault (.inr hphase.1)
  refine ⟨⟨hnot, hg.closed_eq.trans hclosed, item, ?_⟩, hfault⟩
  rw [hg.pulled_eq, hphase.2]
  rfl

theorem outcome?_eq_some {outcome : Except Reason PoolOutcome} :
    l.outcome? = some outcome ↔ ∃ ending, l.phase = .settled ending ∧ l.report ending = outcome := by
  unfold outcome?
  split <;> simp_all

/-- In terms of what has come to pass: how a loop takes no more items, and what comes of it. -/
theorem ending_cases (hl : l.Sound) (hg : g.Fits l) {ending : LoopEnding α}
    (hending : l.phase.ending? = some ending) :
    (g.closed = [none] ∧ g.pulled = g.started.map (·.2) ∧
        l.report ending = .ok { dispatched := l.started, failures := g.failures }) ∨
      (∃ reason, g.closed = [some reason] ∧ g.pulled = g.started.map (·.2) ∧
        l.report ending = .error reason) ∨
      g.GaveUp ∧ l.report ending = .error (.thrown (.fault Reason.noText)) := by
  have hclosed : g.closed = ending.closed := by
    rw [hg.closed_eq, LoopPhase.closed, hending]
  have hpulled : g.pulled = g.started.map (·.2) ++ ending.dropped?.toList := by
    rw [hg.pulled_eq]
    cases hphase : l.phase <;> simp_all [LoopPhase.ending?, LoopPhase.unstarted]
  cases ending with
  | sourceEnded =>
    refine .inl ⟨hclosed, hpulled.trans (List.append_nil _), ?_⟩
    rw [hg.failures_eq]
    rfl
  | sourceFailed reason =>
    exact .inr (.inl ⟨reason, hclosed, hpulled.trans (List.append_nil _), rfl⟩)
  | gaveUp item fault =>
    obtain ⟨hgaveUp, rfl⟩ := gaveUp_of_ending hg hending
    exact .inr (.inr ⟨hgaveUp, rfl⟩)
  | refused fault => exact absurd hending (hl.ne_refused fault)

/-- Whatever the source delivers, however the tasks finish and in whatever order clean-ups and
wake-ups run: no more calls are live than there are slots; the calls are made in the order of the
source, each under its position; and of all items taken from the source at most the last is not
started. When the pool has settled that one is started too, unless a call failed with what has no text
while the item waited: the pool may then fail with what making that text threw, although the source is
open, and the item is dropped. As long as whatever calls fail with has a text, no item is, and the
loop behaves as the pool does that is told of the same things. -/
theorem never_exceeds {c : Nat} (hc : 0 < c) (events : List (LoopEvent α)) :
    let l : PoolLoop α := (ofConcurrency (.real c)).run events
    let history : List (PoolMoment α) := (ofConcurrency (.real c)).history events
    let ledger := PoolLedger.of history
    ledger.live.length ≤ c ∧
    ledger.started.map (·.1) = List.range ledger.started.length ∧
    (ledger.pulled = ledger.started.map (·.2) ∨
      ∃ item, ledger.pulled = ledger.started.map (·.2) ++ [item]) ∧
    (∀ outcome, l.outcome? = some outcome →
      ledger.pulled = ledger.started.map (·.2) ∨
        ledger.GaveUp ∧ outcome = .error (.thrown (.fault Reason.noText))) ∧
    (ledger.Told →
      (∀ outcome, l.outcome? = some outcome → ledger.pulled = ledger.started.map (·.2)) ∧
      ∃ pool : Pool α, Pool.ofConcurrency (.real c) = .ok pool ∧
        l.rest = pool.run (history.filterMap PoolMoment.event?)) := by
  intro l history ledger
  obtain ⟨hl, hg⟩ : l.Sound ∧ ledger.Fits l := run_new hc events
  have hlimit : l.limit = c := by
    rw [run_limit, ofConcurrency_real hc]
  have hsettled : ∀ outcome, l.outcome? = some outcome →
      ledger.pulled = ledger.started.map (·.2) ∨
        ledger.GaveUp ∧ outcome = .error (.thrown (.fault Reason.noText)) := by
    intro outcome houtcome
    obtain ⟨ending, hphase, rfl⟩ := outcome?_eq_some.mp houtcome
    have hending : l.phase.ending? = some ending := by rw [hphase]; rfl
    obtain ⟨-, hpulled, -⟩ | ⟨reason, -, hpulled, -⟩ | hgaveUp := ending_cases hl hg hending
    · exact .inl hpulled
    · exact .inl hpulled
    · exact .inr hgaveUp
  refine ⟨?_, ?_, ?_, hsettled, fun htold => ⟨fun outcome houtcome => ?_, { limit := c },
    Pool.ofConcurrency_real hc, ?_⟩⟩
  · rw [hg.live_eq, ← hlimit]
    exact Nat.le_trans (length_running_le l) hl.length_le
  · have hlength := congrArg List.length hg.started_eq
    rw [List.length_map, List.length_range] at hlength
    rw [hlength]
    exact hg.started_eq
  · rw [hg.pulled_eq]
    cases l.phase.unstarted with
    | none => exact .inl (List.append_nil _)
    | some item => exact .inr ⟨item, rfl⟩
  · exact (hsettled outcome houtcome).resolve_right fun h => h.1.not_told htold
  · have htold' : (PoolLedger.of [] ++ PoolLedger.of
        (({ limit := c } : PoolLoop α).history events)).Told := by
      rw [← ofConcurrency_real hc]
      exact htold
    have hrest := rest_run (sound_new c) (PoolLedger.fits_new c) htold'
    rw [← ofConcurrency_real hc, rest_new hc] at hrest
    exact hrest

/-- Of three items the last waits until a failed task has lost its slot. -/
def threeItems : List (LoopEvent Nat) :=
  [.outside (.delivered 10), .outside (.delivered 20), .outside (.delivered 30),
    .outside (.finished 1 (some (.thrown (.value (.text "bad"))))), .woken, .cleared 1, .woken]

theorem never_exceeds_three_items :
    let history := (ofConcurrency (.real (2 : Nat)) : PoolLoop Nat).history threeItems
    let ledger := PoolLedger.of history
    0 < 2 ∧ ledger.live.length ≤ 2 ∧ ledger.live = [(0, 10), (2, 30)] := by
  refine ⟨by decide, (never_exceeds (by decide) threeItems).1, ?_⟩
  rw [ofConcurrency_real (by decide)]
  rfl

/-- A record that brings what makes its text, but no function. -/
def textless : Reason := .textless (.record [("toString", .null)]) rfl

/-- One of two items waits while the call for the other fails. -/
def secondWaits : List (LoopEvent Nat) :=
  [.outside (.delivered 10), .outside (.delivered 20), .outside (.finished 0 (some textless)),
    .cleared 0, .woken, .woken]

/-- The pool has settled, and an item that it took has not been started. -/
theorem textless_failure_drops_item :
    let l : PoolLoop Nat := (ofConcurrency (.real (1 : Nat))).run secondWaits
    let ledger := PoolLedger.of ((ofConcurrency (.real (1 : Nat))).history secondWaits)
    l.outcome? = some (.error (.thrown (.fault Reason.noText))) ∧
    ledger.closed = [] ∧ ledger.pulled = [10, 20] ∧ ledger.started = [(0, 10)] := by
  rw [ofConcurrency_real (by decide)]
  exact ⟨rfl, rfl, rfl, rfl⟩

end PoolLoop

end FileSearch
