import FileSearch.Proofs.Pool.Slots

/-!
# Work conservation

A pull loop whose source answers as soon as it is asked comes to rest only where a call has to
settle before it can go on: every slot is then taken and one item waits, or the source has closed and
every item it gave has been started, or the loop has given up
(`PoolLoop.conserves_work_or_gives_up`). It gets there by itself from wherever it is, in a number of
steps that only the number of slots bounds. It gives up where an item waits and a call fails with what
has no text.
-/

namespace FileSearch

variable {α : Type}

/-- A call settles. All other events come by themselves where the source answers at once. -/
def LoopEvent.isFinish : LoopEvent α → Bool
  | .outside (.finished _ _) => true
  | .outside (.delivered _) | .outside .sourceEnded | .outside (.sourceFailed _)
  | .cleared _ | .woken => false

/-- The loop has heard that a task has settled, and starts no item before it goes on. -/
def LoopPhase.hasHeard : LoopPhase α → Bool
  | .asleep _ first => first.isSettled
  | .draining (.gaveUp _ _) _ | .settled (.gaveUp _ _) => true
  | .asking | .draining _ _ | .settled _ => false

namespace PoolLoop

variable {l l' : PoolLoop α} {moments : List (PoolMoment α)}


-- ---------------------------------------------------------------------------
-- Tasks that have settled
-- ---------------------------------------------------------------------------

/-- A loop that has heard of a task has fewer that run than slots. -/
def Watchful (l : PoolLoop α) : Prop := l.phase.hasHeard → l.running.length < l.limit

theorem length_running_lt {t : LoopTask α} (ht : t ∈ l.inFlight) (hsettled : t.settled) :
    l.running.length < l.inFlight.length := by
  rw [running, List.length_map]
  exact List.length_filter_lt_length_iff_exists.mpr ⟨t, ht, by simpa using hsettled⟩

/-- Where no slot is free although fewer tasks run, a clean-up is still to come. -/
theorem exists_settled (hlt : l.running.length < l.limit) (hfull : l.hasSlot = false) :
    ∃ t ∈ l.inFlight, t.settled := by
  by_contra hnone
  have hall : l.inFlight.filter (!·.settled) = l.inFlight :=
    List.filter_eq_self.mpr fun t ht => by simpa using fun h => hnone ⟨t, ht, h⟩
  have hge : l.limit ≤ l.inFlight.length := by simpa [hasSlot] using hfull
  rw [running, hall, List.length_map] at hlt
  omega

theorem watchful_sleep (hl : l.Sound) (item : α) : (l.sleep item).Watchful := by
  intro hheard
  rcases l.firstSettled_cases with ⟨hfirst, -⟩ | ⟨t, ht, hsettled, -⟩
  · simp [sleep, hfirst, LoopPhase.hasHeard, TaskState.isSettled] at hheard
  · exact Nat.lt_of_lt_of_le (length_running_lt ht hsettled) hl.length_le

theorem Turn.watchful (h : l.Turn moments l') (hl : l.Sound) (hw : l.Watchful) : l'.Watchful := by
  cases h with
  | idle => exact hw
  | launched => intro hheard; cases hheard
  | slept => exact watchful_sleep hl _
  | closed failure => intro hheard; cases failure <;> cases hheard
  | @finished index failure hrunning =>
    intro _
    rw [running_settle]
    obtain ⟨t, ht, hindex⟩ := isRunning_iff.mp hrunning
    have hlt : (l.running.filter (·.1 != index)).length < l.running.length :=
      List.length_filter_lt_length_iff_exists.mpr ⟨t, ht, by simp [hindex]⟩
    exact Nat.lt_of_lt_of_le hlt (Nat.le_trans (length_running_le l) hl.length_le)
  | cleared ht hindex hsettled =>
    subst hindex
    intro hheard
    rw [running_clear hl.nodup ht hsettled]
    exact hw hheard
  | resumed => intro hheard; cases hheard
  | sleptOn => exact watchful_sleep hl _
  | gaveUp hphase => exact fun _ => hw (by rw [hphase]; rfl)
  | @settled ending watched hphase =>
    intro hheard
    refine hw ?_
    rw [hphase]
    cases ending <;> exact hheard

theorem run_watchful (hl : l.Sound) (hw : l.Watchful) (events : List (LoopEvent α)) :
    (l.run events).Watchful := by
  induction events generalizing l with
  | nil => exact hw
  | cons e rest ih =>
    have hturn := step_turn l e
    exact ih (hturn.sound hl) (hturn.watchful hl hw)

theorem watchful_new (limit : Nat) : ({ limit } : PoolLoop α).Watchful := by
  intro hheard
  cases hheard


-- ---------------------------------------------------------------------------
-- Loops at rest
-- ---------------------------------------------------------------------------

/-- Nothing can come but the end of a call. A loop that asks is not at rest: its answer is due. -/
def Quiescent (l : PoolLoop α) : Prop := ∀ e, l.admits e → e.isFinish

theorem Quiescent.not_asking (h : l.Quiescent) : l.phase ≠ .asking := fun hphase =>
  Bool.false_ne_true (h (.outside .sourceEnded) (asks_iff.mpr hphase))

theorem Quiescent.not_wakes (h : l.Quiescent) : l.wakes = false := by
  by_contra hwakes
  exact Bool.false_ne_true (h .woken (by simpa [admits] using hwakes))

/-- A loop that rests on an item has heard of nothing. -/
theorem Quiescent.first_eq (h : l.Quiescent) {item : α} {first : TaskState}
    (hphase : l.phase = .asleep item first) : first = .running := by
  have hwakes := h.not_wakes
  cases first with
  | running => rfl
  | done => simp [wakes, hphase, TaskState.isSettled] at hwakes
  | broken fault => simp [wakes, hphase, TaskState.isSettled] at hwakes

/-- Every slot is then taken by a task that runs. -/
theorem length_running_of_unheard (hl : l.Sound) {item : α}
    (hphase : l.phase = .asleep item .running) : l.running.length = l.limit := by
  obtain ⟨hfull, hnone⟩ := hl.unheard item hphase
  have hall : l.inFlight.filter (!·.settled) = l.inFlight :=
    List.filter_eq_self.mpr fun t ht => by simp [hnone t ht]
  have hge : l.limit ≤ l.inFlight.length := by simpa [hasSlot] using hfull
  rw [running, hall, List.length_map]
  exact Nat.le_antisymm hl.length_le hge

/-- A loop that rests on the end waits for a task that runs. -/
theorem Quiescent.running_ne_nil (h : l.Quiescent) {ending : LoopEnding α} {watched : List Nat}
    (hphase : l.phase = .draining ending watched) : l.running ≠ [] := by
  intro hnone
  have hwakes := h.not_wakes
  simp [wakes, hphase, isRunning, hnone] at hwakes


-- ---------------------------------------------------------------------------
-- Getting on
-- ---------------------------------------------------------------------------

/-- The loop only goes to sleep again: a task has settled, but no slot is free yet. -/
def isVain (l : PoolLoop α) : LoopEvent α → Bool
  | .woken =>
    match l.phase with
    | .asleep _ .done => !l.hasSlot
    | .asking | .asleep _ _ | .draining _ _ | .settled _ => false
  | .outside _ | .cleared _ => false

/-- Events that come one after the other while no call settles. -/
def Unaided (l : PoolLoop α) : List (LoopEvent α) → Prop
  | [] => True
  | e :: rest => l.admits e ∧ e.isFinish = false ∧ (l.step e).1.Unaided rest

/-- How many of the events get the loop on. -/
def gains (l : PoolLoop α) : List (LoopEvent α) → Nat
  | [] => 0
  | e :: rest => (if l.isVain e then 0 else 1) + (l.step e).1.gains rest

end PoolLoop

/-- The steps that are left to a loop that starts no item. -/
def LoopPhase.rank : LoopPhase α → Nat
  | .asking => 3
  | .asleep _ _ => 2
  | .draining _ _ => 1
  | .settled _ => 0

namespace PoolLoop

variable {l : PoolLoop α}

/-- A bound on what a loop can still do before a call settles: the clean-ups that are due, two steps
for each slot it may yet fill, and those of its phase. -/
def effort (l : PoolLoop α) : Nat :=
  (l.inFlight.length - l.running.length) + 2 * (l.limit - l.running.length) + l.phase.rank

theorem effort_le (hl : l.Sound) : l.effort ≤ 3 * l.limit + 3 := by
  have hrank : l.phase.rank ≤ 3 := by cases l.phase <;> simp [LoopPhase.rank]
  have hlength := hl.length_le
  unfold effort
  omega

theorem effort_phase (l : PoolLoop α) (phase : LoopPhase α) :
    { l with phase }.effort + l.phase.rank = l.effort + phase.rank := by
  change l.inFlight.length - l.running.length + 2 * (l.limit - l.running.length) + phase.rank
    + l.phase.rank = l.effort + phase.rank
  unfold effort
  omega

/-- A loop gets on where it comes to a phase of lower rank and starts no item. -/
theorem effort_lower {phase : LoopPhase α} (hrank : phase.rank < l.phase.rank) :
    { l with phase }.effort < l.effort := by
  have heffort := effort_phase l phase
  omega

theorem effort_start (hslot : l.hasSlot) (item : α) :
    (l.start item).1.effort + l.phase.rank = l.effort + 1 := by
  have hlt : l.inFlight.length < l.limit := by simpa [hasSlot] using hslot
  have hle := length_running_le l
  unfold effort
  rw [running_start]
  simp only [start, List.length_append, List.length_singleton, LoopPhase.rank]
  omega

/-- A clean-up that is due is done. -/
theorem effort_clear (hl : l.Sound) {t : LoopTask α} (ht : t ∈ l.inFlight) (hsettled : t.settled) :
    (l.clear t.index).effort < l.effort := by
  have hrunning := running_clear hl.nodup ht hsettled
  have hlt : (l.clear t.index).inFlight.length < l.inFlight.length :=
    List.length_filter_lt_length_iff_exists.mpr ⟨t, ht, by simp⟩
  have hle := length_running_le (l.clear t.index)
  rw [hrunning] at hle
  unfold effort
  rw [hrunning]
  have hphase : (l.clear t.index).phase = l.phase := rfl
  have hlimit : (l.clear t.index).limit = l.limit := rfl
  rw [hphase, hlimit]
  omega

theorem effort_wake (hwakes : l.wakes) :
    (if l.isVain .woken then 0 else 1) + l.wake.1.effort ≤ l.effort := by
  cases hphase : l.phase with
  | asking => simp [wakes, hphase] at hwakes
  | settled ending => simp [wakes, hphase] at hwakes
  | draining ending watched =>
    simp only [isVain, wake, hphase]
    exact Nat.one_add_le_iff.mpr (effort_lower (by simp [hphase, LoopPhase.rank]))
  | asleep item first =>
    cases first with
    | running => simp [wakes, hphase, TaskState.isSettled] at hwakes
    | broken fault =>
      simp only [isVain, wake, hphase]
      exact Nat.one_add_le_iff.mpr (effort_lower (by simp [hphase, LoopPhase.rank]))
    | done =>
      simp only [isVain, wake, hphase, offer]
      cases hslot : l.hasSlot with
      | true =>
        have heffort := effort_start hslot item
        simp only [hphase, LoopPhase.rank] at heffort
        simp only [Bool.not_true, Bool.false_eq_true, if_false, if_true]
        omega
      | false =>
        have heffort := effort_phase l (.asleep item l.firstSettled)
        simp only [hphase, LoopPhase.rank] at heffort
        simpa [sleep] using Nat.le_of_eq heffort

theorem effort_offer (hphase : l.phase = .asking) (item : α) :
    (l.offer item).1.effort < l.effort := by
  unfold offer
  cases hslot : l.hasSlot with
  | true =>
    have heffort := effort_start hslot item
    simp only [hphase, LoopPhase.rank] at heffort
    simp only [if_true]
    omega
  | false => exact effort_lower (by simp [hphase, LoopPhase.rank])

/-- One step: unless it is in vain, less is left to do. -/
theorem effort_step (hl : l.Sound) {e : LoopEvent α} (he : l.admits e)
    (hfinish : e.isFinish = false) :
    (if l.isVain e then 0 else 1) + (l.step e).1.effort ≤ l.effort := by
  rw [step_of_admits he]
  have hdrain (ending : LoopEnding α) (hasks : l.asks) : (l.drain ending).effort < l.effort :=
    effort_lower (by simp [asks_iff.mp hasks, LoopPhase.rank])
  match e, he, hfinish with
  | .outside (.delivered item), hasks, _ =>
    exact Nat.one_add_le_iff.mpr (effort_offer (asks_iff.mp hasks) item)
  | .outside .sourceEnded, hasks, _ => exact Nat.one_add_le_iff.mpr (hdrain _ hasks)
  | .outside (.sourceFailed reason), hasks, _ => exact Nat.one_add_le_iff.mpr (hdrain _ hasks)
  | .cleared index, hdue, _ =>
    obtain ⟨t, ht, hsettled⟩ := List.any_eq_true.mp hdue
    simp only [Bool.and_eq_true, decide_eq_true_eq] at hsettled
    obtain ⟨hsettled, rfl⟩ := hsettled
    exact Nat.one_add_le_iff.mpr (effort_clear hl ht hsettled)
  | .woken, hwakes, _ => exact effort_wake hwakes

theorem gains_le (hl : l.Sound) {more : List (LoopEvent α)} (h : l.Unaided more) :
    l.gains more + (l.run more).effort ≤ l.effort := by
  induction more generalizing l with
  | nil => exact Nat.le_of_eq (Nat.zero_add _)
  | cons e rest ih =>
    obtain ⟨he, hfinish, hrest⟩ := h
    have hstep := effort_step hl he hfinish
    have hlater := ih ((step_turn l e).sound hl) hrest
    simp only [gains, run_cons]
    omega

/-- A loop that is not at rest can get on: where it would only go to sleep again, there is a task
whose clean-up is due. -/
theorem exists_gain (hw : l.Watchful) (h : ¬ l.Quiescent) :
    ∃ e, l.admits e ∧ e.isFinish = false ∧ l.isVain e = false := by
  obtain ⟨e, he, hfinish⟩ : ∃ e, l.admits e ∧ e.isFinish = false := by
    simpa [Quiescent] using h
  cases hvain : l.isVain e with
  | false => exact ⟨e, he, hfinish, hvain⟩
  | true =>
    obtain ⟨hheard, hfull⟩ : l.phase.hasHeard ∧ l.hasSlot = false := by
      unfold isVain at hvain
      split at hvain
      · split at hvain
        next item hphase => exact ⟨by rw [hphase]; rfl, by simpa using hvain⟩
        all_goals cases hvain
      all_goals cases hvain
    obtain ⟨t, ht, hsettled⟩ := exists_settled (hw hheard) hfull
    have hdue : l.admits (.cleared t.index) := List.any_eq_true.mpr ⟨t, ht, by simp [hsettled]⟩
    exact ⟨.cleared t.index, hdue, rfl, rfl⟩


-- ---------------------------------------------------------------------------
-- Giving up
-- ---------------------------------------------------------------------------

/-- The loop has heard of a task that broke, while an item had no slot. -/
def Doomed (l : PoolLoop α) (fault : Fault) : Prop :=
  (∃ item, l.phase = .asleep item (.broken fault)) ∨
    ∃ item, l.phase.ending? = some (.gaveUp item fault)

/-- A loop that takes no more items although its source is open has given up. -/
theorem hasHeard_of_open (hl : l.Sound) (hopen : l.phase.closed = []) {ending : LoopEnding α}
    (hending : l.phase.ending? = some ending) : l.phase.hasHeard := by
  have hclosed : ending.closed = [] := by
    rw [← hopen, LoopPhase.closed, hending]
  cases ending with
  | sourceEnded => cases hclosed
  | sourceFailed reason => cases hclosed
  | refused fault => exact absurd hending (hl.ne_refused fault)
  | gaveUp item fault =>
    cases hphase : l.phase with
    | asking => simp [hphase, LoopPhase.ending?] at hending
    | asleep item' first => simp [hphase, LoopPhase.ending?] at hending
    | draining ending watched =>
      simp only [hphase, LoopPhase.ending?, Option.some.injEq] at hending
      rw [hending]
      rfl
    | settled ending =>
      simp only [hphase, LoopPhase.ending?, Option.some.injEq] at hending
      rw [hending]
      rfl

/-- Such a loop starts no item any more. -/
theorem Turn.doomed {l' : PoolLoop α} {moments : List (PoolMoment α)} (h : l.Turn moments l')
    {fault : Fault} (hdoomed : l.Doomed fault) :
    l'.Doomed fault ∧ moments.filterMap PoolMoment.started? = [] := by
  have hasleep {item : α} {first : TaskState} (hphase : l.phase = .asleep item first) :
      first = .broken fault := by
    rcases hdoomed with ⟨item', hphase'⟩ | ⟨item', hending⟩
    · exact (LoopPhase.asleep.inj (hphase.symm.trans hphase')).2
    · simp [hphase, LoopPhase.ending?] at hending
  have hnot_asking : l.phase ≠ .asking := by
    rintro hphase
    simp [Doomed, hphase, LoopPhase.ending?] at hdoomed
  cases h with
  | idle => exact ⟨hdoomed, rfl⟩
  | launched hphase => exact absurd hphase hnot_asking
  | slept hphase => exact absurd hphase hnot_asking
  | closed failure hphase => exact absurd hphase hnot_asking
  | @finished index failure hrunning =>
    refine ⟨?_, rfl⟩
    rcases l.phase.learn_cases (.ofFailure failure) with hsame | ⟨item, hphase, -⟩
    · have hphase : (l.settle index failure).phase = l.phase := hsame
      rw [Doomed, hphase]
      exact hdoomed
    · cases hasleep hphase
  | cleared => exact ⟨hdoomed, rfl⟩
  | resumed hphase => cases hasleep hphase
  | sleptOn hphase => cases hasleep hphase
  | gaveUp hphase =>
    obtain rfl := TaskState.broken.inj (hasleep hphase)
    exact ⟨.inr ⟨_, rfl⟩, rfl⟩
  | @settled ending watched hphase =>
    refine ⟨.inr ?_, rfl⟩
    rcases hdoomed with ⟨item, hphase'⟩ | ⟨item, hending⟩
    · exact absurd (hphase.symm.trans hphase') (by simp)
    · exact ⟨item, by simpa [hphase, LoopPhase.ending?] using hending⟩

theorem run_doomed {fault : Fault} (hdoomed : l.Doomed fault) (events : List (LoopEvent α)) :
    (l.run events).Doomed fault ∧ (PoolLedger.of (l.history events)).started = [] := by
  induction events generalizing l with
  | nil => exact ⟨hdoomed, rfl⟩
  | cons e rest ih =>
    obtain ⟨hnext, hnone⟩ := (step_turn l e).doomed hdoomed
    obtain ⟨hlater, hstarted⟩ := ih hnext
    refine ⟨hlater, ?_⟩
    rw [history_cons, PoolLedger.of_append, PoolLedger.started_append, hstarted, List.append_nil]
    exact hnone

theorem Doomed.outcome {fault : Fault} (hdoomed : l.Doomed fault)
    {outcome : Except Reason PoolOutcome} (houtcome : l.outcome? = some outcome) :
    outcome = .error (.thrown (.fault fault)) := by
  obtain ⟨ending, hphase, rfl⟩ := outcome?_eq_some.mp houtcome
  rcases hdoomed with ⟨item, hphase'⟩ | ⟨item, hending⟩
  · exact absurd (hphase.symm.trans hphase') (by simp)
  · obtain rfl : ending = .gaveUp item fault := by
      simpa [hphase, LoopPhase.ending?] using hending
    rfl

/-- A loop that rests on an item is doomed by a call that fails with what has no text. -/
theorem doomed_of_textless {item : α} (hphase : l.phase = .asleep item .running) {index : Nat}
    (hrunning : l.isRunning index) {reason : Reason} (hreason : reason.hasText = false) :
    (l.step (.outside (.finished index (some reason)))).1.Doomed Reason.noText := by
  have hadmits : l.admits (.outside (.finished index (some reason))) := hrunning
  rw [step_of_admits hadmits]
  refine .inl ⟨item, ?_⟩
  simp [advance, settle, hphase, LoopPhase.learn, TaskState.ofFailure, Reason.read_eq_error hreason]


-- ---------------------------------------------------------------------------
-- The theorem
-- ---------------------------------------------------------------------------

/-- Where the source answers as soon as it is asked, a loop is at rest only in three ways. Either the
source is open, every slot is taken by a live call, and one item waits; or the source has closed, and
every item it gave has been started; or the loop has given up for a call that failed with what has no
text, and a slot is idle although the source is open. Of the states at rest the loop has settled in
just those of the latter kinds in which no call is live. It is never stuck: as long as it is not at
rest it can get on by itself, and it does so in boundedly many steps, however clean-ups and wake-ups
are ordered and however often it is woken in vain. A loop that rests on an item gives up as soon as a
call fails with what has no text: whatever comes then, it starts no item, and it can only end with
what making that text threw. -/
theorem conserves_work_or_gives_up {c : Nat} (hc : 0 < c) (events : List (LoopEvent α)) :
    let l : PoolLoop α := (ofConcurrency (.real c)).run events
    let ledger := PoolLedger.of ((ofConcurrency (.real c) : PoolLoop α).history events)
    (l.Quiescent →
      ((ledger.closed = [] ∧ ledger.live.length = c ∧
          ∃ item, ledger.pulled = ledger.started.map (·.2) ++ [item]) ∨
        (ledger.closed ≠ [] ∧ ledger.pulled = ledger.started.map (·.2)) ∨
        ledger.GaveUp ∧ ledger.live.length < c) ∧
      ((∃ outcome, l.outcome? = some outcome) ↔
        (ledger.closed ≠ [] ∨ ledger.GaveUp) ∧ ledger.live = [])) ∧
    (¬ l.Quiescent → ∃ e, l.admits e ∧ e.isFinish = false ∧ l.isVain e = false) ∧
    (∀ more, l.Unaided more → l.gains more ≤ 3 * c + 3) ∧
    (l.Quiescent → ledger.closed = [] → ledger.live.length = c →
      ∀ t ∈ ledger.live, ∀ reason : Reason, reason.hasText = false → ∀ more,
        let after := (l.step (.outside (.finished t.1 (some reason)))).1
        (PoolLedger.of (after.history more)).started = [] ∧
          ∀ outcome, (after.run more).outcome? = some outcome →
            outcome = .error (.thrown (.fault Reason.noText))) := by
  intro l ledger
  obtain ⟨hl, hg⟩ : l.Sound ∧ ledger.Fits l := run_new hc events
  have hlimit : l.limit = c := by
    rw [run_limit, ofConcurrency_real hc]
  have hw : l.Watchful := by
    have hnew := run_watchful (sound_new c) (watchful_new c) events
    rwa [← ofConcurrency_real hc] at hnew
  have hlive_of_asleep {item : α} (hphase : l.phase = .asleep item .running) :
      ledger.live.length = c := by
    rw [hg.live_eq, length_running_of_unheard hl hphase, hlimit]
  -- How the loop stands once it takes no more items.
  have hkind {ending : LoopEnding α} (hending : l.phase.ending? = some ending) :
      ((ledger.closed ≠ [] ∧ ledger.pulled = ledger.started.map (·.2)) ∨
        ledger.GaveUp ∧ ledger.live.length < c) ∧ (ledger.closed ≠ [] ∨ ledger.GaveUp) := by
    obtain ⟨hclosed, hpulled, -⟩ | ⟨reason, hclosed, hpulled, -⟩ | ⟨hgaveUp, -⟩ :=
      ending_cases hl hg hending
    · have hne : ledger.closed ≠ [] := by simp [hclosed]
      exact ⟨.inl ⟨hne, hpulled⟩, .inl hne⟩
    · have hne : ledger.closed ≠ [] := by simp [hclosed]
      exact ⟨.inl ⟨hne, hpulled⟩, .inl hne⟩
    · have hlt : ledger.live.length < c := by
        rw [hg.live_eq, ← hlimit]
        exact hw (hasHeard_of_open hl (hg.closed_eq.symm.trans hgaveUp.closed_eq) hending)
      exact ⟨.inr ⟨hgaveUp, hlt⟩, .inr hgaveUp⟩
  refine ⟨fun hrest => ?_, exists_gain hw, fun more hmore => ?_, ?_⟩
  · cases hphase : l.phase with
    | asking => exact absurd hphase hrest.not_asking
    | asleep item first =>
      obtain rfl := hrest.first_eq hphase
      have hlive := hlive_of_asleep hphase
      have hopen : ledger.closed = [] := by rw [hg.closed_eq, hphase]; rfl
      have hpulled : ledger.pulled = ledger.started.map (·.2) ++ [item] := by
        rw [hg.pulled_eq, hphase]
        rfl
      have hsome : ledger.live ≠ [] := List.ne_nil_of_length_pos (hlive ▸ hc)
      refine ⟨.inl ⟨hopen, hlive, item, hpulled⟩, ?_⟩
      simp [outcome?, hphase, hsome]
    | draining ending watched =>
      obtain ⟨hcases, -⟩ := hkind (by rw [hphase]; rfl)
      have hsome : ledger.live ≠ [] := hg.live_eq ▸ hrest.running_ne_nil hphase
      refine ⟨.inr hcases, ?_⟩
      simp [outcome?, hphase, hsome]
    | settled ending =>
      obtain ⟨hcases, hend⟩ := hkind (by rw [hphase]; rfl)
      have hnone : ledger.live = [] := hg.live_eq.trans (hl.running_eq_nil ending hphase)
      refine ⟨.inr hcases, ?_⟩
      simp [outcome?, hphase, hnone, hend]
  · have hgains := gains_le hl hmore
    have heffort := effort_le hl
    omega
  · intro hrest hopen hfull t ht reason hreason more after
    have hrunning : l.isRunning t.1 := isRunning_iff.mpr ⟨t, hg.live_eq ▸ ht, rfl⟩
    have hdoomed : after.Doomed Reason.noText := by
      cases hphase : l.phase with
      | asking => exact absurd hphase hrest.not_asking
      | asleep item first =>
        obtain rfl := hrest.first_eq hphase
        exact doomed_of_textless hphase hrunning hreason
      | draining ending watched =>
        obtain ⟨⟨hclosed, -⟩ | ⟨-, hlt⟩, -⟩ := hkind (by rw [hphase]; rfl)
        · exact absurd hopen hclosed
        · omega
      | settled ending =>
        obtain ⟨⟨hclosed, -⟩ | ⟨-, hlt⟩, -⟩ := hkind (by rw [hphase]; rfl)
        · exact absurd hopen hclosed
        · omega
    obtain ⟨hlater, hstarted⟩ := run_doomed hdoomed more
    exact ⟨hstarted, fun outcome houtcome => hlater.outcome houtcome⟩

/-- Two of three items are live, and a fourth waits. -/
def fourItems : List (LoopEvent Nat) := threeItems ++ [.outside (.delivered 40)]

theorem conserves_work_or_gives_up_four_items :
    let l : PoolLoop Nat := (ofConcurrency (.real (2 : Nat))).run fourItems
    let ledger := PoolLedger.of ((ofConcurrency (.real (2 : Nat)) : PoolLoop Nat).history fourItems)
    0 < 2 ∧ l.Quiescent ∧ ledger.closed = [] ∧ ledger.live = [(0, 10), (2, 30)] ∧
    ledger.live.length = 2 ∧ (∃ item, ledger.pulled = ledger.started.map (·.2) ++ [item]) ∧
    textless.hasText = false ∧
    (PoolLedger.of ((l.step (.outside (.finished 0 (some textless)))).1.history
      [.cleared 0, .woken])).started = [] := by
  intro l ledger
  have hl : l = { ({ limit := 2 } : PoolLoop Nat) with
      phase := .asleep 40 .running
      started := 3
      inFlight := [{ index := 0, item := 10 }, { index := 2, item := 30 }]
      failures := [{ index := 1, error := .fault { message := "bad" } }] } := by
    change (ofConcurrency (.real (2 : Nat))).run fourItems = _
    rw [ofConcurrency_real (by decide)]
    rfl
  have hrest : l.Quiescent := by
    intro e he
    cases e with
    | outside e => cases e <;> simp_all [admits, asks, LoopEvent.isFinish]
    | cleared index => simp [hl, admits, LoopTask.settled, TaskState.isSettled] at he
    | woken => simp [hl, admits, wakes, TaskState.isSettled] at he
  obtain ⟨hopen, hlive⟩ : ledger.closed = [] ∧ ledger.live = [(0, 10), (2, 30)] := by
    change (PoolLedger.of (history _ fourItems)).closed = [] ∧
      (PoolLedger.of (history _ fourItems)).live = _
    rw [ofConcurrency_real (by decide)]
    exact ⟨rfl, rfl⟩
  have hmem : (0, 10) ∈ ledger.live := hlive ▸ List.mem_cons_self
  have hlength : ledger.live.length = 2 := congrArg List.length hlive
  have htheorem := conserves_work_or_gives_up (c := 2) (by decide) fourItems
  have hstarted := (htheorem.2.2.2 hrest hopen hlength (0, 10) hmem textless rfl
    [.cleared 0, .woken]).1
  rcases (htheorem.1 hrest).1 with hsecond | ⟨hclosed, -⟩ | ⟨-, hlt⟩
  · exact ⟨by decide, hrest, hopen, hlive, hsecond.2.1, hsecond.2.2, rfl, hstarted⟩
  · exact absurd hopen hclosed
  · exact absurd hlength (Nat.ne_of_lt hlt)

/-- The pool has settled although its source is open, and its slot is idle although an item of the
source has not been started. -/
theorem textless_failure_idles_open_source :
    let l : PoolLoop Nat := (ofConcurrency (.real (1 : Nat))).run secondWaits
    let ledger := PoolLedger.of ((ofConcurrency (.real (1 : Nat))).history secondWaits)
    l.Quiescent ∧ l.outcome?.isSome ∧ ledger.closed = [] ∧ ledger.live = [] ∧
    ledger.pulled ≠ ledger.started.map (·.2) := by
  rw [ofConcurrency_real (by decide)]
  refine ⟨fun e he => ?_, rfl, rfl, rfl, by decide⟩
  have hl : ({ limit := 1 } : PoolLoop Nat).run secondWaits
      = { ({ limit := 1 } : PoolLoop Nat) with
          phase := .settled (.gaveUp 20 Reason.noText), started := 1 } := rfl
  rw [hl] at he
  cases e with
  | outside e => cases e <;> simp_all [admits, asks, LoopEvent.isFinish]
  | cleared index => simp [admits] at he
  | woken => simp [admits, wakes] at he

end PoolLoop

end FileSearch
