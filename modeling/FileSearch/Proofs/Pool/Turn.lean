import FileSearch.Proofs.Pool.History
import FileSearch.Proofs.Pool

/-!
# Turns of a pull loop

What a pull loop can do in one step. Every step is one of the ten turns below
(`PoolLoop.step_turn`), and whatever holds of all runs of a loop is proved from these. Two turns start
an item, and both have found a slot free just before; the turn that settles the loop has found every
task it watches settled. One turn drops an item: the loop gives up, for a task broke whose end it slept
on.
-/

namespace FileSearch

variable {α : Type}

namespace LoopEnding

/-- The source has closed. -/
def closing : Option Reason → LoopEnding α
  | none => .sourceEnded
  | some reason => .sourceFailed reason

/-- How the source came to its end, in the form a ledger notes it. -/
def closed : LoopEnding α → List (Option Reason)
  | .sourceEnded => [none]
  | .sourceFailed reason => [some reason]
  | .gaveUp _ _ | .refused _ => []

def dropped? : LoopEnding α → Option α
  | .gaveUp item _ => some item
  | .sourceEnded | .sourceFailed _ | .refused _ => none

end LoopEnding

namespace LoopPhase

/-- What a loop knows of the end of its source. -/
def closed (phase : LoopPhase α) : List (Option Reason) :=
  match phase.ending? with
  | some ending => ending.closed
  | none => []

/-- The item that has no slot, or had none when the loop gave up. -/
def unstarted : LoopPhase α → Option α
  | .asleep item _ => some item
  | .draining ending _ | .settled ending => ending.dropped?
  | .asking => none

/-- What a task broke with that the loop has heard of. -/
def fault? : LoopPhase α → Option Fault
  | .asleep _ (.broken fault) => some fault
  | .draining (.gaveUp _ fault) _ | .settled (.gaveUp _ fault) => some fault
  | .asking | .asleep _ _ | .draining _ _ | .settled _ => none

@[simp] theorem ending?_learn (phase : LoopPhase α) (state : TaskState) :
    (phase.learn state).ending? = phase.ending? := by
  unfold learn
  split <;> rfl

@[simp] theorem closed_learn (phase : LoopPhase α) (state : TaskState) :
    (phase.learn state).closed = phase.closed := by
  simp [closed]

@[simp] theorem unstarted_learn (phase : LoopPhase α) (state : TaskState) :
    (phase.learn state).unstarted = phase.unstarted := by
  unfold learn
  split <;> rfl

/-- A phase that learns something is a sleep in which nothing was known. -/
theorem learn_cases (phase : LoopPhase α) (state : TaskState) :
    phase.learn state = phase ∨
      ∃ item, phase = .asleep item .running ∧ phase.learn state = .asleep item state := by
  unfold learn
  split
  · exact .inr ⟨_, rfl, rfl⟩
  · exact .inl rfl

end LoopPhase

/-- One step of a loop, told by what comes to pass in it. -/
inductive PoolLoop.Turn (l : PoolLoop α) : List (PoolMoment α) → PoolLoop α → Prop
  | idle : Turn l [] l
  | launched {item : α} (hphase : l.phase = .asking) (hslot : l.hasSlot) :
      Turn l [.met (.delivered item), .started l.started item] (l.start item).1
  | slept {item : α} (hphase : l.phase = .asking) (hfull : l.hasSlot = false) :
      Turn l [.met (.delivered item)] (l.sleep item)
  | closed (failure : Option Reason) (hphase : l.phase = .asking) :
      Turn l [.met (.closing failure)] (l.drain (.closing failure))
  | finished {index : Nat} {failure : Option Reason} (hrunning : l.isRunning index) :
      Turn l [.met (.finished index failure)] (l.settle index failure)
  | cleared {index : Nat} {t : LoopTask α} (ht : t ∈ l.inFlight) (hindex : t.index = index)
      (hsettled : t.settled) :
      Turn l [] (l.clear index)
  /-- The item that waited is started. -/
  | resumed {item : α} (hphase : l.phase = .asleep item .done) (hslot : l.hasSlot) :
      Turn l [.started l.started item] (l.start item).1
  /-- A task has settled, but still has its slot. -/
  | sleptOn {item : α} (hphase : l.phase = .asleep item .done) (hfull : l.hasSlot = false) :
      Turn l [] (l.sleep item)
  | gaveUp {item : α} {fault : Fault} (hphase : l.phase = .asleep item (.broken fault)) :
      Turn l [] (l.drain (.gaveUp item fault))
  | settled {ending : LoopEnding α} {watched : List Nat}
      (hphase : l.phase = .draining ending watched)
      (hdone : ∀ index ∈ watched, l.isRunning index = false) :
      Turn l [] { l with phase := .settled ending }

namespace PoolLoop

variable {l l' : PoolLoop α} {moments : List (PoolMoment α)}


-- ---------------------------------------------------------------------------
-- The parts of a step
-- ---------------------------------------------------------------------------

theorem asks_iff : l.asks ↔ l.phase = .asking := by
  unfold asks
  split <;> simp_all

theorem source_of_asking (h : l.phase = .asking) : l.source = .open := by
  simp [source, h, LoopPhase.ending?]

theorem source_of_asleep {item : α} {first : TaskState} (h : l.phase = .asleep item first) :
    l.source = .open := by
  simp [source, h, LoopPhase.ending?]

theorem waiting_of_asking (h : l.phase = .asking) : l.waiting = none := by simp [waiting, h]

theorem waiting_of_asleep {item : α} {first : TaskState} (h : l.phase = .asleep item first) :
    l.waiting = some item := by
  simp [waiting, h]

theorem step_of_admits {e : LoopEvent α} (h : l.admits e) : l.step e = l.advance e := by
  simp [step, h]

theorem step_of_not_admits {e : LoopEvent α} (h : ¬ l.admits e) : l.step e = (l, []) := by
  simp [step, h]

theorem moments_of_admits {e : LoopEvent α} (h : l.admits e) :
    l.moments e = opening e ++ (l.advance e).2.map fun t => .started t.1 t.2 := by
  simp [moments, step_of_admits h, h]

theorem moments_of_not_admits {e : LoopEvent α} (h : ¬ l.admits e) : l.moments e = [] := by
  simp [moments, h]

theorem offer_turn (hphase : l.phase = .asking) (item : α) :
    l.Turn (.met (.delivered item) :: (l.offer item).2.map fun t => .started t.1 t.2)
      (l.offer item).1 := by
  unfold offer
  cases hslot : l.hasSlot with
  | true => exact .launched hphase hslot
  | false => exact .slept hphase hslot

theorem wake_turn (hwakes : l.wakes) :
    l.Turn (l.wake.2.map fun t => .started t.1 t.2) l.wake.1 := by
  cases hphase : l.phase with
  | asking => simp [wakes, hphase] at hwakes
  | asleep item first =>
    cases first with
    | running => simp [wakes, hphase, TaskState.isSettled] at hwakes
    | done =>
      simp only [wake, hphase, offer]
      cases hslot : l.hasSlot with
      | true => exact .resumed hphase hslot
      | false => exact .sleptOn hphase hslot
    | broken fault =>
      simp only [wake, hphase]
      exact .gaveUp hphase
  | draining ending watched =>
    have hdone : ∀ index ∈ watched, l.isRunning index = false := by
      simpa [wakes, hphase] using hwakes
    simp only [wake, hphase]
    exact .settled hphase hdone
  | settled ending => simp [wakes, hphase] at hwakes

/-- Every step of a loop is one of the turns. -/
theorem step_turn (l : PoolLoop α) (e : LoopEvent α) : l.Turn (l.moments e) (l.step e).1 := by
  by_cases hadmits : l.admits e
  · rw [moments_of_admits hadmits, step_of_admits hadmits]
    match e, hadmits with
    | .outside (.delivered item), hasks => exact offer_turn (asks_iff.mp hasks) item
    | .outside .sourceEnded, hasks => exact .closed none (asks_iff.mp hasks)
    | .outside (.sourceFailed reason), hasks => exact .closed (some reason) (asks_iff.mp hasks)
    | .outside (.finished index failure), hrunning => exact .finished hrunning
    | .cleared index, hsettled =>
      obtain ⟨t, ht, hsettled⟩ := List.any_eq_true.mp hsettled
      simp only [Bool.and_eq_true, decide_eq_true_eq] at hsettled
      exact .cleared ht hsettled.2 hsettled.1
    | .woken, hwakes => exact wake_turn hwakes
  · rw [moments_of_not_admits hadmits, step_of_not_admits hadmits]
    exact .idle

theorem Turn.limit_eq (h : l.Turn moments l') : l'.limit = l.limit := by
  cases h <;> rfl

theorem run_limit (l : PoolLoop α) (events : List (LoopEvent α)) :
    (l.run events).limit = l.limit := by
  induction events generalizing l with
  | nil => rfl
  | cons e rest ih => exact (ih _).trans (step_turn l e).limit_eq


-- ---------------------------------------------------------------------------
-- Running tasks
-- ---------------------------------------------------------------------------

theorem isSettled_ofFailure (failure : Option Reason) :
    (TaskState.ofFailure failure).isSettled = true := by
  unfold TaskState.ofFailure
  split <;> rfl

theorem length_running_le (l : PoolLoop α) : l.running.length ≤ l.inFlight.length := by
  rw [running, List.length_map]
  exact List.length_filter_le ..

theorem mem_slots_of_running {t : Nat × α} (ht : t ∈ l.running) : t.1 ∈ l.slots := by
  obtain ⟨task, htask, rfl⟩ := List.mem_map.mp ht
  exact List.mem_map_of_mem (List.mem_filter.mp htask).1

theorem isRunning_iff {index : Nat} : l.isRunning index ↔ ∃ t ∈ l.running, t.1 = index := by
  simp [isRunning]

theorem running_start (l : PoolLoop α) (item : α) :
    (l.start item).1.running = l.running ++ [(l.started, item)] := by
  have hnew : ({ index := l.started, item } : LoopTask α).settled = false := rfl
  simp [running, start, List.filter_append, hnew]

@[simp] theorem slots_settle (l : PoolLoop α) (index : Nat) (failure : Option Reason) :
    (l.settle index failure).slots = l.slots := by
  simp only [slots, settle, List.map_map]
  refine List.map_congr_left fun t _ => ?_
  simp only [Function.comp_apply]
  split <;> rfl

theorem running_settle (l : PoolLoop α) (index : Nat) (failure : Option Reason) :
    (l.settle index failure).running = l.running.filter (·.1 != index) := by
  have hstate (index : Nat) (item : α) :
      ({ index, item, state := .ofFailure failure } : LoopTask α).settled = true :=
    isSettled_ofFailure failure
  simp only [running, settle]
  induction l.inFlight with
  | nil => rfl
  | cons t rest ih =>
    by_cases hindex : t.index = index
    · cases hsettled : t.settled <;> simp [hindex, hsettled, hstate, ih]
    · cases hsettled : t.settled <;> simp [hindex, hsettled, ih]

/-- A task that has settled runs no longer, so nothing changes when it loses its slot. -/
theorem running_clear (hnodup : l.slots.Nodup) {t : LoopTask α} (ht : t ∈ l.inFlight)
    (hsettled : t.settled) : (l.clear t.index).running = l.running := by
  have hunique : ∀ u ∈ l.inFlight, u.index = t.index → u.settled := by
    intro u hu hindex
    have hsame : u = t := List.inj_on_of_nodup_map hnodup hu ht hindex
    exact hsame ▸ hsettled
  simp only [running, clear, List.filter_filter]
  congr 1
  apply List.filter_congr
  intro u hu
  by_cases hindex : u.index = t.index
  · simp [hunique u hu hindex]
  · simp [hindex]

/-- A sleep begins with what is known of the tasks that have a slot. -/
theorem firstSettled_cases (l : PoolLoop α) :
    (l.firstSettled = .running ∧ ∀ t ∈ l.inFlight, t.settled = false) ∨
      ∃ t ∈ l.inFlight, t.settled ∧ l.firstSettled = t.state := by
  unfold firstSettled
  split
  next t hfind =>
    have hsettled := List.find?_some hfind
    exact .inr ⟨t, List.mem_of_find?_eq_some hfind, hsettled, rfl⟩
  next hfind => exact .inl ⟨rfl, by simpa using List.find?_eq_none.mp hfind⟩


-- ---------------------------------------------------------------------------
-- What a turn preserves
-- ---------------------------------------------------------------------------

/-- No more tasks have a slot than there are, each under an index of its own. A loop that sleeps and
has heard of nothing has every slot taken by a task that runs. A loop that waits for the end watches
every task that runs, and one that has settled has none. -/
structure Sound (l : PoolLoop α) : Prop where
  length_le : l.inFlight.length ≤ l.limit
  nodup : l.slots.Nodup
  lt_started : ∀ index ∈ l.slots, index < l.started
  unheard : ∀ item, l.phase = .asleep item .running →
    l.hasSlot = false ∧ ∀ t ∈ l.inFlight, t.settled = false
  watched : ∀ ending watched, l.phase = .draining ending watched → ∀ t ∈ l.running, t.1 ∈ watched
  running_eq_nil : ∀ ending, l.phase = .settled ending → l.running = []
  ne_refused : ∀ fault, l.phase.ending? ≠ some (.refused fault)

theorem sound_new (limit : Nat) : ({ limit } : PoolLoop α).Sound :=
  ⟨Nat.zero_le _, List.nodup_nil, by simp [slots], by simp, by simp, by simp,
    by simp [LoopPhase.ending?]⟩

theorem Sound.start (hl : l.Sound) (hslot : l.hasSlot) (item : α) : (l.start item).1.Sound where
  length_le := by
    have hlt : l.inFlight.length < l.limit := by simpa [hasSlot] using hslot
    simp only [PoolLoop.start, List.length_append, List.length_singleton]
    omega
  nodup := by
    have hnew : l.started ∉ l.slots := fun hmem => Nat.lt_irrefl _ (hl.lt_started _ hmem)
    simp only [slots, PoolLoop.start, List.map_append, List.map_cons, List.map_nil]
    exact hl.nodup.append (List.nodup_singleton _) (by simpa [slots] using hnew)
  lt_started index hindex := by
    simp only [slots, PoolLoop.start, List.map_append, List.mem_append] at hindex ⊢
    rcases hindex with hold | hnew
    · exact Nat.lt_succ_of_lt (hl.lt_started index hold)
    · simp at hnew
      omega
  unheard := by simp [PoolLoop.start]
  watched := by simp [PoolLoop.start]
  running_eq_nil := by simp [PoolLoop.start]
  ne_refused := by simp [PoolLoop.start, LoopPhase.ending?]

theorem Sound.sleep (hl : l.Sound) (hfull : l.hasSlot = false) (item : α) :
    (l.sleep item).Sound where
  length_le := hl.length_le
  nodup := hl.nodup
  lt_started := hl.lt_started
  unheard item' hphase := by
    simp only [PoolLoop.sleep, LoopPhase.asleep.injEq] at hphase
    refine ⟨hfull, ?_⟩
    rcases l.firstSettled_cases with ⟨-, hnone⟩ | ⟨t, -, hsettled, hfirst⟩
    · exact hnone
    · rw [LoopTask.settled, ← hfirst, hphase.2] at hsettled
      cases hsettled
  watched := by simp [PoolLoop.sleep]
  running_eq_nil := by simp [PoolLoop.sleep]
  ne_refused := by simp [PoolLoop.sleep, LoopPhase.ending?]

theorem Sound.drain (hl : l.Sound) {ending : LoopEnding α}
    (hending : ∀ fault, ending ≠ .refused fault) : (l.drain ending).Sound where
  length_le := hl.length_le
  nodup := hl.nodup
  lt_started := hl.lt_started
  unheard := by simp [PoolLoop.drain]
  watched := by
    intro ending' watched hphase t ht
    simp only [PoolLoop.drain, LoopPhase.draining.injEq] at hphase
    obtain ⟨-, rfl⟩ := hphase
    exact mem_slots_of_running (l := l) ht
  running_eq_nil := by simp [PoolLoop.drain]
  ne_refused fault := by simpa [PoolLoop.drain, LoopPhase.ending?] using hending fault

/-- A loop in which a task runs has not settled. -/
theorem Sound.not_settled (hl : l.Sound) {index : Nat} (hrunning : l.isRunning index)
    (ending : LoopEnding α) : l.phase ≠ .settled ending := by
  intro hphase
  obtain ⟨t, ht, -⟩ := isRunning_iff.mp hrunning
  simp [hl.running_eq_nil ending hphase] at ht

theorem Sound.settle (hl : l.Sound) {index : Nat} (hrunning : l.isRunning index)
    (failure : Option Reason) : (l.settle index failure).Sound where
  length_le := by simpa [PoolLoop.settle] using hl.length_le
  nodup := slots_settle l index failure ▸ hl.nodup
  lt_started i hi := hl.lt_started i (slots_settle l index failure ▸ hi)
  unheard item hphase := by
    have hsettled := isSettled_ofFailure failure
    rcases l.phase.learn_cases (.ofFailure failure) with hsame | ⟨item', -, hlearnt⟩
    · have hasleep : l.phase = .asleep item .running := hsame.symm.trans hphase
      simp only [PoolLoop.settle, hasleep, LoopPhase.learn, LoopPhase.asleep.injEq] at hphase
      rw [hphase.2] at hsettled
      cases hsettled
    · have hasleep := hlearnt.symm.trans hphase
      rw [(LoopPhase.asleep.inj hasleep).2] at hsettled
      cases hsettled
  watched ending watched hphase t ht := by
    rw [running_settle] at ht
    have hsame : l.phase = .draining ending watched := by
      rcases l.phase.learn_cases (.ofFailure failure) with hsame | ⟨item, -, hlearnt⟩
      · exact hsame.symm.trans hphase
      · exact absurd (hlearnt.symm.trans hphase) (by simp)
    exact hl.watched ending watched hsame t (List.mem_filter.mp ht).1
  running_eq_nil ending hphase := by
    rcases l.phase.learn_cases (.ofFailure failure) with hsame | ⟨item, -, hlearnt⟩
    · exact absurd (hsame.symm.trans hphase) (hl.not_settled hrunning ending)
    · exact absurd (hlearnt.symm.trans hphase) (by simp)
  ne_refused fault := by
    change (l.phase.learn _).ending? ≠ _
    rw [LoopPhase.ending?_learn]
    exact hl.ne_refused fault

theorem Sound.clear (hl : l.Sound) {t : LoopTask α} (ht : t ∈ l.inFlight)
    (hsettled : t.settled) : (l.clear t.index).Sound where
  length_le := Nat.le_trans (List.length_filter_le ..) hl.length_le
  nodup := hl.nodup.sublist (List.filter_sublist.map _)
  lt_started i hi := hl.lt_started i ((List.filter_sublist.map _).subset hi)
  unheard item hphase := by
    -- A task that is cleared has settled, and a sleeping loop would have heard of it.
    rw [(hl.unheard item hphase).2 t ht] at hsettled
    cases hsettled
  watched := by
    rw [running_clear hl.nodup ht hsettled]
    exact hl.watched
  running_eq_nil := by
    rw [running_clear hl.nodup ht hsettled]
    exact hl.running_eq_nil
  ne_refused := hl.ne_refused

theorem Turn.sound (h : l.Turn moments l') (hl : l.Sound) : l'.Sound := by
  cases h with
  | idle => exact hl
  | launched _ hslot => exact hl.start hslot _
  | slept _ hfull => exact hl.sleep hfull _
  | closed failure => exact hl.drain (by cases failure <;> simp [LoopEnding.closing])
  | finished hrunning => exact hl.settle hrunning _
  | cleared ht hindex hsettled =>
    subst hindex
    exact hl.clear ht hsettled
  | resumed _ hslot => exact hl.start hslot _
  | sleptOn _ hfull => exact hl.sleep hfull _
  | gaveUp => exact hl.drain (by simp)
  | @settled ending watched hphase hdone =>
    have hnone : l.running = [] := by
      refine List.eq_nil_iff_forall_not_mem.mpr fun t ht => ?_
      have hidle := hdone t.1 (hl.watched ending watched hphase t ht)
      exact Bool.false_ne_true (hidle.symm.trans (isRunning_iff.mpr ⟨t, ht, rfl⟩))
    refine ⟨hl.length_le, hl.nodup, hl.lt_started, by simp, by simp, fun _ _ => hnone, ?_⟩
    intro fault
    have hne := hl.ne_refused fault
    rw [hphase] at hne
    exact hne


-- ---------------------------------------------------------------------------
-- Ledger and loop
-- ---------------------------------------------------------------------------

/-- A task that has a slot has broken, or the loop has heard of one. -/
def Broke (l : PoolLoop α) (fault : Fault) : Prop :=
  (∃ t ∈ l.inFlight, t.state = .broken fault) ∨ l.phase.fault? = some fault

end PoolLoop

/-- What the ledger knows of the state of the loop. A task breaks only with the error of what has no
text. -/
structure PoolLedger.Fits (g : PoolLedger α) (l : PoolLoop α) : Prop where
  started_eq : g.started.map (·.1) = List.range l.started
  pulled_eq : g.pulled = g.started.map (·.2) ++ l.phase.unstarted.toList
  live_eq : g.live = l.running
  failures_eq : g.failures = l.failures
  finished_nodup : (g.finished.map (·.1)).Nodup
  finished_lt : ∀ t ∈ g.finished, t.1 < l.started
  closed_eq : g.closed = l.phase.closed
  broken : ∀ fault, l.Broke fault → fault = Reason.noText ∧ ¬ g.Told

namespace PoolLedger

variable {g : PoolLedger α} {l l' : PoolLoop α} {moments : List (PoolMoment α)}

theorem fits_new (limit : Nat) : (of [] : PoolLedger α).Fits { limit } :=
  ⟨rfl, rfl, rfl, rfl, List.nodup_nil, by simp [of], rfl, by
    simp [PoolLoop.Broke, LoopPhase.fault?]⟩

theorem Told.of_append {later : PoolLedger α} (h : (g ++ later).Told) : g.Told := fun t ht =>
  h t (List.mem_append_left _ ht)

/-- A task breaks only if it failed with what has no text. -/
theorem ofFailure_eq_broken {failure : Option Reason} {fault : Fault}
    (h : TaskState.ofFailure failure = .broken fault) :
    fault = Reason.noText ∧ ∃ reason, failure = some reason ∧ reason.hasText = false := by
  cases failure with
  | none => cases h
  | some reason =>
    cases reason with
    | thrown t => cases h
    | textless v hnone => exact ⟨(TaskState.broken.inj h).symm, _, rfl, rfl⟩

/-- An item is started, which was pulled just now or has waited. -/
theorem Fits.start (hg : g.Fits l) {later : PoolLedger α} {item : α}
    (hstarted : later.started = [(l.started, item)]) (hfinished : later.finished = [])
    (hclosed : later.closed = []) (hpulled : l.phase.unstarted.toList ++ later.pulled = [item])
    (hopen : l.phase.closed = []) : (g ++ later).Fits (l.start item).1 where
  started_eq := by simp [hstarted, hg.started_eq, PoolLoop.start, List.range_succ]
  pulled_eq := by
    have hnone : (l.start item).1.phase.unstarted = none := rfl
    simp [hstarted, hg.pulled_eq, hpulled, hnone]
  live_eq := by
    have hnew : ∀ t ∈ g.finished, t.1 ≠ l.started := fun t ht => Nat.ne_of_lt (hg.finished_lt t ht)
    have hlive := g.live_started item hnew
    rw [PoolLoop.running_start, ← hg.live_eq, ← hlive]
    simp [live, hstarted, hfinished]
  failures_eq := by simpa [failures, hfinished, PoolLoop.start] using hg.failures_eq
  finished_nodup := by simpa [hfinished] using hg.finished_nodup
  finished_lt t ht := by
    rw [finished_append, hfinished, List.append_nil] at ht
    exact Nat.lt_succ_of_lt (hg.finished_lt t ht)
  closed_eq := by
    have hclosed' : g.closed = [] := hg.closed_eq.trans hopen
    rw [closed_append, hclosed, hclosed']
    rfl
  broken fault hbroke := by
    obtain ⟨t, ht, hstate⟩ | hfault := hbroke
    · rcases List.mem_append.mp ht with hold | hnew
      · obtain ⟨hfault, htold⟩ := hg.broken fault (.inl ⟨t, hold, hstate⟩)
        exact ⟨hfault, mt Told.of_append htold⟩
      · obtain rfl := List.mem_singleton.mp hnew
        cases hstate
    · cases hfault

/-- A call settles that had not settled yet. -/
theorem Fits.settle (hg : g.Fits l) (hl : l.Sound) {index : Nat} (hrunning : l.isRunning index)
    (failure : Option Reason) {later : PoolLedger α} (hpulled : later.pulled = [])
    (hstarted : later.started = []) (hfinished : later.finished = [(index, failure)])
    (hclosed : later.closed = []) : (g ++ later).Fits (l.settle index failure) where
  started_eq := by
    rw [started_append, hstarted, List.append_nil]
    exact hg.started_eq
  pulled_eq := by
    change _ = _ ++ (l.phase.learn _).unstarted.toList
    rw [LoopPhase.unstarted_learn, pulled_append, started_append, hpulled, hstarted,
      List.append_nil, List.append_nil]
    exact hg.pulled_eq
  live_eq := by
    rw [PoolLoop.running_settle, ← hg.live_eq, ← live_finished g index failure]
    simp [live, hstarted, hfinished]
  failures_eq := by
    have hfailures := hg.failures_eq
    rw [failures] at hfailures
    rw [failures, finished_append, hfinished, List.filterMap_append, hfailures]
    cases hentry : TaskFailure.of? (index, failure) <;> simp [PoolLoop.settle, hentry]
  finished_nodup := by
    obtain ⟨t, ht, hindex⟩ := PoolLoop.isRunning_iff.mp hrunning
    rw [← hg.live_eq] at ht
    have hnew := not_finished_of_live ht
    rw [hindex] at hnew
    rw [finished_append, hfinished, List.map_append]
    refine hg.finished_nodup.append (List.nodup_singleton _) ?_
    intro i hi hsame
    obtain ⟨f, hf, rfl⟩ := List.mem_map.mp hi
    exact hnew f hf (List.mem_singleton.mp hsame)
  finished_lt t ht := by
    rw [finished_append, hfinished] at ht
    rcases List.mem_append.mp ht with hold | hnew
    · exact hg.finished_lt t hold
    · obtain ⟨u, hu, hindex⟩ := PoolLoop.isRunning_iff.mp hrunning
      obtain rfl := List.mem_singleton.mp hnew
      exact hindex ▸ hl.lt_started _ (PoolLoop.mem_slots_of_running hu)
  closed_eq := by
    change _ = (l.phase.learn _).closed
    rw [LoopPhase.closed_learn, closed_append, hclosed, List.append_nil]
    exact hg.closed_eq
  broken fault hbroke := by
    -- Either the loop knew of it before, or it is the call that settles now that broke.
    have hknown (h : l.Broke fault) : fault = Reason.noText ∧ ¬ (g ++ later).Told := by
      obtain ⟨hfault, htold⟩ := hg.broken fault h
      exact ⟨hfault, mt Told.of_append htold⟩
    have hnow (h : TaskState.ofFailure failure = .broken fault) :
        fault = Reason.noText ∧ ¬ (g ++ later).Told := by
      obtain ⟨hfault, reason, rfl, hnone⟩ := ofFailure_eq_broken h
      refine ⟨hfault, fun htold => ?_⟩
      have hmem : (index, some reason) ∈ (g ++ later).finished := by simp [hfinished]
      exact Bool.false_ne_true (hnone.symm.trans (htold _ hmem reason rfl))
    obtain ⟨t, ht, hstate⟩ | hfault := hbroke
    · obtain ⟨u, hu, rfl⟩ := List.mem_map.mp ht
      by_cases hindex : u.index = index
      · rw [if_pos hindex] at hstate
        exact hnow hstate
      · rw [if_neg hindex] at hstate
        exact hknown (.inl ⟨u, hu, hstate⟩)
    · rcases l.phase.learn_cases (.ofFailure failure) with hsame | ⟨item, -, hlearnt⟩
      · exact hknown (.inr ((congrArg LoopPhase.fault? hsame).symm.trans hfault))
      · refine hnow ?_
        have hheard := (congrArg LoopPhase.fault? hlearnt).symm.trans hfault
        cases hstate : TaskState.ofFailure failure with
        | broken fault' =>
          rw [hstate] at hheard
          exact congrArg TaskState.broken (Option.some.inj hheard)
        | running => simp [hstate, LoopPhase.fault?] at hheard
        | done => simp [hstate, LoopPhase.fault?] at hheard

/-- No call is made and none settles. -/
theorem Fits.keep (hg : g.Fits l) {later : PoolLedger α} (hstarted : later.started = [])
    (hfinished : later.finished = []) (hsame : l'.started = l.started)
    (hrunning : l'.running = l.running) (hfailures : l'.failures = l.failures)
    (hpulled : l.phase.unstarted.toList ++ later.pulled = l'.phase.unstarted.toList)
    (hclosed : l.phase.closed ++ later.closed = l'.phase.closed)
    (hbroke : ∀ fault, l'.Broke fault → l.Broke fault) : (g ++ later).Fits l' where
  started_eq := by simpa [hstarted, hsame] using hg.started_eq
  pulled_eq := by simp [hg.pulled_eq, hstarted, hpulled]
  live_eq := by simpa [live, hstarted, hfinished, hrunning] using hg.live_eq
  failures_eq := by simpa [failures, hfinished, hfailures] using hg.failures_eq
  finished_nodup := by simpa [hfinished] using hg.finished_nodup
  finished_lt := by simpa [hfinished, hsame] using hg.finished_lt
  closed_eq := by rw [closed_append, hg.closed_eq, hclosed]
  broken fault h := by
    obtain ⟨hfault, htold⟩ := hg.broken fault (hbroke fault h)
    exact ⟨hfault, mt Told.of_append htold⟩

end PoolLedger

namespace PoolLoop

variable {l l' : PoolLoop α} {moments : List (PoolMoment α)}

/-- A loop that goes to sleep has heard of no other tasks than those that have a slot. -/
theorem Broke.of_sleep {item : α} {fault : Fault} (h : (l.sleep item).Broke fault) :
    l.Broke fault := by
  rcases h with hslot | hheard
  · exact .inl hslot
  · rcases l.firstSettled_cases with ⟨hfirst, -⟩ | ⟨t, ht, -, hfirst⟩
    · simp [sleep, hfirst, LoopPhase.fault?] at hheard
    · refine .inl ⟨t, ht, ?_⟩
      rw [← hfirst]
      cases hstate : l.firstSettled with
      | broken fault' =>
        simp only [sleep, hstate, LoopPhase.fault?, Option.some.injEq] at hheard
        rw [hheard]
      | running => simp [sleep, hstate, LoopPhase.fault?] at hheard
      | done => simp [sleep, hstate, LoopPhase.fault?] at hheard

theorem Turn.fits (h : l.Turn moments l') (hl : l.Sound) {g : PoolLedger α} (hg : g.Fits l) :
    (g ++ PoolLedger.of moments).Fits l' := by
  cases h with
  | idle => exact hg.keep rfl rfl rfl rfl rfl (List.append_nil _) (List.append_nil _) fun _ => id
  | launched hphase => exact hg.start rfl rfl rfl (by rw [hphase]; rfl) (by rw [hphase]; rfl)
  | slept hphase =>
    exact hg.keep rfl rfl rfl rfl rfl (by rw [hphase]; rfl) (by rw [hphase]; rfl)
      fun _ => Broke.of_sleep
  | closed failure hphase =>
    have hbroke (fault : Fault) (h : (l.drain (.closing failure)).Broke fault) : l.Broke fault := by
      rcases h with hslot | hheard
      · exact .inl hslot
      · cases failure <;> cases hheard
    cases failure with
    | none => exact hg.keep rfl rfl rfl rfl rfl (by rw [hphase]; rfl) (by rw [hphase]; rfl) hbroke
    | some reason =>
      exact hg.keep rfl rfl rfl rfl rfl (by rw [hphase]; rfl) (by rw [hphase]; rfl) hbroke
  | finished hrunning => exact hg.settle hl hrunning _ rfl rfl rfl rfl
  | @cleared index t ht hindex hsettled =>
    subst hindex
    refine hg.keep rfl rfl rfl (running_clear hl.nodup ht hsettled) rfl (List.append_nil _)
      (List.append_nil _) fun fault h => ?_
    obtain ⟨u, hu, hstate⟩ | hheard := h
    · exact .inl ⟨u, (List.mem_filter.mp hu).1, hstate⟩
    · exact .inr hheard
  | resumed hphase => exact hg.start rfl rfl rfl (by rw [hphase]; rfl) (by rw [hphase]; rfl)
  | sleptOn hphase =>
    exact hg.keep rfl rfl rfl rfl rfl (by rw [hphase]; rfl) (by rw [hphase]; rfl)
      fun _ => Broke.of_sleep
  | @gaveUp item fault hphase =>
    refine hg.keep rfl rfl rfl rfl rfl (by rw [hphase]; rfl) (by rw [hphase]; rfl) fun fault' h => ?_
    obtain hslot | hheard := h
    · exact .inl hslot
    · refine .inr ?_
      rw [hphase]
      exact hheard
  | @settled ending watched hphase =>
    refine hg.keep rfl rfl rfl rfl rfl (by rw [hphase]; exact List.append_nil _)
      (by rw [hphase]; exact List.append_nil _) fun fault h => ?_
    obtain hslot | hheard := h
    · exact .inl hslot
    · refine .inr ?_
      rw [hphase]
      cases ending <;> exact hheard

/-- The induction over a run: every step is a turn, which the ledger so far fits. -/
theorem run_fits (hl : l.Sound) {g : PoolLedger α} (hg : g.Fits l) (events : List (LoopEvent α)) :
    (l.run events).Sound ∧ (g ++ PoolLedger.of (l.history events)).Fits (l.run events) := by
  induction events generalizing l g with
  | nil => exact ⟨hl, (Turn.idle (l := l)).fits hl hg⟩
  | cons e rest ih =>
    have hturn := step_turn l e
    obtain ⟨hsound, hfits⟩ := ih (hturn.sound hl) (hturn.fits hl hg)
    rw [run_cons, history_cons, PoolLedger.of_append, ← PoolLedger.append_assoc]
    exact ⟨hsound, hfits⟩

end PoolLoop

end FileSearch
