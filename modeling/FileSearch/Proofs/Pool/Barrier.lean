import FileSearch.Proofs.Pool.Slots

/-!
# Settling of a pool

A pull loop settles when its source is at its end or has failed and all of its calls have settled,
with the failures of the calls or the error of the source, or it has given up for a call that failed
with what has no text (`PoolLoop.settles_with_source_or_gives_up`). Which failures are told of does
not depend on the order in which the calls settled, nor on the number of slots.
-/

namespace FileSearch

variable {α : Type}

theorem Thrown.isError_asError (thrown : Thrown) : thrown.asError.isError := by
  cases thrown <;> rfl


-- ---------------------------------------------------------------------------
-- Numbers of slots
-- ---------------------------------------------------------------------------

theorem Number.eq_real_of_toInt? {concurrency : Number} {n : Int} (h : concurrency.toInt? = some n)
    (hpos : 1 ≤ n) : concurrency = .real n.toNat := by
  cases concurrency with
  | nan => simp [toInt?] at h
  | infinite negative => simp [toInt?] at h
  | real r =>
    simp only [toInt?] at h
    split at h
    case isTrue hden =>
      obtain rfl : r.num = n := Option.some.inj h
      have hcast : ((r.num.toNat : Nat) : Int) = r.num := Int.toNat_of_nonneg (by omega)
      congr 1
      apply Rat.ext
      · simp [hcast]
      · simp [hden]
    case isFalse => cases h

theorem Pool.ofConcurrency_error {concurrency : Number}
    (h : ¬ ∃ c : Nat, 0 < c ∧ concurrency = .real c) :
    (ofConcurrency concurrency : Except Fault (Pool α)) = .error (limitFault concurrency) := by
  unfold ofConcurrency
  cases hn : concurrency.toInt? with
  | none => rfl
  | some n =>
    by_cases hpos : n < 1
    · exact if_pos hpos
    · have hreal := Number.eq_real_of_toInt? hn (by omega)
      exact absurd ⟨n.toNat, by omega, hreal⟩ h

namespace PoolLoop

/-- A loop that was refused its slots: nothing can come to it. -/
def refused (fault : Fault) : PoolLoop α where
  limit := 0
  phase := .settled (.refused fault)

theorem not_admits_refused (fault : Fault) (e : LoopEvent α) :
    ¬ (refused fault : PoolLoop α).admits e := by
  cases e with
  | outside e => cases e <;> simp [refused, admits, asks, isRunning, running]
  | cleared index => simp [refused, admits]
  | woken => simp [refused, admits, wakes]

theorem run_refused (fault : Fault) (events : List (LoopEvent α)) :
    (refused fault : PoolLoop α).run events = refused fault ∧
      (refused fault : PoolLoop α).history events = [] := by
  induction events with
  | nil => exact ⟨rfl, rfl⟩
  | cons e rest ih =>
    have hnot := not_admits_refused (α := α) fault e
    rw [run_cons, history_cons, step_of_not_admits hnot, moments_of_not_admits hnot]
    exact ih

theorem ofConcurrency_refused {concurrency : Number}
    (h : ¬ ∃ c : Nat, 0 < c ∧ concurrency = .real c) :
    (ofConcurrency concurrency : PoolLoop α) = refused (Pool.limitFault concurrency) := by
  rw [ofConcurrency, Pool.ofConcurrency_error h]
  rfl

end PoolLoop


-- ---------------------------------------------------------------------------
-- The end of a run
-- ---------------------------------------------------------------------------

namespace PoolLedger

variable {g : PoolLedger α} {l : PoolLoop α}

theorem Fits.length_started (hg : g.Fits l) : g.started.length = l.started := by
  simpa using congrArg List.length hg.started_eq

/-- Once no call is live, every call has settled, and each only once. -/
theorem Fits.finished_perm (hg : g.Fits l) (hlive : g.live = []) :
    (g.finished.map (·.1)).Perm (List.range l.started) := by
  refine (List.perm_ext_iff_of_nodup hg.finished_nodup List.nodup_range).mpr fun index => ?_
  constructor
  · intro hmem
    obtain ⟨t, ht, rfl⟩ := List.mem_map.mp hmem
    exact List.mem_range.mpr (hg.finished_lt t ht)
  · intro hmem
    rw [← hg.started_eq] at hmem
    obtain ⟨t, ht, rfl⟩ := List.mem_map.mp hmem
    have hfinished : g.finished.any (·.1 = t.1) := by
      simpa using List.filter_eq_nil_iff.mp hlive t ht
    obtain ⟨f, hf, hsame⟩ := List.any_eq_true.mp hfinished
    exact List.mem_map.mpr ⟨f, hf, of_decide_eq_true hsame⟩

/-- The failed calls, where it is settled beforehand what each call comes to. -/
theorem Fits.failures_perm (hg : g.Fits l) (hlive : g.live = []) {verdict : Nat → Option Reason}
    (hverdict : ∀ t ∈ g.finished, t.2 = verdict t.1) :
    g.failures.Perm ((List.range l.started).filterMap fun i => TaskFailure.of? (i, verdict i)) := by
  have hall : g.finished = (g.finished.map (·.1)).map fun i => (i, verdict i) := by
    rw [List.map_map]
    refine (List.map_id _).symm.trans (List.map_congr_left fun t ht => ?_)
    exact Prod.ext rfl (hverdict t ht)
  have hperm := (hg.finished_perm hlive).filterMap fun i => TaskFailure.of? (i, verdict i)
  rw [failures, hall, List.filterMap_map]
  exact hperm

theorem isError_of_mem_failures {f : TaskFailure} (hf : f ∈ g.failures) : f.error.isError := by
  obtain ⟨⟨index, failure⟩, -, hentry⟩ := List.mem_filterMap.mp hf
  cases failure with
  | none => cases hentry
  | some reason =>
    cases reason with
    | textless v hnone => cases hentry
    | thrown t =>
      cases hentry
      exact t.isError_asError

end PoolLedger

namespace PoolLoop

variable {l : PoolLoop α} {g : PoolLedger α}

/-- The pool that a settled loop comes to reports the same. -/
theorem rest_settled (hl : l.Sound) {ending : LoopEnding α} (h : l.phase = .settled ending) :
    l.rest.settled ∧ l.rest.outcome = (l.report ending).mapError Reason.told := by
  have hwaiting : l.waiting = none := by simp [waiting, h]
  have hsource : l.source = ending.source := by simp [source, h, LoopPhase.ending?]
  have hnone := hl.running_eq_nil ending h
  rw [rest_of_waiting_none hwaiting]
  cases ending <;>
    simp [Pool.settled, Pool.outcome, pool, hsource, hwaiting, hnone, LoopEnding.source,
      SourceState.isOpen, report, Except.mapError, Reason.told, Reason.read]

/-- A loop that takes no more items settles as soon as it goes on after its last call. -/
theorem settles_of_ending {ending : LoopEnding α} (hending : l.phase.ending? = some ending)
    (hrunning : l.running = []) : (l.step .woken).1.phase = .settled ending := by
  cases hphase : l.phase with
  | asking => simp [hphase, LoopPhase.ending?] at hending
  | asleep item first => simp [hphase, LoopPhase.ending?] at hending
  | draining ending' watched =>
    obtain rfl : ending' = ending := by simpa [hphase, LoopPhase.ending?] using hending
    have hwakes : l.admits .woken := by simp [admits, wakes, hphase, isRunning, hrunning]
    simp [step_of_admits hwakes, advance, wake, hphase]
  | settled ending' =>
    obtain rfl : ending' = ending := by simpa [hphase, LoopPhase.ending?] using hending
    have hnot : ¬ l.admits .woken := by simp [admits, wakes, hphase]
    rw [step_of_not_admits hnot]
    exact hphase

/-- A number of slots that is no positive integer is refused with a range error, and nothing is
pulled or called. With any other the loop settles only when every call it made has settled and its
source has closed, or it has given up for a call that failed with what has no text. If the source has
ended, the report counts its items and has an entry for each call that failed with what has a text, in
the order in which they did; if it failed, its error is the outcome; and if the loop has given up, the
outcome is what making that text threw. Which entries there are depends on nothing but what each call
comes to, and as long as all of that has a text each failed call has one. Once the source has closed
and no call is live, the loop settles when it goes on. -/
theorem settles_with_source_or_gives_up (concurrency : Number) (events : List (LoopEvent α)) :
    let l : PoolLoop α := (ofConcurrency concurrency).run events
    let history : List (PoolMoment α) := (ofConcurrency concurrency).history events
    let ledger := PoolLedger.of history
    ((¬ ∃ c : Nat, 0 < c ∧ concurrency = .real c) →
      history = [] ∧ (Pool.limitFault concurrency).kind = .range ∧
      l.outcome? = some (.error (.thrown (.fault (Pool.limitFault concurrency))))) ∧
    ((∃ c : Nat, 0 < c ∧ concurrency = .real c) →
      (∀ outcome, l.outcome? = some outcome →
        ledger.live = [] ∧
        (ledger.finished.map (·.1)).Perm (List.range ledger.started.length) ∧
        ((ledger.closed = [none] ∧
            outcome = .ok { dispatched := ledger.pulled.length, failures := ledger.failures }) ∨
          (∃ reason, ledger.closed = [some reason] ∧ outcome = .error reason) ∨
          ledger.GaveUp ∧ outcome = .error (.thrown (.fault Reason.noText))) ∧
        (∀ verdict : Nat → Option Reason, (∀ t ∈ ledger.finished, t.2 = verdict t.1) →
          ledger.failures.Perm ((List.range ledger.started.length).filterMap fun i =>
            TaskFailure.of? (i, verdict i))) ∧
        (∀ f ∈ ledger.failures, f.error.isError) ∧
        (ledger.Told → ledger.failures.map (·.index) = ledger.failed) ∧
        l.rest.settled ∧ l.rest.outcome = outcome.mapError Reason.told) ∧
      (ledger.closed ≠ [] → ledger.live = [] →
        ∃ outcome, (l.step .woken).1.outcome? = some outcome)) := by
  intro l history ledger
  constructor
  · intro hrefused
    obtain ⟨hrun, hhistory⟩ := run_refused (α := α) (Pool.limitFault concurrency) events
    rw [← ofConcurrency_refused hrefused] at hrun hhistory
    refine ⟨hhistory, rfl, ?_⟩
    change ((ofConcurrency concurrency).run events : PoolLoop α).outcome? = _
    rw [hrun, ofConcurrency_refused hrefused]
    rfl
  · rintro ⟨c, hc, rfl⟩
    obtain ⟨hl, hg⟩ : l.Sound ∧ ledger.Fits l := run_new hc events
    constructor
    · intro outcome houtcome
      obtain ⟨ending, hphase, rfl⟩ := outcome?_eq_some.mp houtcome
      have hending : l.phase.ending? = some ending := by rw [hphase]; rfl
      have hlive : ledger.live = [] := hg.live_eq.trans (hl.running_eq_nil ending hphase)
      rw [hg.length_started]
      refine ⟨hlive, hg.finished_perm hlive, ?_, ?_, ?_, PoolLedger.Told.failures_eq,
        rest_settled hl hphase⟩
      · obtain ⟨hclosed, hpulled, hreport⟩ | ⟨reason, hclosed, -, hreport⟩ | hgaveUp :=
          ending_cases hl hg hending
        · refine .inl ⟨hclosed, ?_⟩
          rw [hreport, hpulled, List.length_map, hg.length_started]
        · exact .inr (.inl ⟨reason, hclosed, hreport⟩)
        · exact .inr (.inr hgaveUp)
      · exact fun verdict hverdict => hg.failures_perm hlive hverdict
      · exact fun f hf => PoolLedger.isError_of_mem_failures hf
    · intro hclosed hlive
      rw [hg.closed_eq] at hclosed
      cases hending : l.phase.ending? with
      | none => simp [LoopPhase.closed, hending] at hclosed
      | some ending =>
        have hphase := settles_of_ending hending (hg.live_eq ▸ hlive)
        exact ⟨_, outcome?_eq_some.mpr ⟨ending, hphase, rfl⟩⟩

/-- The second of two calls fails, the source ends, and the first call takes longer. -/
def slowFirst : List (LoopEvent Nat) :=
  [.outside (.delivered 10), .outside (.delivered 20),
    .outside (.finished 1 (some (.thrown (.value (.text "bad"))))), .outside .sourceEnded, .woken,
    .outside (.finished 0 none), .woken]

theorem settles_with_source_or_gives_up_slow_first :
    let l : PoolLoop Nat := (ofConcurrency (.real (2 : Nat))).run slowFirst
    let report : PoolOutcome :=
      { dispatched := 2, failures := [{ index := 1, error := .fault { message := "bad" } }] }
    (∃ c : Nat, 0 < c ∧ Number.real (2 : Nat) = .real c) ∧ l.outcome? = some (.ok report) ∧
    (PoolLedger.of ((ofConcurrency (.real (2 : Nat))).history slowFirst)).live = [] ∧
    (¬ ∃ c : Nat, 0 < c ∧ Number.nan = .real c) ∧
    (ofConcurrency .nan : PoolLoop Nat).history slowFirst = [] := by
  intro l report
  have htwo : ∃ c : Nat, 0 < c ∧ Number.real (2 : Nat) = .real c := ⟨2, by decide, rfl⟩
  have hnan : ¬ ∃ c : Nat, 0 < c ∧ Number.nan = .real c := by simp
  have hsettled : l.outcome? = some (.ok report) := by
    change ((ofConcurrency (.real (2 : Nat))).run slowFirst).outcome? = _
    rw [ofConcurrency_real (by decide)]
    rfl
  have hlive := (((settles_with_source_or_gives_up _ slowFirst).2 htwo).1 _ hsettled).1
  exact ⟨htwo, hsettled, hlive, hnan,
    ((settles_with_source_or_gives_up .nan slowFirst).1 hnan).1⟩

/-- The first of two calls fails, both have a slot, and then the source ends. -/
def firstFails : List (LoopEvent Nat) :=
  [.outside (.delivered 10), .outside (.delivered 20), .outside (.finished 0 (some textless)),
    .outside .sourceEnded, .outside (.finished 1 none), .woken]

/-- The pool reports that nothing failed. -/
theorem textless_failure_has_no_entry :
    let l : PoolLoop Nat := (ofConcurrency (.real (2 : Nat))).run firstFails
    let ledger := PoolLedger.of ((ofConcurrency (.real (2 : Nat))).history firstFails)
    l.outcome? = some (.ok { dispatched := 2, failures := [] }) ∧
    ledger.closed = [none] ∧ ledger.failed = [0] := by
  rw [ofConcurrency_real (by decide)]
  exact ⟨rfl, rfl, rfl⟩

end PoolLoop

end FileSearch
