import FileSearch.Proofs.Log
import FileSearch.Proofs.Output.Order
import FileSearch.Proofs.Pool
import FileSearch.Proofs.Results
import FileSearch.Proofs.Scan.History
import Mathlib.Logic.Relation

/-!
# Moves of a scan

A step of a scan taken apart. The sink may answer several calls at once, and the scan passes the
answers on one after the other; so there are stages between two states at which some answers are
still due. Every step is a chain of the moves below (`Scan.step_moves`), and whatever holds of all
runs is proved from these.
-/

namespace FileSearch

/-- What is noted of a run from outside. -/
structure ScanBooks where
  pulled : List String := []
  found : List FileResult := []
  ledger : SinkLedger ScanCaller := {}

/-- A scan with the answers of the sink that are not passed on yet, and with its books. -/
structure ScanStage extends ScanBooks where
  pool : Pool ScanTask
  core : SinkCore ScanCaller
  due : List (SinkAnswer ScanCaller)
  tally : Tally
  logLines : List String
  delivered : List Bytes

/-- The call of a task that hands in its report. -/
def ScanTask.call (index : Nat) : SinkCall ScanCaller := { caller := .task index, kind := .write }

/-- The calls that live tasks wait for. -/
def ScanTask.awaited (live : List (Nat × ScanTask)) : List (SinkCall ScanCaller) :=
  live.filterMap fun t => t.2.report.map fun _ => ScanTask.call t.1

namespace ScanTask

theorem awaited_append (xs ys : List (Nat × ScanTask)) :
    awaited (xs ++ ys) = awaited xs ++ awaited ys :=
  List.filterMap_append

theorem awaited_eq_nil {live : List (Nat × ScanTask)} (h : ∀ t ∈ live, t.2.report = none) :
    awaited live = [] := by
  refine List.filterMap_eq_nil_iff.mpr fun t ht => ?_
  simp [h t ht]

/-- The call of one live task, and those of the others. -/
theorem awaited_perm {live : List (Nat × ScanTask)} (hnodup : (live.map (·.1)).Nodup) {index : Nat}
    {task : ScanTask} (h : live.lookup index = some task) :
    (awaited live).Perm
      ((task.report.map fun _ => call index).toList ++ awaited (live.filter (·.1 != index))) := by
  have hperm := (Pool.live_perm hnodup h).filterMap
    fun t => t.2.report.map fun _ => call t.1
  unfold awaited
  cases hreport : task.report with
  | none => simpa [List.filterMap_cons, hreport] using hperm
  | some report => simpa [List.filterMap_cons, hreport] using hperm

/-- Whoever is awaited is a live task with a report. -/
theorem exists_of_mem_awaited {live : List (Nat × ScanTask)} {c : SinkCall ScanCaller}
    (h : c ∈ awaited live) :
    ∃ index path report, c = call index ∧ (index, { path, report := some report }) ∈ live := by
  obtain ⟨⟨index, path, report?⟩, ht, hcall⟩ := List.mem_filterMap.mp h
  cases hreport : report? with
  | none => simp [hreport] at hcall
  | some report =>
    simp only [hreport, Option.map_some, Option.some.injEq] at hcall
    exact ⟨index, path, report, hcall.symm, hreport ▸ ht⟩

end ScanTask

namespace ScanStage

/-- One thing that a scan does. -/
inductive Move (p : ScanPlan) (st : ScanStage) : ScanStage → Prop
  | noted {e : LogEntry} (hlevel : e.level ≠ .error) :
      Move p st { st with logLines := st.logLines ++ p.log.written e }
  | pulled {path : String} (hasks : st.pool.asks) :
      Move p st { st with
        pool := (st.pool.step (.delivered { path })).1
        pulled := st.pulled ++ [path] }
  | sourceEnded (hasks : st.pool.asks) :
      Move p st { st with pool := { st.pool with source := .ended } }
  | sourceFailed {reason : Reason} (hasks : st.pool.asks) :
      Move p st { st with
        pool := { st.pool with source := .failed (ScanPlan.pathsError reason) } }
  /-- A warning about closing the file could not be logged. -/
  | lost {index : Nat} {path : String} {line : String} {thrown : Thrown}
      (htask : st.pool.live.lookup index = some { path }) (hfault : p.log.fault line = some thrown) :
      Move p st { st with pool := (st.pool.step (.finished index (some thrown))).1 }
  | unreadable {index : Nat} {path : String} {failure : Failure}
      (htask : st.pool.live.lookup index = some { path })
      (hresult : (p.scan path).result = .failed path failure) :
      Move p st { st with
        pool := (st.pool.step (.finished index (p.log.refused (ScanPlan.failureEntry failure)))).1
        tally := st.tally.record (.failed path failure)
        logLines := st.logLines ++ p.log.written (ScanPlan.failureEntry failure)
        found := st.found ++ [.failed path failure] }
  /-- A task hands its report to the sink. -/
  | handed {index : Nat} {path : String} {report : Report} {moments : List (SinkMoment ScanCaller)}
      {core : SinkCore ScanCaller} (htask : st.pool.live.lookup index = some { path })
      (hresult : (p.scan path).result = .scanned path report) (hturn : st.core.Turn moments core)
      (hcalls : moments.filterMap SinkMoment.call? = [ScanTask.call index])
      (hoffered : moments.filterMap SinkMoment.offered? = [report.block].filter (!·.isEmpty)) :
      Move p st { st with
        pool := st.pool.update index fun t => { t with report := some report }
        core
        due := st.due ++ moments.filterMap SinkMoment.answer?
        delivered := st.delivered ++ moments.filterMap SinkMoment.passed?
        found := st.found ++ [.scanned path report]
        ledger := st.ledger.enterAll moments }
  | streamed {moments : List (SinkMoment ScanCaller)} {core : SinkCore ScanCaller}
      (hturn : st.core.Turn moments core) (hcalls : moments.filterMap SinkMoment.call? = [])
      (hoffered : moments.filterMap SinkMoment.offered? = []) :
      Move p st { st with
        core
        due := st.due ++ moments.filterMap SinkMoment.answer?
        delivered := st.delivered ++ moments.filterMap SinkMoment.passed?
        ledger := st.ledger.enterAll moments }
  | accepted {index : Nat} {path : String} {report : Report} {rest : List (SinkAnswer ScanCaller)}
      (hdue : st.due = { call := ScanTask.call index, outcome := .ok () } :: rest)
      (htask : st.pool.live.lookup index = some { path, report := some report }) :
      Move p st { st with
        pool := (st.pool.step (.finished index none)).1
        tally := st.tally.record (.scanned path report)
        due := rest }
  | rejected {index : Nat} {path : String} {report : Report} {failure : Failure}
      {rest : List (SinkAnswer ScanCaller)}
      (hdue : st.due = { call := ScanTask.call index, outcome := .error failure } :: rest)
      (htask : st.pool.live.lookup index = some { path, report := some report }) :
      Move p st { st with
        pool := (st.pool.step (.finished index (some (.failure failure)))).1
        due := rest }
  /-- The sink is closed at the end; it has nothing to wait for. -/
  | closed {call : SinkCall ScanCaller} (hcall : call.caller = .run) (hqueue : st.core.queue = []) :
      Move p st { st with
        ledger := st.ledger.enterAll
          [.called call [], .answered { call, outcome := st.core.standing }] }

/-- The tasks that wait for the sink are those whose calls it has not answered, or whose answers are
due. -/
structure Sound (st : ScanStage) : Prop where
  pool : st.pool.WellFormed
  core : st.core.Sound
  unscanned : ∀ t ∈ st.pool.waiting, t.report = none
  calls_perm : (st.due.map (·.call) ++ st.core.waiting).Perm (ScanTask.awaited st.pool.live)


-- ---------------------------------------------------------------------------
-- What a move preserves
-- ---------------------------------------------------------------------------

variable {p : ScanPlan} {st st' : ScanStage}

theorem unscanned_delivered {pool : Pool ScanTask} (hasks : pool.asks) (path : String) :
    ∀ t ∈ (pool.step (.delivered { path })).1.waiting, t.report = none := by
  rw [Pool.step_delivered hasks]
  split
  case isTrue => simp [Pool.start]
  case isFalse => simp

theorem awaited_delivered {pool : Pool ScanTask} (hasks : pool.asks) (path : String) :
    ScanTask.awaited (pool.step (.delivered { path })).1.live = ScanTask.awaited pool.live := by
  rw [Pool.step_delivered hasks]
  split
  case isTrue =>
    have hnew : ScanTask.awaited [(pool.started, { path })] = [] := rfl
    simp only [Pool.start, ScanTask.awaited_append, hnew, List.append_nil]
  case isFalse => rfl

theorem unscanned_finished {pool : Pool ScanTask} (hpool : pool.WellFormed) {index : Nat}
    {task : ScanTask} (htask : pool.live.lookup index = some task) (failure : Option Thrown) :
    ∀ t ∈ (pool.step (.finished index failure)).1.waiting, t.report = none := by
  rw [Pool.step_finished hpool (Pool.isLive_of_lookup htask)]
  simp

/-- A task that finishes is awaited no longer, and the one that takes its slot not yet. -/
theorem awaited_finished {pool : Pool ScanTask} (hpool : pool.WellFormed)
    (hunscanned : ∀ t ∈ pool.waiting, t.report = none) {index : Nat} {task : ScanTask}
    (htask : pool.live.lookup index = some task) (failure : Option Thrown) :
    (ScanTask.awaited pool.live).Perm
      ((task.report.map fun _ => ScanTask.call index).toList
        ++ ScanTask.awaited (pool.step (.finished index failure)).1.live) := by
  have hnext : ScanTask.awaited (pool.waiting.toList.map fun item => (pool.started, item)) = [] := by
    refine ScanTask.awaited_eq_nil fun t ht => ?_
    obtain ⟨item, hitem, rfl⟩ := List.mem_map.mp ht
    exact hunscanned item (by simpa using hitem)
  rw [Pool.step_finished hpool (Pool.isLive_of_lookup htask)]
  simp only [ScanTask.awaited_append, hnext, List.append_nil]
  exact ScanTask.awaited_perm hpool.nodup htask

/-- A task that has finished leaves a sound stage, if its call is no longer among those due. -/
theorem Sound.finished (h : st.Sound) {index : Nat} {task : ScanTask}
    (htask : st.pool.live.lookup index = some task) (failure : Option Thrown)
    (hpool : st'.pool = (st.pool.step (.finished index failure)).1) (hcore : st'.core = st.core)
    (hdue : st.due.map (·.call)
      = (task.report.map fun _ => ScanTask.call index).toList ++ st'.due.map (·.call)) :
    st'.Sound where
  pool := hpool ▸ Pool.wellFormed_finish h.pool (Pool.isLive_of_lookup htask) failure
  core := hcore ▸ h.core
  unscanned := hpool ▸ unscanned_finished h.pool htask failure
  calls_perm := by
    have hcalls := h.calls_perm
    rw [hdue, List.append_assoc] at hcalls
    rw [hcore, hpool]
    exact (List.perm_append_left_iff _).mp
      (hcalls.trans (awaited_finished h.pool h.unscanned htask failure))

theorem Move.sound (hmove : st.Move p st') (h : st.Sound) : st'.Sound := by
  cases hmove with
  | noted => exact ⟨h.pool, h.core, h.unscanned, h.calls_perm⟩
  | pulled hasks =>
    refine ⟨Pool.wellFormed_delivered h.pool hasks _, h.core, unscanned_delivered hasks _, ?_⟩
    simp only [awaited_delivered hasks]
    exact h.calls_perm
  | sourceEnded hasks =>
    exact ⟨Pool.wellFormed_source h.pool (Pool.asks_iff.mp hasks).2 _, h.core, h.unscanned,
      h.calls_perm⟩
  | sourceFailed hasks =>
    exact ⟨Pool.wellFormed_source h.pool (Pool.asks_iff.mp hasks).2 _, h.core, h.unscanned,
      h.calls_perm⟩
  | lost htask => exact h.finished htask _ rfl rfl rfl
  | unreadable htask => exact h.finished htask _ rfl rfl rfl
  | @handed index path report moments core htask hresult hturn hcalls =>
    have hpool := Pool.wellFormed_update h.pool index fun t => { t with report := some report }
    refine ⟨hpool, hturn.sound h.core, h.unscanned, ?_⟩
    have hanswers := hturn.calls_perm
    rw [hcalls] at hanswers
    have hbefore : (ScanTask.awaited st.pool.live).Perm
        (ScanTask.awaited (st.pool.live.filter (·.1 != index))) :=
      ScanTask.awaited_perm h.pool.nodup htask
    have hafter : (ScanTask.awaited (st.pool.update index
          fun t => { t with report := some report }).live).Perm
        (ScanTask.call index :: ScanTask.awaited (st.pool.live.filter (·.1 != index))) := by
      simpa [ScanTask.awaited, List.filterMap_cons] using
        (Pool.update_perm h.pool htask fun t => { t with report := some report }).filterMap
          fun t => t.2.report.map fun _ => ScanTask.call t.1
    refine List.Perm.trans ?_ (hafter.symm)
    rw [List.map_append, List.append_assoc]
    refine ((hanswers.append_left _).trans ?_)
    rw [← List.append_assoc]
    exact ((h.calls_perm.trans hbefore).append_right _).trans (List.perm_append_comm)
  | streamed hturn hcalls =>
    refine ⟨h.pool, hturn.sound h.core, h.unscanned, ?_⟩
    have hanswers := hturn.calls_perm
    rw [hcalls, List.append_nil] at hanswers
    rw [List.map_append, List.append_assoc]
    exact (hanswers.append_left _).trans h.calls_perm
  | accepted hdue htask => exact h.finished htask none rfl rfl (by simp [hdue])
  | rejected hdue htask => exact h.finished htask _ rfl rfl (by simp [hdue])
  | closed => exact ⟨h.pool, h.core, h.unscanned, h.calls_perm⟩

theorem sound_of_moves (hmoves : Relation.ReflTransGen (Move p) st st') (h : st.Sound) :
    st'.Sound := by
  induction hmoves with
  | refl => exact h
  | tail _ hmove ih => exact hmove.sound ih

/-- What a move preserves at a sound stage, a chain of moves preserves. -/
theorem preserved_of_moves (Holds : ScanStage → Prop)
    (hpreserved : ∀ {st st' : ScanStage}, st.Move p st' → st.Sound → Holds st → Holds st')
    (hmoves : Relation.ReflTransGen (Move p) st st') (hs : st.Sound) (h : Holds st) :
    Holds st' := by
  induction hmoves with
  | refl => exact h
  | tail hbefore hmove ih => exact hpreserved hmove (sound_of_moves hbefore hs) ih

end ScanStage

end FileSearch
