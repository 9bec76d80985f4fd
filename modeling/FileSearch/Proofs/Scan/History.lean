import FileSearch.Proofs.Output.History
import FileSearch.Scan.Run

/-!
# Histories of a scan

A run meets one event after the other, in any order, and looks at files as they are at that moment.
What came of it is told from outside: the paths taken from the list, the results of the files in the
order in which the work on them was done, and all that was done to the sink. The history ends with
the run.
-/

namespace FileSearch

/-- An event, and what opening the paths gives when it happens. -/
structure ScanMoment where
  files : String → Opening
  event : ScanEvent

structure ScanHistory where
  pulled : List String := []
  /-- A file is left out if a warning about closing it could not be logged: its task has failed and
  the result is lost. -/
  found : List FileResult := []
  sinkEvents : List (SinkEvent ScanCaller) := []

/-- What the work on the file of a task came to: a result, or the error that lost it, if a warning
about closing the file could not be logged. -/
structure TaskFinding where
  index : Nat
  path : String
  outcome : Except Thrown FileResult

/-- What happens now, and what happens later. -/
def ScanHistory.append (now later : ScanHistory) : ScanHistory where
  pulled := now.pulled ++ later.pulled
  found := now.found ++ later.found
  sinkEvents := now.sinkEvents ++ later.sinkEvents

namespace Scan

theorem result?_eq_some {s : Scan} {result : Except Thrown Summary} :
    s.result? = some result ↔ s.phase = .settled result := by
  unfold result?
  cases s.phase <;> simp

theorem result?_of_running {s : Scan} (h : s.phase = .running) : s.result? = none := by
  unfold result?
  rw [h]

/-- The path that an event takes from the list. -/
def pulledBy (s : Scan) : ScanEvent → Option String
  | .line (.path path) => if s.pool.asks then some path else none
  | _ => none

/-- The task whose file is done with an event, and what the file came to. -/
def foundBy (p : ScanPlan) (s : Scan) : ScanEvent → Option (Nat × FileResult)
  | .scanned index =>
    match s.task? index with
    | some { path, report := none } =>
      if (s.recordAll p (p.scan path).warnings).2.isNone then some (index, (p.scan path).result)
      else none
    | _ => none
  | _ => none

/-- What an event does to the sink before the pool is looked at. -/
def passedOn (p : ScanPlan) (s : Scan) (e : ScanEvent) : List (SinkEvent ScanCaller) :=
  match s.foundBy p e, e with
  | some (index, .scanned _ report), _ => [.write (.task index) report.block]
  | _, .stream e => [.stream e]
  | _, _ => []

/-- A sink is closed when the pool has settled. -/
def closing (s : Scan) : List (SinkEvent ScanCaller) :=
  match s.phase with
  | .running => if s.pool.settled then [.close .run] else []
  | _ => []

def told (p : ScanPlan) (s : Scan) (e : ScanEvent) : ScanHistory where
  pulled := (s.pulledBy e).toList
  found := ((s.foundBy p e).map (·.2)).toList
  sinkEvents := s.passedOn p e ++ (s.advance p e).closing

/-- The scan after a list of moments. -/
def play (job : ScanJob) (s : Scan) : List ScanMoment → Scan
  | [] => s
  | m :: rest => (s.step { job with files := m.files } m.event).play job rest

def history (job : ScanJob) (s : Scan) : List ScanMoment → ScanHistory
  | [] => {}
  | m :: rest =>
    if s.result?.isSome then {}
    else
      let p : ScanPlan := { job with files := m.files }
      (s.told p m.event).append ((s.step p m.event).history job rest)

/-- What the work on the file at a path comes to. -/
def fileOutcome (p : ScanPlan) (s : Scan) (path : String) : Except Thrown FileResult :=
  match (s.recordAll p (p.scan path).warnings).2 with
  | some thrown => .error thrown
  | none => .ok (p.scan path).result

/-- What an event tells of the file of a task. -/
def doneBy (p : ScanPlan) (s : Scan) : ScanEvent → Option TaskFinding
  | .scanned index =>
    match s.task? index with
    | some { path, report := none } => some { index, path, outcome := s.fileOutcome p path }
    | _ => none
  | _ => none

/-- What came of the files, in the order in which the work on them was done. -/
def findings (job : ScanJob) (s : Scan) : List ScanMoment → List TaskFinding
  | [] => []
  | m :: rest =>
    if s.result?.isSome then []
    else
      let p : ScanPlan := { job with files := m.files }
      (s.doneBy p m.event).toList ++ (s.step p m.event).findings job rest

end Scan

end FileSearch
