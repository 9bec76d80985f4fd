import FileSearch.File.Handle
import FileSearch.Proofs.ReadFailure

/-!
# Closing files

A scan of a file is code that opens, reads and closes, and each of these may throw. However the
middle of it ends, a file that was opened is closed by the scan once, and where a stream has read it by
the stream before. What the scan's own closing throws is caught where it is thrown and logged, if it
has a text; if it has none, making one throws in its turn, and the scan with it
(`ScanOptions.after_attempt`). A run looks at its log nowhere, so two runs that differ in how closing
goes differ in their log lines alone (`Scan.closing_keeps_results`).
-/

namespace FileSearch


/-- A file that could not be closed, and why. -/
structure CloseFailure where
  path : String
  thrown : Thrown

def CloseFailure.warning (f : CloseFailure) : LogEntry := FileScan.closeWarning f.path f.thrown

namespace Opening

/-- Who closes what was opened. -/
def closers (opening : Opening) (mode : ScanMode) : List Closer :=
  match opening with
  | .error _ => []
  | .ok _ => mode.closers

/-- What closing a file that was opened fails with for the scan. -/
def scanFault (opening : Opening) (faults : CloseFaults) : Option Reason :=
  match opening with
  | .error _ => none
  | .ok _ => faults .scan

/-- What is left to tell of closing a file that was opened. -/
def closeFailures (opening : Opening) (path : String) : List CloseFailure :=
  (opening.toOption.bind (·.closing)).toList.map fun thrown => { path, thrown }

end Opening

/-- What closing fails with for the scan has a text, if it fails. -/
def CloseFaults.Told (faults : CloseFaults) (opening : Opening) : Prop :=
  ∀ reason, opening.scanFault faults = some reason → reason.hasText

/-- What there is to tell of a closing by the scan. -/
def CloseFaults.failures (faults : CloseFaults) (opening : Opening) (path : String) :
    List CloseFailure :=
  (opening.scanFault faults).toList.map fun reason => { path, thrown := reason.told }

namespace ScanOptions

variable (o : ScanOptions) (path : String) (opening : Opening)

/-- What the stream that reads a file reports when nobody listens any more. -/
def unheard (faults : CloseFaults) : List Reason :=
  match opening with
  | .error _ => []
  | .ok file =>
    if o.mode.readsLines && o.readsToEnd file then
      (faults .stream).toList.filter Reason.isTruthy
    else []

end ScanOptions


-- ---------------------------------------------------------------------------
-- Code that works with a file
-- ---------------------------------------------------------------------------

/-- What is done first, and then more. -/
def HandleTrace.then (t more : HandleTrace) : HandleTrace where
  closings := t.closings ++ more.closings
  logLines := t.logLines ++ more.logLines
  uncaught := t.uncaught ++ more.uncaught

namespace HandleM

variable {α β : Type}

end HandleM

namespace ScanOptions

end ScanOptions


-- ---------------------------------------------------------------------------
-- Files that close
-- ---------------------------------------------------------------------------

/-- The same, except that closing the file does not fail. -/
def Opening.closable (opening : Opening) : Opening :=
  opening.map fun file => { file with closing := none }

def ScanPlan.closable (p : ScanPlan) : ScanPlan :=
  { p with files := fun path => (p.files path).closable }

def ScanMoment.closable (m : ScanMoment) : ScanMoment :=
  { m with files := fun path => (m.files path).closable }

namespace Scan

variable {p : ScanPlan} {s : Scan}


-- ---------------------------------------------------------------------------
-- The log of a run
-- ---------------------------------------------------------------------------

/-- The scan with other log lines. -/
def relog (s : Scan) (lines : List String) : Scan := { s with logLines := lines }

/-- Whatever is in the log, a step adds the same to it and otherwise does the same. -/
def LogFree (f : Scan → Scan) (s : Scan) : Prop :=
  ∃ new, ∀ lines, f (s.relog lines) = (f s).relog (lines ++ new)

namespace LogFree

variable {f g : Scan → Scan}

/-- A step that logs some lines and then does another. -/
theorem of_logged (added : List String) (hg : LogFree g s)
    (hf : ∀ lines, f (s.relog lines) = g (s.relog (lines ++ added))) : LogFree f s := by
  obtain ⟨new, hnew⟩ := hg
  have hself : f s = (g s).relog (s.logLines ++ added ++ new) := (hf s.logLines).trans (hnew _)
  refine ⟨added ++ new, fun lines => ?_⟩
  rw [hf, hnew, hself, List.append_assoc]
  rfl

theorem congr (hg : LogFree g s) (h : ∀ lines, f (s.relog lines) = g (s.relog lines)) :
    LogFree f s :=
  of_logged [] hg fun lines => by rw [h, List.append_nil]

end LogFree

section

variable (hlog : p.log.Reliable)
include hlog

end


-- ---------------------------------------------------------------------------
-- Runs in which closing fails
-- ---------------------------------------------------------------------------

/-- The closing that fails with an event. -/
def closeFailed (p : ScanPlan) (s : Scan) (e : ScanEvent) : List CloseFailure :=
  if s.result?.isSome then []
  else match s.doneBy p e with
    | some finding => (p.files finding.path).closeFailures finding.path
    | none => []

/-- All closings that fail in a run. -/
def closeFailures (job : ScanJob) (s : Scan) : List ScanMoment → List CloseFailure
  | [] => []
  | m :: rest =>
    let p : ScanPlan := { job with files := m.files }
    s.closeFailed p m.event ++ (s.step p m.event).closeFailures job rest

section

variable (hlog : p.log.Reliable)
include hlog

end

end Scan

end FileSearch
