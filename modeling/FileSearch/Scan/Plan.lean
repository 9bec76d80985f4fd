import FileSearch.Config
import FileSearch.Diagnostics
import FileSearch.File.Scan
import FileSearch.Log

/-!
# Plans

What stays fixed while a run goes on. A job says how files are scanned, how many at once, and where
the log goes; there is one only for a pattern that compiles. A plan adds what opening each path
gives.
-/

namespace FileSearch

structure ScanJob where
  concurrency : Number
  options : ScanOptions
  policy : FileErrorPolicy
  diagnostics : Diagnostics
  log : Log

/-- The job of a configuration. -/
def ScanJob.ofConfig (c : Config) (maxFileSize : Number) (policy : FileErrorPolicy)
    (diagnostics : Diagnostics) (log : Log) : Except Failure ScanJob :=
  match Matcher.compile c.pattern c.matchOptions with
  | .error failure => .error failure
  | .ok matcher =>
    .ok
      { concurrency := c.concurrency
        options := { matcher, mode := .of c.multiline c.negate, maxFileSize }
        policy, diagnostics, log }

structure ScanPlan extends ScanJob where
  files : String → Opening

namespace ScanPlan

/-- What the scan of the file at a path comes to. -/
def scan (p : ScanPlan) (path : String) : FileScan := p.options.scan path (p.files path)


-- ---------------------------------------------------------------------------
-- Log entries
-- ---------------------------------------------------------------------------

def entry (level : LogLevel) (message : String) : LogEntry := { level, message, source := "scan" }

/-- Logged when a run starts. -/
def startEntry (p : ScanJob) : LogEntry :=
  let flags := p.options.matcher.flags
  entry .debug ("mode=" ++ p.options.mode.name ++ " flags="
    ++ (if flags.isEmpty then "-" else flags) ++ " concurrency=" ++ p.concurrency.text)

/-- Logged for every file that failed. -/
def failureEntry (failure : Failure) : LogEntry :=
  entry .error (ErrorReport.ofThrown (.failure failure)).format

def dispatchedEntry (count : Nat) : LogEntry := entry .debug ("dispatched=" ++ toString count)

/-- Logged when closing the output fails; the tasks have reported the failure already. -/
def flushEntry (failure : Failure) : LogEntry :=
  entry .debug ("Output flush after failure: " ++ failure.message)

def summaryEntry (s : Summary) : LogEntry :=
  entry .info ("scanned=" ++ toString s.filesScanned ++ " matched=" ++ toString s.filesMatched
    ++ " failed=" ++ toString s.filesFailed)


-- ---------------------------------------------------------------------------
-- Failures of a run
-- ---------------------------------------------------------------------------

/-- The failure of a list of paths, so that it is not taken for one of the pool. -/
def pathsFailure (thrown : Thrown) : Failure :=
  Failure.causedBy .unknown ("Failed to read the list of paths: " ++ thrown.message) thrown

/-- What the pool hears of a list of paths that fails. -/
def pathsError (reason : Reason) : Thrown :=
  match reason.read with
  | .ok thrown => .failure (pathsFailure thrown)
  | .error fault => .fault fault

/-- What ends the run if the pool fails: a failure as it is, any other error as its cause. -/
def poolFailure : Thrown → Failure
  | .failure failure => failure
  | thrown => Failure.causedBy .unknown ("Scan scheduling failed: " ++ thrown.message) thrown

/-- What ends the run if a task failed. -/
def taskFailure : Thrown → Failure
  | .failure failure => failure
  | thrown => Failure.causedBy .unknown ("Scan task failed: " ++ thrown.message) thrown

end ScanPlan

end FileSearch
