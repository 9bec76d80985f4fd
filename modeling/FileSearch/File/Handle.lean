import FileSearch.File.Scan

/-!
# File handles

The scan of a file as code that opens, reads and closes, where each of these may throw. What is
thrown before the file is closed makes the result. What closing throws is logged, for which it has to
have a text.

In the modes that read lines a stream has the file as well, and closes it when it is destroyed, before
the scan does. Nobody waits for that. What it fails with becomes an event of the stream, and once
reading has come to its end nobody listens for one any more.
-/

namespace FileSearch

/-- Whether a value counts as an error where one may be missing. -/
def Value.isTruthy : Value → Bool
  | absent | null => false
  | bool b => b
  | number n => n != .nan && n != .ofNat 0
  | text s => !s.isEmpty
  | list _ | record _ => true

def Reason.isTruthy : Reason → Bool
  | thrown (.value v _) => v.isTruthy
  | thrown (.failure _) | thrown (.fault _) => true
  | textless _ _ => true

/-- What closing a file fails with, for each that closes it. -/
abbrev CloseFaults := Closer → Option Reason

/-- What working with a file does besides coming to an end. -/
structure HandleTrace where
  /-- Who closed a file each time one was closed, and what closing failed with. -/
  closings : List (Closer × Option Reason) := []
  logLines : List String := []
  /-- The errors that a stream reports while nobody listens. -/
  uncaught : List Reason := []

/-- Code that works with a file and may throw. -/
abbrev HandleM := ExceptT Reason (StateM HandleTrace)

namespace HandleM

variable {α : Type}

/-- How code ends, and what it has done then. -/
def after (code : HandleM α) (t : HandleTrace) : Except Reason α × HandleTrace := code.run.run t

/-- Throws an error if there is one. -/
def raise : Option Reason → HandleM Unit
  | some reason => throw reason
  | none => pure ()

def noteClosing (closer : Closer) (fault : Option Reason) : HandleM Unit :=
  modify fun t => { t with closings := t.closings ++ [(closer, fault)] }

def record (log : Log) (e : LogEntry) : HandleM Unit := do
  let lines ← MonadExcept.ofExcept ((log.write e).mapError .thrown)
  modify fun t => { t with logLines := t.logLines ++ lines }

/-- What was thrown, as what has a text. -/
def legible (reason : Reason) : HandleM Thrown :=
  MonadExcept.ofExcept (reason.read.mapError fun fault => .thrown (.fault fault))

end HandleM

namespace ScanOptions

/-- Whether a scan that reads lines takes all chunks and comes to their end. A negated one stops at
the first line that matches, and only the end of the chunks brings a last line without line feed. -/
def readsToEnd (o : ScanOptions) (file : OpenFile) : Bool :=
  let stops (line : Bytes) := line.getLast? = some lineFeed && lineMatches o.matcher line
  file.failure.isNone && !(o.mode.negated && file.lines.lines.any stops)

/-- The stream of a file closes it. -/
def destroyStream (o : ScanOptions) (file : OpenFile) (fault : Option Reason) : HandleM Unit := do
  HandleM.noteClosing .stream fault
  if o.readsToEnd file then
    modify fun t => { t with uncaught := t.uncaught ++ fault.toList.filter Reason.isTruthy }

/-- Reads a file for its report. -/
def readReport (o : ScanOptions) (path : String) (file : OpenFile) (faults : CloseFaults) :
    HandleM Report := do
  try MonadExcept.ofExcept ((o.report path file).mapError .thrown)
  finally
    if o.mode.readsLines then o.destroyStream file (faults .stream)

/-- Opens and scans a file. What is thrown on the way makes the result. -/
def read (o : ScanOptions) (path : String) (opening : Opening) (faults : CloseFaults) :
    HandleM FileResult := do
  try
    let file ← MonadExcept.ofExcept (opening.mapError .thrown)
    let report ← o.readReport path file faults
    pure (.scanned path report)
  catch reason =>
    let thrown ← HandleM.legible reason
    pure (.failed path (thrown.toFileFailure path))

/-- Closes a file and logs what closing throws. -/
def shut (log : Log) (path : String) (fault : Option Reason) : HandleM Unit := do
  try
    HandleM.noteClosing .scan fault
    HandleM.raise fault
  catch reason =>
    let thrown ← HandleM.legible reason
    HandleM.record log (FileScan.closeWarning path thrown)

/-- The scan of a file step by step. A file that was opened is closed in the end. -/
def attempt (o : ScanOptions) (log : Log) (path : String) (opening : Opening)
    (faults : CloseFaults) : HandleM FileResult := do
  try o.read path opening faults
  finally
    match opening with
    | .ok _ => shut log path (faults .scan)
    | .error _ => pure ()

/-- Scans the files of a list one after the other, until a scan throws. -/
def attemptAll (o : ScanOptions) (log : Log) (files : String → Opening)
    (faults : String → CloseFaults) : List String → HandleM (List FileResult)
  | [] => pure []
  | path :: rest => do
    let result ← o.attempt log path (files path) (faults path)
    let results ← o.attemptAll log files faults rest
    pure (result :: results)

end ScanOptions

end FileSearch
