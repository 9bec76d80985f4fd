import FileSearch.ExitCode
import FileSearch.Report

/-!
# Results

What a scan comes to: for one file its report, or why it could not be read; for a run the counts of
these. The tally keeps the failures in the order they were recorded, and the summary is read off it.
-/

namespace FileSearch

inductive FileResult where
  | scanned (path : String) (report : Report)
  | failed (path : String) (failure : Failure)

namespace FileResult

def path : FileResult → String
  | scanned path _ => path
  | failed path _ => path

def isScanned : FileResult → Bool
  | scanned _ _ => true
  | failed _ _ => false

/-- Whether there is something to report. -/
def isMatched : FileResult → Bool
  | scanned _ report => report.matched
  | failed _ _ => false

/-- What goes to the output. -/
def block : FileResult → Bytes
  | scanned _ report => report.block
  | failed _ _ => []

def failure? : FileResult → Option Failure
  | scanned _ _ => none
  | failed _ failure => some failure

end FileResult

structure Summary where
  filesScanned : Nat
  filesMatched : Nat
  filesFailed : Nat
  matched : Bool
  policy : FileErrorPolicy
  exitCode : ExitCode
  deriving DecidableEq, Repr

/-- The counts of a run so far. -/
structure Tally where
  scanned : Nat := 0
  matched : Nat := 0
  failures : List Failure := []

namespace Tally

def record (t : Tally) : FileResult → Tally
  | .failed _ failure => { t with failures := t.failures ++ [failure] }
  | .scanned _ report =>
    { t with
      scanned := t.scanned + 1
      matched := if report.matched then t.matched + 1 else t.matched }

def summary (t : Tally) (policy : FileErrorPolicy) : Summary :=
  let matched := 0 < t.matched
  { filesScanned := t.scanned
    filesMatched := t.matched
    filesFailed := t.failures.length
    matched
    policy
    exitCode := ExitCode.ofOutcome matched (0 < t.failures.length) policy }

end Tally

end FileSearch
