import FileSearch.Failure

/-!
# Exit codes

A run ends with 0 if it reported nothing, 1 if it reported something or a file could not be read, 2
if its arguments or its pattern were refused, and 3 if it could not be carried through.
-/

namespace FileSearch

inductive ExitCode where
  | clean
  | matched
  | invalidInput
  | internalError
  deriving DecidableEq, Repr

/-- Whether a file that could not be read makes the run end like one that reported something. -/
inductive FileErrorPolicy where
  | fail
  | ignore
  deriving DecidableEq, Repr

def FileErrorPolicy.name : FileErrorPolicy → String
  | fail => "fail"
  | ignore => "ignore"

namespace ExitCode

def toNat : ExitCode → Nat
  | clean => 0
  | matched => 1
  | invalidInput => 2
  | internalError => 3

/-- The exit code of a run that came to its end, by whether any file matched and any failed. -/
def ofOutcome (matched failed : Bool) (policy : FileErrorPolicy) : ExitCode :=
  if matched then .matched
  else if failed && policy = .fail then .matched
  else clean

/-- The exit code of an error that ended the run. -/
def ofThrown : Thrown → ExitCode
  | .failure f =>
    if f.code = .invalidInput || f.code = .invalidPattern then invalidInput else internalError
  | _ => internalError

end ExitCode

end FileSearch
