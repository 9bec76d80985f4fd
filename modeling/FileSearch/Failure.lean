import FileSearch.Value

/-!
# Failures

Whatever goes wrong ends as a `Failure`: one of a fixed set of codes, a message, and where known the
path, details and the cause. What is thrown on the way there may be a failure already, an error of
the system, or a value; `Thrown.classify` says which code each gets.

To be reported a value is made text. Code that may throw anything may also throw a value that has no
text; then making it text throws in turn (`Reason.read`).
-/

namespace FileSearch

inductive ErrorCode where
  | invalidInput
  | invalidPattern
  | notFound
  | permissionDenied
  | notFile
  | tooLarge
  | resourceLimit
  | outputFailed
  | unknown
  | unlisted (name : String)
  deriving DecidableEq, Repr

namespace ErrorCode

def name : ErrorCode → String
  | invalidInput => "E_INVALID_INPUT"
  | invalidPattern => "E_INVALID_PATTERN"
  | notFound => "E_NOT_FOUND"
  | permissionDenied => "E_PERMISSION_DENIED"
  | notFile => "E_NOT_FILE"
  | tooLarge => "E_TOO_LARGE"
  | resourceLimit => "E_RESOURCE_LIMIT"
  | outputFailed => "E_OUTPUT_FAILED"
  | unknown => "E_UNKNOWN"
  | unlisted name => name

def listed : List ErrorCode :=
  [invalidInput, invalidPattern, notFound, permissionDenied, notFile, tooLarge, resourceLimit,
    outputFailed, unknown]

def ofName (name : String) : ErrorCode :=
  (listed.find? (·.name = name)).getD (unlisted name)

/-- What to do about it; nothing is suggested for a code that is not listed. -/
def suggestion? : ErrorCode → Option String
  | invalidInput =>
    some "Check the arguments: three 0/1 flags, a positive concurrency, then the pattern."
  | invalidPattern =>
    some "Fix the regular expression. Backreferences and lookaround are not supported by RE2."
  | notFound => some "Check that the path exists relative to the working directory."
  | permissionDenied => some "Check the read permissions of the file."
  | notFile => some "Pass regular files only, not directories."
  | tooLarge => some "Raise PATTERN_SCAN_MAX_FILE_SIZE or exclude the file from the scan."
  | resourceLimit => some "Lower the concurrency or raise the open file limit."
  | outputFailed => some "Check that standard output is still open."
  | unknown => some "Run again with PATTERN_SCAN_LOG_LEVEL=debug."
  | unlisted _ => none

/-- The code of a system error number, where one is assigned. -/
def ofErrno? (errno : String) : Option ErrorCode :=
  match errno with
  | "ENOENT" | "ENOTDIR" | "ELOOP" => some notFound
  | "EACCES" | "EPERM" => some permissionDenied
  | "EISDIR" => some notFile
  | "ENAMETOOLONG" => some invalidInput
  | "EMFILE" | "ENFILE" => some resourceLimit
  | "EPIPE" => some outputFailed
  | _ => none

/-- Whether `part` occurs in `whole`. -/
def occursIn (part : List Char) : List Char → Bool
  | [] => part.isEmpty
  | c :: rest => part.isPrefixOf (c :: rest) || occursIn part rest

/-- The code read off an error text that names an error number. -/
def ofText (text : String) : ErrorCode :=
  let mentions (errno : String) := occursIn errno.toList text.toList
  if mentions "ENOENT" then notFound
  else if mentions "EACCES" || mentions "EPERM" then permissionDenied
  else if mentions "EISDIR" then notFile
  else unknown

end ErrorCode


-- ---------------------------------------------------------------------------
-- What is thrown
-- ---------------------------------------------------------------------------

/-- The kinds of errors that are not failures of the search. -/
inductive FaultKind where
  | general
  | argument
  | range
  | pattern
  deriving DecidableEq, Repr

/-- An error of the system or of a library. A system error has a text as its code. -/
structure Fault where
  kind : FaultKind := .general
  message : String
  code : Value := .absent

mutual

inductive Thrown where
  | failure (f : Failure)
  | fault (f : Fault)
  | value (v : Value) (hasText : v.text?.isSome := by
      first
      | with_reducible exact Value.hasText_absent
      | with_reducible exact Value.hasText_text _
      | rfl)

/-- `chained` holds if the trace of the cause is kept below this failure's own. -/
structure Failure where
  code : ErrorCode
  message : String
  path : Option String := none
  details : Option Details := none
  cause : Option Thrown := none
  chained : Bool := false

end

instance : Inhabited Thrown := ⟨.value .absent⟩

instance : Inhabited Failure := ⟨{ code := .unknown, message := "" }⟩

namespace Thrown

/-- Whether this is an error rather than a bare value. -/
def isError : Thrown → Bool
  | failure _ | fault _ => true
  | value _ _ => false

/-- The message of an error, or the text of a value. -/
def message : Thrown → String
  | failure f => f.message
  | fault f => f.message
  | value v hasText => v.text?.get hasText

end Thrown

/-- Whatever code can be made to throw. -/
inductive Reason where
  | thrown (t : Thrown)
  | textless (v : Value) (noText : v.text? = none)

instance : Coe Thrown Reason := ⟨.thrown⟩

namespace Reason

def value (v : Value) : Reason :=
  if hasText : v.text?.isSome then .thrown (.value v hasText)
  else .textless v (Option.not_isSome_iff_eq_none.mp hasText)

/-- What is thrown where a value has no text. -/
def noText : Fault where
  kind := .argument
  message := "Cannot convert object to primitive value"

def hasText : Reason → Bool
  | thrown _ => true
  | textless _ _ => false

/-- What was thrown, unless it has no text. -/
def read : Reason → Except Fault Thrown
  | thrown t => .ok t
  | textless _ _ => .error noText

/-- What was thrown, or what is thrown in its stead where it has no text. -/
def told (reason : Reason) : Thrown :=
  match reason.read with
  | .ok t => t
  | .error fault => .fault fault

end Reason

/-- A failure whose cause keeps its trace. -/
def Failure.causedBy (code : ErrorCode) (message : String) (cause : Thrown)
    (path : Option String := none) (details : Option Details := none) : Failure :=
  { code, message, path, details, cause := some cause, chained := cause.isError }

/-- The line of a trace that leads to the trace of the cause. -/
def causeMark : List Char := "\nCaused by: ".toList

/-- How often a text names a cause. A mark cannot overlap with another. -/
def countCauseMarks : List Char → Nat
  | [] => 0
  | c :: rest =>
    (if causeMark.isPrefixOf (c :: rest) then 1 else 0) + countCauseMarks rest

mutual

/-- How many causes the trace of an error names. The trace begins with the message, which may name
some of its own. -/
def Thrown.traceLength : Thrown → Nat
  | .failure f => f.traceLength
  | .fault f => countCauseMarks f.message.toList
  | .value _ _ => 0

def Failure.traceLength : Failure → Nat
  | ⟨_, message, _, _, cause, chained⟩ =>
    let own := countCauseMarks message.toList
    match cause, chained with
    | some cause, true => own + 1 + cause.traceLength
    | _, _ => own

end

namespace Fault

/-- The code of a system error. -/
def systemCode? (f : Fault) : Option String :=
  match f.code with
  | .text code => some code
  | _ => none

end Fault

namespace Thrown

/-- The textual code an error carries, whether a failure's own or that of a system error. -/
def textCode? : Thrown → Option String
  | failure f => some f.code.name
  | fault f => f.systemCode?
  | value _ _ => none

/-- A failure keeps its code. A system error is looked up by its error number, and what is not found
there by its text. -/
def classify : Thrown → ErrorCode
  | failure f => f.code
  | fault f =>
    match f.systemCode?.bind ErrorCode.ofErrno? with
    | some code => code
    | none => ErrorCode.ofText f.message
  | value (.text s) _ => ErrorCode.ofText s
  | value _ _ => .unknown

/-- The failure to report for an error met while reading the file at `path`. -/
def toFileFailure (path : String) : Thrown → Failure
  | failure f => f
  | thrown =>
    let code := thrown.classify
    let message := match code with
      | .notFound => "File does not exist: " ++ path
      | .permissionDenied => "Permission denied reading file: " ++ path
      | .notFile => "Not a regular file: " ++ path
      | .resourceLimit => "Too many open files while reading: " ++ path
      | _ => "Failed to read " ++ path ++ ": " ++ thrown.message
    let details := match thrown.textCode? with
      | some code => if code.isEmpty then none else some [("originalCode", .text code)]
      | none => none
    { code, message, path := some path, details, cause := some thrown }

end Thrown


-- ---------------------------------------------------------------------------
-- Reports
-- ---------------------------------------------------------------------------

/-- A failure as it is shown to the user. -/
structure ErrorReport where
  code : ErrorCode
  message : String
  path : Option String := none
  suggestion : Option String := none
  details : Option Details := none

namespace ErrorReport

/-- Describes an error. A path or details given here stand before those of the failure itself. -/
def ofThrown (thrown : Thrown) (path : Option String := none)
    (details : Option Details := none) : ErrorReport :=
  let own : Option String × Option Details := match thrown with
    | .failure f => (f.path, f.details)
    | _ => (none, none)
  let code := thrown.classify
  { code
    message := thrown.message
    path := path <|> own.1
    suggestion := code.suggestion?
    details := details <|> own.2 }

/-- A line that is left out where there is nothing to show. -/
def labelled (label : String) : Option String → List String
  | none => []
  | some text => if text.isEmpty then [] else [label ++ text]

def format (r : ErrorReport) : String :=
  "\n".intercalate (("Error [" ++ r.code.name ++ "]: " ++ r.message) ::
    (labelled "Path: " r.path ++ labelled "Suggestion: " r.suggestion))

end ErrorReport

end FileSearch
