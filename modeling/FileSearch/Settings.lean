import FileSearch.ExitCode
import FileSearch.Log
import FileSearch.Text.Blank

/-!
# Settings

What the environment decides about a run. Every variable has a default; a value that cannot be read
leaves the default in place, and for the log level, the policy and the two numbers a warning says
so.
-/

namespace FileSearch

/-- How much of a path a diagnostics event shows: nothing, a digest, or the path. -/
inductive PathDetail where
  | hidden
  | digest
  | full
  deriving DecidableEq, Repr

namespace PathDetail

def toNat : PathDetail → Nat
  | hidden => 0
  | digest => 1
  | full => 2

end PathDetail

structure RuntimeSettings where
  logLevel : LogLevel
  fileErrorPolicy : FileErrorPolicy
  maxFileSize : Number
  defaultConcurrency : Number
  diagnostics : Bool
  diagnosticsDetail : PathDetail
  deriving DecidableEq

/-- What can be set from outside. -/
inductive Setting where
  | logLevel
  | fileErrorPolicy
  | maxFileSize
  | concurrency
  | diagnostics
  | diagnosticsDetail
  deriving DecidableEq, Repr

namespace Setting

/-- The variable that sets it. -/
def key : Setting → String
  | logLevel => "PATTERN_SCAN_LOG_LEVEL"
  | fileErrorPolicy => "PATTERN_SCAN_FILE_ERRORS"
  | maxFileSize => "PATTERN_SCAN_MAX_FILE_SIZE"
  | concurrency => "PATTERN_SCAN_CONCURRENCY"
  | diagnostics => "PATTERN_SCAN_DIAGNOSTICS"
  | diagnosticsDetail => "PATTERN_SCAN_DIAGNOSTICS_DETAIL"

def all : List Setting :=
  [logLevel, fileErrorPolicy, maxFileSize, concurrency, diagnostics, diagnosticsDetail]

end Setting

abbrev Environment := String → Option String

namespace RuntimeSettings

/-- The size of the pieces a file is read in. -/
def streamChunkSize : Nat := 64 * 1024

def defaultMaxFileSize : Nat := 256 * 1024 * 1024

/-- The longest content a single text of one character per byte can hold. -/
def maxFileSizeCeiling : Nat := 536870888

def maxDefaultConcurrency : Nat := 1024

/-- The number of files to scan at once on a machine of so many processors: at least one and at
most 32. -/
def optimalParallelism (processors : Number) : Number :=
  if processors.lt (.ofNat 1) then .ofNat 1
  else if (Number.ofNat 32).lt processors then .ofNat 32
  else processors

/-- A setting, and the warnings that reading it gave. -/
abbrev Reading (α : Type) := α × List LogEntry

def warn (message : String) : LogEntry := { level := .warning, message }

/-- The value of a setting that is set to something. -/
def valueOf? (env : Environment) (setting : Setting) : Option String :=
  (env setting.key).filter fun v => !v.isEmpty

/-- A value without surrounding blanks and in lower case. No accepted word has a letter outside
ASCII or one that a letter outside ASCII is lowered to. -/
def normalize (raw : String) : String :=
  String.ofList ((Text.trimChars raw.toList).map Char.toLower)

/-- The number at the start of a value: blanks, a sign and digits; what follows them is ignored. -/
def leadingInt? (raw : String) : Option Int :=
  let text := Text.trimStart raw.toList
  let (negative, rest) := match text with
    | '-' :: rest => (true, rest)
    | '+' :: rest => (false, rest)
    | rest => (false, rest)
  match rest.takeWhile Char.isDigit with
  | [] => none
  | digits =>
    let n : Int := Text.digitsValue digits
    some (if negative then -n else n)

/-- Reads a number that has to lie between two bounds. -/
def readNumber (env : Environment) (setting : Setting) (default : Number) (min max : Nat) :
    Reading Number :=
  match valueOf? env setting with
  | none => (default, [])
  | some raw =>
    let refused : Reading Number := (default,
      [warn ("Invalid " ++ setting.key ++ " value: " ++ raw ++ " (must be " ++ toString min ++ "-"
        ++ toString max ++ "). Using default: " ++ default.text)])
    match leadingInt? raw with
    | none => refused
    | some n => if n < min || max < n then refused else (.ofNat n.toNat, [])

/-- Reads one of several words. -/
def readChoice {α : Type} (env : Environment) (setting : Setting) (default : α)
    (defaultName : String) (choice : String → Option α) : Reading α :=
  match valueOf? env setting with
  | none => (default, [])
  | some raw =>
    match choice (normalize raw) with
    | some a => (a, [])
    | none =>
      (default,
        [warn ("Invalid " ++ setting.key ++ " value: " ++ raw ++ ". Using default: "
          ++ defaultName)])

def readSwitch (env : Environment) (setting : Setting) : Bool :=
  match valueOf? env setting with
  | none => false
  | some raw => ["1", "true", "yes"].contains (normalize raw)

def readDetail (env : Environment) (setting : Setting) : PathDetail :=
  match valueOf? env setting with
  | none => .hidden
  | some raw =>
    match Text.trim raw with
    | "2" => .full
    | "1" => .digest
    | _ => .hidden

def policy? : String → Option FileErrorPolicy
  | "fail" => some .fail
  | "ignore" => some .ignore
  | _ => none

/-- The settings of an environment on a machine of so many processors. -/
def load (env : Environment) (processors : Number) : Reading RuntimeSettings :=
  let level := readChoice env .logLevel .warning "warning" LogLevel.ofName?
  let policy := readChoice env .fileErrorPolicy .fail "fail" policy?
  let size := readNumber env .maxFileSize (.ofNat defaultMaxFileSize) 1 maxFileSizeCeiling
  let concurrency :=
    readNumber env .concurrency (optimalParallelism processors) 1 maxDefaultConcurrency
  ({ logLevel := level.1
     fileErrorPolicy := policy.1
     maxFileSize := size.1
     defaultConcurrency := concurrency.1
     diagnostics := readSwitch env .diagnostics
     diagnosticsDetail := readDetail env .diagnosticsDetail },
    level.2 ++ policy.2 ++ size.2 ++ concurrency.2)

end RuntimeSettings

end FileSearch
