import FileSearch.Matcher
import FileSearch.Text.Blank

/-!
# Configuration

What a run searches for and how. Arguments are loosely typed until they are checked; a check either
gives the checked value or lists every issue, each with the place it is about.
-/

namespace FileSearch

structure Config where
  caseInsensitive : Bool
  multiline : Bool
  negate : Bool
  concurrency : Number
  pattern : String
  deriving DecidableEq

def Config.matchOptions (c : Config) : MatchOptions :=
  { caseInsensitive := c.caseInsensitive, multiline := c.multiline }

/-- A step into a value: the position in a list or the name of a field. -/
inductive PathStep where
  | index (i : Nat)
  | field (name : String)
  deriving DecidableEq, Repr

structure Issue where
  path : List PathStep := []
  message : String
  deriving DecidableEq, Repr

abbrev Checked (α : Type) := Except (List Issue) α

namespace Checked

def refuse {α : Type} (message : String) : Checked α := .error [{ message }]

/-- Moves the issues of a check to where the checked value stands. -/
def inside {α : Type} (step : PathStep) : Checked α → Checked α
  | .ok a => .ok a
  | .error issues => .error (issues.map fun i => { i with path := step :: i.path })

/-- The issues of a check; none if it went through. -/
def issues {α : Type} : Checked α → List Issue
  | .ok _ => []
  | .error issues => issues

end Checked


-- ---------------------------------------------------------------------------
-- Single values
-- ---------------------------------------------------------------------------

namespace Value

/-- The kind of a value, as issues name it. -/
def kindName : Value → String
  | absent => "undefined"
  | null => "null"
  | bool _ => "boolean"
  | number .nan => "NaN"
  | number _ => "number"
  | text _ => "string"
  | list _ => "array"
  | record _ => "object"

def mismatch {α : Type} (expected : String) (v : Value) : Checked α :=
  .refuse ("Invalid input: expected " ++ expected ++ ", received " ++ v.kindName)

def checkText : Value → Checked String
  | text s => .ok s
  | v => v.mismatch "string"

def checkBool : Value → Checked Bool
  | bool b => .ok b
  | v => v.mismatch "boolean"

def checkSwitch : Value → Checked Bool
  | text "0" => .ok false
  | text "1" => .ok true
  | _ => .refuse "must be 0 or 1"

end Value

namespace Concurrency

/-- The largest integer with no neighbour rounded onto it. -/
def maxExact : Int := 9007199254740991

def notInteger : Issue := { message := "concurrency must be an integer" }

def tooSmall : Issue := { message := "concurrency must be at least 1" }

def tooLarge : Issue := { message := "concurrency is too large" }

/-- Accepts the integers from 1 to `maxExact`. An integer beyond `maxExact` in either direction is
not taken for one, and is out of range besides. -/
def checkNumber (n : Number) : Checked Number :=
  match n.toInt? with
  | none => .error [notInteger]
  | some i =>
    if maxExact < i then .error [notInteger, tooLarge]
    else if i < -maxExact then .error [notInteger, tooSmall]
    else if i < 1 then .error [tooSmall]
    else .ok n

def check : Value → Checked Number
  | .number n => checkNumber n
  | _ => .error [notInteger]

/-- Reads a number from digits, which may have blanks around them. -/
def checkDigits (argument : String) : Checked Number :=
  let digits := Text.trimChars argument.toList
  if digits.isEmpty || !digits.all Char.isDigit then
    .refuse "concurrency must be a positive integer"
  else checkNumber (.ofNat (Text.digitsValue digits))

def checkArgument (v : Value) : Checked Number :=
  match v.checkText with
  | .error issues => .error issues
  | .ok argument => checkDigits argument

end Concurrency


-- ---------------------------------------------------------------------------
-- Configurations
-- ---------------------------------------------------------------------------

namespace Config

/-- Puts a configuration together from its checked parts, or lists the issues of all of them in
order. -/
def combine (caseInsensitive multiline negate : Checked Bool) (concurrency : Checked Number)
    (pattern : Checked String) : Checked Config :=
  match caseInsensitive, multiline, negate, concurrency, pattern with
  | .ok caseInsensitive, .ok multiline, .ok negate, .ok concurrency, .ok pattern =>
    .ok { caseInsensitive, multiline, negate, concurrency, pattern }
  | a, b, c, d, e =>
    .error (Checked.issues a ++ Checked.issues b ++ Checked.issues c ++ Checked.issues d
      ++ Checked.issues e)

/-- A field of a record, checked at its place. -/
def checkField {α : Type} (v : Value) (name : String) (check : Value → Checked α) : Checked α :=
  Checked.inside (.field name) (check (v.field name))

/-- The fields of a configuration by name. Other fields are ignored. -/
def check (v : Value) : Checked Config :=
  match v with
  | .record _ =>
    combine (checkField v "caseInsensitive" Value.checkBool)
      (checkField v "multiline" Value.checkBool) (checkField v "negate" Value.checkBool)
      (checkField v "concurrency" Concurrency.check) (checkField v "pattern" Value.checkText)
  | v => v.mismatch "object"

/-- The names of the positional arguments, in order. -/
def positionalNames : List String :=
  ["ignore_case", "multiline", "negate", "concurrency", "pattern"]

/-- The five positional arguments, each checked at its place. -/
def checkFive (a b c d e : Value) : Checked Config :=
  combine (Checked.inside (.index 0) a.checkSwitch) (Checked.inside (.index 1) b.checkSwitch)
    (Checked.inside (.index 2) c.checkSwitch)
    (Checked.inside (.index 3) (Concurrency.checkArgument d))
    (Checked.inside (.index 4) e.checkText)

def tooMany : Issue := { message := "Too big: expected array to have <=5 items" }

/-- A list of exactly five arguments. Too short a list is not looked into; of too long a one the
first five are. -/
def checkPositional (v : Value) : Checked Config :=
  match v with
  | .list [a, b, c, d, e] => checkFive a b c d e
  | .list (a :: b :: c :: d :: e :: _) => .error (tooMany :: Checked.issues (checkFive a b c d e))
  | .list _ => Checked.refuse "Too small: expected array to have >=5 items"
  | v => v.mismatch "tuple"

end Config

namespace Issue

/-- An issue about a positional argument names it. -/
def describe (i : Issue) : String :=
  match i.path with
  | .index n :: _ =>
    match Config.positionalNames[n]? with
    | some name => name ++ ": " ++ i.message
    | none => i.message
  | _ => i.message

def describeAll (issues : List Issue) : String := "; ".intercalate (issues.map describe)

end Issue

end FileSearch
