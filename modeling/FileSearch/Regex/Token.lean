import FileSearch.Regex.Error
import FileSearch.Regex.Property

/-!
# Tokens of a pattern

A pattern is read one token at a time. Each reader is given the characters from where it stands and
answers with what it read and how many characters that took; the excerpt of an error is a stretch of
the same characters.
-/

namespace FileSearch.Regex

/-- `textEnd` and `dollar` hold at the same place, the end of the text, but are told apart when
alternatives are compared. -/
inductive Assertion where
  | textStart
  | textEnd
  | dollar
  | lineStart
  | lineEnd
  | wordEdge
  | notWordEdge
  deriving DecidableEq, Repr

/-- A member of a class, before case folding. -/
inductive ClassItem where
  | range (low high : Nat)
  | named (set : CharSet) (negated : Bool)

/-- What a group such as `(?i-s)` turns on or off. -/
inductive Setting where
  | fold
  | multiline
  | dotAll
  | lazy
  deriving DecidableEq, Repr

/-- The repetitions without counts. -/
inductive LoopKind where
  | star
  | plus
  | option
  deriving DecidableEq, Repr

inductive Token where
  | literal (c : Nat)
  | quoted (text : List Char)
  | item (i : ClassItem)
  | set (negated : Bool) (items : List ClassItem)
  | dot
  | anyByte
  | caret
  | dollar
  | assertion (a : Assertion)
  | openGroup (name : Option (List Char))
  | settings (changes : List (Setting × Bool)) (opensGroup : Bool)
  | bar
  | close
  | loop (kind : LoopKind) (lazy : Bool)
  | repeatOf (min : Nat) (max : Option Nat) (lazy : Bool)

/-- What a reader found, and the number of characters it took. -/
abbrev Reading (α : Type) := Except PatternError (α × Nat)


-- ---------------------------------------------------------------------------
-- Escapes
-- ---------------------------------------------------------------------------

def isOctal (c : Char) : Bool := '0' ≤ c && c ≤ '7'

def octalValue (digits : List Char) : Nat :=
  digits.foldl (fun n c => n * 8 + (c.toNat - '0'.toNat)) 0

/-- How the digits of a braced hexadecimal escape end. -/
inductive BracedHex where
  | closed (code : Nat) (used : Nat)
  | bad (used : Nat)

/-- Reads hexadecimal digits up to the closing brace. The code point may not pass the largest one,
and the digit that takes it there is the last character read. -/
def readBracedHex (code count : Nat) : List Char → BracedHex
  | [] => .bad count
  | c :: rest =>
    match Text.hexValue? c with
    | some d =>
      if maxCodePoint < code * 16 + d then .bad (count + 1)
      else readBracedHex (code * 16 + d) (count + 1) rest
    | none =>
      if c = '\x7d' && 0 < count then .closed code (count + 1) else .bad (count + 1)

/-- Reads a single character written with a backslash; `text` starts at the backslash. -/
def readEscape (text : List Char) : Reading Nat :=
  match text with
  | '\\' :: c :: rest =>
    match c with
    | 'x' =>
      match rest with
      | [] => .error (.badEscape text)
      | ['\x7b'] => .error .truncatedCharacter
      | '\x7b' :: digits =>
        match readBracedHex 0 0 digits with
        | .closed code used => .ok (code, 3 + used)
        | .bad used => .error (.badEscape (text.take (3 + used)))
      | [_] => .error (.badEscape text)
      | h :: l :: _ =>
        match Text.hexValue? h, Text.hexValue? l with
        | some h, some l => .ok (h * 16 + l, 4)
        | _, _ => .error (.badEscape (text.take 4))
    | 'n' => .ok (0x0A, 2)
    | 'r' => .ok (0x0D, 2)
    | 't' => .ok (0x09, 2)
    | 'a' => .ok (0x07, 2)
    | 'f' => .ok (0x0C, 2)
    | 'v' => .ok (0x0B, 2)
    | c =>
      if isOctal c then
        let more := (rest.take 2).takeWhile isOctal
        if c != '0' && more.isEmpty then .error (.badEscape (text.take 2))
        else .ok (octalValue (c :: more), 2 + more.length)
      else if c.toNat < 0x80 && !c.isAlphanum then .ok (c.toNat, 2)
      else .error (.badEscape (text.take 2))
  | _ => .error .trailingBackslash

/-- The classes written as a backslash and one letter. -/
def letterClass? : Char → Option ClassItem
  | 'd' => some (.named .digit false)
  | 'D' => some (.named .digit true)
  | 's' => some (.named .space false)
  | 'S' => some (.named .space true)
  | 'w' => some (.named .word false)
  | 'W' => some (.named .word true)
  | _ => none

/-- Reads `\pX` or `\p{Name}`, with `\P` and a leading `^` each negating it. -/
def readProperty (text : List Char) : Reading ClassItem :=
  match text with
  | '\\' :: sign :: rest =>
    let found (name : List Char) (used : Nat) : Reading ClassItem :=
      let (flip, plain) := match name with
        | '^' :: plain => (true, plain)
        | plain => (false, plain)
      match property? (String.ofList plain) with
      | some set => .ok (.named set ((sign = 'P') != flip), used)
      | none => .error (.badRange (text.take used))
    match rest with
    | [] => .error (.badRange text)
    | '\x7b' :: braced =>
      if braced.contains '\x7d' then
        let name := braced.takeWhile (· != '\x7d')
        found name (name.length + 4)
      else .error (.badRange text)
    | c :: _ => found [c] 3
  | _ => .error .trailingBackslash


-- ---------------------------------------------------------------------------
-- Classes
-- ---------------------------------------------------------------------------

/-- The length of a `[:name:]` at the start of `text`, if a `:]` follows at all. -/
def namedClassLength? (text : List Char) : Option Nat :=
  let rec closing (count : Nat) : List Char → Option Nat
    | ':' :: ']' :: _ => some (count + 2)
    | _ :: rest => closing (count + 1) rest
    | [] => none
  match text with
  | '[' :: ':' :: rest => closing 2 rest
  | _ => none

def readNamedClass (text : List Char) (length : Nat) : Reading ClassItem :=
  let inner := (text.drop 2).take (length - 4)
  let (negated, name) := match inner with
    | '^' :: name => (true, name)
    | name => (false, name)
  match CharSet.named? (String.ofList name) with
  | some set => .ok (.named set negated, length)
  | none => .error (.badRange (text.take length))

/-- Reads one character of a class, escaped or not. -/
def readClassCharacter (whole text : List Char) : Reading Nat :=
  match text with
  | [] => .error (.missingBracket whole)
  | '\\' :: _ => readEscape text
  | c :: _ => .ok (c.toNat, 1)

/-- Reads a character or a range of characters. A `-` before the closing bracket is a character. -/
def readClassRange (whole text : List Char) : Reading ClassItem :=
  match readClassCharacter whole text with
  | .error e => .error e
  | .ok (low, used) =>
    match text.drop used with
    | '-' :: next =>
      if next.isEmpty || next.head? = some ']' then .ok (.range low low, used)
      else match readClassCharacter whole next with
        | .error e => .error e
        | .ok (high, more) =>
          if high < low then .error (.badRange (text.take (used + 1 + more)))
          else .ok (.range low high, used + 1 + more)
    | _ => .ok (.range low low, used)

/-- Reads one item of a class that does not close here. -/
def readClassItem (whole text : List Char) : Reading ClassItem :=
  match text with
  | '[' :: ':' :: _ =>
    match namedClassLength? text with
    | some length => readNamedClass text length
    | none => readClassRange whole text
  | '\\' :: c :: rest =>
    if (c = 'p' || c = 'P') && !rest.isEmpty then readProperty text
    else match letterClass? c with
      | some item => .ok (item, 2)
      | none => readClassRange whole text
  | _ => readClassRange whole text

/-- Reads the items of a class up to its closing bracket, which is an ordinary character where the
first item stands. `skip` characters belong to the item before; `used` have been passed. -/
def readClassItems (whole : List Char) (skip used : Nat) (first : Bool)
    (items : List ClassItem) : List Char → Reading (List ClassItem)
  | [] => .error (.missingBracket whole)
  | c :: rest =>
    match skip with
    | skip + 1 => readClassItems whole skip (used + 1) first items rest
    | 0 =>
      if c = ']' && !first then .ok (items.reverse, used + 1)
      else match readClassItem whole (c :: rest) with
        | .ok (item, length) =>
          readClassItems whole (length - 1) (used + 1) false (item :: items) rest
        | .error e => .error e

/-- Reads a class; `text` starts at its opening bracket. -/
def readClass (text : List Char) : Reading Token :=
  match text with
  | '[' :: '^' :: rest =>
    (readClassItems text 0 2 true [] rest).map fun r => (.set true r.1, r.2)
  | _ =>
    (readClassItems text 0 1 true [] (text.drop 1)).map fun r => (.set false r.1, r.2)


-- ---------------------------------------------------------------------------
-- Groups
-- ---------------------------------------------------------------------------

/-- Whether the opening of a group is that of a look-around, and how much of it to show. -/
def lookAround? : List Char → Option Nat
  | '(' :: '?' :: '=' :: _ :: _ => some 3
  | '(' :: '?' :: '!' :: _ :: _ => some 3
  | '(' :: '?' :: '<' :: '=' :: _ :: _ => some 4
  | '(' :: '?' :: '<' :: '!' :: _ :: _ => some 4
  | _ => none

/-- The length of the opening of a named group up to its name. -/
def nameOpening? : List Char → Option Nat
  | '(' :: '?' :: 'P' :: '<' :: _ :: _ => some 4
  | '(' :: '?' :: '<' :: _ :: _ => some 3
  | _ => none

/-- Reads the opening of a named group, whose name starts after `opening` characters. -/
def readGroupName (text : List Char) (opening : Nat) : Reading Token :=
  let rest := text.drop opening
  if rest.contains '>' then
    let name := rest.takeWhile (· != '>')
    let used := opening + name.length + 1
    if !name.isEmpty && name.all (nameCharacter.contains ·.toNat) then
      .ok (.openGroup (some name), used)
    else .error (.badGroupName (text.take used))
  else .error (.badGroupName text)

/-- Reads the letters of a settings group. `negated` once a `-` has passed, `any` if a letter
followed since. -/
def readSettings (text : List Char) (used : Nat) (negated any : Bool)
    (changes : List (Setting × Bool)) : List Char → Reading Token
  | [] => .error (.badGroupOperator text)
  | c :: rest =>
    let bad : Reading Token := .error (.badGroupOperator (text.take (used + 1)))
    let change (s : Setting) :=
      readSettings text (used + 1) negated true ((s, !negated) :: changes) rest
    let done (opens : Bool) : Reading Token :=
      if negated && !any then bad else .ok (.settings changes.reverse opens, used + 1)
    match c with
    | 'i' => change .fold
    | 'm' => change .multiline
    | 's' => change .dotAll
    | 'U' => change .lazy
    | '-' => if negated then bad else readSettings text (used + 1) true false changes rest
    | ':' => done true
    | ')' => done false
    | _ => bad

/-- Reads the opening of a group; `text` starts at the parenthesis. -/
def readGroup (text : List Char) : Reading Token :=
  match text with
  | '(' :: '?' :: rest =>
    match lookAround? text with
    | some shown => .error (.badGroupOperator (text.take shown))
    | none =>
      match nameOpening? text with
      | some opening => readGroupName text opening
      | none => readSettings text 2 false false [] rest
  | _ => .ok (.openGroup none, 1)


-- ---------------------------------------------------------------------------
-- Repetition
-- ---------------------------------------------------------------------------

/-- Reads a bound: digits without a leading zero, fewer than ten of them. -/
def readBound? (text : List Char) : Option (Nat × Nat) :=
  let digits := text.takeWhile Char.isDigit
  match digits with
  | [] => none
  | '0' :: _ :: _ => none
  | _ =>
    if 9 < digits.length then none
    else some (digits.foldl (fun n c => n * 10 + (c.toNat - '0'.toNat)) 0, digits.length)

/-- Reads `{n}`, `{n,}` or `{n,m}`; anything else that starts with a brace is no repetition. -/
def readCounts? (text : List Char) : Option (Nat × Option Nat × Nat) := do
  let (min, used) ← readBound? (text.drop 1)
  match text.drop (1 + used) with
  | '\x7d' :: _ => return (min, some min, used + 2)
  | ',' :: '\x7d' :: _ => return (min, none, used + 3)
  | ',' :: rest =>
    let (max, more) ← readBound? rest
    match rest.drop more with
    | '\x7d' :: _ => return (min, some max, used + more + 3)
    | _ => none
  | _ => none

/-- A repetition that took `used` characters, and one more if a `?` makes it lazy. -/
def readLaziness (text : List Char) (operator : Bool → Token) (used : Nat) : Reading Token :=
  if (text.drop used).head? = some '?' then .ok (operator true, used + 1)
  else .ok (operator false, used)


-- ---------------------------------------------------------------------------
-- One token
-- ---------------------------------------------------------------------------

/-- Reads the literal text between `\Q` and `\E`, or to the end. -/
def readQuoted (used : Nat) : List Char → List Char × Nat
  | [] => ([], used)
  | '\\' :: 'E' :: _ => ([], used + 2)
  | c :: rest =>
    let (text, used) := readQuoted (used + 1) rest
    (c :: text, used)

def readBackslash (text : List Char) : Reading Token :=
  match text with
  | '\\' :: 'b' :: _ => .ok (.assertion .wordEdge, 2)
  | '\\' :: 'B' :: _ => .ok (.assertion .notWordEdge, 2)
  | '\\' :: 'A' :: _ => .ok (.assertion .textStart, 2)
  | '\\' :: 'z' :: _ => .ok (.assertion .textEnd, 2)
  | '\\' :: 'C' :: _ => .ok (.anyByte, 2)
  | '\\' :: 'Q' :: rest =>
    let (quoted, used) := readQuoted 2 rest
    .ok (.quoted quoted, used)
  | '\\' :: c :: _ =>
    if c = 'p' || c = 'P' then (readProperty text).map fun r => (.item r.1, r.2)
    else match letterClass? c with
      | some item => .ok (.item item, 2)
      | none => (readEscape text).map fun r => (.literal r.1, r.2)
  | _ => .error .trailingBackslash

/-- Reads the first token of a text that is not empty. -/
def readToken (text : List Char) : Reading Token :=
  match text with
  | [] => .error .trailingBackslash
  | c :: _ =>
    match c with
    | '(' => readGroup text
    | '|' => .ok (.bar, 1)
    | ')' => .ok (.close, 1)
    | '^' => .ok (.caret, 1)
    | '$' => .ok (.dollar, 1)
    | '.' => .ok (.dot, 1)
    | '[' => readClass text
    | '*' => readLaziness text (.loop .star) 1
    | '+' => readLaziness text (.loop .plus) 1
    | '?' => readLaziness text (.loop .option) 1
    | '\x7b' =>
      match readCounts? text with
      | some (min, max, used) => readLaziness text (.repeatOf min max) used
      | none => .ok (.literal c.toNat, 1)
    | '\\' => readBackslash text
    | c => .ok (.literal c.toNat, 1)

end FileSearch.Regex
