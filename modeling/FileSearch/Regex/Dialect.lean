import FileSearch.Regex.Property

/-!
# The pattern dialect

Patterns come in a dialect that is wider than the grammar `Regex/Token` reads. `Dialect.normalize`
respells them: control escapes, `\u` escapes, a bare slash, named groups, and property names
are written out in the forms the grammar has. Everything else stays as it stands, so an error
message shows the respelled pattern.
-/

namespace FileSearch.Regex.Dialect

/-- A code point as an escape. -/
def codeEscape (c : Nat) : List Char :=
  ['\\', 'x', '\x7b'] ++ Text.upperHex c ++ ['\x7d']

/-- A set as it is written inside a class. -/
def writeSet (s : CharSet) : List Char :=
  s.ranges.flatMap fun r =>
    if r.1 = r.2 then codeEscape r.1 else codeEscape r.1 ++ '-' :: codeEscape r.2

/-- Drops the name of a property in front of its value, where a value follows. -/
def stripKey (keys : List String) (name : List Char) : List Char :=
  match keys.find? fun key => key.toList.isPrefixOf name && key.length < name.length with
  | some key => name.drop key.length
  | none => name

def categoryKeys : List String := ["General_Category=", "gc="]

def scriptKeys : List String := ["Script=", "sc="]

def extensionKeys : List String := ["Script_Extensions=", "scx="]

/-- The set of a name that has to be written out: a binary property, or a script with what it shares
with others. -/
def writtenOut? (name : List Char) : Option CharSet :=
  match Unicode.binary? (String.ofList name) with
  | some members => some members
  | none =>
    let script := stripKey extensionKeys name
    if script.length < name.length then Unicode.scriptExtensions? (String.ofList script) else none

/-- A property by its short name; a name of one letter takes no braces. -/
def writeProperty (sign : Char) (name : List Char) : List Char :=
  if name.length = 1 then '\\' :: sign :: name
  else '\\' :: sign :: '\x7b' :: (name ++ ['\x7d'])

/-- Respells a property. One that is written out becomes the class of its ranges, or those ranges
alone inside a class. -/
def respellProperty (sign : Char) (inClass : Bool) (braced : List Char) : List Char :=
  let name := stripKey categoryKeys braced
  match writtenOut? name with
  | some members =>
    if inClass then writeSet (members.negateIf (sign = 'P'))
    else if sign = 'P' then '[' :: '^' :: (writeSet members ++ [']'])
    else '[' :: (writeSet members ++ [']'])
  | none =>
    match categoryAliases.lookup (String.ofList name) with
    | some short => writeProperty sign short.toList
    | none => writeProperty sign (stripKey scriptKeys name)

/-- The text between `\p{` and the next closing brace, if there is one. -/
def bracedName? (rest : List Char) : Option (List Char) :=
  if rest.contains '\x7d' then some (rest.takeWhile (· != '\x7d')) else none

/-- Respells what starts at a backslash, given the characters after it: the new text and how many
of those characters it stands for. -/
def respellEscape (inClass : Bool) : List Char → List Char × Nat
  | [] => (['\\'], 0)
  | 'c' :: letter :: _ =>
    if 'A' ≤ letter && letter ≤ 'Z' then
      let code := letter.toNat - 64
      (['\\', 'x', Text.upperHexDigit (code / 16), Text.upperHexDigit code], 2)
    else (['\\', 'c'], 1)
  | 'u' :: '\x7b' :: _ => (['\\', 'x', '\x7b'], 2)
  | 'u' :: rest =>
    let digits := (rest.take 4).takeWhile Text.isHex
    if digits.isEmpty then (['\\', 'u'], 1)
    else (['\\', 'x', '\x7b'] ++ digits ++ ['\x7d'], 1 + digits.length)
  | sign :: '\x7b' :: rest =>
    if sign = 'p' || sign = 'P' then
      match bracedName? rest with
      | some name => (respellProperty sign inClass name, name.length + 3)
      | none => (['\\', sign], 1)
    else (['\\', sign], 1)
  | c :: _ => (['\\', c], 1)

/-- Whether `(?<` opens a named group rather than a look-behind. -/
def opensNamed : List Char → Bool
  | '?' :: '<' :: '=' :: _ => false
  | '?' :: '<' :: '!' :: _ => false
  | '?' :: '<' :: _ => true
  | _ => false

/-- Respells a pattern from left to right. The first `skip` characters are already dealt with;
`inClass` holds between an unescaped `[` and the next unescaped `]`. -/
def respell (skip : Nat) (inClass : Bool) : List Char → List Char
  | [] => []
  | c :: rest =>
    match skip with
    | skip + 1 => respell skip inClass rest
    | 0 =>
      match c with
      | '\\' =>
        let (text, used) := respellEscape inClass rest
        text ++ respell used inClass rest
      | '/' => '\\' :: '/' :: respell 0 inClass rest
      | '(' =>
        if opensNamed rest then "(?P<".toList ++ respell 2 inClass rest
        else '(' :: respell 0 inClass rest
      | '[' => '[' :: respell 0 true rest
      | ']' => ']' :: respell 0 false rest
      | c => c :: respell 0 inClass rest

/-- The pattern in the grammar's own forms. An empty pattern is the empty group; with `multiline`
the pattern starts by letting `^` and `$` match at every line. -/
def normalize (multiline : Bool) (pattern : List Char) : List Char :=
  if pattern.isEmpty then "(?:)".toList
  else (if multiline then "(?m)".toList else []) ++ respell 0 false pattern

end FileSearch.Regex.Dialect
