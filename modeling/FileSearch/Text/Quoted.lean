import FileSearch.Text.Hex
import FileSearch.Text.Units

/-!
# Quoted text

A text as it is shown inside a message: between quotes that need no escape if there are such, with
control characters escaped, and cut short; or whole between double quotes.
-/

namespace FileSearch.Text

/-- Single quotes, or, if the text has one, double quotes or backquotes; with all three in the text
single quotes, which then are escaped. -/
def quoteFor (text : List Char) : Char :=
  if !text.contains '\'' then '\''
  else if !text.contains '"' then '"'
  else if !text.contains (Char.ofNat 0x60) && !(text.zip text.tail).contains ('$', '\x7b') then
    Char.ofNat 0x60
  else '\''

def isControl (c : Char) : Bool :=
  let n := c.toNat
  n ≤ 0x1F || (0x7F ≤ n && n ≤ 0x9F)

def escapeChar (quote c : Char) : List Char :=
  let n := c.toNat
  if c = '\\' then ['\\', '\\']
  else if c = '\'' && quote = '\'' then ['\\', '\'']
  else if n = 0x08 then ['\\', 'b']
  else if n = 0x09 then ['\\', 't']
  else if n = 0x0A then ['\\', 'n']
  else if n = 0x0C then ['\\', 'f']
  else if n = 0x0D then ['\\', 'r']
  else if isControl c then ['\\', 'x', upperHexDigit (n / 16), upperHexDigit n]
  else [c]

def quote (text : List Char) : List Char :=
  let mark := quoteFor text
  mark :: (text.flatMap (escapeChar mark) ++ [mark])

/-- The pieces of a text, each up to and with its line feed. -/
def linePieces : List Char → List (List Char)
  | [] => []
  | '\n' :: rest => ['\n'] :: linePieces rest
  | c :: rest =>
    match linePieces rest with
    | [] => [[c]]
    | piece :: more => (c :: piece) :: more

/-- Of a longer text each line is quoted by itself. -/
def maxSingleLine : Nat := 76

/-- No more of a text than this is looked at. -/
def maxQuoted : Nat := 10000

def maxShown : Nat := 128

/-- The quoted text, no longer than `maxShown` units. -/
def quoteShort (text : List Char) : List Char :=
  let text := takeUnits maxQuoted text
  let shown :=
    if unitCount text ≤ maxSingleLine then quote text
    else " +\n  ".toList.intercalate ((linePieces text).map quote)
  if unitCount shown ≤ maxShown then shown else takeUnits maxShown shown ++ "...".toList


-- ---------------------------------------------------------------------------
-- Double quotes
-- ---------------------------------------------------------------------------

/-- A character between double quotes. Only the quote, the backslash and the control characters
below the space need an escape. -/
def escapeInDoubleQuotes (c : Char) : List Char :=
  let n := c.toNat
  if c = '"' then ['\\', '"']
  else if c = '\\' then ['\\', '\\']
  else if n = 0x08 then ['\\', 'b']
  else if n = 0x09 then ['\\', 't']
  else if n = 0x0A then ['\\', 'n']
  else if n = 0x0C then ['\\', 'f']
  else if n = 0x0D then ['\\', 'r']
  else if n < 0x20 then ['\\', 'u', '0', '0', lowerHexDigit (n / 16), lowerHexDigit n]
  else [c]

/-- The text as a string literal with double quotes. -/
def doubleQuote (text : String) : String :=
  String.ofList ('"' :: (text.toList.flatMap escapeInDoubleQuotes ++ ['"']))

end FileSearch.Text
