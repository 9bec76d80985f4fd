/-!
# Pattern errors

Why a pattern is refused, and the wording of each refusal. An error carries the part of the pattern
it is about.
-/

namespace FileSearch.Regex

inductive PatternError where
  | missingParen (pattern : List Char)
  | unexpectedParen (pattern : List Char)
  | missingBracket (fromBracket : List Char)
  | trailingBackslash
  | badEscape (escape : List Char)
  | badRange (range : List Char)
  | nothingToRepeat (operator : List Char)
  | stackedRepeat (operators : List Char)
  | badRepeatSize (operator : List Char)
  | badGroupOperator (opening : List Char)
  | badGroupName (opening : List Char)
  | duplicateGroupName
  | truncatedCharacter
  | tooLarge
  deriving DecidableEq, Repr

namespace PatternError

def reason : PatternError → String
  | missingParen _ => "missing )"
  | unexpectedParen _ => "unexpected )"
  | missingBracket _ => "missing ]"
  | trailingBackslash => "trailing \\"
  | badEscape _ => "invalid escape sequence"
  | badRange _ => "invalid character class range"
  | nothingToRepeat _ => "no argument for repetition operator"
  | stackedRepeat _ => "bad repetition operator"
  | badRepeatSize _ => "invalid repetition size"
  | badGroupOperator _ => "invalid perl operator"
  | badGroupName _ => "invalid named capture group"
  | duplicateGroupName => "duplicate capture group name"
  | truncatedCharacter => "invalid UTF-8"
  | tooLarge => "pattern too large - compile failed"

/-- The part of the pattern that is shown after the reason. -/
def excerpt : PatternError → List Char
  | missingParen text | unexpectedParen text | missingBracket text | badEscape text
  | badRange text | nothingToRepeat text | stackedRepeat text | badRepeatSize text
  | badGroupOperator text | badGroupName text => text
  | trailingBackslash | duplicateGroupName | truncatedCharacter | tooLarge => []

/-- The wording ends before the first NUL of the excerpt. -/
def message (e : PatternError) : String :=
  match e.excerpt with
  | [] => e.reason
  | shown => e.reason ++ ": " ++ String.ofList (shown.takeWhile (· != '\x00'))

end PatternError

end FileSearch.Regex
