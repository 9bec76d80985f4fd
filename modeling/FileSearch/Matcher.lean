import FileSearch.Failure
import FileSearch.Regex.Compile

/-!
# Matchers

A matcher decides for a run of bytes whether and where the pattern occurs in it. The strategies know
no more of it than this structure. `Matcher.compile` builds one from a pattern: the UTF-8 bytes of
the pattern and the bytes of the haystack are read as characters one to one, so every offset is a
byte offset and every byte, part of valid text or not, is one character. Only `\C` looks inside such
a character, at the one or two bytes that encode it.
-/

namespace FileSearch

structure Matcher where
  source : String
  flags : String
  search : Bytes → Option Regex.Span
  test : Bytes → Bool

structure MatchOptions where
  caseInsensitive : Bool := false
  multiline : Bool := false
  deriving DecidableEq, Repr

/-- The letters of the options that are on: `ms` lets `.` match a line feed and `^` and `$` match at
every line. -/
def MatchOptions.flags (o : MatchOptions) : String :=
  (if o.caseInsensitive then "i" else "") ++ (if o.multiline then "ms" else "")

namespace Matcher

/-- What a pattern denotes under the given options. -/
def exprOf (pattern : String) (o : MatchOptions) : Except Regex.PatternError Regex.Expr :=
  Regex.Expr.ofPattern (byteView (utf8 pattern))
    { fold := o.caseInsensitive, dotAll := o.multiline } o.multiline

/-- The search for a pattern under the given options. -/
def searcher (pattern : String) (o : MatchOptions) :
    Except Regex.PatternError (Bytes → Option Regex.Span) :=
  (exprOf pattern o).bind Regex.Expr.searcher

def ofSearch (source flags : String) (search : Bytes → Option Regex.Span) : Matcher where
  source := source
  flags := flags
  search := search
  test := fun haystack => (search haystack).isSome

def refuse (pattern : String) (e : Regex.PatternError) : Failure where
  code := .invalidPattern
  message := "Invalid regular expression: " ++ pattern ++ " (" ++ e.message ++ ")"
  details := some [("searchPattern", .text pattern)]
  cause := some (.fault { kind := .pattern, message := e.message })

def compile (pattern : String) (o : MatchOptions) : Except Failure Matcher :=
  match searcher pattern o with
  | .error e => .error (refuse pattern e)
  | .ok search => .ok (ofSearch pattern o.flags search)

end Matcher

end FileSearch
