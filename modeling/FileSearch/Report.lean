import FileSearch.Lines.Reader
import FileSearch.Matcher

/-!
# Reports

What a scan of one file reports. There are four modes: line by line or over the whole content, and
for either the lines that match or, negated, the path of a file without any match.
-/

namespace FileSearch

inductive ScanMode where
  | byLine
  | byLineNegated
  | wholeFile
  | wholeFileNegated
  deriving DecidableEq, Repr

namespace ScanMode

def name : ScanMode → String
  | byLine => "by-line"
  | byLineNegated => "by-line-negated"
  | wholeFile => "whole-file"
  | wholeFileNegated => "whole-file-negated"

def of (multiline negate : Bool) : ScanMode :=
  match multiline, negate with
  | false, false => byLine
  | false, true => byLineNegated
  | true, false => wholeFile
  | true, true => wholeFileNegated

/-- Whether the mode reports the files without a match. -/
def negated : ScanMode → Bool
  | byLine | wholeFile => false
  | byLineNegated | wholeFileNegated => true

/-- Whether the mode reads a file line by line. -/
def readsLines : ScanMode → Bool
  | byLine | byLineNegated => true
  | wholeFile | wholeFileNegated => false

end ScanMode

/-- Whether there is something to report of a file, and all of its report. -/
structure Report where
  matched : Bool
  block : Bytes
  deriving DecidableEq, Repr

namespace Report

def nothing : Report := { matched := false, block := [] }

def ofPath (path : String) : Report := { matched := true, block := utf8 path ++ [lineFeed] }

/-- A report line: path, line number and content. -/
def line (path : String) (number : Nat) (content : Bytes) : Bytes :=
  utf8 (path ++ ":" ++ toString number ++ ":") ++ content ++ [lineFeed]

end Report


-- ---------------------------------------------------------------------------
-- Line by line
-- ---------------------------------------------------------------------------

/-- A line matches as it stands, or without its line feed, where `$` can match. -/
def lineMatches (m : Matcher) (line : Bytes) : Bool :=
  m.test line ||
    (let content := stripLineFeed line
     content.length != line.length && m.test content)

namespace Report

/-- The report lines of the matching lines, numbered from `number` on. -/
def matchingLines (m : Matcher) (path : String) (number : Nat) : List Bytes → List Bytes
  | [] => []
  | l :: rest =>
    if lineMatches m l then
      line path number (stripLineEnding l) :: matchingLines m path (number + 1) rest
    else matchingLines m path (number + 1) rest

def byLine (m : Matcher) (path : String) (s : LineStream) : Except Thrown Report :=
  match s.failure with
  | some thrown => .error thrown
  | none =>
    match matchingLines m path 1 s.lines with
    | [] => .ok nothing
    | parts => .ok { matched := true, block := parts.flatten }

/-- Stops at the first matching line; an error after it is never met. -/
def byLineNegated (m : Matcher) (path : String) (s : LineStream) : Except Thrown Report :=
  if s.lines.any (lineMatches m) then .ok nothing
  else match s.failure with
    | some thrown => .error thrown
    | none => .ok (ofPath path)

/-- How many lines a scan takes. -/
def linesTaken (mode : ScanMode) (m : Matcher) (lines : List Bytes) : Nat :=
  match mode with
  | .byLineNegated =>
    match lines.findIdx? (lineMatches m) with
    | some i => i + 1
    | none => lines.length
  | _ => lines.length


-- ---------------------------------------------------------------------------
-- Over the whole content
-- ---------------------------------------------------------------------------

/-- The lines a match lies on: the first in full, then the match to its end. -/
def matchedLines (content : Bytes) (s : Regex.Span) : Bytes :=
  joinLines (lineAt content s.start :: (splitLines (s.text content)).drop 1)

def wholeFile (m : Matcher) (path : String) (content : Bytes) : Report :=
  match m.search content with
  | none => nothing
  | some s =>
    { matched := true
      block := line path (countLineFeeds content s.start + 1) (matchedLines content s) }

def wholeFileNegated (m : Matcher) (path : String) (content : Bytes) : Report :=
  if m.test content then nothing else ofPath path


-- ---------------------------------------------------------------------------
-- By mode
-- ---------------------------------------------------------------------------

/-- The report of a file that is read line by line. -/
def ofLines (negated : Bool) (m : Matcher) (path : String) (s : LineStream) :
    Except Thrown Report :=
  if negated then byLineNegated m path s else byLine m path s

/-- The report of a file that is read as a whole. -/
def ofContent (negated : Bool) (m : Matcher) (path : String) (content : Bytes) : Report :=
  if negated then wholeFileNegated m path content else wholeFile m path content

end Report

end FileSearch
