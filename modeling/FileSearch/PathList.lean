import FileSearch.Log
import FileSearch.Text.Blank
import FileSearch.Text.Utf8

/-!
# Path lists

The paths to scan, one on a line. A line ends at a line feed, a carriage return or both together;
the text arrives in chunks cut anywhere, and each line is known as soon as its end has arrived.
Blanks around a path are no part of it, and blank lines are skipped.
-/

namespace FileSearch

/-- A line of the list: a path, or nothing but blanks. -/
inductive PathLine where
  | blank
  | path (path : String)
  deriving DecidableEq, Repr

namespace PathLine

def ofChars (line : List Char) : PathLine :=
  match Text.trimChars line with
  | [] => blank
  | name => path (String.ofList name)

def path? : PathLine → Option String
  | blank => none
  | path name => some name

def skipped : LogEntry :=
  { level := .debug, message := "Skipping blank path line", source := "scan-runner" }

/-- What is logged about a line. -/
def entries : PathLine → List LogEntry
  | blank => [skipped]
  | path _ => []

end PathLine

/-- The text read so far of a line that has not ended, and the bytes of a character that is not
complete. `afterReturn` holds if the last thing read was a carriage return: a line feed that comes
next belongs to it. -/
structure PathReader where
  held : Bytes := []
  line : List Char := []
  afterReturn : Bool := false
  deriving DecidableEq, Repr

namespace PathReader

/-- The lines that end in a text, and what follows the last end. -/
def cut : List Char → List (List Char) × List Char
  | [] => ([], [])
  | '\r' :: '\n' :: rest =>
    let (lines, last) := cut rest
    ([] :: lines, last)
  | c :: rest =>
    let (lines, last) := cut rest
    if c = '\n' || c = '\r' then ([] :: lines, last)
    else match lines with
      | [] => ([], c :: last)
      | line :: more => ((c :: line) :: more, last)

/-- Puts what was read before in front. -/
def prepend (line : List Char) : List (List Char) × List Char → List (List Char) × List Char
  | ([], last) => ([], line ++ last)
  | (first :: more, last) => ((line ++ first) :: more, last)

/-- Takes a chunk and gives the lines that end in it. What the chunk before it ended in is forgotten
with this one, even if it brings no text. -/
def feed (r : PathReader) (chunk : Bytes) : PathReader × List (List Char) :=
  let (ready, held) := Text.splitUnfinished (r.held ++ chunk)
  let decoded := Text.decodeChars ready
  let text := match decoded with
    | '\n' :: rest => if r.afterReturn then rest else decoded
    | _ => decoded
  let (lines, line) := prepend r.line (cut text)
  ({ held, line, afterReturn := decoded.getLast? = some '\r' }, lines)

/-- The last line, if it has no end. A character that was not completed is lost. -/
def finish (r : PathReader) : List (List Char) :=
  match r.line with
  | [] => []
  | line => [line]

def feedAll (r : PathReader) : List Bytes → List (List Char)
  | [] => r.finish
  | chunk :: rest =>
    let (r, lines) := r.feed chunk
    lines ++ r.feedAll rest

end PathReader

/-- The lines of a path list that arrives in chunks. -/
def readPathLines (chunks : List Bytes) : List PathLine :=
  (PathReader.feedAll {} chunks).map PathLine.ofChars

/-- The lines up to and with the path that completes a number of paths. -/
def takePaths (count : Nat) : List PathLine → List PathLine
  | [] => []
  | line :: rest =>
    match count, line with
    | 0, _ => []
    | count + 1, .path p => .path p :: (if count = 0 then [] else takePaths count rest)
    | count + 1, .blank => .blank :: takePaths (count + 1) rest

end FileSearch
