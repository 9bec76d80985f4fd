import FileSearch.Lines.Basic
import FileSearch.Failure

/-!
# Reading lines

A file arrives in chunks cut anywhere. Lines keep their line feed; the last one may lack it. What a
chunk leaves unfinished is carried over to the next. If reading fails, the unfinished line is
dropped.
-/

namespace FileSearch

/-- The lines of a stream as a consumer sees them one after the other, and the error that comes
instead of a next line once they are used up. -/
structure LineStream where
  lines : List Bytes
  failure : Option Thrown := none

namespace LineStream

/-- What a consumer has seen that stops after `count` lines: the error only if it came to it. -/
def take (s : LineStream) (count : Nat) : LineStream :=
  { lines := s.lines.take count, failure := if s.lines.length < count then s.failure else none }

end LineStream

/-- What a stream delivers at a time: bytes, or a value that stands for its text. -/
inductive Chunk where
  | bytes (b : Bytes)
  | value (v : Value)

namespace Chunk

def toBytes : Chunk → Except Fault Bytes
  | bytes b => .ok b
  | value v =>
    match v.text? with
    | some text => .ok (utf8 text)
    | none => .error Reason.noText

/-- The bytes of chunks up to the first that has none, with which reading fails. -/
def allBytes (failure : Option Thrown) : List Chunk → List Bytes × Option Thrown
  | [] => ([], failure)
  | chunk :: rest =>
    match chunk.toBytes with
    | .ok b =>
      let (more, failure) := allBytes failure rest
      (b :: more, failure)
    | .error fault => ([], some (.fault fault))

end Chunk

/-- The beginning of a line whose end has not arrived. -/
structure LineReader where
  carry : Bytes := []
  deriving DecidableEq, Repr

namespace LineReader

/-- Puts the line feed back on all pieces but the last, which is the new carry. -/
def close (r : LineReader) : List Bytes → LineReader × List Bytes
  | [] => (r, [])
  | [last] => ({ carry := r.carry ++ last }, [])
  | first :: rest =>
    let (r', lines) := ({ carry := [] } : LineReader).close rest
    (r', (r.carry ++ (first ++ [lineFeed])) :: lines)

/-- Takes a chunk and gives the lines it completes. -/
def feed (r : LineReader) (chunk : Bytes) : LineReader × List Bytes :=
  r.close (splitLines chunk)

/-- The last line, if it had no line feed. -/
def finish (r : LineReader) : List Bytes :=
  if r.carry.isEmpty then [] else [r.carry]

def feedAll (r : LineReader) : List Bytes → LineReader × List Bytes
  | [] => (r, [])
  | chunk :: rest =>
    let (r, lines) := r.feed chunk
    let (r, more) := r.feedAll rest
    (r, lines ++ more)

end LineReader

/-- The lines of a stream of chunks that ends, or fails, after the last of them. -/
def readLines (chunks : List Bytes) (failure : Option Thrown) : LineStream :=
  let (reader, lines) := LineReader.feedAll {} chunks
  match failure with
  | none => { lines := lines ++ reader.finish }
  | some thrown => { lines, failure := some thrown }

/-- Cuts bytes into chunks of a size; the last may be shorter. -/
def chunksOf (size : Nat) (bytes : Bytes) : List Bytes :=
  if _ : size = 0 ∨ bytes.length ≤ size then (if bytes.isEmpty then [] else [bytes])
  else bytes.take size :: chunksOf size (bytes.drop size)
termination_by bytes.length
decreasing_by
  simp only [List.length_drop]
  omega

end FileSearch
