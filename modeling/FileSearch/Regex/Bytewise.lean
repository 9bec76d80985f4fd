import FileSearch.Regex.Encoding
import FileSearch.Regex.Search

/-!
# Searching byte by byte

To take a single byte of an encoded character, as `\C` does, a program is run on the characters of a
haystack in UTF-8. There every character above U+007F is two bytes long, and a set takes both. The
match is given in characters again: a character counts if at least one of its bytes is taken.
-/

namespace FileSearch.Regex


-- ---------------------------------------------------------------------------
-- Programs on encoded characters
-- ---------------------------------------------------------------------------

/-- An action that takes the bytes of an encoding and goes on at `next`. A block is added for every
byte after the first. -/
def takeEncoding (blocks : Array (List Action)) (next : Nat) :
    ByteRanges → Array (List Action) × List Action
  | [] => (blocks, [])
  | [r] => (blocks, [.take (.range r.1 r.2) next])
  | r :: rest =>
    let (blocks, actions) := takeEncoding blocks next rest
    let place := blocks.size
    (blocks.push actions, [.take (.range r.1 r.2) place])

/-- A block whose sets take encoded characters. -/
def encodeBlock (blocks : Array (List Action)) (actions : List Action) :
    Array (List Action) × List Action :=
  actions.foldr (fun action (blocks, rest) => match action with
    | .take set next =>
      set.encodings.foldr (fun ranges (blocks, rest) =>
        let (blocks, actions) := takeEncoding blocks next ranges
        (blocks, actions ++ rest)) (blocks, rest)
    | action => (blocks, action :: rest)) (blocks, [])

namespace Program

/-- The program on encoded characters; all blocks keep their numbers. -/
def encoded (p : Program) : Program :=
  (List.range p.blocks.size).foldl (fun p i =>
    let (blocks, actions) := encodeBlock p.blocks (p.block i)
    ⟨blocks.setIfInBounds i actions, p.entry⟩) p

end Program


-- ---------------------------------------------------------------------------
-- Places in encoded characters
-- ---------------------------------------------------------------------------

/-- Whether a byte goes on with a character that an earlier byte began. -/
def isContinuation (b : UInt8) : Bool := 0x80 ≤ b && b < 0xC0

/-- How many characters the bytes belong to. -/
def countCharacters (bytes : Bytes) : Nat :=
  bytes.countP (!isContinuation ·) + if bytes.head?.any isContinuation then 1 else 0

/-- The characters a stretch of encoded ones touches. One that begins inside a character starts with
the character after it. -/
def Span.inCharacters (encoded : Bytes) (s : Span) : Span :=
  let start := countCharacters (encoded.take s.start)
  ⟨start, start + countCharacters (s.text encoded)⟩

namespace Program

/-- Searches encoded characters. A match that is empty and inside a character is none: the search
goes on at the next character, of which there are at most as many as `tries`. -/
def searchEncoded (p : Program) (encoded : Bytes) : (tries : Nat) → (offset : Nat) → Option Span
  | 0, _ => none
  | tries + 1, offset =>
    match p.search encoded offset with
    | none => none
    | some s =>
      let inside := (encoded.drop s.start).takeWhile isContinuation
      if s.start = s.stop && !inside.isEmpty then
        p.searchEncoded encoded tries (s.start + inside.length)
      else some (s.inCharacters encoded)

/-- Searches the characters of a haystack by the bytes of their encoding; the program is one on
encoded characters. -/
def searchBytewise (p : Program) (haystack : Bytes) : Option Span :=
  let encoded := utf8 (String.ofList (byteView haystack))
  p.searchEncoded encoded (encoded.length + 1) 0

end Program

end FileSearch.Regex
