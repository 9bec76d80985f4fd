import FileSearch.Bytes
import FileSearch.Regex.Program

/-!
# Searching

A program is run from all starting places of a haystack at once, one byte after the other. The
threads are kept in order of preference: an earlier start first, and for one start in the order of
the program's blocks. At each place a block is entered once, by the most preferred thread that comes
to it, so a step costs no more than the size of the program.
-/

namespace FileSearch.Regex

/-- A stretch of a haystack, from its first byte to just past its last. -/
structure Span where
  start : Nat
  stop : Nat
  deriving DecidableEq, Repr

/-- The bytes of a span. -/
def Span.text (s : Span) (haystack : Bytes) : Bytes :=
  (haystack.drop s.start).take (s.stop - s.start)

/-- A block to go on with, and the place where the thread began. -/
structure Thread where
  block : Nat
  start : Nat
  deriving DecidableEq, Repr

/-- What an assertion can see of its place: the bytes on either side. -/
structure Place where
  before : Option UInt8
  after : Option UInt8

def isWordByte (b : UInt8) : Bool :=
  (0x30 ≤ b && b ≤ 0x39) || (0x41 ≤ b && b ≤ 0x5A) || b = 0x5F || (0x61 ≤ b && b ≤ 0x7A)

def Assertion.holds (p : Place) : Assertion → Bool
  | textStart => p.before.isNone
  | textEnd | dollar => p.after.isNone
  | lineStart => p.before.all (· = lineFeed)
  | lineEnd => p.after.all (· = lineFeed)
  | wordEdge => p.before.any isWordByte != p.after.any isWordByte
  | notWordEdge => p.before.any isWordByte == p.after.any isWordByte

/-- The blocks entered at a place, and what the threads that came there wait for, the least
preferred first: each an action that takes a byte or accepts, with the start of its thread. -/
structure Frontier where
  entered : Std.HashSet Nat := {}
  waiting : List (Action × Nat) := []

namespace Program

def block (p : Program) (i : Nat) : List Action := p.blocks[i]?.getD []

/-- How many actions the blocks have together. -/
def actionCount (p : Program) : Nat := p.blocks.foldl (fun n b => n + b.length) 0

/-- Carries out actions without taking a byte, the first one first. A block is entered once, so the
actions of all blocks, each with the `goto` it may become, and the given ones bound the steps. -/
def follow (p : Program) (place : Place) (start : Nat) :
    (fuel : Nat) → List Action → Frontier → Frontier
  | 0, _, f | _, [], f => f
  | fuel + 1, action :: rest, f =>
    match action with
    | .goto next =>
      if f.entered.contains next then p.follow place start fuel rest f
      else p.follow place start fuel (p.block next ++ rest)
        { f with entered := f.entered.insert next }
    | .require a next =>
      p.follow place start fuel (if a.holds place then .goto next :: rest else rest) f
    | action => p.follow place start fuel rest { f with waiting := (action, start) :: f.waiting }

/-- What the threads wait for at a place. -/
def frontier (p : Program) (fuel : Nat) (place : Place) (threads : List Thread) :
    List (Action × Nat) :=
  (threads.foldl (fun f t => p.follow place t.start fuel [.goto t.block] f) {}).waiting

end Program

/-- The threads after a byte, most preferred first, and the start of the match found at this place.
Threads less preferred than a match are dropped. -/
def advance (byte : Option UInt8) (waiting : List (Action × Nat)) : List Thread × Option Nat :=
  waiting.foldl (fun (threads, found) (action, start) =>
    match action with
    | .accept => ([], some start)
    | .take set next =>
      if byte.any (set.contains ·.toNat) then (⟨next, start⟩ :: threads, found)
      else (threads, found)
    | .takeByte next =>
      if byte.isSome then (⟨next, start⟩ :: threads, found) else (threads, found)
    | .require _ _ | .goto _ => (threads, found)) ([], none)

namespace Program

/-- Searches from position `pos` on. `best` is the match found so far; while there is none, a new
thread starts at each place. -/
def searchFrom (p : Program) (fuel : Nat) (before : Option UInt8) (pos : Nat) (best : Option Span)
    (threads : List Thread) (rest : Bytes) : Option Span :=
  let threads := if best.isNone then threads ++ [⟨p.entry, pos⟩] else threads
  if threads.isEmpty then best
  else
    let (threads, found) := advance rest.head? (p.frontier fuel ⟨before, rest.head?⟩ threads)
    let best := match found with
      | some start => some ⟨start, pos⟩
      | none => best
    match rest with
    | [] => best
    | b :: rest => searchFrom p fuel (some b) (pos + 1) best threads rest

/-- The leftmost match that begins at `offset` or later, and of those the most preferred. -/
def search (p : Program) (haystack : Bytes) (offset : Nat) : Option Span :=
  let before := if offset = 0 then none else haystack[offset - 1]?
  p.searchFrom (2 * p.actionCount + 2) before offset none [] (haystack.drop offset)

end Program

end FileSearch.Regex
