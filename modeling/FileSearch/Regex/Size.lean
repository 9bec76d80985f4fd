import FileSearch.Regex.Encoding
import FileSearch.Regex.Unfold

/-!
# The size of a program

How many instructions an expression comes to, found without unfolding it: an instruction takes one
byte, decides, or marks a border. A pattern is refused if its program would have more than
`maxInstructions`.
-/

namespace FileSearch.Regex

def maxInstructions : Nat := 698996

namespace CharSet


-- ---------------------------------------------------------------------------
-- Sets
-- ---------------------------------------------------------------------------

/-- The instructions for one sequence of byte ranges, and with them the endings there are now. An
ending that is there already is shared: the last byte, and a range of several bytes other than the
first. -/
def countEncoding (endings : List ByteRanges) (isFirst : Bool) : ByteRanges → Nat × List ByteRanges
  | [] => (0, endings)
  | r :: rest =>
    let (count, endings) := countEncoding endings false rest
    if !isFirst && (rest.isEmpty || r.1 < r.2) then
      if endings.contains (r :: rest) then (count, endings)
      else (count + 1, (r :: rest) :: endings)
    else (count + 1, endings)

/-- The number of ranges two sequences begin with in common. -/
def sharedRanges : ByteRanges → ByteRanges → Nat
  | a :: s, b :: t => if a = b then sharedRanges s t + 1 else 0
  | _, _ => 0

/-- The instructions for sequences in ascending order, each of which shares its beginning with the
sequence before it; every further one takes a decision. -/
def countEncodings (endings : List ByteRanges) (before : ByteRanges) : List ByteRanges → Nat
  | [] => 0
  | ranges :: rest =>
    let shared := sharedRanges before ranges
    let (count, endings) := countEncoding endings (shared = 0) (ranges.drop shared)
    (if before.isEmpty then count else count + 1) + countEncodings endings ranges rest

/-- Whether the set has both cases or neither of every ASCII letter. -/
def foldsAscii (s : CharSet) : Bool :=
  (List.range 26).all fun i => s.contains (0x41 + i) == s.contains (0x61 + i)

/-- The instructions for a set. If it has both cases of every letter, the ranges of capitals are
left to those of the small letters. -/
def size (s : CharSet) : Nat :=
  let written := if s.foldsAscii then s.ranges.filter fun r => !(0x41 ≤ r.1 && r.2 ≤ 0x5A)
    else s.ranges
  countEncodings [] [] (CharSet.mk written).encodings

end CharSet


-- ---------------------------------------------------------------------------
-- Expressions
-- ---------------------------------------------------------------------------

/-- The instructions for a repetition of a body of the given size. A loop around a body that may be
empty decides before the first round and after each. -/
def Counts.size (c : Counts) (bodySize : Nat) (nullable : Bool) : Nat :=
  match c.max with
  | none => if c.min = 0 then bodySize + (if nullable then 2 else 1) else c.min * bodySize + 1
  | some 0 => 1
  | some max => c.min * bodySize + (max - c.min) * (bodySize + 1)

namespace Expr

def encodedLength (c : Nat) : Nat :=
  if c < 0x80 then 1 else if c < 0x800 then 2 else if c < 0x10000 then 3 else 4

/-- Whether nothing is left of an expression once it is unfolded. -/
def vanishes : Expr → Bool
  | empty => true
  | loop _ _ body => body.vanishes
  | repeatOf _ max _ body => max = some 0 || body.vanishes
  | _ => false

mutual

def size : Expr → Nat
  | noMatch => 0
  | empty | anyByte | require _ => 1
  | literal text _ => text.foldl (fun n c => n + encodedLength c) 0
  | set s => s.size
  | anyChar => CharSet.full.size
  | cat items => sizeAll 0 items
  | alt branches => sizeAll (branches.length - 1) branches
  | group body => body.size + 2
  | loop kind _ body => if body.vanishes then 1 else kind.counts.size body.size body.nullable
  | repeatOf min max _ body =>
    if body.vanishes then 1
    else (effectiveCounts body ⟨min, max⟩).size body.size body.nullable

/-- The sizes of all expressions, added to `count`. -/
def sizeAll (count : Nat) : List Expr → Nat
  | [] => count
  | e :: rest => sizeAll (count + e.size) rest

end

/-- Besides its own instructions a program has one for a failed match, one for a match, and two with
which a search goes on to the next place. -/
def isTooLarge (e : Expr) : Bool := maxInstructions < e.size + 4

end Expr

end FileSearch.Regex
