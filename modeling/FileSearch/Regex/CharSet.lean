import FileSearch.Bytes

/-!
# Character sets

A set of code points is the ascending list of its ranges, with a gap between any two, so that equal
sets are equal lists. Folding closes a set under the case orbits that meet U+0000 to U+00FF: a
haystack holds no other characters, and the code points outside that range matter only as the
partners of a character inside it.
-/

namespace FileSearch.Regex

/-- The first and the last code point of each range. -/
abbrev Ranges := List (Nat × Nat)

/-- The largest code point. -/
def maxCodePoint : Nat := 0x10FFFF

structure CharSet where
  ranges : Ranges
  deriving DecidableEq, Repr

namespace CharSet

def contains (s : CharSet) (c : Nat) : Bool := s.ranges.any fun r => r.1 ≤ c && c ≤ r.2

def empty : CharSet := ⟨[]⟩

def full : CharSet := ⟨[(0, maxCodePoint)]⟩

/-- The code points from `low` to `high`, both included. -/
def range (low high : Nat) : CharSet := ⟨[(low, high)]⟩

def single (c : Nat) : CharSet := range c c

def isEmpty (s : CharSet) : Bool := s.ranges.isEmpty


-- ---------------------------------------------------------------------------
-- Operations
-- ---------------------------------------------------------------------------

/-- Puts a range in front of ranges that begin no earlier, joined with those it touches. -/
def joinFront (low high : Nat) : Ranges → Ranges
  | [] => [(low, high)]
  | (l, h) :: rest =>
    if l ≤ high + 1 then joinFront low (max high h) rest else (low, high) :: (l, h) :: rest

/-- Puts a range into others where its beginning belongs; `rest` deals with those behind it. -/
def place (a : Nat × Nat) (rest : Ranges → Ranges) : Ranges → Ranges
  | [] => a :: rest []
  | b :: t => if a.1 ≤ b.1 then a :: rest (b :: t) else b :: place a rest t

/-- The ranges of two sets in the order of their beginnings. -/
def interleave : Ranges → Ranges → Ranges
  | [] => id
  | a :: s => place a (interleave s)

def union (s t : CharSet) : CharSet :=
  ⟨(interleave s.ranges t.ranges).foldr (fun r rest => joinFront r.1 r.2 rest) []⟩

def unions (sets : List CharSet) : CharSet := sets.foldl union empty

/-- The gaps between ascending ranges, from `next` up to the largest code point. -/
def gapsFrom (next : Nat) : Ranges → Ranges
  | [] => if next ≤ maxCodePoint then [(next, maxCodePoint)] else []
  | (low, high) :: rest =>
    if next < low then (next, low - 1) :: gapsFrom (high + 1) rest
    else gapsFrom (high + 1) rest

def compl (s : CharSet) : CharSet := ⟨gapsFrom 0 s.ranges⟩

/-- The members of the first set that are not in the second. -/
def without (s t : CharSet) : CharSet := (s.compl.union t).compl

/-- Negates a set when asked to. -/
def negateIf (negated : Bool) (s : CharSet) : CharSet :=
  if negated then s.compl else s

/-- The members from `low` to `high`. -/
def between (low high : Nat) (s : CharSet) : CharSet :=
  ⟨(s.ranges.filter fun r => low ≤ r.2 && r.1 ≤ high).map fun r => (max low r.1, min high r.2)⟩

theorem contains_range {low high c : Nat} :
    (range low high).contains c = true ↔ low ≤ c ∧ c ≤ high := by
  simp [range, contains]

theorem contains_single {a c : Nat} : (single a).contains c = true ↔ a = c := by
  rw [single, contains_range]
  omega

end CharSet


-- ---------------------------------------------------------------------------
-- Case folding
-- ---------------------------------------------------------------------------

/-- The case orbits of more than two members, or with a member beyond U+00FF. -/
def irregularOrbits : List (List Nat) :=
  [[0x4B, 0x6B, 0x212A], [0x53, 0x73, 0x17F], [0xC5, 0xE5, 0x212B], [0xB5, 0x39C, 0x3BC],
    [0xDF, 0x1E9E], [0xFF, 0x178]]

def isUpperLatin (c : Nat) : Bool :=
  (0x41 ≤ c && c ≤ 0x5A) || (0xC0 ≤ c && c ≤ 0xDE && c != 0xD7)

def isLowerLatin (c : Nat) : Bool :=
  (0x61 ≤ c && c ≤ 0x7A) || (0xE0 ≤ c && c ≤ 0xFE && c != 0xF7)

/-- All code points that differ from `c` in case only, `c` among them. -/
def orbit (c : Nat) : List Nat :=
  match irregularOrbits.find? (·.contains c) with
  | some members => members
  | none =>
    if isUpperLatin c then [c, c + 0x20]
    else if isLowerLatin c then [c, c - 0x20]
    else [c]

/-- The code points with a case partner, of which one of the two is below U+0100. -/
def casedPoints : List Nat :=
  (List.range 0x100).filter (fun c => isUpperLatin c || isLowerLatin c) ++ irregularOrbits.flatten

namespace CharSet

def ofList (members : List Nat) : CharSet := unions (members.map single)

/-- The set with every case partner of its members. -/
def folded (s : CharSet) : CharSet :=
  s.union (ofList (casedPoints.filter fun c => (orbit c).any s.contains))

def foldIf (fold : Bool) (s : CharSet) : CharSet :=
  if fold then s.folded else s

end CharSet


-- ---------------------------------------------------------------------------
-- Named sets
-- ---------------------------------------------------------------------------

namespace CharSet

def digit : CharSet := range 0x30 0x39

def word : CharSet := ⟨[(0x30, 0x39), (0x41, 0x5A), (0x5F, 0x5F), (0x61, 0x7A)]⟩

/-- Tab, line feed, form feed, carriage return and space; the vertical tab is not among them. -/
def space : CharSet := ⟨[(0x09, 0x0A), (0x0C, 0x0D), (0x20, 0x20)]⟩

/-- The bracketed ASCII classes by name. Here `space` has the vertical tab too. -/
def named? (name : String) : Option CharSet :=
  match name with
  | "alnum" => some ⟨[(0x30, 0x39), (0x41, 0x5A), (0x61, 0x7A)]⟩
  | "alpha" => some ⟨[(0x41, 0x5A), (0x61, 0x7A)]⟩
  | "ascii" => some (range 0x00 0x7F)
  | "blank" => some ⟨[(0x09, 0x09), (0x20, 0x20)]⟩
  | "cntrl" => some ⟨[(0x00, 0x1F), (0x7F, 0x7F)]⟩
  | "digit" => some digit
  | "graph" => some (range 0x21 0x7E)
  | "lower" => some (range 0x61 0x7A)
  | "print" => some (range 0x20 0x7E)
  | "punct" => some ⟨[(0x21, 0x2F), (0x3A, 0x40), (0x5B, 0x60), (0x7B, 0x7E)]⟩
  | "space" => some ⟨[(0x09, 0x0D), (0x20, 0x20)]⟩
  | "upper" => some (range 0x41 0x5A)
  | "word" => some word
  | "xdigit" => some ⟨[(0x30, 0x39), (0x41, 0x46), (0x61, 0x66)]⟩
  | _ => none

end CharSet

end FileSearch.Regex
