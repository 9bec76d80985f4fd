import FileSearch.Regex.CharSet

/-!
# Encoded sets

A code point above U+007F is several bytes long in UTF-8. The encodings of a set are given as
sequences of byte ranges: a text of bytes encodes a member if it takes one byte from every range of
one of the sequences. The sequences are ascending, and no two have an encoding in common.
-/

namespace FileSearch.Regex

/-- A range for each byte of an encoding. -/
abbrev ByteRanges := List (Nat × Nat)

/-- The encodings of the numbers from `low` to `high`: a first byte, which is `lead` for the digit
zero, and `more` bytes after it, of six bits each. -/
def encodeNumbers (lead : Nat) : (more low high : Nat) → List ByteRanges
  | 0, low, high => [[(lead + low, lead + high)]]
  | more + 1, low, high =>
    let unit := 1 <<< (6 * (more + 1))
    let startingWith (digit low high : Nat) : List ByteRanges :=
      (encodeNumbers 0x80 more low high).map ((lead + digit, lead + digit) :: ·)
    let first := low / unit
    let last := high / unit
    if first = last then startingWith first (low % unit) (high % unit)
    else
      let begins := low % unit != 0
      let ends := high % unit + 1 != unit
      let whole := if begins then first + 1 else first
      let wholeEnd := if ends then last else last + 1
      (if begins then startingWith first (low % unit) (unit - 1) else [])
        ++ (if whole < wholeEnd then
            [(lead + whole, lead + wholeEnd - 1) :: List.replicate (more + 1) (0x80, 0xBF)]
          else [])
        ++ (if ends then startingWith last 0 (high % unit) else [])

/-- The encodings of the code points from `low` to `high`. If these are all code points from some
place in ASCII on, every beginning of a longer encoding may be followed by any other bytes. -/
def encodeRange (low high : Nat) : List ByteRanges :=
  let part (first last lead more : Nat) : List ByteRanges :=
    if low ≤ last && first ≤ high then encodeNumbers lead more (max low first) (min high last)
    else []
  part 0 0x7F 0 0 ++
    if low ≤ 0x80 && high = maxCodePoint then
      [[(0xC2, 0xDF), (0x80, 0xBF)], [(0xE0, 0xEF), (0x80, 0xBF), (0x80, 0xBF)],
        [(0xF0, 0xF4), (0x80, 0xBF), (0x80, 0xBF), (0x80, 0xBF)]]
    else part 0x80 0x7FF 0xC0 1 ++ part 0x800 0xFFFF 0xE0 2 ++ part 0x10000 maxCodePoint 0xF0 3

namespace CharSet

def encodings (s : CharSet) : List ByteRanges := s.ranges.flatMap fun r => encodeRange r.1 r.2

end CharSet

end FileSearch.Regex
