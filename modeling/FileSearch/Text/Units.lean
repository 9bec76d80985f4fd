/-!
# UTF-16 units

Where a length is limited or an order is fixed outside, characters count in UTF-16 units: one beyond
U+FFFF counts as two, a high and a low surrogate.
-/

namespace FileSearch.Text

def unitsOf (c : Char) : List Nat :=
  let n := c.toNat
  if n ≤ 0xFFFF then [n]
  else [0xD800 + (n - 0x10000) / 0x400, 0xDC00 + (n - 0x10000) % 0x400]

def units (text : List Char) : List Nat := text.flatMap unitsOf

def unitCount (text : List Char) : Nat := (units text).length

/-- As many leading characters as fit into so many units. -/
def takeUnits (count : Nat) : List Char → List Char
  | [] => []
  | c :: rest =>
    let width := (unitsOf c).length
    if width ≤ count then c :: takeUnits (count - width) rest else []

/-- Whether a text stands before or at another in the order of units. -/
def unitsLe (s t : String) : Bool := !decide (units t.toList < units s.toList)

end FileSearch.Text
