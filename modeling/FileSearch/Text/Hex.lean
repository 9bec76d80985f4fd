/-!
# Hexadecimal digits

Digits are read in either case and written in the case that is asked for.
-/

namespace FileSearch.Text

def hexValue? (c : Char) : Option Nat :=
  if c.isDigit then some (c.toNat - '0'.toNat)
  else if 'a' ≤ c && c ≤ 'f' then some (c.toNat - 'a'.toNat + 10)
  else if 'A' ≤ c && c ≤ 'F' then some (c.toNat - 'A'.toNat + 10)
  else none

def isHex (c : Char) : Bool := (hexValue? c).isSome

/-- The last digit of a number, `0` to `9` and `a` to `f`. -/
def lowerHexDigit (n : Nat) : Char := Nat.digitChar (n % 16)

def upperHexDigit (n : Nat) : Char := (lowerHexDigit n).toUpper

/-- The number that digits write; anything that is no digit is passed over. -/
def hexNumber (digits : List Char) : Nat :=
  (digits.filterMap hexValue?).foldl (fun n d => n * 16 + d) 0

/-- A number in capital digits, without leading zeros. -/
def upperHex (n : Nat) : List Char := (Nat.toDigits 16 n).map Char.toUpper

end FileSearch.Text
