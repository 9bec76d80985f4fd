/-!
# Numbers

A number is not-a-number, an infinity, or a rational that is a multiple of a power of two with at
most 53 significant bits. `ofRat` rounds any rational to the nearest of these; `text` writes the
fewest decimal digits that read back.
-/

namespace FileSearch

inductive Number where
  | nan
  | infinite (negative : Bool)
  | real (value : Rat)
  deriving DecidableEq

namespace Number


-- ---------------------------------------------------------------------------
-- Rounding
-- ---------------------------------------------------------------------------

/-- The natural number nearest to a quotient; of two equally near, the even one. -/
def roundHalfEven (num den : Nat) : Nat :=
  let q := num / den
  let r := num % den
  if 2 * r < den then q
  else if den < 2 * r then q + 1
  else q + q % 2

/-- The largest `e` with `2 ^ e ≤ num / den`, for positive `num` and `den`. -/
def binaryExponent (num den : Nat) : Int :=
  let e : Int := (num.log2 : Int) - (den.log2 : Int)
  let fits := if 0 ≤ e then den * Nat.pow 2 e.toNat ≤ num else den ≤ num * Nat.pow 2 (-e).toNat
  if fits then e else e - 1

/-- `m * 2 ^ e` as a rational. -/
def scale (m : Nat) (e : Int) : Rat :=
  if 0 ≤ e then ((m * Nat.pow 2 e.toNat : Nat) : Rat) else mkRat m (Nat.pow 2 (-e).toNat)

/-- Rounds a positive quotient to 53 significant bits, the last no lower than `2 ^ (-1074)`. -/
def roundQuotient (num den : Nat) : Rat :=
  let e := max (binaryExponent num den - 52) (-1074)
  let m :=
    if 0 ≤ e then roundHalfEven num (den * Nat.pow 2 e.toNat)
    else roundHalfEven (num * Nat.pow 2 (-e).toNat) den
  scale m e

/-- From here on a magnitude counts as infinite. -/
def overflow : Rat := (Nat.pow 2 1024 : Rat)

/-- The number nearest to a rational. -/
def ofRat (r : Rat) : Number :=
  if r.num = 0 then .real 0
  else
    let magnitude := roundQuotient r.num.natAbs r.den
    let negative := r.num < 0
    if overflow ≤ magnitude then .infinite negative
    else .real (if negative then -magnitude else magnitude)

def ofNat (n : Nat) : Number := ofRat (n : Rat)

/-- Whether the first number lies below the second; nothing lies below or above not-a-number. -/
def lt : Number → Number → Bool
  | nan, _ | _, nan => false
  | infinite a, infinite b => a && !b
  | infinite negative, real _ => negative
  | real _, infinite negative => !negative
  | real a, real b => a < b

/-- The integer a number is, if it is one. -/
def toInt? : Number → Option Int
  | real r => if r.den = 1 then some r.num else none
  | _ => none


-- ---------------------------------------------------------------------------
-- Shortest decimal digits
-- ---------------------------------------------------------------------------

/-- `10 ^ e` as a rational. -/
def powerOfTen (e : Int) : Rat :=
  if 0 ≤ e then (Nat.pow 10 e.toNat : Rat) else mkRat 1 (Nat.pow 10 (-e).toNat)

/-- The position of the first significant digit of a positive number `v`: `10 ^ (p - 1) ≤ v` and
`v < 10 ^ p`. -/
def firstDigit (v : Rat) : Int :=
  if 1 ≤ v then ((Nat.toDigits 10 v.floor.toNat).length : Int)
  else match (List.range 330).find? fun (k : Nat) => 1 ≤ v * powerOfTen (k + 1) with
    | some k => -(k : Int)
    | none => 0

/-- Digits as a natural number, and the power of ten they are multiplied by. -/
structure Decimal where
  digits : Nat
  exponent : Int
  deriving DecidableEq, Repr

namespace Decimal

def value (d : Decimal) : Rat := (d.digits : Rat) * powerOfTen d.exponent

/-- The digits without the zeros at their end. -/
def trim (d : Decimal) : Decimal :=
  let text := Nat.toDigits 10 d.digits
  let kept := text.reverse.dropWhile (· = '0')
  let zeros := text.length - kept.length
  ⟨d.digits / Nat.pow 10 zeros, d.exponent + zeros⟩

end Decimal

/-- The decimal of `count` digits nearest to `v` among those that read back as `v`. -/
def decimalOfLength? (v : Rat) (count : Nat) : Option Decimal :=
  let e := firstDigit v - count
  let low := (v / powerOfTen e).floor.toNat
  let below : Decimal := ⟨low, e⟩
  let above : Decimal := ⟨low + 1, e⟩
  let readsBack (d : Decimal) : Bool := ofRat d.value = .real v
  match readsBack below, readsBack above with
  | true, true => some (if above.value - v < v - below.value then above else below)
  | true, false => some below
  | false, true => some above
  | false, false => none

/-- The shortest decimal that reads back as the positive number `v`; seventeen digits suffice. -/
def shortest (v : Rat) : Decimal :=
  match (List.range 17).findSome? fun n => decimalOfLength? v (n + 1) with
  | some d => d.trim
  | none => ⟨v.floor.toNat, 0⟩


-- ---------------------------------------------------------------------------
-- Text
-- ---------------------------------------------------------------------------

/-- Writes digits with the point after `point` of them; from 10 ^ 21 on and below 10 ^ (-6) with an
exponent. -/
def writeDecimal (digits : List Char) (point : Int) : List Char :=
  let count : Int := digits.length
  if count ≤ point && point ≤ 21 then digits ++ List.replicate (point - count).toNat '0'
  else if 0 < point && point ≤ 21 then
    digits.take point.toNat ++ '.' :: digits.drop point.toNat
  else if -6 < point && point ≤ 0 then
    '0' :: '.' :: (List.replicate (-point).toNat '0' ++ digits)
  else
    let e := point - 1
    let exponent := 'e' :: (if 0 ≤ e then '+' else '-') :: Nat.toDigits 10 e.natAbs
    match digits with
    | [d] => d :: exponent
    | d :: rest => d :: '.' :: (rest ++ exponent)
    | [] => exponent

/-- The text of a positive real number. -/
def positiveText (v : Rat) : String :=
  let d := shortest v
  let digits := Nat.toDigits 10 d.digits
  String.ofList (writeDecimal digits (digits.length + d.exponent))

def text : Number → String
  | nan => "NaN"
  | infinite negative => if negative then "-Infinity" else "Infinity"
  | real v =>
    if v = 0 then "0"
    else if v < 0 then "-" ++ positiveText (-v)
    else positiveText v

end Number

end FileSearch
