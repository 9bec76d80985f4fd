import FileSearch.Proofs.Arguments
import FileSearch.Proofs.Number
import FileSearch.Proofs.Text.Decimal

/-!
# Concurrency in digits

A concurrency given in digits is rounded before its range is checked. The check comes out as for the
exact number all the same: what is in range is not changed by rounding, and nothing beyond is rounded
into it. So an argument is accepted exactly if it is a number in range with blanks around it, and
then stands for that number (`Concurrency.checkArgument_exact`).
-/

namespace FileSearch.Concurrency

theorem eq_of_checkNumber {n m : Number} (h : checkNumber n = .ok m) : m = n := by
  unfold checkNumber at h
  grind

theorem checkNumber_natCast {n : Nat} (hpositive : 1 ≤ n) (hexact : n ≤ 2 ^ 53 - 1) :
    checkNumber (.real n) = .ok (.real n) := by
  have habove : ¬ maxExact < n := by
    unfold maxExact
    omega
  have hbelow : ¬ (n : Int) < -maxExact := by
    unfold maxExact
    omega
  have hone : ¬ (n : Int) < 1 := by omega
  rw [checkNumber, Number.toInt?_natCast]
  simp only [habove, hbelow, hone, if_false]

/-- A number is checked as if it were not rounded. -/
theorem checkNumber_ofNat {n : Nat} {m : Number} :
    checkNumber (.ofNat n) = .ok m ↔ 1 ≤ n ∧ n ≤ 2 ^ 53 - 1 ∧ m = .real n := by
  constructor
  · intro h
    obtain rfl := eq_of_checkNumber h
    obtain ⟨i, hi, hlow, hhigh⟩ := checkNumber_ok h
    unfold maxExact at hhigh
    rcases Nat.lt_or_ge n (2 ^ 53) with hn | hn
    · rw [Number.ofNat_of_lt hn, Number.toInt?_natCast] at hi
      obtain rfl : (n : Int) = i := Option.some.inj hi
      exact ⟨by omega, by omega, Number.ofNat_of_lt hn⟩
    · rcases Number.ofNat_of_le hn with hround | ⟨k, hk, hround⟩
      · rw [hround] at hi
        cases hi
      · rw [hround, Number.toInt?_natCast] at hi
        obtain rfl : (k : Int) = i := Option.some.inj hi
        omega
  · rintro ⟨hpositive, hexact, rfl⟩
    rw [Number.ofNat_of_lt (by omega)]
    exact checkNumber_natCast hpositive hexact

/-- Digits are what is left of an argument without its blanks, or it is refused. -/
theorem checkDigits_eq_ok_iff {argument : String} {m : Number} :
    checkDigits argument = .ok m ↔
      ∃ digits n, Text.IsPadded digits argument.toList ∧ Text.IsNumeral n digits ∧
        checkNumber (.ofNat n) = .ok m := by
  constructor
  · intro h
    simp only [checkDigits] at h
    split at h
    · cases h
    case isFalse hdigits =>
      simp only [Bool.or_eq_true, List.isEmpty_iff, Bool.not_eq_true', not_or,
        Bool.not_eq_false, List.all_eq_true] at hdigits
      exact ⟨_, _, Text.isPadded_trimChars _, ⟨hdigits.1, hdigits.2, rfl⟩,
        Text.digitsValue_eq _ ▸ h⟩
  · rintro ⟨digits, n, hpadded, hnumeral, hcheck⟩
    have hsome : digits.isEmpty = false := List.isEmpty_eq_false_iff.mpr hnumeral.ne_nil
    have hall : digits.all Char.isDigit = true := List.all_eq_true.mpr hnumeral.isDigit
    rw [checkDigits, hpadded.trimChars_eq hnumeral.not_blank]
    simpa [hsome, hall, hnumeral.digitsValue_eq] using hcheck

/-- An argument is accepted exactly if it is, but for blanks around it, a run of digits whose value
lies between 1 and `2 ^ 53 - 1`, and then it stands for that value. -/
theorem checkArgument_exact (argument : String) (m : Number) :
    checkArgument (.text argument) = .ok m ↔
      ∃ digits n, Text.IsPadded digits argument.toList ∧ Text.IsNumeral n digits ∧
        1 ≤ n ∧ n ≤ 2 ^ 53 - 1 ∧ m = .real n := by
  have hdigits : checkArgument (.text argument) = checkDigits argument := rfl
  simp only [hdigits, checkDigits_eq_ok_iff, checkNumber_ofNat]

end FileSearch.Concurrency
