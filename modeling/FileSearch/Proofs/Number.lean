import FileSearch.Number
import Mathlib.Data.Nat.Log
import Mathlib.Data.Rat.Lemmas
import Mathlib.Tactic.NormNum

/-!
# Exact numbers

A natural number of at most 53 bits is rounded to itself: it needs no bits below the last one kept. A
longer one may be rounded, but never to one of at most 53 bits, so a comparison with a limit of so
many bits comes out as for the exact number.
-/

namespace FileSearch.Number

@[simp] theorem toInt?_natCast (n : Nat) : (real n).toInt? = some (n : Int) := by
  simp [toInt?]

theorem roundHalfEven_one (n : Nat) : roundHalfEven n 1 = n := by
  simp [roundHalfEven, Nat.mod_one]

theorem binaryExponent_one {n : Nat} (h : n ≠ 0) : binaryExponent n 1 = n.log2 := by
  have hone : Nat.log2 1 = 0 := rfl
  simp [binaryExponent, hone, Nat.log2_self_le h]

/-- Scaled up and down again. -/
theorem scale_neg {k : Nat} (hk : k ≠ 0) (n : Nat) : scale (n * Nat.pow 2 k) (-k) = n := by
  have hnegative : ¬ (0 : Int) ≤ -(k : Int) := by omega
  rw [scale, if_neg hnegative, Int.neg_neg, Int.toNat_natCast, Rat.mkRat_eq_div]
  simp only [Nat.pow_eq]
  push_cast
  exact mul_div_cancel_right₀ _ (by simp)

theorem roundQuotient_one {n : Nat} (hn : n ≠ 0) (h : n < 2 ^ 53) : roundQuotient n 1 = n := by
  have hlog : n.log2 ≤ 52 := Nat.le_of_lt_succ ((Nat.log2_lt hn).mpr h)
  obtain ⟨k, hk⟩ : ∃ k : Nat, n.log2 + k = 52 := ⟨52 - n.log2, by omega⟩
  have hexponent : max (binaryExponent n 1 - 52) (-1074) = -(k : Int) := by
    rw [binaryExponent_one hn]
    omega
  simp only [roundQuotient, hexponent]
  by_cases hzero : k = 0
  · subst hzero
    simp [roundHalfEven_one, scale]
  · have hnegative : ¬ (0 : Int) ≤ -(k : Int) := by omega
    rw [if_neg hnegative, roundHalfEven_one, Int.neg_neg, Int.toNat_natCast, scale_neg hzero]

theorem ofNat_of_lt {n : Nat} (h : n < 2 ^ 53) : ofNat n = .real n := by
  by_cases hn : n = 0
  · subst hn
    rfl
  · have hsmall : ¬ overflow ≤ (n : Rat) := by
      -- with a name for the exponent, nothing evaluates the power
      obtain ⟨k, hk⟩ : ∃ k, k = 1024 := ⟨_, rfl⟩
      have hlt : n < Nat.pow 2 k :=
        Nat.lt_of_lt_of_le h (Nat.pow_le_pow_right Nat.two_pos (by omega))
      rw [overflow, ← hk]
      exact not_le_of_gt (Nat.cast_lt.mpr hlt)
    have hnum : (n : Rat).num ≠ 0 := by simpa using hn
    rw [ofNat, ofRat, if_neg hnum]
    simp [roundQuotient_one hn h, hsmall]


-- ---------------------------------------------------------------------------
-- More than 53 bits
-- ---------------------------------------------------------------------------

theorem div_le_roundHalfEven (num den : Nat) : num / den ≤ roundHalfEven num den := by
  simp only [roundHalfEven]
  split_ifs <;> omega

/-- A number of 54 bits or more is rounded to a multiple of a power of two that is no shorter. -/
theorem exists_roundQuotient_one {n : Nat} (h : 2 ^ 53 ≤ n) :
    ∃ k : Nat, 2 ^ 53 ≤ k ∧ roundQuotient n 1 = k := by
  have hn : n ≠ 0 := by omega
  have hlog : 53 ≤ n.log2 := (Nat.le_log2 hn).mpr h
  obtain ⟨e, he⟩ : ∃ e : Nat, n.log2 = 52 + e := ⟨n.log2 - 52, by omega⟩
  have hexponent : max (binaryExponent n 1 - 52) (-1074) = (e : Int) := by
    rw [binaryExponent_one hn]
    omega
  have hkept : 2 ^ 52 ≤ roundHalfEven n (2 ^ e) := by
    refine le_trans ?_ (div_le_roundHalfEven n (2 ^ e))
    rw [Nat.le_div_iff_mul_le (Nat.two_pow_pos e), ← Nat.pow_add, ← he]
    exact Nat.log2_self_le hn
  refine ⟨roundHalfEven n (2 ^ e) * 2 ^ e, ?_, ?_⟩
  · calc 2 ^ 53 = 2 ^ 52 * 2 ^ 1 := rfl
      _ ≤ roundHalfEven n (2 ^ e) * 2 ^ e :=
        Nat.mul_le_mul hkept (Nat.pow_le_pow_right Nat.two_pos (by omega))
  · simp [roundQuotient, hexponent, scale]

theorem ofNat_of_le {n : Nat} (h : 2 ^ 53 ≤ n) :
    ofNat n = .infinite false ∨ ∃ k : Nat, 2 ^ 53 ≤ k ∧ ofNat n = .real k := by
  have hn : n ≠ 0 := by omega
  have hsign : ¬ (n : Int) < 0 := by omega
  obtain ⟨k, hk, hround⟩ := exists_roundQuotient_one h
  by_cases hlarge : overflow ≤ (k : Rat)
  · exact .inl (by simp [ofNat, ofRat, hn, hsign, hround, hlarge])
  · exact .inr ⟨k, hk, by simp [ofNat, ofRat, hn, hsign, hround, hlarge]⟩

/-- A limit of at most 53 bits is compared with a natural number as if this were not rounded. -/
theorem real_lt_ofNat_iff {limit n : Nat} (hlimit : limit < 2 ^ 53) :
    (real limit).lt (ofNat n) ↔ limit < n := by
  rcases Nat.lt_or_ge n (2 ^ 53) with h | h
  · rw [ofNat_of_lt h]
    simp [lt]
  · rcases ofNat_of_le h with hround | ⟨k, hk, hround⟩
    · rw [hround]
      simp only [lt, Bool.not_false, true_iff]
      omega
    · rw [hround]
      simp only [lt, decide_eq_true_eq, Nat.cast_lt]
      omega

end FileSearch.Number
