import FileSearch.Bytes
import FileSearch.Proofs.Text.Trim

/-!
# Decimal numbers

A natural number is written in digits alone, which read back as the number. Its bytes are its
digits, one byte each, and the bytes of a text hold a line feed only where the text does.
-/

namespace FileSearch

namespace Text

theorem digitsValue_eq (digits : List Char) :
    digitsValue digits = Nat.ofDigitChars 10 digits 0 := by
  simp [digitsValue, Nat.ofDigitChars_eq_foldl, Nat.mul_comm]

theorem toList_toString (n : Nat) : (toString n).toList = Nat.toDigits 10 n := by
  rw [Nat.toString_eq_ofList_toDigits, String.toList_ofList]

theorem digitsValue_toString (n : Nat) : digitsValue (toString n).toList = n := by
  rw [digitsValue_eq, toList_toString]
  exact Nat.ofDigitChars_ten_toDigits

theorem toList_toString_ne_nil (n : Nat) : (toString n).toList ≠ [] := by
  rw [toList_toString]
  exact Nat.toDigits_ne_nil

theorem isDigit_of_mem_toString {n : Nat} {c : Char} (h : c ∈ (toString n).toList) :
    c.isDigit := by
  rw [toList_toString] at h
  exact Nat.isDigit_of_mem_toDigits (by decide) (by decide) h

/-- A digit is no blank. -/
theorem isBlank_of_isDigit {c : Char} (h : c.isDigit) : isBlank c = false := by
  obtain ⟨hlow, hhigh⟩ : 0x30 ≤ c.toNat ∧ c.toNat ≤ 0x39 := Char.isDigit_iff_toNat.mp h
  unfold isBlank
  grind

/-- A text is a natural number in digits, of which the first may be zeros. -/
structure IsNumeral (n : Nat) (digits : List Char) : Prop where
  ne_nil : digits ≠ []
  isDigit : ∀ c ∈ digits, c.isDigit
  value_eq : Nat.ofDigitChars 10 digits 0 = n

theorem isNumeral_toString (n : Nat) : IsNumeral n (toString n).toList where
  ne_nil := toList_toString_ne_nil n
  isDigit _ hc := isDigit_of_mem_toString hc
  value_eq := by rw [← digitsValue_eq, digitsValue_toString]

theorem IsNumeral.digitsValue_eq {n : Nat} {digits : List Char} (h : IsNumeral n digits) :
    digitsValue digits = n := by
  rw [Text.digitsValue_eq, h.value_eq]

theorem IsNumeral.not_blank {n : Nat} {digits : List Char} (h : IsNumeral n digits) :
    ∀ c ∈ digits, isBlank c = false :=
  fun c hc => isBlank_of_isDigit (h.isDigit c hc)

end Text


-- ---------------------------------------------------------------------------
-- Bytes of a text
-- ---------------------------------------------------------------------------

theorem toNat_ofNat_byte (b : UInt8) : (Char.ofNat b.toNat).toNat = b.toNat := by
  have hbytes : ∀ n < 0x100, (Char.ofNat n).toNat = n := by decide +kernel
  exact hbytes b.toNat b.toNat_lt

theorem utf8EncodeChar_of_lt {c : Char} (h : c.toNat < 0x80) :
    String.utf8EncodeChar c = [UInt8.ofNat c.toNat] :=
  if_pos (Nat.le_of_lt_succ h)

/-- Every byte of a character outside ASCII stands outside ASCII too. -/
theorem le_of_mem_utf8EncodeChar {c : Char} {b : UInt8} (hc : 0x80 ≤ c.toNat)
    (hb : b ∈ String.utf8EncodeChar c) : 0x80 ≤ b.toNat := by
  have hone : ¬ c.val.toNat ≤ 127 := Nat.not_le.mpr hc
  simp only [String.utf8EncodeChar, if_neg hone] at hb
  generalize c.val.toNat = n at hb hone
  -- the bytes of the value `m + k` for `k ≥ 0x80` and `m` small
  have hbyte (m k : Nat) (hk : 0x80 ≤ k) (hm : m + k < 0x100) :
      0x80 ≤ (UInt8.ofNat (m + k)).toNat := by
    rw [UInt8.toNat_ofNat', Nat.mod_eq_of_lt hm]
    omega
  split_ifs at hb <;> simp only [List.mem_cons, List.not_mem_nil, or_false] at hb
  · obtain rfl | rfl := hb <;> exact hbyte _ _ (by omega) (by omega)
  · obtain rfl | rfl | rfl := hb <;> exact hbyte _ _ (by omega) (by omega)
  · obtain rfl | rfl | rfl | rfl := hb <;> exact hbyte _ _ (by omega) (by omega)

/-- ASCII text is the view of its bytes. -/
theorem byteView_flatMap_utf8EncodeChar {text : List Char} (h : ∀ c ∈ text, c.toNat < 0x80) :
    byteView (text.flatMap String.utf8EncodeChar) = text := by
  induction text with
  | nil => rfl
  | cons c rest ih =>
    have hc := h c List.mem_cons_self
    have hview : Char.ofNat (UInt8.ofNat c.toNat).toNat = c := by
      rw [UInt8.toNat_ofNat', Nat.mod_eq_of_lt (by omega), Char.ofNat_toNat]
    rw [List.flatMap_cons, utf8EncodeChar_of_lt hc, List.singleton_append, byteView, List.map_cons,
      hview]
    exact congrArg _ (ih fun c hc => h c (List.mem_cons_of_mem _ hc))

/-- A byte of ASCII stands for the character of its value: no other character's bytes hold one. -/
theorem mem_of_mem_utf8 {text : String} {b : UInt8} (hb : b.toNat < 0x80) (h : b ∈ utf8 text) :
    Char.ofNat b.toNat ∈ text.toList := by
  obtain ⟨c, hc, hbyte⟩ := List.mem_flatMap.mp h
  rcases Nat.lt_or_ge c.toNat 0x80 with hlow | hhigh
  · rw [utf8EncodeChar_of_lt hlow, List.mem_singleton] at hbyte
    rwa [hbyte, UInt8.toNat_ofNat', Nat.mod_eq_of_lt (by omega), Char.ofNat_toNat]
  · exact absurd (le_of_mem_utf8EncodeChar hhigh hbyte) (by omega)

/-- A text without a line feed has no byte of that value. -/
theorem lineFeed_notMem_utf8 {text : String} (h : '\n' ∉ text.toList) :
    lineFeed ∉ utf8 text :=
  fun hmem => h (mem_of_mem_utf8 (by decide) hmem)

end FileSearch
