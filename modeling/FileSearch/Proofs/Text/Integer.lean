import FileSearch.Proofs.Text.Decimal
import FileSearch.Settings

/-!
# Integers in a text

An integer is written in digits, with a sign or without. A number is read off the front of a text:
what follows its last digit makes no difference.
-/

namespace FileSearch

namespace Text

/-- A text is an integer in digits, with a sign or without. -/
inductive IsInteger : Int → List Char → Prop
  | unsigned {n : Nat} {digits : List Char} (h : IsNumeral n digits) : IsInteger n digits
  | plus {n : Nat} {digits : List Char} (h : IsNumeral n digits) : IsInteger n ('+' :: digits)
  | minus {n : Nat} {digits : List Char} (h : IsNumeral n digits) : IsInteger (-n) ('-' :: digits)

/-- A text begins with an integer, behind any blanks and with no digit more behind it. -/
def BeginsWith (n : Int) (text : List Char) : Prop :=
  ∃ blanks word rest, text = blanks ++ (word ++ rest) ∧ (∀ c ∈ blanks, isBlank c) ∧
    IsInteger n word ∧ ∀ c ∈ rest.head?, c.isDigit = false

theorem isDigit_of_isBlank {c : Char} (h : isBlank c) : c.isDigit = false := by
  by_contra hdigit
  rw [isBlank_of_isDigit (by simpa using hdigit)] at h
  cases h

/-- An integer with blanks around it begins the text. -/
theorem IsInteger.beginsWith {n : Int} {word text : List Char} (h : IsInteger n word)
    (hpadded : IsPadded word text) : BeginsWith n text := by
  obtain ⟨before, after, htext, hbefore, hafter⟩ := hpadded
  refine ⟨before, word, after, ?_, hbefore, h, fun c hc => ?_⟩
  · rw [htext, List.append_assoc]
  · exact isDigit_of_isBlank (hafter c (List.mem_of_mem_head? hc))

/-- An integer begins with a sign or a digit. -/
theorem IsInteger.exists_cons {n : Int} {word : List Char} (h : IsInteger n word) :
    ∃ c rest, word = c :: rest ∧ isBlank c = false := by
  cases h with
  | @unsigned n _ h =>
    obtain ⟨c, rest, rfl⟩ := List.exists_cons_of_ne_nil h.ne_nil
    exact ⟨c, rest, rfl, h.not_blank c List.mem_cons_self⟩
  | plus h => exact ⟨'+', _, rfl, by decide⟩
  | minus h => exact ⟨'-', _, rfl, by decide⟩

/-- An integer has no characters but digits and a sign. -/
theorem IsInteger.of_mem {n : Int} {word : List Char} (h : IsInteger n word) {c : Char}
    (hc : c ∈ word) : c.isDigit ∨ c = '+' ∨ c = '-' := by
  cases h with
  | unsigned h => exact .inl (h.isDigit c hc)
  | plus h =>
    rcases List.mem_cons.mp hc with rfl | hc
    · exact .inr (.inl rfl)
    · exact .inl (h.isDigit c hc)
  | minus h =>
    rcases List.mem_cons.mp hc with rfl | hc
    · exact .inr (.inr rfl)
    · exact .inl (h.isDigit c hc)

end Text


-- ---------------------------------------------------------------------------
-- Reading the front of a text
-- ---------------------------------------------------------------------------

namespace RuntimeSettings

open Text

/-- The number in the digits at the start of a text. -/
def leadingNat? (text : List Char) : Option Nat :=
  match text.takeWhile Char.isDigit with
  | [] => none
  | digits => some (digitsValue digits)

theorem leadingNat?_eq_some_iff {text : List Char} {n : Nat} :
    leadingNat? text = some n ↔ ∃ digits rest, text = digits ++ rest ∧ IsNumeral n digits ∧
      ∀ c ∈ rest.head?, c.isDigit = false := by
  constructor
  · intro h
    unfold leadingNat? at h
    split at h
    · cases h
    case h_2 digits hne =>
      refine ⟨text.takeWhile Char.isDigit, text.dropWhile Char.isDigit,
        List.takeWhile_append_dropWhile.symm, ⟨hne, fun c hc => List.mem_takeWhile_imp hc, ?_⟩,
        fun c hc => ?_⟩
      · rw [← digitsValue_eq]
        exact Option.some.inj h
      · have hstop := List.head?_dropWhile_not Char.isDigit text
        rwa [Option.mem_def.mp hc] at hstop
  · rintro ⟨digits, rest, rfl, hnumeral, hrest⟩
    have htake : (digits ++ rest).takeWhile Char.isDigit = digits := by
      rw [List.takeWhile_append_of_pos hnumeral.isDigit]
      cases rest with
      | nil => simp
      | cons c rest => simp [hrest c rfl]
    unfold leadingNat?
    rw [htake]
    split
    · exact absurd rfl hnumeral.ne_nil
    · rw [hnumeral.digitsValue_eq]

theorem leadingInt?_eq (raw : String) : leadingInt? raw =
    match trimStart raw.toList with
    | '-' :: rest => (leadingNat? rest).map fun (n : Nat) => -(n : Int)
    | '+' :: rest => (leadingNat? rest).map fun (n : Nat) => (n : Int)
    | rest => (leadingNat? rest).map fun (n : Nat) => (n : Int) := by
  unfold leadingInt? leadingNat?
  grind

/-- The number read from a text is the one it begins with. -/
theorem leadingInt?_eq_some_iff {raw : String} {n : Int} :
    leadingInt? raw = some n ↔ BeginsWith n raw.toList := by
  constructor
  · intro h
    have hbegins {rest : List Char} {m : Nat} (sign : List Char)
        (hstart : trimStart raw.toList = sign ++ rest) (hnat : leadingNat? rest = some m)
        (hinteger : ∀ digits, IsNumeral m digits → IsInteger n (sign ++ digits)) :
        BeginsWith n raw.toList := by
      obtain ⟨digits, behind, rfl, hnumeral, hbehind⟩ := leadingNat?_eq_some_iff.mp hnat
      refine ⟨raw.toList.takeWhile isBlank, sign ++ digits, behind, ?_,
        fun c hc => List.mem_takeWhile_imp hc, hinteger digits hnumeral, hbehind⟩
      rw [List.append_assoc, ← hstart, trimStart, List.takeWhile_append_dropWhile]
    rw [leadingInt?_eq] at h
    split at h
    case h_1 rest hstart =>
      obtain ⟨m, hnat, rfl⟩ := Option.map_eq_some_iff.mp h
      exact hbegins ['-'] hstart hnat fun digits => .minus
    case h_2 rest hstart =>
      obtain ⟨m, hnat, rfl⟩ := Option.map_eq_some_iff.mp h
      exact hbegins ['+'] hstart hnat fun digits => .plus
    case h_3 =>
      obtain ⟨m, hnat, rfl⟩ := Option.map_eq_some_iff.mp h
      exact hbegins [] rfl hnat fun digits => .unsigned
  · rintro ⟨blanks, word, rest, htext, hblanks, hword, hrest⟩
    have hstart : trimStart raw.toList = word ++ rest := by
      obtain ⟨c, more, rfl, hc⟩ := hword.exists_cons
      rw [htext, trimStart_append hblanks]
      exact trimStart_of_head fun d hd => by
        obtain rfl : c = d := by simpa using hd
        exact hc
    have hnat {m : Nat} {digits : List Char} (h : IsNumeral m digits) :
        leadingNat? (digits ++ rest) = some m :=
      leadingNat?_eq_some_iff.mpr ⟨digits, rest, rfl, h, hrest⟩
    rw [leadingInt?_eq, hstart]
    cases hword with
    | plus h => simp [hnat h]
    | minus h => simp [hnat h]
    | unsigned h =>
      obtain ⟨c, more, rfl⟩ := List.exists_cons_of_ne_nil h.ne_nil
      have hdigit := h.isDigit c List.mem_cons_self
      split
      case h_1 heq =>
        obtain rfl : c = '-' := (List.cons.inj heq).1
        cases hdigit
      case h_2 heq =>
        obtain rfl : c = '+' := (List.cons.inj heq).1
        cases hdigit
      case h_3 =>
        rw [hnat h]
        rfl

end RuntimeSettings

end FileSearch
