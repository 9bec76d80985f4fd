import FileSearch.Matcher
import FileSearch.Proofs.Regex.CharSet
import FileSearch.Proofs.Regex.Letters
import FileSearch.Proofs.Text.Decimal

/-!
# Searching for literal patterns

The bytes of a pattern without operators are looked for as they are, or up to the case of the letters
of Latin-1. What is found is the first place where they occur (`Matcher.search_literal`).
-/

namespace FileSearch

open Regex (CharSet Expr Settings orbit)


-- ---------------------------------------------------------------------------
-- Bytes that differ in case
-- ---------------------------------------------------------------------------

/-- The other case of a byte: of the letters of ASCII, and of those from 0xC0 to 0xFE among which
0xD7 and 0xF7 are none. -/
def swapCase (b : UInt8) : UInt8 :=
  if (0x41 ≤ b ∧ b ≤ 0x5A) ∨ (0xC0 ≤ b ∧ b ≤ 0xDE ∧ b ≠ 0xD7) then b + 0x20
  else if (0x61 ≤ b ∧ b ≤ 0x7A) ∨ (0xE0 ≤ b ∧ b ≤ 0xFE ∧ b ≠ 0xF7) then b - 0x20
  else b

/-- Whether a byte may stand for one of a pattern, with the case flag or without. -/
def SameLetter (fold : Bool) (a b : UInt8) : Prop := b = a ∨ fold ∧ b = swapCase a

instance (fold : Bool) : DecidableRel (SameLetter fold) :=
  fun a b => inferInstanceAs (Decidable (b = a ∨ fold ∧ b = swapCase a))

theorem forall₂_sameLetter_false {needle found : Bytes} :
    List.Forall₂ (SameLetter false) needle found ↔ needle = found := by
  have hsame : SameLetter false = fun a b => a = b := by
    funext a b
    simp [SameLetter, eq_comm]
  rw [hsame, List.forall₂_eq_eq_eq]

/-- The set a byte of a pattern stands for. -/
def byteSet (fold : Bool) (b : UInt8) : CharSet :=
  if fold then .ofList (orbit b.toNat) else .single b.toNat

theorem mem_orbit (a b : UInt8) : b.toNat ∈ orbit a.toNat ↔ b = a ∨ b = swapCase a := by
  have hbytes : ∀ n < 0x100, n ∈ orbit n ∧ (swapCase (.ofNat n)).toNat ∈ orbit n ∧
      ∀ k ∈ orbit n, k < 0x100 → k = n ∨ k = (swapCase (.ofNat n)).toNat := by
    decide +kernel
  obtain ⟨hself, hswap, hall⟩ := hbytes a.toNat a.toNat_lt
  rw [UInt8.ofNat_toNat] at hswap hall
  constructor
  · intro hb
    exact (hall _ hb b.toNat_lt).imp UInt8.toNat_inj.mp UInt8.toNat_inj.mp
  · rintro (rfl | rfl)
    · exact hself
    · exact hswap

/-- A set is written as a literal or stays a set. -/
theorem plain_ofSet {s : CharSet} (hempty : s.isEmpty = false) (hfull : s ≠ .full) (fold : Bool) :
    (Expr.ofSet fold s).Plain := by
  unfold Expr.ofSet
  split
  · split
    · exact .literal _ _
    · exact .set s hempty hfull
  · split
    · exact .literal _ _
    · exact .set s hempty hfull
  · exact .set s hempty hfull

/-- The set of an orbit holds a byte, and not all characters. -/
theorem proper_orbit (b : UInt8) :
    (CharSet.ofList (orbit b.toNat)).isEmpty = false ∧ CharSet.ofList (orbit b.toNat) ≠ .full := by
  have hself := CharSet.contains_ofList.mpr ((mem_orbit b b).mpr (.inl rfl))
  constructor
  · cases hranges : (CharSet.ofList (orbit b.toNat)).ranges with
    | nil => simp [CharSet.contains, hranges] at hself
    | cons => simp [CharSet.isEmpty, hranges]
  · intro hfull
    -- no character is a case partner of a byte and U+0200
    have hfar : ∀ n < 0x100, 0x200 ∉ orbit n := by decide +kernel
    refine hfar b.toNat b.toNat_lt (CharSet.contains_ofList.mp ?_)
    rw [hfull]
    decide

/-- A byte of a pattern is a literal or a set, of one place. -/
theorem plain_byte (fold : Bool) (b : UInt8) :
    (({ fold } : Settings).literal b.toNat).Plain := by
  unfold Settings.literal
  split
  · split
    · exact plain_ofSet (proper_orbit b).1 (proper_orbit b).2 true
    · exact .literal _ _
  · exact .literal _ _

theorem placeSets_byte (fold : Bool) (b : UInt8) :
    (({ fold } : Settings).literal b.toNat).placeSets = [byteSet fold b] := by
  cases fold with
  | true =>
    have hbytes : ∀ n < 0x100,
        (({ fold := true } : Settings).literal n).placeSets = [CharSet.ofList (orbit n)] := by
      decide +kernel
    exact hbytes b.toNat b.toNat_lt
  | false =>
    have hletter : ({ fold := false } : Settings).literal b.toNat = .literal [b.toNat] false := by
      unfold Settings.literal
      split <;> rfl
    rw [hletter]
    rfl

theorem contains_byteSet (fold : Bool) (a b : UInt8) :
    ((byteSet fold a).between 0 0xFF).contains b.toNat = true ↔ SameLetter fold a b := by
  have hb : b.toNat ≤ 0xFF := Nat.le_of_lt_succ b.toNat_lt
  rw [CharSet.contains_between, and_iff_right ⟨Nat.zero_le _, hb⟩, byteSet, SameLetter]
  cases fold with
  | true => simp [CharSet.contains_ofList, mem_orbit]
  | false => simpa [CharSet.contains_single, UInt8.toNat_inj] using eq_comm


-- ---------------------------------------------------------------------------
-- Occurrences
-- ---------------------------------------------------------------------------

/-- The bytes of a pattern occur in a haystack from an offset on. -/
def OccursAt (fold : Bool) (needle haystack : Bytes) (offset : Nat) : Prop :=
  List.Forall₂ (SameLetter fold) needle ((haystack.drop offset).take needle.length)

instance (fold : Bool) (needle haystack : Bytes) (offset : Nat) :
    Decidable (OccursAt fold needle haystack offset) :=
  inferInstanceAs (Decidable (List.Forall₂ _ _ _))

theorem occursAt_iff_takenAt (fold : Bool) (needle haystack : Bytes) (offset : Nat) :
    OccursAt fold needle haystack offset
      ↔ Regex.TakenAt ((needle.map (byteSet fold)).map (·.between 0 0xFF)) haystack offset := by
  simp only [OccursAt, Regex.takenAt_iff_forall₂, List.map_map, List.forall₂_map_left_iff,
    List.length_map, Function.comp_apply, contains_byteSet]

/-- A result is the first occurrence of the bytes of a pattern, or there is none. -/
structure FindsFirst (fold : Bool) (needle haystack : Bytes) (result : Option Regex.Span) :
    Prop where
  eq_none_iff : result = none ↔ ∀ offset, ¬ OccursAt fold needle haystack offset
  eq_some_iff : ∀ s, result = some s ↔
    IsLeast {offset | OccursAt fold needle haystack offset} s.start ∧
      s.stop = s.start + needle.length

namespace FindsFirst

variable {fold : Bool} {needle haystack : Bytes}

theorem of_least {start : Nat} (h : IsLeast {offset | OccursAt fold needle haystack offset} start) :
    FindsFirst fold needle haystack (some ⟨start, start + needle.length⟩) where
  eq_none_iff := iff_of_false (by simp) fun hnone => hnone start h.1
  eq_some_iff s := by
    constructor
    · rintro ⟨⟩
      exact ⟨h, rfl⟩
    · rintro ⟨hs, hstop⟩
      obtain ⟨start', stop⟩ := s
      obtain rfl : start' = start := hs.unique h
      rw [← hstop]

theorem of_none (h : ∀ offset, ¬ OccursAt fold needle haystack offset) :
    FindsFirst fold needle haystack none where
  eq_none_iff := iff_of_true rfl h
  eq_some_iff s := iff_of_false (by simp) fun hs => h s.start hs.1.1

theorem eq_some_of_least {result : Option Regex.Span} {start : Nat}
    (h : FindsFirst fold needle haystack result)
    (hleast : IsLeast {offset | OccursAt fold needle haystack offset} start) :
    result = some ⟨start, start + needle.length⟩ :=
  (h.eq_some_iff _).mpr ⟨hleast, rfl⟩

theorem isSome_iff {result : Option Regex.Span} (h : FindsFirst fold needle haystack result) :
    result.isSome ↔ ∃ offset, OccursAt fold needle haystack offset := by
  rw [← not_iff_not, Bool.not_eq_true, Option.isSome_eq_false_iff, Option.isNone_iff_eq_none,
    h.eq_none_iff, not_exists]

/-- The text found is that of the pattern, letter by letter. -/
theorem text {result : Option Regex.Span} (h : FindsFirst fold needle haystack result)
    {s : Regex.Span} (hs : result = some s) :
    List.Forall₂ (SameLetter fold) needle (s.text haystack) := by
  obtain ⟨⟨hoccurs, -⟩, hstop⟩ := (h.eq_some_iff s).mp hs
  rw [Regex.Span.text, hstop, Nat.add_sub_cancel_left]
  exact hoccurs

end FindsFirst


-- ---------------------------------------------------------------------------
-- Patterns without operators
-- ---------------------------------------------------------------------------

/-- A pattern holds no character that can mean something else than itself. -/
def IsLiteral (pattern : String) : Prop := ∀ c ∈ pattern.toList, c ∉ Regex.metacharacters

instance (pattern : String) : Decidable (IsLiteral pattern) :=
  List.decidableBAll (· ∉ Regex.metacharacters) pattern.toList

/-- The view of the bytes of a literal pattern is one too. -/
theorem IsLiteral.byteView {pattern : String} (h : IsLiteral pattern) :
    ∀ c ∈ byteView (utf8 pattern), c ∉ Regex.metacharacters := by
  intro c hc hmeta
  obtain ⟨b, hb, rfl⟩ := List.mem_map.mp hc
  have hascii : (Regex.metacharacters.all fun c => c.toNat < 0x80) = true := by decide
  have hlow := of_decide_eq_true (List.all_eq_true.mp hascii _ hmeta)
  rw [toNat_ofNat_byte] at hlow
  exact h _ (mem_of_mem_utf8 hlow hb) hmeta

theorem byteView_utf8_ne_nil {pattern : String} (hne : pattern ≠ "") :
    byteView (utf8 pattern) ≠ [] := by
  rw [ne_eq, byteView, List.map_eq_nil_iff, utf8, List.flatMap_eq_nil_iff]
  intro hnil
  obtain ⟨c, hc⟩ := List.exists_mem_of_ne_nil pattern.toList (by simpa using hne)
  exact String.utf8EncodeChar_ne_nil (hnil c hc)

/-- The letters of a literal pattern. -/
def literalExpr (fold : Bool) (pattern : String) : Expr := .letters fold (byteView (utf8 pattern))

/-- The search for bytes as they are, or up to case. -/
def literalSearch (fold : Bool) (needle haystack : Bytes) : Option Regex.Span :=
  (Regex.straight (needle.map (byteSet fold))).program.search haystack 0

theorem literalSearch_finds (fold : Bool) (needle haystack : Bytes) :
    FindsFirst fold needle haystack (literalSearch fold needle haystack) := by
  have hspells := Regex.spells_straight (needle.map (byteSet fold))
  rcases hspells.search haystack with ⟨start, hleast, hsearch⟩ | ⟨hnone, hsearch⟩
  · simp only [← occursAt_iff_takenAt] at hleast
    rw [literalSearch, hsearch]
    simpa using FindsFirst.of_least hleast
  · simp only [← occursAt_iff_takenAt] at hnone
    rw [literalSearch, hsearch]
    exact .of_none hnone

theorem searcher_literalExpr (fold : Bool) (pattern : String) :
    (literalExpr fold pattern).searcher =
      if (literalExpr fold pattern).isTooLarge then .error .tooLarge
      else .ok (literalSearch fold (utf8 pattern)) := by
  have hplain : ∀ c ∈ byteView (utf8 pattern), (({ fold } : Settings).literal c.toNat).Plain := by
    intro c hc
    obtain ⟨b, -, rfl⟩ := List.mem_map.mp hc
    rw [toNat_ofNat_byte]
    exact plain_byte fold b
  have hsets : ((byteView (utf8 pattern)).flatMap fun c =>
      (({ fold } : Settings).literal c.toNat).placeSets) = (utf8 pattern).map (byteSet fold) := by
    simp only [byteView, List.flatMap_map, toNat_ofNat_byte, placeSets_byte]
    exact List.map_eq_flatMap.symm
  rw [literalExpr, Regex.searcher_letters hplain, hsets]
  rfl

/-- A literal pattern is refused for its size alone, and otherwise its bytes are looked for; whether
lines matter makes no difference. -/
theorem Matcher.compile_literal {pattern : String} (hne : pattern ≠ "") (h : IsLiteral pattern)
    (o : MatchOptions) :
    Matcher.compile pattern o =
      if (literalExpr o.caseInsensitive pattern).isTooLarge then
        .error (Matcher.refuse pattern .tooLarge)
      else .ok (.ofSearch pattern o.flags (literalSearch o.caseInsensitive (utf8 pattern))) := by
  have hsearcher : Matcher.searcher pattern o
      = (literalExpr o.caseInsensitive pattern).searcher := by
    rw [Matcher.searcher, Matcher.exprOf,
      Regex.ofPattern_letters (byteView_utf8_ne_nil hne) h.byteView]
    rfl
  rw [Matcher.compile, hsearcher, searcher_literalExpr]
  split_ifs <;> rfl

/-- The search for a literal pattern finds the first place where its bytes occur in a haystack,
whatever the bytes of either: as they are, or up to case with the case flag. -/
theorem Matcher.search_literal {pattern : String} {o : MatchOptions} {m : Matcher}
    (hne : pattern ≠ "") (hliteral : IsLiteral pattern) (hm : Matcher.compile pattern o = .ok m)
    (haystack : Bytes) :
    FindsFirst o.caseInsensitive (utf8 pattern) haystack (m.search haystack) ∧
      m.test haystack = (m.search haystack).isSome ∧
      ∀ s, m.search haystack = some s →
        List.Forall₂ (SameLetter o.caseInsensitive) (utf8 pattern) (s.text haystack) ∧
          (o.caseInsensitive = false → s.text haystack = utf8 pattern) := by
  rw [Matcher.compile_literal hne hliteral] at hm
  split_ifs at hm
  cases hm
  have hfinds := literalSearch_finds o.caseInsensitive (utf8 pattern) haystack
  refine ⟨hfinds, rfl, fun s hs => ⟨hfinds.text hs, fun hfold => ?_⟩⟩
  have htext := hfinds.text hs
  rw [hfold, forall₂_sameLetter_false] at htext
  exact htext.symm

theorem Matcher.search_literal_letter_of_other_case :
    "é/" ≠ "" ∧ IsLiteral "é/" ∧
      ∃ m, Matcher.compile "é/" { caseInsensitive := true, multiline := true } = .ok m ∧
        m.search [0xFF, 0xE3, 0xA9, 0x2F, 0x0A] = some ⟨1, 4⟩ := by
  have hcompiled := (Matcher.compile_literal (show "é/" ≠ "" by decide) (by decide)
    { caseInsensitive := true, multiline := true }).trans (if_neg (by decide +kernel))
  refine ⟨by decide, by decide, _, hcompiled, ?_⟩
  have hfinds := Matcher.search_literal (by decide) (by decide) hcompiled
    [0xFF, 0xE3, 0xA9, 0x2F, 0x0A]
  refine (hfinds.1.eq_some_iff ⟨1, 4⟩).mpr ⟨⟨by decide +kernel, fun offset hoffset => ?_⟩, by decide⟩
  refine Nat.one_le_iff_ne_zero.mpr ?_
  rintro rfl
  exact absurd hoffset (by decide +kernel)

end FileSearch
