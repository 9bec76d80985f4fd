import FileSearch.Text.Blank
import Mathlib.Data.List.DropRight
import Mathlib.Data.List.TakeWhile

/-!
# Trimmed texts

Trimming takes the blanks off both ends of a text. A word that has no blanks is what is left of a
text exactly if the text is that word with blanks around it.
-/

namespace FileSearch.Text

theorem trimEnd_eq (text : List Char) : trimEnd text = text.rdropWhile isBlank := rfl

theorem trimStart_left {xs ys : List Char} (h : trimStart (xs ++ ys) = xs ++ ys) :
    trimStart xs = xs := by
  cases xs with
  | nil => rfl
  | cons c xs =>
    have hc : ¬ isBlank c := List.dropWhile_eq_self_iff.mp h (by simp)
    exact List.dropWhile_cons_of_neg hc

theorem trimChars_trimChars (text : List Char) : trimChars (trimChars text) = trimChars text := by
  have hstart : trimStart (trimChars text) = trimChars text := by
    obtain ⟨blanks, hblanks⟩ := List.rdropWhile_prefix isBlank (trimStart text)
    apply @trimStart_left _ blanks
    rw [trimChars, trimEnd_eq, hblanks]
    exact List.dropWhile_idempotent _ _
  rw [trimChars, hstart, trimChars, trimEnd_eq, trimEnd_eq]
  exact List.rdropWhile_idempotent _ _

theorem trimChars_subset (text : List Char) : trimChars text ⊆ text := by
  have hsublist := List.rdropWhile_prefix isBlank (trimStart text) |>.sublist
  exact (hsublist.trans (List.dropWhile_sublist isBlank)).subset


-- ---------------------------------------------------------------------------
-- Blanks around a word
-- ---------------------------------------------------------------------------

/-- A text is a word with nothing but blanks around it. -/
def IsPadded (word text : List Char) : Prop :=
  ∃ before after, text = before ++ word ++ after ∧ (∀ c ∈ before, isBlank c) ∧
    ∀ c ∈ after, isBlank c

theorem IsPadded.refl (word : List Char) : IsPadded word word :=
  ⟨[], [], by simp, by simp, by simp⟩

theorem isPadded_trimChars (text : List Char) : IsPadded (trimChars text) text := by
  refine ⟨text.takeWhile isBlank, (trimStart text).rtakeWhile isBlank, ?_, ?_, ?_⟩
  · rw [List.append_assoc, trimChars, trimEnd_eq, List.rdropWhile_append_rtakeWhile, trimStart,
      List.takeWhile_append_dropWhile]
  · exact fun c hc => List.mem_takeWhile_imp hc
  · exact fun c hc => List.mem_rtakeWhile_imp hc

theorem trimStart_append {before : List Char} (h : ∀ c ∈ before, isBlank c)
    (text : List Char) : trimStart (before ++ text) = trimStart text :=
  List.dropWhile_append_of_pos h

theorem trimEnd_append {after : List Char} (h : ∀ c ∈ after, isBlank c) (text : List Char) :
    trimEnd (text ++ after) = trimEnd text := by
  have hreverse : ∀ c ∈ after.reverse, isBlank c := fun c hc => h c (List.mem_reverse.mp hc)
  rw [trimEnd, List.reverse_append, List.dropWhile_append_of_pos hreverse, trimEnd]

theorem trimStart_of_head {text : List Char} (h : ∀ c ∈ text.head?, isBlank c = false) :
    trimStart text = text := by
  cases text with
  | nil => rfl
  | cons c rest => exact List.dropWhile_cons_of_neg (by simp [h c rfl])

theorem trimEnd_of_unblank {word : List Char} (h : ∀ c ∈ word, isBlank c = false) :
    trimEnd word = word := by
  have hreverse : trimStart word.reverse = word.reverse :=
    trimStart_of_head fun c hc => h c (List.mem_reverse.mp (List.mem_of_mem_head? hc))
  rw [trimEnd, ← trimStart, hreverse, List.reverse_reverse]

theorem IsPadded.trimChars_eq {word text : List Char} (h : IsPadded word text)
    (hword : ∀ c ∈ word, isBlank c = false) : trimChars text = word := by
  obtain ⟨before, after, rfl, hbefore, hafter⟩ := h
  rw [trimChars, List.append_assoc, trimStart_append hbefore]
  cases word with
  | nil =>
    have hnil : trimStart after = [] := List.dropWhile_eq_nil_iff.mpr hafter
    rw [List.nil_append, hnil]
    rfl
  | cons c rest =>
    have hstart : trimStart (c :: rest ++ after) = c :: rest ++ after :=
      trimStart_of_head fun d hd => by
        obtain rfl : c = d := by simpa using hd
        exact hword c List.mem_cons_self
    rw [hstart, trimEnd_append hafter, trimEnd_of_unblank hword]

/-- A word without blanks is what trimming leaves exactly if it has only blanks around it. -/
theorem trimChars_eq_iff {word text : List Char} (hword : ∀ c ∈ word, isBlank c = false) :
    trimChars text = word ↔ IsPadded word text :=
  ⟨fun h => h ▸ isPadded_trimChars text, fun h => h.trimChars_eq hword⟩

end FileSearch.Text
