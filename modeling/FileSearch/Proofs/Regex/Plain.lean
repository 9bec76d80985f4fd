import FileSearch.Proofs.Regex.Straight
import FileSearch.Regex.Compile

/-!
# Sequences of letters and sets

Literals and sets have nothing in them to decide, to repeat or to require (`Expr.Plain`). None of the
steps on the way to a program changes a sequence of them, so it is refused for its size or searched
for as the sets of its places are (`Expr.searcher_sequence`).
-/

namespace FileSearch.Regex.Expr


-- ---------------------------------------------------------------------------
-- Letters and sets
-- ---------------------------------------------------------------------------

/-- An expression is a literal, or a set that holds something and leaves something out. -/
inductive Plain : Expr → Prop
  | literal (text : List Nat) (folded : Bool) : Plain (.literal text folded)
  | set (s : CharSet) (hempty : s.isEmpty = false) (hfull : s ≠ .full) : Plain (.set s)

/-- The set of every place a literal or a set has. -/
def placeSets : Expr → List CharSet
  | literal text folded => text.map (letterSet folded)
  | set s => [s]
  | _ => []

namespace Plain

variable {e : Expr}

theorem addUp (h : e.Plain) : e.addUp = e := by
  cases h <;> rfl

theorem unfold (h : e.Plain) : e.unfold = e := by
  cases h with
  | literal => rfl
  | set s hempty hfull => simp [Expr.unfold, hempty, hfull]

theorem layout (h : e.Plain) : e.layout = fun code => e.placeSets.foldr Layout.take code := by
  cases h with
  | literal text folded => simp [Expr.layout, placeSets, List.foldr_map]
  | set => rfl

theorem items (h : e.Plain) : e.items = [e] := by
  cases h <;> rfl

theorem repetition? (h : e.Plain) : e.repetition? = none := by
  cases h <;> rfl

theorem isNoMatch (h : e.Plain) : e.isNoMatch = false := by
  cases h <;> rfl

theorem mentionsAnyByte (h : e.Plain) : e.mentionsAnyByte = false := by
  cases h <;> rfl

theorem dropTextStart? (h : e.Plain) (depth : Nat) : e.dropTextStart? depth = none := by
  cases h <;> cases depth <;> rfl

theorem requiredStart? (h : e.Plain) : e.requiredStart? = none := by
  cases h <;> rfl

end Plain


-- ---------------------------------------------------------------------------
-- Lists of expressions
-- ---------------------------------------------------------------------------

theorem addUpAll_eq (done es : List Expr) : addUpAll done es = done.reverse ++ es.map addUp := by
  induction es generalizing done with
  | nil => simp [addUpAll]
  | cons e rest ih => simp [addUpAll, ih]

theorem unfoldAll_eq (done es : List Expr) : unfoldAll done es = done.reverse ++ es.map unfold := by
  induction es generalizing done with
  | nil => simp [unfoldAll]
  | cons e rest ih => simp [unfoldAll, ih]

theorem layoutAll_eq (done : List Layout) (es : List Expr) :
    layoutAll done es = (es.map layout).reverse ++ done := by
  induction es generalizing done with
  | nil => simp [layoutAll]
  | cons e rest ih => simp [layoutAll, ih]

theorem anyMentionsAnyByte_eq (es : List Expr) :
    anyMentionsAnyByte es = es.any mentionsAnyByte := by
  induction es with
  | nil => rfl
  | cons e rest ih => cases he : e.mentionsAnyByte <;> simp [anyMentionsAnyByte, ih, he]

/-- Nothing is added up where nothing is repeated. -/
theorem addUpItems_of_repetition? {es : List Expr} (h : ∀ e ∈ es, e.repetition? = none) :
    addUpItems es = es := by
  unfold addUpItems
  rw [if_neg]
  simp only [List.any_eq_true, not_exists, not_and]
  intro p hp
  simp [addUp?, h p.1 (List.of_mem_zip hp).1]


-- ---------------------------------------------------------------------------
-- Sequences
-- ---------------------------------------------------------------------------

section Sequence

variable {items : List Expr}

/-- What a sequence of letters and sets is, by their number. -/
theorem sequence_cases {motive : Expr → Prop} (h : ∀ e ∈ items, e.Plain)
    (empty : items = [] → motive .empty) (single : ∀ e, items = [e] → motive e)
    (cat : motive (.cat items)) : motive (sequence items) := by
  match items with
  | [] => exact empty rfl
  | [e] => exact single e rfl
  | e :: e' :: rest =>
    have hitems : (e :: e' :: rest).flatMap Expr.items = e :: e' :: rest := by
      rw [List.flatMap_congr fun e he => (h e he).items]
      simp
    rw [sequence, hitems]
    · exact cat
    · exact List.cons_ne_nil _ _
    · intro e'' heq
      cases heq

theorem addUp_sequence (h : ∀ e ∈ items, e.Plain) : (sequence items).addUp = sequence items := by
  refine sequence_cases (motive := fun e => e.addUp = e) h (fun _ => rfl) ?_ ?_
  · rintro e rfl
    exact (h e (List.mem_singleton_self e)).addUp
  · rw [addUp, addUpAll_eq, List.map_congr_left fun e he => (h e he).addUp]
    simp [addUpItems_of_repetition? fun e he => (h e he).repetition?]

theorem unfold_sequence (h : ∀ e ∈ items, e.Plain) : (sequence items).unfold = sequence items := by
  refine sequence_cases (motive := fun e => e.unfold = e) h (fun _ => rfl) ?_ ?_
  · rintro e rfl
    exact (h e (List.mem_singleton_self e)).unfold
  · rw [unfold, unfoldAll_eq, List.map_congr_left fun e he => (h e he).unfold, catOf, if_neg]
    · simp
    · simp +contextual [(h _ _).isNoMatch]

theorem code_sequence (h : ∀ e ∈ items, e.Plain) :
    (sequence items).code = straight (items.flatMap placeSets) := by
  have hlayout : (sequence items).layout
      = fun code => (items.flatMap placeSets).foldr Layout.take code := by
    refine sequence_cases (motive := fun e => e.layout = _) h ?_ ?_ ?_
    · rintro rfl
      rfl
    · rintro e rfl
      simpa using (h e (List.mem_singleton_self e)).layout
    · rw [layout, layoutAll_eq, List.map_congr_left fun e he => (h e he).layout]
      simp [List.foldr_flatMap, List.foldr_map]
  rw [code, hlayout]
  rfl

theorem dropTextStart?_sequence (h : ∀ e ∈ items, e.Plain) (depth : Nat) :
    (sequence items).dropTextStart? depth = none := by
  refine sequence_cases (motive := fun e => e.dropTextStart? depth = none) h ?_ ?_ ?_
  · intro _
    cases depth <;> rfl
  · rintro e rfl
    exact (h e (List.mem_singleton_self e)).dropTextStart? depth
  · cases depth with
    | zero => rfl
    | succ depth =>
      cases items with
      | nil => rfl
      | cons first rest => rw [dropTextStart?, (h first List.mem_cons_self).dropTextStart?]; rfl

theorem requiredStart?_sequence (h : ∀ e ∈ items, e.Plain) :
    (sequence items).requiredStart? = none := by
  refine sequence_cases (motive := fun e => e.requiredStart? = none) h (fun _ => rfl) ?_ ?_
  · rintro e rfl
    exact (h e (List.mem_singleton_self e)).requiredStart?
  · cases items with
    | nil => rfl
    | cons first rest => cases h first List.mem_cons_self <;> rfl

theorem mentionsAnyByte_sequence (h : ∀ e ∈ items, e.Plain) :
    (sequence items).mentionsAnyByte = false := by
  refine sequence_cases (motive := fun e => e.mentionsAnyByte = false) h (fun _ => rfl) ?_ ?_
  · rintro e rfl
    exact (h e (List.mem_singleton_self e)).mentionsAnyByte
  · rw [mentionsAnyByte, anyMentionsAnyByte_eq, List.any_eq_false]
    exact fun e he => by simp [(h e he).mentionsAnyByte]

/-- The search for letters and sets is that for the sets of their places, unless they are too
many. -/
theorem searcher_sequence (h : ∀ e ∈ items, e.Plain) :
    (sequence items).searcher = if (sequence items).isTooLarge then .error .tooLarge
      else .ok fun haystack => (straight (items.flatMap placeSets)).program.search haystack 0 := by
  unfold searcher compile program
  simp only [requiredStart?_sequence h, mentionsAnyByte_sequence h, addUp_sequence h,
    unfold_sequence h, dropTextStart?_sequence h, code_sequence h]
  cases (sequence items).isTooLarge <;> rfl

end Sequence

end FileSearch.Regex.Expr
