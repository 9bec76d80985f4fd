import FileSearch.Regex.CharSet
import Mathlib.Data.List.Basic

/-!
# Members of character sets

A union holds the members of both sets if the ranges of both begin in ascending order, which unions
keep. So a set made of a list of code points holds these and no others.
-/

namespace FileSearch.Regex.CharSet


-- ---------------------------------------------------------------------------
-- Ranges in order
-- ---------------------------------------------------------------------------

/-- The ranges stand in the order of their beginnings. -/
def Ascending (ranges : Ranges) : Prop := ranges.Pairwise fun a b => a.1 ≤ b.1

theorem contains_iff {s : CharSet} {c : Nat} :
    s.contains c = true ↔ ∃ r ∈ s.ranges, r.1 ≤ c ∧ c ≤ r.2 := by
  simp [contains]

theorem contains_cons {r : Nat × Nat} {rest : Ranges} {c : Nat} :
    (CharSet.mk (r :: rest)).contains c = true
      ↔ (r.1 ≤ c ∧ c ≤ r.2) ∨ (CharSet.mk rest).contains c = true := by
  simp [contains]

theorem interleave_eq_merge (s t : Ranges) :
    interleave s t = List.merge s t fun a b => decide (a.1 ≤ b.1) := by
  induction s generalizing t with
  | nil => simp [interleave]
  | cons a s ih =>
    induction t with
    | nil => simp [interleave, place, ih]
    | cons b t iht =>
      simp only [interleave] at iht
      simp [interleave, place, List.cons_merge_cons, ih, iht]

theorem interleave_perm (s t : Ranges) : (interleave s t).Perm (s ++ t) := by
  rw [interleave_eq_merge]
  exact List.merge_perm_append _

theorem ascending_interleave {s t : Ranges} (hs : Ascending s) (ht : Ascending t) :
    Ascending (interleave s t) := by
  have hmerge : (List.merge s t fun a b => decide (a.1 ≤ b.1)).Pairwise
      fun a b => decide (a.1 ≤ b.1) = true := by
    refine List.pairwise_merge ?_ ?_ s t (by simpa [Ascending] using hs)
      (by simpa [Ascending] using ht)
    · intro a b c hab hbc
      simp only [decide_eq_true_eq] at *
      omega
    · intro a b
      simp only [Bool.or_eq_true, decide_eq_true_eq]
      omega
  rw [interleave_eq_merge]
  simpa [Ascending] using hmerge


-- ---------------------------------------------------------------------------
-- Joined ranges
-- ---------------------------------------------------------------------------

variable {low high c : Nat} {rest : Ranges}

/-- A range joined with those it touches holds no more than they did. -/
theorem contains_joinFront (h : ∀ r ∈ rest, low ≤ r.1) :
    (CharSet.mk (joinFront low high rest)).contains c = true
      ↔ (low ≤ c ∧ c ≤ high) ∨ (CharSet.mk rest).contains c = true := by
  induction rest generalizing high with
  | nil => simp [joinFront, contains]
  | cons r rest ih =>
    rw [List.forall_mem_cons] at h
    simp only [joinFront]
    split
    next htouches =>
      -- the two leave no gap, for the second begins between the first and just behind it
      have hone : (low ≤ c ∧ c ≤ max high r.2)
          ↔ (low ≤ c ∧ c ≤ high) ∨ (r.1 ≤ c ∧ c ≤ r.2) := by
        have hlow := h.1
        omega
      rw [ih h.2, contains_cons, hone, or_assoc]
    next => rw [contains_cons]

theorem mem_joinFront {r : Nat × Nat} (h : r ∈ joinFront low high rest) :
    r.1 = low ∨ r ∈ rest := by
  induction rest generalizing high with
  | nil => exact .inl (by rw [List.mem_singleton.mp h])
  | cons first rest ih =>
    simp only [joinFront] at h
    split at h
    · exact (ih h).imp_right (List.mem_cons_of_mem _)
    · rcases List.mem_cons.mp h with rfl | h
      · exact .inl rfl
      · exact .inr h

theorem ascending_joinFront (h : ∀ r ∈ rest, low ≤ r.1) (hrest : Ascending rest) :
    Ascending (joinFront low high rest) := by
  induction rest generalizing high with
  | nil => exact List.pairwise_singleton ..
  | cons first rest ih =>
    simp only [joinFront]
    split
    · exact ih (fun r hr => h r (List.mem_cons_of_mem _ hr)) (List.Pairwise.of_cons hrest)
    · exact List.pairwise_cons.mpr ⟨h, hrest⟩

/-- What joining ranges one in front of the other comes to. -/
theorem joinAll {ranges : Ranges} (h : Ascending ranges) :
    let joined := ranges.foldr (fun r rest => joinFront r.1 r.2 rest) []
    Ascending joined ∧ (∀ r ∈ joined, ∃ r' ∈ ranges, r.1 = r'.1) ∧
      ∀ c, (CharSet.mk joined).contains c = (CharSet.mk ranges).contains c := by
  induction ranges with
  | nil => exact ⟨List.Pairwise.nil, by simp, fun _ => rfl⟩
  | cons first ranges ih =>
    obtain ⟨hfirst, hranges⟩ := List.pairwise_cons.mp h
    obtain ⟨hjoined, hbegin, hcontains⟩ := ih hranges
    have hlow : ∀ r ∈ ranges.foldr (fun r rest => joinFront r.1 r.2 rest) [], first.1 ≤ r.1 := by
      intro r hr
      obtain ⟨r', hr', heq⟩ := hbegin r hr
      exact heq ▸ hfirst r' hr'
    refine ⟨ascending_joinFront hlow hjoined, ?_, fun c => ?_⟩
    · intro r hr
      rcases mem_joinFront hr with heq | hr
      · exact ⟨first, List.mem_cons_self, heq⟩
      · obtain ⟨r', hr', heq⟩ := hbegin r hr
        exact ⟨r', List.mem_cons_of_mem _ hr', heq⟩
    · rw [Bool.eq_iff_iff, List.foldr_cons, contains_joinFront hlow, contains_cons, hcontains]


-- ---------------------------------------------------------------------------
-- Unions
-- ---------------------------------------------------------------------------

theorem ascending_union {s t : CharSet} (hs : Ascending s.ranges) (ht : Ascending t.ranges) :
    Ascending (s.union t).ranges :=
  (joinAll (ascending_interleave hs ht)).1

/-- A union holds the members of both sets. -/
theorem contains_union {s t : CharSet} (hs : Ascending s.ranges) (ht : Ascending t.ranges)
    (c : Nat) : (s.union t).contains c = (s.contains c || t.contains c) := by
  have hjoined := (joinAll (ascending_interleave hs ht)).2.2 c
  rw [union, hjoined, Bool.eq_iff_iff, Bool.or_eq_true]
  simp only [contains_iff, (interleave_perm s.ranges t.ranges).mem_iff, List.mem_append, or_and_right,
    exists_or]

theorem contains_foldl_union {sets : List CharSet} (hsets : ∀ t ∈ sets, Ascending t.ranges)
    {s : CharSet} (hs : Ascending s.ranges) (c : Nat) :
    (sets.foldl union s).contains c = (s.contains c || sets.any (·.contains c)) := by
  induction sets generalizing s with
  | nil => simp
  | cons t rest ih =>
    rw [List.forall_mem_cons] at hsets
    rw [List.foldl_cons, ih hsets.2 (ascending_union hs hsets.1), contains_union hs hsets.1,
      List.any_cons, Bool.or_assoc]

/-- A set made of a list of code points holds just these. -/
theorem contains_ofList {members : List Nat} {c : Nat} :
    (ofList members).contains c = true ↔ c ∈ members := by
  have hsingles : ∀ t ∈ members.map single, Ascending t.ranges := by
    intro t ht
    obtain ⟨a, -, rfl⟩ := List.mem_map.mp ht
    exact List.pairwise_singleton ..
  have hempty : Ascending empty.ranges := List.Pairwise.nil
  have hnone : empty.contains c = false := rfl
  rw [ofList, unions, contains_foldl_union hsingles hempty]
  simp [hnone, contains_single]

/-- Of the members of a set some are left, those from `low` to `high`. -/
theorem contains_between {s : CharSet} {low high c : Nat} :
    (s.between low high).contains c = true ↔ (low ≤ c ∧ c ≤ high) ∧ s.contains c = true := by
  simp only [contains_iff, between, List.mem_map, List.mem_filter, Bool.and_eq_true,
    decide_eq_true_eq]
  constructor
  · rintro ⟨_, ⟨r, ⟨hr, -⟩, rfl⟩, hlow, hhigh⟩
    simp only at hlow hhigh
    exact ⟨⟨by omega, by omega⟩, r, hr, by omega, by omega⟩
  · rintro ⟨⟨hlow, hhigh⟩, r, hr, hc⟩
    exact ⟨_, ⟨r, ⟨hr, by omega, by omega⟩, rfl⟩, by simp only; omega, by simp only; omega⟩

end FileSearch.Regex.CharSet
