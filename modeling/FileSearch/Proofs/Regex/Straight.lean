import FileSearch.Proofs.Regex.Search
import FileSearch.Regex.Code

/-!
# Code without forks

Nothing is come to from the beginning of a block of such code but that beginning, so every instruction
that another names is a block of its own, and holds one action (`Code.program_block`). Sets laid out
one in front of the other are such code: their program takes one after the other (`spells_straight`).
-/

namespace FileSearch.Regex

namespace Code


-- ---------------------------------------------------------------------------
-- Blocks
-- ---------------------------------------------------------------------------

/-- No instruction is a fork. -/
def ForkFree (c : Code) : Prop :=
  ∀ (i first second : Nat), c.insts[i]? ≠ some (.fork first second)

variable {c : Code}

theorem region_of_forkFree (h : c.ForkFree) (starts : Std.HashSet Nat) (i : Nat) :
    c.region starts i = ([i], ({} : Std.HashSet Nat).insert i) := by
  have hreach : ∀ stops seen found fuel,
      reach c.insts stops seen found fuel [] = (found, seen) := by
    intro stops seen found fuel
    cases fuel <;> rfl
  unfold region reach
  rw [if_neg (by simp)]
  split
  · exact absurd ‹_› (h i _ _)
  · exact hreach ..

/-- What an instruction puts into a set stays there. -/
theorem mem_foldl_insts {add : Std.HashSet Nat → Inst → Std.HashSet Nat} {j : Nat}
    (hkeep : ∀ starts inst, j ∈ starts → j ∈ add starts inst)
    (hadd : ∀ starts inst, inst.next? = some j → j ∈ add starts inst)
    (insts : List Inst) (starts : Std.HashSet Nat)
    (h : j ∈ starts ∨ ∃ inst ∈ insts, inst.next? = some j) : j ∈ insts.foldl add starts := by
  induction insts generalizing starts with
  | nil => simpa using h
  | cons inst rest ih =>
    refine ih _ ?_
    simp only [List.mem_cons, exists_eq_or_imp] at h
    rcases h with hin | hnext | hrest
    · exact .inl (hkeep starts inst hin)
    · exact .inl (hadd starts inst hnext)
    · exact .inr hrest

/-- The entry is one of the first beginnings, and so is what an instruction names. -/
theorem mem_firstStarts {j : Nat}
    (h : j = c.entry ∨ ∃ (i : Nat) (inst : Inst), c.insts[i]? = some inst ∧ inst.next? = some j) :
    j ∈ c.firstStarts := by
  unfold firstStarts
  rw [← Array.foldl_toList]
  refine mem_foldl_insts ?_ ?_ _ _ (h.imp ?_ ?_)
  · intro starts inst hin
    cases hnext : inst.next? with
    | none => simpa [hnext] using hin
    | some next => simp [hin]
  · intro starts inst hnext
    simp [hnext]
  · rintro rfl
    simp
  · rintro ⟨i, inst, hinst, hnext⟩
    exact ⟨inst, List.mem_of_getElem? (Array.getElem?_toList.trans hinst), hnext⟩

/-- No other blocks begin in code without forks. -/
theorem starts_of_forkFree (h : c.ForkFree) : c.starts = c.firstStarts := by
  unfold starts
  refine List.foldl_fixed' (fun i => ?_) _
  rw [region_of_forkFree h]
  split
  · rfl
  · have hfirst : i ∈ c.firstStarts := by simp_all
    simp [hfirst]

theorem block_of_forkFree (h : c.ForkFree) (starts : Std.HashSet Nat) (i : Nat) :
    c.block starts i = (c.insts[i]?.bind Inst.action?).toList := by
  unfold block
  rw [region_of_forkFree h]
  cases hi : c.insts[i]?.bind Inst.action? <;> simp [hi]

/-- A block of code without forks is the action of the instruction it begins at. -/
theorem program_block (h : c.ForkFree) {i : Nat} (hi : i ∈ c.firstStarts) :
    c.program.block i = (c.insts[i]?.bind Inst.action?).toList := by
  unfold program Program.block
  simp only [starts_of_forkFree h, block_of_forkFree h]
  by_cases hlt : i < c.insts.size
  · simp [hlt, hi]
  · simp [hlt]

end Code


-- ---------------------------------------------------------------------------
-- Sets, one in front of the other
-- ---------------------------------------------------------------------------

/-- The code that takes one set after the other, in front of a match. -/
def straight (sets : List CharSet) : Code := sets.foldr Layout.take ⟨#[.accept], 0⟩

theorem straight_cons (set : CharSet) (sets : List CharSet) :
    straight (set :: sets) = Layout.take set (straight sets) := rfl

theorem size_straight (sets : List CharSet) : (straight sets).insts.size = sets.length + 1 := by
  induction sets with
  | nil => rfl
  | cons set sets ih =>
    rw [straight_cons, List.length_cons, ← ih]
    simp [Layout.take, Layout.inst]

theorem entry_straight (sets : List CharSet) : (straight sets).entry = sets.length := by
  cases sets with
  | nil => rfl
  | cons set sets => exact size_straight sets

/-- A set is laid out after what is laid out already. -/
theorem insts_straight_cons (set : CharSet) (sets : List CharSet) (i : Nat) :
    (straight (set :: sets)).insts[i]? =
      if i = sets.length + 1 then some (.take (set.between 0 0xFF) sets.length)
      else (straight sets).insts[i]? := by
  rw [← size_straight, ← entry_straight sets]
  exact Array.getElem?_push

theorem insts_straight_zero (sets : List CharSet) :
    (straight sets).insts[0]? = some .accept := by
  induction sets with
  | nil => rfl
  | cons set sets ih => rw [insts_straight_cons, if_neg (by omega), ih]

/-- Each instruction names the one laid out before it. -/
theorem insts_straight_take {sets : List CharSet} {i : Nat} {set : CharSet}
    (h : sets[i]? = some set) :
    (straight sets).insts[sets.length - i]?
      = some (.take (set.between 0 0xFF) (sets.length - (i + 1))) := by
  induction sets generalizing i with
  | nil => simp at h
  | cons first sets ih =>
    rw [insts_straight_cons, List.length_cons]
    cases i with
    | zero =>
      obtain rfl : first = set := by simpa using h
      rw [if_pos (by omega), Nat.zero_add, Nat.add_sub_cancel]
    | succ i =>
      rw [List.getElem?_cons_succ] at h
      rw [if_neg (by omega), Nat.add_sub_add_right, ih h, Nat.add_sub_add_right]

theorem forkFree_straight (sets : List CharSet) : (straight sets).ForkFree := by
  induction sets with
  | nil =>
    intro i a b
    cases i <;> simp [straight]
  | cons set sets ih =>
    intro i a b
    rw [insts_straight_cons]
    split
    · simp
    · exact ih i a b

/-- The entry and what the others name are all instructions. -/
theorem firstStarts_straight {sets : List CharSet} {j : Nat} (h : j ≤ sets.length) :
    j ∈ (straight sets).firstStarts := by
  apply Code.mem_firstStarts
  rcases Nat.lt_or_eq_of_le h with hlt | rfl
  · have htake := insts_straight_take
      (List.getElem?_eq_getElem (show sets.length - (j + 1) < sets.length by omega))
    rw [show sets.length - (sets.length - (j + 1) + 1) = j by omega] at htake
    exact .inr ⟨_, _, htake, rfl⟩
  · exact .inl (entry_straight sets).symm

/-- The program of sets laid out one in front of the other takes the bytes of one after the other. -/
theorem spells_straight (sets : List CharSet) :
    (straight sets).program.Spells (sets.map (·.between 0 0xFF)) where
  entry_eq := by
    rw [List.length_map]
    exact entry_straight sets
  block_zero := by
    rw [Code.program_block (forkFree_straight sets) (firstStarts_straight (Nat.zero_le _)),
      insts_straight_zero]
    rfl
  block_take i set hset := by
    rw [List.getElem?_map, Option.map_eq_some_iff] at hset
    obtain ⟨full, hfull, rfl⟩ := hset
    rw [List.length_map,
      Code.program_block (forkFree_straight sets) (firstStarts_straight (Nat.sub_le _ _)),
      insts_straight_take hfull]
    rfl

end FileSearch.Regex
