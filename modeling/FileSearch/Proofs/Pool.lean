import FileSearch.Pool
import Mathlib.Data.List.Nodup

/-!
# Pools

A pool never has more live tasks than slots, an item waits only while all slots are taken, and a task
that finishes makes room for the item that waits. Between being taken from the source and finishing,
an item is held: it waits or is live.
-/

namespace FileSearch.Pool

variable {α : Type} {p : Pool α}

structure WellFormed (p : Pool α) : Prop where
  limit_pos : 0 < p.limit
  length_le : p.live.length ≤ p.limit
  nodup : (p.live.map (·.1)).Nodup
  lt_started : ∀ t ∈ p.live, t.1 < p.started
  length_eq : p.waiting.isSome → p.live.length = p.limit
  isOpen : p.waiting.isSome → p.source.isOpen

/-- The items that were taken from the source and are not finished. -/
def held (p : Pool α) : List α := p.live.map (·.2) ++ p.waiting.toList


-- ---------------------------------------------------------------------------
-- Live tasks
-- ---------------------------------------------------------------------------

theorem mem_of_lookup {l : List (Nat × α)} {index : Nat} {item : α}
    (h : l.lookup index = some item) : (index, item) ∈ l := by
  induction l with
  | nil => simp at h
  | cons t rest ih =>
    obtain ⟨i, a⟩ := t
    by_cases hi : index = i
    · subst hi
      simp only [List.lookup_cons_self, Option.some.injEq] at h
      subst h
      exact List.mem_cons_self
    · rw [List.lookup_cons, beq_false_of_ne hi] at h
      exact List.mem_cons_of_mem _ (ih h)

theorem lookup_of_mem {l : List (Nat × α)} (hnodup : (l.map (·.1)).Nodup) {index : Nat} {item : α}
    (h : (index, item) ∈ l) : l.lookup index = some item := by
  induction l with
  | nil => simp at h
  | cons t rest ih =>
    obtain ⟨i, a⟩ := t
    rw [List.map_cons, List.nodup_cons] at hnodup
    rcases List.mem_cons.mp h with heq | hrest
    · cases heq
      simp
    · have hne : index ≠ i := by
        rintro rfl
        exact hnodup.1 (List.mem_map.mpr ⟨_, hrest, rfl⟩)
      rw [List.lookup_cons, beq_false_of_ne hne]
      exact ih hnodup.2 hrest

/-- A live task and those beside it. -/
theorem live_perm {l : List (Nat × α)} (hnodup : (l.map (·.1)).Nodup) {index : Nat} {item : α}
    (h : l.lookup index = some item) : l.Perm ((index, item) :: l.filter (·.1 != index)) := by
  induction l with
  | nil => simp at h
  | cons t rest ih =>
    obtain ⟨i, a⟩ := t
    rw [List.map_cons, List.nodup_cons] at hnodup
    by_cases hi : index = i
    · subst hi
      simp only [List.lookup_cons_self, Option.some.injEq] at h
      subst h
      have hrest : rest.filter (·.1 != index) = rest := by
        refine List.filter_eq_self.mpr fun t ht => bne_iff_ne.mpr ?_
        rintro rfl
        exact hnodup.1 (List.mem_map.mpr ⟨t, ht, rfl⟩)
      simp [hrest]
    · rw [List.lookup_cons, beq_false_of_ne hi] at h
      have hkeep : ((i, a).1 != index) = true := bne_iff_ne.mpr (Ne.symm hi)
      rw [List.filter_cons, if_pos hkeep]
      exact ((ih hnodup.2 h).cons _).trans (List.Perm.swap ..)

theorem isLive_of_lookup {index : Nat} {item : α} (h : p.live.lookup index = some item) :
    p.isLive index := by
  simp only [isLive, List.any_eq_true]
  exact ⟨(index, item), mem_of_lookup h, by simp⟩

theorem length_filter_lt {index : Nat} (hlive : p.isLive index) :
    (p.live.filter (·.1 != index)).length < p.live.length := by
  simp only [isLive, List.any_eq_true] at hlive
  obtain ⟨t, ht, hindex⟩ := hlive
  exact List.length_filter_lt_length_iff_exists.mpr ⟨t, ht, by simpa using hindex⟩


-- ---------------------------------------------------------------------------
-- Steps
-- ---------------------------------------------------------------------------

theorem asks_iff : p.asks ↔ p.source.isOpen ∧ p.waiting = none := by
  simp [asks]

theorem step_delivered (hasks : p.asks) (item : α) :
    p.step (.delivered item) = if p.hasSlot then p.start item
      else ({ p with waiting := some item }, []) := by
  simp only [step, hasks, if_true, startWaiting]
  rfl

/-- A task that finishes leaves a slot. -/
theorem hasSlot_finish (hp : p.WellFormed) {index : Nat} (hlive : p.isLive index)
    (failure : Option Thrown) : (p.finish index failure).hasSlot = true := by
  have hlt := length_filter_lt hlive
  have hle := hp.length_le
  exact decide_eq_true (Nat.lt_of_lt_of_le hlt hle)

/-- Its slot goes to the item that waits. -/
theorem step_finished (hp : p.WellFormed) {index : Nat} (hlive : p.isLive index)
    (failure : Option Thrown) :
    (p.step (.finished index failure)).1 = { p.finish index failure with
      live := p.live.filter (·.1 != index) ++ p.waiting.toList.map fun item => (p.started, item)
      started := p.started + p.waiting.toList.length
      waiting := none } := by
  have hslot := hasSlot_finish hp hlive failure
  have hfinish : (p.finish index failure).waiting = p.waiting := rfl
  simp only [step, hlive, if_true, startWaiting, hfinish]
  cases hwaiting : p.waiting with
  | none => simp [finish, hwaiting]
  | some item =>
    show (if (p.finish index failure).hasSlot then _ else _ : Pool α × List (Nat × α)).1 = _
    rw [if_pos hslot]
    rfl

/-- The item that waits starts when a task finishes. -/
theorem starts_finished (hp : p.WellFormed) {index : Nat} (hlive : p.isLive index)
    (failure : Option Thrown) :
    (p.step (.finished index failure)).2 = p.waiting.toList.map fun item => (p.started, item) := by
  have hslot := hasSlot_finish hp hlive failure
  have hfinish : (p.finish index failure).waiting = p.waiting := rfl
  simp only [step, hlive, if_true, startWaiting, hfinish]
  cases p.waiting with
  | none => rfl
  | some item =>
    simp only [hslot, if_true]
    rfl

theorem failures_delivered (hasks : p.asks) (item : α) :
    (p.step (.delivered item)).1.failures = p.failures := by
  rw [step_delivered hasks]
  split <;> rfl

theorem source_delivered (hasks : p.asks) (item : α) :
    (p.step (.delivered item)).1.source = p.source := by
  rw [step_delivered hasks]
  split <;> rfl

theorem failures_finished (hp : p.WellFormed) {index : Nat} (hlive : p.isLive index)
    (failure : Option Thrown) :
    (p.step (.finished index failure)).1.failures
      = p.failures ++ failure.toList.map fun t => { index, error := t.asError } := by
  rw [step_finished hp hlive]
  rfl

/-- A task that fails is told of. -/
theorem failures_finished_ne_nil (hp : p.WellFormed) {index : Nat} (hlive : p.isLive index)
    (thrown : Thrown) : (p.step (.finished index (some thrown))).1.failures ≠ [] := by
  rw [failures_finished hp hlive]
  simp

theorem source_finished (p : Pool α) (index : Nat) (failure : Option Thrown) :
    (p.step (.finished index failure)).1.source = p.source := by
  simp only [step]
  split
  case isFalse => rfl
  case isTrue =>
    unfold startWaiting
    split
    · split <;> rfl
    · rfl

theorem wellFormed_new {limit : Nat} (hlimit : 0 < limit) : ({ limit } : Pool α).WellFormed :=
  ⟨hlimit, Nat.zero_le _, List.nodup_nil, by simp, by simp, by simp⟩

theorem ofConcurrency_ok {concurrency : Number} (h : ofConcurrency concurrency = .ok p) :
    ∃ limit, 0 < limit ∧ p = { limit } := by
  unfold ofConcurrency at h
  cases hn : concurrency.toInt? with
  | none => simp [hn] at h
  | some n =>
    simp only [hn] at h
    split at h
    · cases h
    · cases h
      exact ⟨n.toNat, by omega, rfl⟩

theorem live_of_settled (h : p.settled) : p.live = [] := by
  simp only [settled, Bool.and_eq_true, List.isEmpty_iff] at h
  exact h.2

theorem held_of_settled (h : p.settled) : p.held = [] := by
  simp only [settled, Bool.and_eq_true, Option.isNone_iff_eq_none, List.isEmpty_iff] at h
  simp [held, h]

theorem wellFormed_start (hp : p.WellFormed) (hslot : p.hasSlot) (item : α) :
    (p.start item).1.WellFormed where
  limit_pos := hp.limit_pos
  length_le := by
    simp only [hasSlot, decide_eq_true_eq] at hslot
    simp only [start, List.length_append, List.length_singleton]
    omega
  nodup := by
    simp only [start, List.map_append, List.map_cons, List.map_nil]
    refine List.nodup_append.mpr ⟨hp.nodup, by simp, ?_⟩
    intro i hi j hj
    obtain ⟨t, ht, rfl⟩ := List.mem_map.mp hi
    obtain rfl := List.mem_singleton.mp hj
    exact Nat.ne_of_lt (hp.lt_started t ht)
  lt_started := by
    intro t ht
    rcases List.mem_append.mp ht with ht | ht
    · exact Nat.lt_succ_of_lt (hp.lt_started t ht)
    · obtain rfl := List.mem_singleton.mp ht
      exact Nat.lt_succ_self _
  length_eq h := by simp [start] at h
  isOpen h := by simp [start] at h

theorem wellFormed_finish (hp : p.WellFormed) {index : Nat} (hlive : p.isLive index)
    (failure : Option Thrown) : (p.step (.finished index failure)).1.WellFormed := by
  have hlt := length_filter_lt hlive
  have hle := hp.length_le
  rw [step_finished hp hlive]
  cases hwaiting : p.waiting with
  | none =>
    refine ⟨hp.limit_pos, ?_, ?_, ?_, by simp, by simp⟩
    · simp only [finish, Option.toList_none, List.map_nil, List.append_nil]
      omega
    · simpa using hp.nodup.sublist (List.filter_sublist.map _)
    · intro t ht
      simp only [Option.toList_none, List.map_nil, List.append_nil, List.mem_filter] at ht
      exact hp.lt_started t ht.1
  | some item =>
    refine ⟨hp.limit_pos, ?_, ?_, ?_, by simp, by simp⟩
    · simp only [finish, Option.toList_some, List.map_cons, List.map_nil, List.length_append,
        List.length_singleton]
      omega
    · simp only [Option.toList_some, List.map_cons, List.map_nil, List.map_append]
      refine List.nodup_append.mpr ⟨hp.nodup.sublist (List.filter_sublist.map _), by simp, ?_⟩
      intro i hi j hj
      obtain ⟨t, ht, rfl⟩ := List.mem_map.mp hi
      obtain rfl := List.mem_singleton.mp hj
      exact Nat.ne_of_lt (hp.lt_started t (List.mem_filter.mp ht).1)
    · intro t ht
      simp only [Option.toList_some, List.map_cons, List.map_nil, List.length_singleton] at ht ⊢
      rcases List.mem_append.mp ht with ht | ht
      · exact Nat.lt_succ_of_lt (hp.lt_started t (List.mem_filter.mp ht).1)
      · obtain rfl := List.mem_singleton.mp ht
        exact Nat.lt_succ_self _

theorem wellFormed_delivered (hp : p.WellFormed) (hasks : p.asks) (item : α) :
    (p.step (.delivered item)).1.WellFormed := by
  obtain ⟨hopen, hnone⟩ := asks_iff.mp hasks
  rw [step_delivered hasks]
  split
  case isTrue hslot => exact wellFormed_start hp hslot item
  case isFalse hslot =>
    have hle := hp.length_le
    simp only [hasSlot, decide_eq_true_eq] at hslot
    exact ⟨hp.limit_pos, hle, hp.nodup, hp.lt_started,
      fun _ => Nat.le_antisymm hle (Nat.le_of_not_lt hslot), fun _ => hopen⟩

theorem wellFormed_source (hp : p.WellFormed) (hnone : p.waiting = none) (source : SourceState) :
    { p with source }.WellFormed :=
  ⟨hp.limit_pos, hp.length_le, hp.nodup, hp.lt_started, hp.length_eq, by simp [hnone]⟩

theorem step_sourceEnded (hasks : p.asks) :
    (p.step .sourceEnded).1 = { p with source := .ended } := by
  simp [step, hasks]

theorem step_sourceFailed (hasks : p.asks) (thrown : Thrown) :
    (p.step (.sourceFailed thrown)).1 = { p with source := .failed thrown } := by
  simp [step, hasks]

theorem map_index_update (index : Nat) (f : α → α) :
    (p.update index f).live.map (·.1) = p.live.map (·.1) := by
  simp only [update, List.map_map]
  refine List.map_congr_left fun t _ => ?_
  simp only [Function.comp_apply]
  split <;> rfl

theorem wellFormed_update (hp : p.WellFormed) (index : Nat) (f : α → α) :
    (p.update index f).WellFormed where
  limit_pos := hp.limit_pos
  length_le := by simpa [update] using hp.length_le
  nodup := by
    rw [map_index_update]
    exact hp.nodup
  lt_started t ht := by
    have hmem : t.1 ∈ (p.update index f).live.map (·.1) := List.mem_map_of_mem ht
    rw [map_index_update] at hmem
    obtain ⟨t', ht', heq⟩ := List.mem_map.mp hmem
    exact heq ▸ hp.lt_started t' ht'
  length_eq h := by simpa [update] using hp.length_eq h
  isOpen := hp.isOpen

/-- Only the task that is changed is another one. -/
theorem update_perm (hp : p.WellFormed) {index : Nat} {item : α}
    (hitem : p.live.lookup index = some item) (f : α → α) :
    (p.update index f).live.Perm ((index, f item) :: p.live.filter (·.1 != index)) := by
  have hothers : (p.live.filter (·.1 != index)).map
      (fun t => if t.1 = index then (t.1, f t.2) else t) = p.live.filter (·.1 != index) := by
    refine (List.map_congr_left fun t ht => ?_).trans (List.map_id _)
    exact if_neg (bne_iff_ne.mp (List.mem_filter.mp ht).2)
  have hperm := (live_perm hp.nodup hitem).map fun t => if t.1 = index then (t.1, f t.2) else t
  rw [List.map_cons, if_pos rfl, hothers] at hperm
  exact hperm


-- ---------------------------------------------------------------------------
-- Held items
-- ---------------------------------------------------------------------------

theorem held_delivered (hasks : p.asks) (item : α) :
    (p.step (.delivered item)).1.held = p.held ++ [item] := by
  obtain ⟨-, hnone⟩ := asks_iff.mp hasks
  rw [step_delivered hasks]
  split
  case isTrue => simp [held, start, hnone]
  case isFalse => simp [held, hnone]

/-- A task that finishes is held no longer, and every other item still is. -/
theorem held_finished (hp : p.WellFormed) {index : Nat} {item : α}
    (hitem : p.live.lookup index = some item) (failure : Option Thrown) :
    p.held.Perm (item :: (p.step (.finished index failure)).1.held) := by
  rw [step_finished hp (isLive_of_lookup hitem)]
  have hperm := ((live_perm hp.nodup hitem).map (·.2)).append_right p.waiting.toList
  simpa [held, Function.comp_def] using hperm

/-- What is counted of a task that finishes is counted no longer. -/
theorem filterMap_held_finished {β : Type} (hp : p.WellFormed) {index : Nat} {item : α}
    (hitem : p.live.lookup index = some item) (failure : Option Thrown) (f : α → Option β) :
    (p.held.filterMap f).Perm
      ((f item).toList ++ (p.step (.finished index failure)).1.held.filterMap f) := by
  have hheld := (held_finished hp hitem failure).filterMap f
  cases hf : f item with
  | none => simpa [List.filterMap_cons, hf] using hheld
  | some counted => simpa [List.filterMap_cons, hf] using hheld

/-- Of a task that changes, something else is counted than before. -/
theorem filterMap_held_update {β : Type} (hp : p.WellFormed) {index : Nat} {item : α}
    (hitem : p.live.lookup index = some item) (g : α → α) (f : α → Option β) :
    ∃ others, (p.held.filterMap f).Perm ((f item).toList ++ others) ∧
      ((p.update index g).held.filterMap f).Perm ((f (g item)).toList ++ others) := by
  let others := (p.live.filter (·.1 != index)).map (·.2) ++ p.waiting.toList
  have hbefore : p.held.Perm (item :: others) := by
    simpa [held, others] using ((live_perm hp.nodup hitem).map (·.2)).append_right p.waiting.toList
  have hafter : (p.update index g).held.Perm (g item :: others) := by
    simpa [held, update, others] using
      ((update_perm hp hitem g).map (·.2)).append_right p.waiting.toList
  have hcounted (x : α) : (x :: others).filterMap f = (f x).toList ++ others.filterMap f := by
    cases hf : f x <;> simp [hf]
  refine ⟨others.filterMap f, ?_, ?_⟩
  · rw [← hcounted]
    exact hbefore.filterMap f
  · rw [← hcounted]
    exact hafter.filterMap f

end FileSearch.Pool
