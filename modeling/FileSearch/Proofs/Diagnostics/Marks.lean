import FileSearch.Diagnostics
import Mathlib.Data.List.Nodup

/-!
# Marks

What diagnostics tell of the tasks of a run, one thing after the other, with the index of the task
that an event leaves out. Marks are balanced if each task starts once, with a slot free, and ends at
most once, after it has started. All that the counts of events show follows from this.
-/

namespace FileSearch

/-- A task starts, or ends with an outcome. -/
inductive TaskMark where
  | started (index : Nat) (path : String)
  | ended (index : Nat) (path : String) (outcome : Except Thrown FileResult)

namespace TaskMark

def index : TaskMark → Nat
  | started index _ => index
  | ended index _ _ => index

/-- What is published of a mark. -/
def event (detail : PathDetail) : TaskMark → DiagnosticsEvent
  | started _ path => .start (detail.show? path)
  | ended _ path outcome => .finish (detail.show? path) (.of outcome)

def startedPath? : TaskMark → Option String
  | started _ path => some path
  | ended _ _ _ => none

end TaskMark

namespace DiagnosticsEvent

def isStart : DiagnosticsEvent → Bool
  | start _ => true
  | finish _ _ => false

end DiagnosticsEvent

/-- Marks from the beginning of a run on, how many tasks they start, and the tasks they leave open. -/
inductive Balanced (slots : Nat) : List TaskMark → Nat → List (Nat × String) → Prop
  | nothing : Balanced slots [] 0 []
  | start {marks : List TaskMark} {count : Nat} {live : List (Nat × String)}
      (h : Balanced slots marks count live) (hroom : live.length < slots) (path : String) :
      Balanced slots (marks ++ [.started count path]) (count + 1) (live ++ [(count, path)])
  | finish {marks : List TaskMark} {count : Nat} {live : List (Nat × String)}
      (h : Balanced slots marks count live) {index : Nat} {path : String}
      (hlive : (index, path) ∈ live) (outcome : Except Thrown FileResult) :
      Balanced slots (marks ++ [.ended index path outcome]) count (live.filter (·.1 != index))

namespace Balanced

variable {slots count : Nat} {marks : List TaskMark} {live : List (Nat × String)}


-- ---------------------------------------------------------------------------
-- Open tasks
-- ---------------------------------------------------------------------------

theorem lt_count (h : Balanced slots marks count live) : ∀ t ∈ live, t.1 < count := by
  induction h with
  | nothing => simp
  | start _ _ path ih =>
    intro t ht
    rcases List.mem_append.mp ht with ht | ht
    · exact Nat.lt_succ_of_lt (ih t ht)
    · obtain rfl := List.mem_singleton.mp ht
      exact Nat.lt_succ_self _
  | finish _ _ _ ih => exact fun t ht => ih t (List.mem_filter.mp ht).1

theorem nodup (h : Balanced slots marks count live) : (live.map (·.1)).Nodup := by
  induction h with
  | nothing => exact List.nodup_nil
  | @start marks count live h _ path ih =>
    rw [List.map_append, List.nodup_append]
    refine ⟨ih, by simp, ?_⟩
    intro i hi j hj
    obtain ⟨t, ht, rfl⟩ := List.mem_map.mp hi
    obtain rfl := List.mem_singleton.mp hj
    exact Nat.ne_of_lt (h.lt_count t ht)
  | finish _ _ _ ih => exact ih.sublist (List.filter_sublist.map _)

theorem length_le (h : Balanced slots marks count live) : live.length ≤ slots := by
  induction h with
  | nothing => exact Nat.zero_le _
  | start _ hroom path ih =>
    rw [List.length_append]
    exact hroom
  | finish _ _ _ ih => exact Nat.le_trans (List.length_filter_le ..) ih

/-- One task fewer is open when one ends. -/
theorem length_filter_succ (h : Balanced slots marks count live) {index : Nat} {path : String}
    (hlive : (index, path) ∈ live) : (live.filter (·.1 != index)).length + 1 = live.length := by
  have hone : live.countP (fun t => t.1 == index) = 1 := by
    have hcount : (live.map (·.1)).count index = 1 :=
      List.count_eq_one_of_mem h.nodup (List.mem_map_of_mem (f := Prod.fst) hlive)
    rw [List.count, List.countP_map] at hcount
    exact hcount
  have hsplit := live.length_eq_countP_add_countP fun t => t.1 == index
  have hothers : live.countP (fun t => t.1 != index)
      = live.countP fun t => decide ¬ (t.1 == index) = true := by
    refine List.countP_congr fun t _ => ?_
    simp
  rw [← List.countP_eq_length_filter, hothers, hsplit, hone, Nat.add_comm]

/-- Every open task has started and not ended. -/
theorem length_live (h : Balanced slots marks count live) (detail : PathDetail) :
    (marks.map (TaskMark.event detail)).countP (·.isStart)
      = (marks.map (TaskMark.event detail)).countP (!·.isStart) + live.length := by
  induction h with
  | nothing => rfl
  | start _ _ path ih =>
    simp only [List.map_append, List.countP_append, List.length_append, ih]
    simp [TaskMark.event, DiagnosticsEvent.isStart]
    omega
  | finish h hlive outcome ih =>
    have hlength := h.length_filter_succ hlive
    simp only [List.map_append, List.countP_append, ih]
    simp [TaskMark.event, DiagnosticsEvent.isStart]
    omega

/-- What was balanced in the end was so all along. -/
theorem of_prefix (h : Balanced slots marks count live) {before : List TaskMark}
    (hbefore : before <+: marks) : ∃ count live, Balanced slots before count live := by
  induction h with
  | nothing =>
    obtain rfl := List.prefix_nil.mp hbefore
    exact ⟨0, [], .nothing⟩
  | start h hroom path ih =>
    rcases List.prefix_concat_iff.mp hbefore with rfl | hbefore
    · exact ⟨_, _, h.start hroom path⟩
    · exact ih hbefore
  | finish h hlive outcome ih =>
    rcases List.prefix_concat_iff.mp hbefore with rfl | hbefore
    · exact ⟨_, _, h.finish hlive outcome⟩
    · exact ih hbefore

/-- At no time are there more starts without their ends than slots. -/
theorem countP_take_le (h : Balanced slots marks count live) (detail : PathDetail) (n : Nat) :
    (((marks.map (TaskMark.event detail)).take n).countP (·.isStart))
      ≤ ((marks.map (TaskMark.event detail)).take n).countP (!·.isStart) + slots := by
  obtain ⟨count, live, hbefore⟩ := h.of_prefix (List.take_prefix n marks)
  have hlength := hbefore.length_live detail
  have hle := hbefore.length_le
  rw [← List.map_take, hlength]
  omega


-- ---------------------------------------------------------------------------
-- The marks of one task
-- ---------------------------------------------------------------------------

theorem length_startedPaths (h : Balanced slots marks count live) :
    (marks.filterMap TaskMark.startedPath?).length = count := by
  induction h with
  | nothing => rfl
  | start _ _ path ih => simp [List.filterMap_append, TaskMark.startedPath?, ih]
  | finish _ _ outcome ih => simp [List.filterMap_append, TaskMark.startedPath?, ih]

/-- What the marks tell of a task: it has started with a path, and is open or has ended with the same
path. -/
inductive Told (marks : List TaskMark) (live : List (Nat × String)) (index : Nat) (path : String) :
    Prop
  | live (hmarks : marks.filter (·.index = index) = [.started index path])
      (hlive : (index, path) ∈ live)
  | ended {outcome : Except Thrown FileResult}
      (hmarks : marks.filter (·.index = index) =
        [.started index path, .ended index path outcome])
      (hlive : index ∉ live.map (·.1))

theorem filter_concat (marks : List TaskMark) (m : TaskMark) (index : Nat) :
    (marks ++ [m]).filter (·.index = index)
      = marks.filter (·.index = index) ++ if m.index = index then [m] else [] := by
  by_cases h : m.index = index <;> simp [List.filter_append, h]

/-- A task that was not counted has no mark. -/
theorem unmarked (h : Balanced slots marks count live) {index : Nat} (hindex : count ≤ index) :
    marks.filter (·.index = index) = [] := by
  induction h with
  | nothing => rfl
  | @start marks count live h hroom path ih =>
    have hne : (TaskMark.started count path).index ≠ index := Nat.ne_of_lt hindex
    rw [filter_concat, if_neg hne, ih (Nat.le_of_succ_le hindex), List.append_nil]
  | @finish marks count live h j q hlive outcome ih =>
    have hne : (TaskMark.ended j q outcome).index ≠ index :=
      Nat.ne_of_lt (Nat.lt_of_lt_of_le (h.lt_count _ hlive) hindex)
    rw [filter_concat, if_neg hne, ih hindex, List.append_nil]

/-- Every task that was counted has started, with its path, and ends at most once. -/
theorem told (h : Balanced slots marks count live) {index : Nat} {path : String}
    (hpath : (marks.filterMap TaskMark.startedPath?)[index]? = some path) :
    Told marks live index path := by
  induction h with
  | nothing => simp at hpath
  | @start marks count live h hroom next ih =>
    have hlength := h.length_startedPaths
    have hpaths : (marks ++ [TaskMark.started count next]).filterMap TaskMark.startedPath?
        = marks.filterMap TaskMark.startedPath? ++ [next] := by
      simp [List.filterMap_append, TaskMark.startedPath?]
    rw [hpaths] at hpath
    by_cases hindex : index = count
    · subst hindex
      rw [← hlength, List.getElem?_concat_length] at hpath
      cases hpath
      refine .live ?_ (by simp)
      rw [filter_concat, h.unmarked (Nat.le_refl _)]
      simp [TaskMark.index]
    · have hlt : index < count := by
        have hbound := (List.getElem?_eq_some_iff.mp hpath).1
        rw [List.length_append, List.length_singleton, hlength] at hbound
        omega
      have hne : (TaskMark.started count next).index ≠ index := Ne.symm hindex
      rw [List.getElem?_append_left (hlength ▸ hlt)] at hpath
      cases ih hpath with
      | live hmarks hlive =>
        refine .live ?_ (List.mem_append_left _ hlive)
        rw [filter_concat, if_neg hne, hmarks, List.append_nil]
      | ended hmarks hlive =>
        refine .ended (by rw [filter_concat, if_neg hne, hmarks, List.append_nil]) ?_
        simp only [List.map_append, List.map_cons, List.map_nil, List.mem_append,
          List.mem_singleton, not_or]
        exact ⟨hlive, hindex⟩
  | @finish marks count live h j q hj outcome ih =>
    have hpaths : (marks ++ [TaskMark.ended j q outcome]).filterMap TaskMark.startedPath?
        = marks.filterMap TaskMark.startedPath? := by
      simp [List.filterMap_append, TaskMark.startedPath?]
    rw [hpaths] at hpath
    by_cases hindex : j = index
    · subst hindex
      cases ih hpath with
      | live hmarks hlive =>
        -- a task has one path
        have hsame : (j, q) = (j, path) := List.inj_on_of_nodup_map h.nodup hj hlive rfl
        cases hsame
        have hboth : (marks ++ [TaskMark.ended j path outcome]).filter (·.index = j)
            = [.started j path, .ended j path outcome] := by
          rw [filter_concat, hmarks]
          simp [TaskMark.index]
        exact .ended hboth (by simp)
      | ended hmarks hlive => exact absurd (List.mem_map_of_mem (f := Prod.fst) hj) hlive
    · have hne : (TaskMark.ended j q outcome).index ≠ index := hindex
      cases ih hpath with
      | live hmarks hlive =>
        refine .live ?_ (List.mem_filter.mpr ⟨hlive, by simpa using Ne.symm hindex⟩)
        rw [filter_concat, if_neg hne, hmarks, List.append_nil]
      | ended hmarks hlive =>
        refine .ended (by rw [filter_concat, if_neg hne, hmarks, List.append_nil]) fun hmem => ?_
        obtain ⟨t, ht, heq⟩ := List.mem_map.mp hmem
        exact hlive (List.mem_map.mpr ⟨t, (List.mem_filter.mp ht).1, heq⟩)

end Balanced

end FileSearch
