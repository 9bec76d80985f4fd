import FileSearch.Proofs.Diagnostics.Marks
import FileSearch.Proofs.Scan.Accounts

/-!
# What tasks come to

A task comes to the failure of its file, or to its report once the sink has accepted it, or to the
rejection of the sink. What was found of the files and what the sink answered tell which, and tasks
are to end with that.
-/

namespace FileSearch

/-- What came of a task, as told by what its file came to and what the sink answered. -/
inductive CameTo (found : List TaskFinding) (answers : List (SinkAnswer ScanCaller)) (index : Nat)
    (path : String) : Except Thrown FileResult → Prop
  | failed {failure : Failure}
      (hfound : ⟨index, path, .ok (.failed path failure)⟩ ∈ found) :
      CameTo found answers index path (.ok (.failed path failure))
  | accepted {report : Report}
      (hfound : ⟨index, path, .ok (.scanned path report)⟩ ∈ found)
      (hanswer : { call := ScanTask.call index, outcome := .ok () } ∈ answers) :
      CameTo found answers index path (.ok (.scanned path report))
  | rejected {report : Report} {failure : Failure}
      (hfound : ⟨index, path, .ok (.scanned path report)⟩ ∈ found)
      (hanswer : { call := ScanTask.call index, outcome := .error failure } ∈ answers) :
      CameTo found answers index path (.error (.failure failure))
  /-- A warning about closing the file could not be logged. -/
  | lost {thrown : Thrown} (hfound : ⟨index, path, .error thrown⟩ ∈ found) :
      CameTo found answers index path (.error thrown)

/-- What was found of the files is found once for a task, and not before its file is done. -/
structure Findings (found : List TaskFinding) (live : List (Nat × ScanTask)) (started : Nat) :
    Prop where
  nodup : (found.map (·.index)).Nodup
  lt_started : ∀ f ∈ found, f.index < started
  unread : ∀ t ∈ live, t.2.report = none → t.1 ∉ found.map (·.index)
  reported : ∀ t ∈ live, ∀ report, t.2.report = some report →
    ⟨t.1, t.2.path, .ok (.scanned t.2.path report)⟩ ∈ found

/-- Tasks have ended with what came of them, and none is left out. -/
structure Justified (marks : List TaskMark) (found : List TaskFinding)
    (answers : List (SinkAnswer ScanCaller)) : Prop where
  came : ∀ index path outcome, .ended index path outcome ∈ marks →
    CameTo found answers index path outcome
  unreported : ∀ index path outcome, ⟨index, path, outcome⟩ ∈ found →
    (∀ q report, outcome ≠ .ok (.scanned q report)) → .ended index path outcome ∈ marks
  answered : ∀ index outcome, { call := ScanTask.call index, outcome } ∈ answers →
    ∃ path report, ⟨index, path, .ok (.scanned path report)⟩ ∈ found ∧
      .ended index path (ScanTask.outcome path report outcome) ∈ marks


-- ---------------------------------------------------------------------------
-- What was found
-- ---------------------------------------------------------------------------

namespace Findings

variable {found : List TaskFinding} {live : List (Nat × ScanTask)} {started : Nat}

theorem nodup_concat {f : TaskFinding} (hnodup : (found.map (·.index)).Nodup)
    (hnew : f.index ∉ found.map (·.index)) : ((found ++ [f]).map (·.index)).Nodup := by
  rw [List.map_append, List.nodup_append]
  refine ⟨hnodup, by simp, ?_⟩
  intro i hi j hj
  obtain rfl := List.mem_singleton.mp hj
  rintro rfl
  exact hnew hi

/-- The next task starts. -/
theorem start (h : Findings found live started) {task : ScanTask} (htask : task.report = none) :
    Findings found (live ++ [(started, task)]) (started + 1) where
  nodup := h.nodup
  lt_started r hr := Nat.lt_succ_of_lt (h.lt_started r hr)
  unread t ht hnone := by
    rcases List.mem_append.mp ht with ht | ht
    · exact h.unread t ht hnone
    · obtain rfl := List.mem_singleton.mp ht
      intro hmem
      obtain ⟨r, hr, heq⟩ := List.mem_map.mp hmem
      exact Nat.lt_irrefl _ (heq ▸ h.lt_started r hr)
  reported t ht report hreport := by
    rcases List.mem_append.mp ht with ht | ht
    · exact h.reported t ht report hreport
    · obtain rfl := List.mem_singleton.mp ht
      rw [htask] at hreport
      cases hreport

theorem startAll (h : Findings found live started) {waiting : Option ScanTask}
    (hwaiting : ∀ t ∈ waiting, t.report = none) :
    Findings found (live ++ waiting.toList.map fun item => (started, item))
      (started + waiting.toList.length) := by
  cases waiting with
  | none => simpa using h
  | some task => exact h.start (hwaiting task rfl)

/-- A task is over. -/
theorem finish (h : Findings found live started) (index : Nat) :
    Findings found (live.filter (·.1 != index)) started where
  nodup := h.nodup
  lt_started := h.lt_started
  unread t ht := h.unread t (List.mem_filter.mp ht).1
  reported t ht := h.reported t (List.mem_filter.mp ht).1

/-- The file of a task is done, and the task with it. -/
theorem find (h : Findings found live started) {index : Nat} (hstarted : index < started)
    (hunread : index ∉ found.map (·.index)) (hlive : ∀ t ∈ live, t.1 ≠ index) (path : String)
    (outcome : Except Thrown FileResult) :
    Findings (found ++ [⟨index, path, outcome⟩]) live started where
  nodup := nodup_concat h.nodup hunread
  lt_started r hr := by
    rcases List.mem_append.mp hr with hr | hr
    · exact h.lt_started r hr
    · obtain rfl := List.mem_singleton.mp hr
      exact hstarted
  unread t ht hnone := by
    rw [List.map_append, List.mem_append, not_or]
    exact ⟨h.unread t ht hnone, by simpa using hlive t ht⟩
  reported t ht report hreport := List.mem_append_left _ (h.reported t ht report hreport)

/-- The file of a task is done, and the task waits with its report. -/
theorem report (h : Findings found live started) (hnodup : (live.map (·.1)).Nodup) {index : Nat}
    {path : String} (htask : (index, { path }) ∈ live) (hstarted : index < started)
    (report : Report) :
    Findings (found ++ [⟨index, path, .ok (.scanned path report)⟩])
      (live.map fun t => if t.1 = index then (t.1, { t.2 with report := some report }) else t)
      started where
  nodup := nodup_concat h.nodup (h.unread _ htask rfl)
  lt_started r hr := by
    rcases List.mem_append.mp hr with hr | hr
    · exact h.lt_started r hr
    · obtain rfl := List.mem_singleton.mp hr
      exact hstarted
  unread t ht hnone := by
    obtain ⟨u, hu, rfl⟩ := List.mem_map.mp ht
    by_cases hindex : u.1 = index
    · simp [hindex] at hnone
    · rw [if_neg hindex] at hnone ⊢
      rw [List.map_append, List.mem_append, not_or]
      exact ⟨h.unread u hu hnone, by simpa using hindex⟩
  reported t ht report' hreport := by
    obtain ⟨u, hu, rfl⟩ := List.mem_map.mp ht
    by_cases hindex : u.1 = index
    · obtain rfl : u = (index, { path }) := List.inj_on_of_nodup_map hnodup hu htask hindex
      simp only [if_true, Option.some.injEq] at hreport
      subst hreport
      simp
    · rw [if_neg hindex] at hreport ⊢
      exact List.mem_append_left _ (h.reported u hu report' hreport)

end Findings


-- ---------------------------------------------------------------------------
-- What came of the tasks
-- ---------------------------------------------------------------------------

section Outcomes

variable {marks : List TaskMark} {found : List TaskFinding} {answers : List (SinkAnswer ScanCaller)}

theorem CameTo.mono {index : Nat} {path : String} {outcome : Except Thrown FileResult}
    (h : CameTo found answers index path outcome) {found' : List TaskFinding}
    {answers' : List (SinkAnswer ScanCaller)} (hfound : found ⊆ found')
    (hanswers : answers ⊆ answers') : CameTo found' answers' index path outcome := by
  cases h with
  | failed h => exact .failed (hfound h)
  | accepted h hanswer => exact .accepted (hfound h) (hanswers hanswer)
  | rejected h hanswer => exact .rejected (hfound h) (hanswers hanswer)
  | lost h => exact .lost (hfound h)

namespace Justified

/-- Tasks that start have not come to anything. -/
theorem start (h : Justified marks found answers) {next : List TaskMark}
    (hnext : ∀ m ∈ next, ∀ index path outcome, m ≠ .ended index path outcome) :
    Justified (marks ++ next) found answers where
  came index path outcome hmem := by
    rcases List.mem_append.mp hmem with hmem | hmem
    · exact h.came index path outcome hmem
    · exact absurd rfl (hnext _ hmem index path outcome)
  unreported index path outcome hfound hreport :=
    List.mem_append_left _ (h.unreported index path outcome hfound hreport)
  answered index outcome hanswer := by
    obtain ⟨path, report, hfound, hmem⟩ := h.answered index outcome hanswer
    exact ⟨path, report, hfound, List.mem_append_left _ hmem⟩

/-- A task ends with what its file came to, and no report of it. -/
theorem endUnreported (h : Justified marks found answers) {index : Nat} {path : String}
    {outcome : Except Thrown FileResult}
    (houtcome : (∃ failure, outcome = .ok (.failed path failure)) ∨ ∃ thrown, outcome = .error thrown) :
    Justified (marks ++ [.ended index path outcome]) (found ++ [⟨index, path, outcome⟩])
      answers where
  came i q outcome' hmem := by
    rcases List.mem_append.mp hmem with hmem | hmem
    · exact (h.came i q outcome' hmem).mono (List.subset_append_left _ _) (List.Subset.refl _)
    · cases List.mem_singleton.mp hmem
      rcases houtcome with ⟨failure, rfl⟩ | ⟨thrown, rfl⟩
      · exact .failed (by simp)
      · exact .lost (by simp)
  unreported i q outcome' hfound hreport := by
    rcases List.mem_append.mp hfound with hfound | hfound
    · exact List.mem_append_left _ (h.unreported i q outcome' hfound hreport)
    · cases List.mem_singleton.mp hfound
      simp
  answered i outcome' hanswer := by
    obtain ⟨q, report, hfound, hmem⟩ := h.answered i outcome' hanswer
    exact ⟨q, report, List.mem_append_left _ hfound, List.mem_append_left _ hmem⟩

theorem report (h : Justified marks found answers) (index : Nat) (path : String)
    (report : Report) :
    Justified marks (found ++ [⟨index, path, .ok (.scanned path report)⟩]) answers where
  came i q outcome hmem :=
    (h.came i q outcome hmem).mono (List.subset_append_left _ _) (List.Subset.refl _)
  unreported i q outcome hfound hreport := by
    rcases List.mem_append.mp hfound with hfound | hfound
    · exact h.unreported i q outcome hfound hreport
    · cases List.mem_singleton.mp hfound
      exact absurd rfl (hreport path report)
  answered i outcome hanswer := by
    obtain ⟨q, report', hfound, hmem⟩ := h.answered i outcome hanswer
    exact ⟨q, report', List.mem_append_left _ hfound, hmem⟩

/-- The sink answers a task, which ends. -/
theorem answer (h : Justified marks found answers) {index : Nat} {path : String}
    {report : Report} (hfound : ⟨index, path, .ok (.scanned path report)⟩ ∈ found)
    (outcome : Except Failure Unit) :
    Justified (marks ++ [.ended index path (ScanTask.outcome path report outcome)]) found
      (answers ++ [{ call := ScanTask.call index, outcome }]) where
  came i q outcome' hmem := by
    rcases List.mem_append.mp hmem with hmem | hmem
    · exact (h.came i q outcome' hmem).mono (List.Subset.refl _) (List.subset_append_left _ _)
    · cases List.mem_singleton.mp hmem
      cases outcome with
      | ok _ => exact .accepted hfound (by simp)
      | error failure => exact .rejected hfound (by simp)
  unreported i q outcome' hfound hreport :=
    List.mem_append_left _ (h.unreported i q outcome' hfound hreport)
  answered i outcome' hanswer := by
    rcases List.mem_append.mp hanswer with hanswer | hanswer
    · obtain ⟨q, report', hscanned, hmem⟩ := h.answered i outcome' hanswer
      exact ⟨q, report', hscanned, List.mem_append_left _ hmem⟩
    · cases List.mem_singleton.mp hanswer
      exact ⟨path, report, hfound, by simp⟩

/-- The sink answers the run, which is no task. -/
theorem answerRun (h : Justified marks found answers) {more : List (SinkAnswer ScanCaller)}
    (hmore : ∀ a ∈ more, a.call.caller = .run) : Justified marks found (answers ++ more) where
  came i q outcome hmem :=
    (h.came i q outcome hmem).mono (List.Subset.refl _) (List.subset_append_left _ _)
  unreported := h.unreported
  answered i outcome hanswer := by
    rcases List.mem_append.mp hanswer with hanswer | hanswer
    · exact h.answered i outcome hanswer
    · cases hmore _ hanswer

/-- A task has ended with an outcome exactly if this is what came of it. -/
theorem ended_iff (h : Justified marks found answers) (hnodup : (found.map (·.index)).Nodup)
    (index : Nat) (path : String) (outcome : Except Thrown FileResult) :
    .ended index path outcome ∈ marks ↔ CameTo found answers index path outcome := by
  refine ⟨h.came index path outcome, fun hcame => ?_⟩
  have hreported {report : Report} {answer : Except Failure Unit}
      (hfound : ⟨index, path, .ok (.scanned path report)⟩ ∈ found)
      (hanswer : { call := ScanTask.call index, outcome := answer } ∈ answers) :
      .ended index path (ScanTask.outcome path report answer) ∈ marks := by
    obtain ⟨q, report', hfound', hmem⟩ := h.answered index answer hanswer
    cases List.inj_on_of_nodup_map hnodup hfound hfound' rfl
    exact hmem
  cases hcame with
  | failed hfound => exact h.unreported index path _ hfound (by simp)
  | accepted hfound hanswer => exact hreported hfound hanswer
  | rejected hfound hanswer => exact hreported hfound hanswer
  | lost hfound => exact h.unreported index path _ hfound (by simp)

end Justified

end Outcomes

end FileSearch
