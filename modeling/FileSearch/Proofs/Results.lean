import FileSearch.File.Scan

/-!
# Results

A tally counts results, so the summary of a run does not depend on the order in which they were
recorded. A file is matched exactly if its report holds anything.
-/

namespace FileSearch


-- ---------------------------------------------------------------------------
-- Tallies
-- ---------------------------------------------------------------------------

namespace Tally

/-- The tally of a list of results. -/
def of (results : List FileResult) : Tally := results.foldl record {}

theorem of_concat (results : List FileResult) (r : FileResult) :
    of (results ++ [r]) = (of results).record r := by
  simp [of]

theorem foldl_record (t : Tally) (results : List FileResult) :
    results.foldl record t =
      { scanned := t.scanned + results.countP (·.isScanned)
        matched := t.matched + results.countP (·.isMatched)
        failures := t.failures ++ results.filterMap (·.failure?) } := by
  induction results generalizing t with
  | nil => simp
  | cons r rest ih =>
    rw [List.foldl_cons, ih]
    cases r with
    | scanned path report =>
      cases hmatched : report.matched <;>
        simp [record, FileResult.isScanned, FileResult.isMatched, FileResult.failure?,
          hmatched] <;> omega
    | failed path failure =>
      simp [record, FileResult.isScanned, FileResult.isMatched, FileResult.failure?]

theorem of_eq (results : List FileResult) :
    of results =
      { scanned := results.countP (·.isScanned)
        matched := results.countP (·.isMatched)
        failures := results.filterMap (·.failure?) } := by
  simp [of, foldl_record]

/-- A result is scanned or failed. -/
theorem length_filterMap_failure? (results : List FileResult) :
    results.countP (·.isScanned) + (results.filterMap (·.failure?)).length = results.length := by
  induction results with
  | nil => rfl
  | cons r rest ih =>
    cases r <;> simp [FileResult.isScanned, FileResult.failure?] at ih ⊢ <;> omega

theorem length_failures_of (results : List FileResult) :
    (of results).failures.length = results.countP (!·.isScanned) := by
  rw [of_eq]
  induction results with
  | nil => rfl
  | cons r rest ih => cases r <;> simp_all [FileResult.isScanned, FileResult.failure?]

/-- The exit code says whether a file matched, or failed where that counts. -/
theorem exitCode_summary_of (results : List FileResult) (policy : FileErrorPolicy) :
    ((of results).summary policy).exitCode.toNat
      = if results.any (·.isMatched) || (results.any (!·.isScanned) && policy = .fail) then 1
        else 0 := by
  have hmatched : decide (0 < (of results).matched) = results.any (·.isMatched) := by
    rw [of_eq, Bool.eq_iff_iff]
    simp [List.countP_pos_iff]
  have hfailed : decide (0 < (of results).failures.length) = results.any (!·.isScanned) := by
    rw [length_failures_of, Bool.eq_iff_iff]
    simp [List.countP_pos_iff]
  simp only [summary, hmatched, hfailed, ExitCode.ofOutcome]
  cases results.any (·.isMatched) with
  | true => rfl
  | false => cases results.any (!·.isScanned) <;> cases policy <;> rfl

theorem summary_of_perm {results results' : List FileResult} (h : results.Perm results')
    (policy : FileErrorPolicy) : (of results).summary policy = (of results').summary policy := by
  have hscanned := h.countP_eq (·.isScanned)
  have hmatched := h.countP_eq (·.isMatched)
  have hfailed := (h.filterMap (·.failure?)).length_eq
  simp only [summary, of_eq, hscanned, hmatched, hfailed]

end Tally


-- ---------------------------------------------------------------------------
-- Scanned files
-- ---------------------------------------------------------------------------

/-- The reports that hold anything are those of the files that matched. -/
theorem FileResult.filter_block {results : List FileResult}
    (h : ∀ r ∈ results, r.isMatched = !r.block.isEmpty) :
    (results.map (·.block)).filter (!·.isEmpty) = (results.filter (·.isMatched)).map (·.block) := by
  rw [List.filter_map]
  exact congrArg _ (List.filter_congr fun r hr => (h r hr).symm)

namespace Report

/-- What a report of a file can be: of nothing, of its path, or of some lines of it. -/
inductive Form (path : String) : Report → Prop where
  | nothing : Form path nothing
  | ofPath : Form path (ofPath path)
  | lines {parts : List Bytes} (hne : parts ≠ [])
      (hparts : ∀ part ∈ parts, ∃ number content, part = line path number content) :
      Form path { matched := true, block := parts.flatten }

variable {m : Matcher} {path : String}

theorem Form.line (number : Nat) (content : Bytes) :
    Form path { matched := true, block := line path number content } := by
  have hform : Form path { matched := true, block := [Report.line path number content].flatten } :=
    .lines (List.cons_ne_nil _ _) (List.forall_mem_singleton.mpr ⟨number, content, rfl⟩)
  rwa [List.flatten_singleton] at hform

theorem exists_of_mem_matchingLines {number : Nat} {lines : List Bytes} {part : Bytes}
    (h : part ∈ matchingLines m path number lines) :
    ∃ k content, part = line path k content := by
  fun_induction matchingLines m path number lines with
  | case1 => simp at h
  | case2 number l rest hmatch ih =>
    rcases List.mem_cons.mp h with rfl | h
    · exact ⟨_, _, rfl⟩
    · exact ih h
  | case3 number l rest hmatch ih => exact ih h

theorem form_byLine {s : LineStream} {r : Report} (h : byLine m path s = .ok r) :
    Form path r := by
  unfold byLine at h
  cases hfailure : s.failure with
  | some thrown => simp [hfailure] at h
  | none =>
    cases hparts : matchingLines m path 1 s.lines with
    | nil =>
      simp only [hfailure, hparts, Except.ok.injEq] at h
      exact h ▸ .nothing
    | cons part rest =>
      simp only [hfailure, hparts, Except.ok.injEq] at h
      subst h
      exact .lines (List.cons_ne_nil _ _) fun part hpart =>
        exists_of_mem_matchingLines (hparts ▸ hpart)

theorem form_byLineNegated {s : LineStream} {r : Report} (h : byLineNegated m path s = .ok r) :
    Form path r := by
  unfold byLineNegated at h
  split at h
  · cases h
    exact .nothing
  · cases hfailure : s.failure with
    | some thrown => simp [hfailure] at h
    | none =>
      simp only [hfailure, Except.ok.injEq] at h
      exact h ▸ .ofPath

theorem form_wholeFile (content : Bytes) : Form path (wholeFile m path content) := by
  unfold wholeFile
  cases m.search content with
  | none => exact .nothing
  | some s => exact .line _ _

theorem form_wholeFileNegated (content : Bytes) :
    Form path (wholeFileNegated m path content) := by
  unfold wholeFileNegated
  split
  · exact .nothing
  · exact .ofPath

/-- A report is of a matched file exactly if it holds anything. -/
def Honest (r : Report) : Prop := r.matched = !r.block.isEmpty

theorem line_ne_nil (path : String) (number : Nat) (content : Bytes) :
    line path number content ≠ [] := by
  simp [line]

theorem Form.honest {r : Report} (h : Form path r) : r.Honest := by
  cases h with
  | nothing => rfl
  | ofPath => simp [Honest, Report.ofPath]
  | @lines parts hne hparts =>
    obtain ⟨part, rest, rfl⟩ := List.exists_cons_of_ne_nil hne
    obtain ⟨number, content, rfl⟩ := hparts part List.mem_cons_self
    simp [Honest, line_ne_nil]

end Report

namespace ScanOptions

variable (o : ScanOptions) (path : String)

theorem form_report {file : OpenFile} {r : Report} (h : o.report path file = .ok r) :
    r.Form path := by
  unfold report at h
  split at h
  · unfold Report.ofLines at h
    split at h
    · exact Report.form_byLineNegated h
    · exact Report.form_byLine h
  · split at h
    · cases h
    · cases h
      unfold Report.ofContent
      split
      · exact Report.form_wholeFileNegated _
      · exact Report.form_wholeFile _

theorem honest_report {file : OpenFile} {r : Report} (h : o.report path file = .ok r) :
    r.Honest :=
  (o.form_report path h).honest

@[simp] theorem path_scan (opening : Opening) : (o.scan path opening).result.path = path := by
  cases opening with
  | error thrown => rfl
  | ok file =>
    simp only [scan, result]
    split <;> rfl

theorem isMatched_scan (opening : Opening) :
    (o.scan path opening).result.isMatched = !(o.scan path opening).result.block.isEmpty := by
  cases opening with
  | error thrown => rfl
  | ok file =>
    simp only [scan, result]
    cases hreport : o.report path file with
    | error thrown => rfl
    | ok report => exact o.honest_report path hreport

end ScanOptions

end FileSearch
