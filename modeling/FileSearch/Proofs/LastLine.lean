import FileSearch.Proofs.Negation
import FileSearch.Proofs.Pieces

/-!
# Ending the last line

A line feed behind a content ends its last line, or is a line of its own behind lines that have all
ended. Either way nothing that a search line by line has found is lost: a line that matches without
a line feed still does with one, for it is looked at without it too, and it is reported with the
same bytes.
-/

namespace FileSearch

/-- A line feed behind a content is a new line, or the end of the line that has none. -/
theorem physicalLines_concat_lineFeed (content : Bytes) :
    physicalLines (content ++ [lineFeed]) = physicalLines content ++ [[lineFeed]] ∨
      ∃ lines body, lineFeed ∉ body ∧ physicalLines content = lines ++ [body] ∧
        physicalLines (content ++ [lineFeed]) = lines ++ [body ++ [lineFeed]] := by
  obtain ⟨before, body, rfl, hbefore, hbody⟩ := exists_lines_append content
  rw [List.append_assoc, physicalLines_append hbefore, physicalLines_append hbefore,
    physicalLines_append_lineFeed hbody, physicalLines_of_notMem hbody]
  cases body with
  | nil => exact .inl (by simp [physicalLines])
  | cons b more => exact .inr ⟨physicalLines before, b :: more, hbody, rfl, rfl⟩

/-- A line that matches still does when it has ended. -/
theorem lineMatches_concat_lineFeed {m : Matcher} {body : Bytes} (hbody : lineFeed ∉ body)
    (h : lineMatches m body) : lineMatches m (body ++ [lineFeed]) := by
  rw [lineMatches_eq, Grep.selects_of_notMem hbody] at h
  rw [lineMatches_eq, Grep.selects]
  simp [h]

theorem stripLineEnding_concat_lineFeed (body : Bytes) :
    stripLineEnding (body ++ [lineFeed]) = stripLineEnding body := by
  simp [stripLineEnding, isLineEnding]

namespace Report

variable (m : Matcher) (path : String)

theorem matchingLines_append (number : Nat) (first second : List Bytes) :
    matchingLines m path number (first ++ second)
      = matchingLines m path number first
        ++ matchingLines m path (number + first.length) second := by
  induction first generalizing number with
  | nil => rfl
  | cons l rest ih =>
    have hnumber : number + 1 + rest.length = number + (rest.length + 1) := by omega
    rw [List.cons_append, matchingLines, matchingLines, ih, List.length_cons, hnumber]
    split <;> rfl

theorem length_matchingLines_le (number : Nat) (lines : List Bytes) :
    (matchingLines m path number lines).length ≤ lines.length := by
  induction lines generalizing number with
  | nil => exact Nat.le_refl 0
  | cons l rest ih =>
    have hrest := ih (number + 1)
    rw [matchingLines]
    split
    · exact Nat.succ_le_succ hrest
    · exact Nat.le_succ_of_le hrest

/-- There are report lines if a line matches. -/
theorem any_lineMatches (number : Nat) (lines : List Bytes) :
    lines.any (lineMatches m) = !(matchingLines m path number lines).isEmpty := by
  induction lines generalizing number with
  | nil => rfl
  | cons l rest ih =>
    rw [List.any_cons, matchingLines, ih (number + 1)]
    cases lineMatches m l <;> simp

/-- A search line by line reports its report lines, and matches if it has any. -/
theorem byLine_matchingLines (lines : List Bytes) :
    byLine m path { lines } =
      .ok
        { matched := !(matchingLines m path 1 lines).isEmpty
          block := (matchingLines m path 1 lines).flatten } := by
  unfold byLine
  cases matchingLines m path 1 lines <;> rfl

/-- Of a line that has ended the report line is the same as before. -/
theorem matchingLines_ended {body : Bytes} (hbody : lineFeed ∉ body) (number : Nat) :
    matchingLines m path number [body] <+: matchingLines m path number [body ++ [lineFeed]] := by
  simp only [matchingLines, stripLineEnding_concat_lineFeed]
  by_cases hmatch : lineMatches m body
  · simp [hmatch, lineMatches_concat_lineFeed hbody hmatch]
  · rw [if_neg hmatch]
    exact List.nil_prefix

/-- A line feed behind a content leaves all report lines as they are, and adds one at most. -/
theorem matchingLines_concat_lineFeed (content : Bytes) :
    ∃ added, added.length ≤ 1 ∧
      matchingLines m path 1 (physicalLines (content ++ [lineFeed]))
        = matchingLines m path 1 (physicalLines content) ++ added := by
  rcases physicalLines_concat_lineFeed content with hnew | ⟨lines, body, hbody, hlines, hended⟩
  · rw [hnew, matchingLines_append]
    exact ⟨_, length_matchingLines_le m path _ [[lineFeed]], rfl⟩
  · rw [hlines, hended, matchingLines_append, matchingLines_append]
    obtain ⟨added, hadded⟩ := matchingLines_ended m path hbody (1 + lines.length)
    refine ⟨added, ?_, ?_⟩
    · have hlength := length_matchingLines_le m path (1 + lines.length) [body ++ [lineFeed]]
      rw [← hadded, List.length_append, List.length_singleton] at hlength
      omega
    · rw [List.append_assoc, hadded]

end Report

/-- However a content and the same content with one more line feed are cut into chunks, the report
of the first, line by line, is the beginning of that of the second, which has at most one report
line more. So a match is not lost, and a path that is reported for want of a match with the line
feed is reported without it too. -/
theorem ScanOptions.ending_keeps_report (m : Matcher) (maxFileSize : Number) (path : String)
    {content : Bytes} {file file' : OpenFile}
    (hfile : file.Gives false maxFileSize path content)
    (hfile' : file'.Gives false maxFileSize path (content ++ [lineFeed])) :
    let plain : ScanOptions := { matcher := m, mode := .byLine, maxFileSize }
    let negated : ScanOptions := { matcher := m, mode := .byLineNegated, maxFileSize }
    ∃ report report' verdict verdict' : Report,
      (plain.scan path (.ok file)).result = .scanned path report ∧
      (plain.scan path (.ok file')).result = .scanned path report' ∧
      (negated.scan path (.ok file)).result = .scanned path verdict ∧
      (negated.scan path (.ok file')).result = .scanned path verdict' ∧
      report.block <+: report'.block ∧
      (∃ added, added.length ≤ 1 ∧
        report.block = (Report.matchingLines m path 1 (physicalLines content)).flatten ∧
        report'.block
          = (Report.matchingLines m path 1 (physicalLines content) ++ added).flatten) ∧
      (report.matched → report'.matched) ∧
      (verdict'.matched → verdict.matched ∧ verdict.block = verdict'.block) := by
  intro plain negated
  obtain ⟨added, hone, hadded⟩ := Report.matchingLines_concat_lineFeed m path content
  have hplain := report_lines m false hfile
  have hplain' := report_lines m false hfile'
  have hnegated := report_lines m true hfile
  have hnegated' := report_lines m true hfile'
  simp only [Report.ofLines, Bool.false_eq_true, if_false, Report.byLine_matchingLines, hadded]
    at hplain hplain'
  simp only [Report.ofLines, if_true, Report.byLineNegated_eq, Report.any_lineMatches m path 1,
    hadded] at hnegated hnegated'
  refine ⟨_, _, _, _, result_of_report hplain, result_of_report hplain',
    result_of_report hnegated, result_of_report hnegated', ?_, ⟨added, hone, rfl, rfl⟩, ?_⟩
  · rw [List.flatten_append]
    exact List.prefix_append _ _
  · cases Report.matchingLines m path 1 (physicalLines content) with
    | nil =>
      -- nothing matched, so the path is reported without the line feed
      refine ⟨fun h => by simp at h, fun h => ?_⟩
      cases added with
      | nil => exact ⟨rfl, rfl⟩
      | cons row more => simp [Report.nothing] at h
    | cons row more => exact ⟨fun _ => rfl, fun h => by simp [Report.nothing] at h⟩

/-- Looks for a line that has ended. -/
def endedLine : Matcher :=
  Matcher.ofSearch "\\n" "" fun line =>
    (line.findIdx? (· = lineFeed)).map fun start => { start, stop := start + 1 }

/-- The first line is found either way, the second when it has ended. -/
theorem ScanOptions.ending_keeps_report_second_line :
    let plain : ScanOptions := { matcher := endedLine, mode := .byLine, maxFileSize := .real 1 }
    let file := ScanJob.chunkedFile [[0x61], [0x0A, 0x62]]
    let file' := ScanJob.chunkedFile [[0x61, 0x0A], [0x62], [0x0A]]
    file.Gives false (.real 1) "f" [0x61, 0x0A, 0x62] ∧
    file'.Gives false (.real 1) "f" ([0x61, 0x0A, 0x62] ++ [lineFeed]) ∧
    ∃ report report' : Report,
      (plain.scan "f" (.ok file)).result = .scanned "f" report ∧
      (plain.scan "f" (.ok file')).result = .scanned "f" report' ∧
      report.block <+: report'.block ∧ report.matched ∧ report'.matched := by
  intro plain file file'
  have hfile : file.Gives false (.real 1) "f" [0x61, 0x0A, 0x62] := ⟨rfl, rfl⟩
  have hfile' : file'.Gives false (.real 1) "f" ([0x61, 0x0A, 0x62] ++ [lineFeed]) := ⟨rfl, rfl⟩
  obtain ⟨report, report', -, -, hreport, hreport', -, -, hkept, -, hmatched, -⟩ :=
    ScanOptions.ending_keeps_report endedLine (.real 1) "f" hfile hfile'
  have hfound : report.matched := by
    obtain rfl := (FileResult.scanned.inj hreport).2
    decide
  exact ⟨hfile, hfile', report, report', hreport, hreport', hkept, hfound, hmatched hfound⟩

/-- A line feed may also bring the only match. -/
example :
    (Report.byLine endedLine "f" { lines := physicalLines [0x61] }).toOption
        = some Report.nothing ∧
      (Report.byLineNegated endedLine "f" { lines := physicalLines [0x61, 0x0A] }).toOption
        = some Report.nothing := by
  decide

end FileSearch
