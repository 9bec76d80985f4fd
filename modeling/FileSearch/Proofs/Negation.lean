import FileSearch.Proofs.Grep
import FileSearch.Scan.Plan

/-!
# Negated searches

A negated search reports the path of a file exactly where the plain one reports nothing of it. The
two do not go the same way: line by line, the plain one goes through all lines, while the negated one
leaves off at the first line that matches; on a whole content, one looks for a span and the other
only tests for one. Whatever the content and however it is cut, they come to opposite verdicts
(`ScanJob.negation_inverts`).
-/

namespace FileSearch


-- ---------------------------------------------------------------------------
-- Leaving off at a match
-- ---------------------------------------------------------------------------

namespace Report

variable {m : Matcher}

/-- The negated scan as it goes on: line after line until one matches. Tells how many it took. -/
def negatedLoop (m : Matcher) (path : String) (failure : Option Thrown) :
    List Bytes → Except Thrown Report × Nat
  | [] =>
    match failure with
    | some thrown => (.error thrown, 0)
    | none => (.ok (ofPath path), 0)
  | line :: rest =>
    if lineMatches m line then (.ok nothing, 1)
    else
      let (report, taken) := negatedLoop m path failure rest
      (report, taken + 1)

theorem linesTaken_of_match {line : Bytes} (h : lineMatches m line) (rest : List Bytes) :
    linesTaken .byLineNegated m (line :: rest) = 1 := by
  simp [linesTaken, List.findIdx?_cons, h]

theorem linesTaken_of_no_match {line : Bytes} (h : lineMatches m line = false)
    (rest : List Bytes) :
    linesTaken .byLineNegated m (line :: rest) = linesTaken .byLineNegated m rest + 1 := by
  simp only [linesTaken, List.findIdx?_cons, h]
  cases rest.findIdx? (lineMatches m) <;> rfl

/-- The scan that leaves off reports what one that looks at all lines does. -/
theorem negatedLoop_eq (m : Matcher) (path : String) (s : LineStream) :
    negatedLoop m path s.failure s.lines
      = (byLineNegated m path s, linesTaken .byLineNegated m s.lines) := by
  obtain ⟨lines, failure⟩ := s
  induction lines with
  | nil => cases failure <;> rfl
  | cons line rest ih =>
    cases hmatch : lineMatches m line with
    | true => simp [negatedLoop, byLineNegated, linesTaken_of_match hmatch, hmatch]
    | false =>
      simp only at ih
      simp [negatedLoop, ih, byLineNegated, linesTaken_of_no_match hmatch, hmatch]

/-- The lines it takes are all of them if none matches, and otherwise end with the first that does. -/
theorem linesTaken_cases (m : Matcher) (lines : List Bytes) :
    (lines.any (lineMatches m) = false ∧ linesTaken .byLineNegated m lines = lines.length) ∨
      ∃ before line after, lines = before ++ line :: after ∧
        (∀ l ∈ before, lineMatches m l = false) ∧ lineMatches m line ∧
        linesTaken .byLineNegated m lines = before.length + 1 := by
  induction lines with
  | nil => exact .inl ⟨rfl, rfl⟩
  | cons first rest ih =>
    cases hmatch : lineMatches m first with
    | true => exact .inr ⟨[], first, rest, rfl, by simp, hmatch, linesTaken_of_match hmatch rest⟩
    | false =>
      have htaken := linesTaken_of_no_match hmatch rest
      rcases ih with ⟨hnone, hall⟩ | ⟨before, line, after, rfl, hbefore, hline, hcount⟩
      · left
        refine ⟨by simp [hmatch, hnone], ?_⟩
        rw [htaken, hall, List.length_cons]
      · right
        refine ⟨first :: before, line, after, rfl, ?_, hline, ?_⟩
        · exact List.forall_mem_cons.mpr ⟨hmatch, hbefore⟩
        · rw [htaken, hcount, List.length_cons]

/-- What comes after the lines it takes makes no difference. -/
theorem byLineNegated_take (m : Matcher) (path : String) (lines : List Bytes) :
    byLineNegated m path (LineStream.take { lines } (linesTaken .byLineNegated m lines))
      = byLineNegated m path { lines } := by
  rcases linesTaken_cases m lines with ⟨-, hall⟩ | ⟨before, line, after, rfl, -, hline, hcount⟩
  · simp [LineStream.take, hall]
  · have htake : (before ++ line :: after).take (before.length + 1) = before ++ [line] := by
      rw [List.append_cons, List.take_left' (by simp)]
    simp [LineStream.take, hcount, htake, byLineNegated, hline]

theorem byLineNegated_eq (m : Matcher) (path : String) (lines : List Bytes) :
    byLineNegated m path { lines }
      = .ok (if lines.any (lineMatches m) then nothing else ofPath path) := by
  unfold byLineNegated
  split <;> rfl

theorem matched_wholeFile (m : Matcher) (path : String) (content : Bytes) :
    (wholeFile m path content).matched = (m.search content).isSome := by
  unfold wholeFile
  cases m.search content <;> rfl

/-- A report by a path alone says whether there is a match by being empty or not. -/
theorem block_path_or_nothing (path : String) (found : Bool) :
    let report := if found then nothing else ofPath path
    report.matched = !found ∧
      report.block = if report.matched then utf8 path ++ [lineFeed] else [] := by
  cases found <;> exact ⟨rfl, rfl⟩

end Report


-- ---------------------------------------------------------------------------
-- Matchers and contents
-- ---------------------------------------------------------------------------

/-- A compiled matcher finds a match exactly where its test says that there is one. -/
theorem Matcher.test_compile {pattern : String} {o : MatchOptions} {m : Matcher}
    (h : compile pattern o = .ok m) (haystack : Bytes) :
    m.test haystack = (m.search haystack).isSome := by
  unfold compile at h
  split at h
  · cases h
  · cases h
    rfl

/-- Reading an open file succeeds and gives the content: in chunks, or all at once and within the
limit. -/
def OpenFile.Gives (file : OpenFile) (multiline : Bool) (maxFileSize : Number) (path : String)
    (content : Bytes) : Prop :=
  match multiline with
  | false => file.failure = none ∧ file.chunks.flatten = content
  | true => (file.readLimited maxFileSize path).outcome = .ok content

namespace ScanOptions

variable {maxFileSize : Number} {path : String} {file : OpenFile} {content : Bytes}

theorem lines_of_gives (h : file.Gives false maxFileSize path content) :
    file.lines = { lines := physicalLines content } := by
  obtain ⟨hfailure, hcontent⟩ := h
  rw [OpenFile.lines, hfailure, readLines_eq, hcontent]

theorem result_of_report {o : ScanOptions} {report : Report}
    (h : o.report path file = .ok report) :
    (o.scan path (.ok file)).result = .scanned path report := by
  simp only [scan, result, h]

theorem report_lines (m : Matcher) (negated : Bool)
    (h : file.Gives false maxFileSize path content) :
    ({ matcher := m, mode := .of false negated, maxFileSize } : ScanOptions).report path file
      = Report.ofLines negated m path { lines := physicalLines content } := by
  have hlines := lines_of_gives h
  cases negated <;> simp [report, ScanMode.of, ScanMode.readsLines, ScanMode.negated, hlines]

theorem report_content (m : Matcher) (negated : Bool)
    (h : file.Gives true maxFileSize path content) :
    ({ matcher := m, mode := .of true negated, maxFileSize } : ScanOptions).report path file
      = .ok (Report.ofContent negated m path content) := by
  have hread : (file.readLimited maxFileSize path).outcome = .ok content := h
  cases negated <;> simp [report, ScanMode.of, ScanMode.readsLines, ScanMode.negated, hread]

end ScanOptions


-- ---------------------------------------------------------------------------
-- Two jobs
-- ---------------------------------------------------------------------------

namespace ScanJob

/-- The job of a configuration scans with the matcher of its pattern, in the mode of its flags. -/
theorem options_of_ofConfig {c : Config} {maxFileSize : Number} {policy : FileErrorPolicy}
    {diagnostics : Diagnostics} {log : Log} {job : ScanJob}
    (h : ofConfig c maxFileSize policy diagnostics log = .ok job) :
    ∃ m, Matcher.compile c.pattern c.matchOptions = .ok m ∧
      job.options = { matcher := m, mode := .of c.multiline c.negate, maxFileSize } := by
  unfold ofConfig at h
  split at h
  · cases h
  case h_2 m hm =>
    cases h
    exact ⟨m, hm, rfl⟩

/-- Take a configuration that does not negate, with a pattern that compiles. With the other setting
it has a job too, and on any file whose content both can read, however it is cut for either, they
come to opposite verdicts. The negated report is the path and a line feed, or nothing. Line by line,
the negated scan takes the lines up to the first that matches, or all if none does, and what it
reports does not depend on the lines it leaves. -/
theorem negation_inverts {c : Config} {maxFileSize : Number} {policy : FileErrorPolicy}
    {diagnostics : Diagnostics} {log : Log} {plain : ScanJob}
    (hjob : ofConfig { c with negate := false } maxFileSize policy diagnostics log = .ok plain) :
    ∃ negated, ofConfig { c with negate := true } maxFileSize policy diagnostics log = .ok negated ∧
      ∀ (path : String) (content : Bytes) (file file' : OpenFile),
        file.Gives c.multiline maxFileSize path content →
        file'.Gives c.multiline maxFileSize path content →
        ∃ report report' : Report,
          (plain.options.scan path (.ok file)).result = .scanned path report ∧
          (negated.options.scan path (.ok file')).result = .scanned path report' ∧
          report'.matched = !report.matched ∧
          report'.block = (if report'.matched then utf8 path ++ [lineFeed] else []) ∧
          (c.multiline = false →
            let m := negated.options.matcher
            let lines := physicalLines content
            let taken := Report.linesTaken .byLineNegated m lines
            Report.negatedLoop m path file'.lines.failure file'.lines.lines = (.ok report', taken) ∧
            Report.byLineNegated m path (file'.lines.take taken) = .ok report' ∧
            ((report.matched = false ∧ taken = lines.length) ∨
              ∃ before line after, lines = before ++ line :: after ∧
                (∀ l ∈ before, lineMatches m l = false) ∧ lineMatches m line ∧
                taken = before.length + 1)) := by
  obtain ⟨m, hm, hplain⟩ := options_of_ofConfig hjob
  let c' : Config := { c with negate := true }
  have hm' : Matcher.compile c'.pattern c'.matchOptions = .ok m := hm
  obtain ⟨negated, hnegated⟩ :
      ∃ negated, ofConfig c' maxFileSize policy diagnostics log = .ok negated :=
    ⟨_, by rw [ofConfig, hm']⟩
  have hnegatedOptions :
      negated.options = { matcher := m, mode := .of c.multiline true, maxFileSize } := by
    obtain ⟨m', hsame, hoptions⟩ := options_of_ofConfig hnegated
    obtain rfl : m = m' := Except.ok.inj (hm'.symm.trans hsame)
    exact hoptions
  refine ⟨negated, hnegated, fun path content file file' hfile hfile' => ?_⟩
  rw [hplain, hnegatedOptions]
  cases hmultiline : c.multiline with
  | false =>
    rw [hmultiline] at hfile hfile'
    have hlines' := ScanOptions.lines_of_gives hfile'
    have hreport := ScanOptions.report_lines m false hfile
    have hreport' := ScanOptions.report_lines m true hfile'
    have hany : (physicalLines content).any (Grep.selects m.test)
        = (physicalLines content).any (lineMatches m) :=
      congrArg _ (funext fun line => (lineMatches_eq m line).symm)
    simp only [Report.ofLines, if_false, Bool.false_eq_true, Report.byLine_eq, hany] at hreport
    simp only [Report.ofLines, if_true, Report.byLineNegated_eq] at hreport'
    have hverdict := Report.block_path_or_nothing path ((physicalLines content).any (lineMatches m))
    refine ⟨_, _, ScanOptions.result_of_report hreport, ScanOptions.result_of_report hreport',
      hverdict.1, hverdict.2, fun _ => ⟨?_, ?_, Report.linesTaken_cases m _⟩⟩
    · rw [Report.negatedLoop_eq, hlines', Report.byLineNegated_eq]
    · rw [hlines', Report.byLineNegated_take, Report.byLineNegated_eq]
  | true =>
    rw [hmultiline] at hfile hfile'
    have hreport := ScanOptions.report_content m false hfile
    have hreport' := ScanOptions.report_content m true hfile'
    have hverdict := Report.block_path_or_nothing path (m.test content)
    refine ⟨_, _, ScanOptions.result_of_report hreport, ScanOptions.result_of_report hreport',
      ?_, hverdict.2, fun h => by cases h⟩
    have hplainVerdict := Report.matched_wholeFile m path content
    rw [← Matcher.test_compile hm] at hplainVerdict
    exact hverdict.1.trans (congrArg (!·) hplainVerdict.symm)

/-- Looks for an `a` or an `A`. -/
def letterConfig : Config where
  caseInsensitive := true
  multiline := false
  negate := false
  concurrency := .real 1
  pattern := "a"

/-- A file that is only good for reading in chunks. -/
def chunkedFile (chunks : List Bytes) : OpenFile where
  stat := .error (.value .absent)
  chunks := chunks
  contents := .error (.value .absent)

theorem negation_inverts_second_line :
    let diagnostics : Diagnostics := { enabled := false, detail := .hidden }
    ∃ plain negated report report',
      ofConfig { letterConfig with negate := false } (.real 1) .fail diagnostics {} = .ok plain ∧
      ofConfig { letterConfig with negate := true } (.real 1) .fail diagnostics {} = .ok negated ∧
      (plain.options.scan "f" (.ok (chunkedFile [[0x62], [0x0A, 0x41]]))).result
        = .scanned "f" report ∧
      (negated.options.scan "f" (.ok (chunkedFile [[0x62, 0x0A], [], [0x41]]))).result
        = .scanned "f" report' ∧
      report'.matched = !report.matched := by
  intro diagnostics
  let c : Config := { letterConfig with negate := false }
  have hcompiles : (ofConfig c (.real 1) .fail diagnostics {}).toOption.isSome := by decide +kernel
  cases hplain : ofConfig c (.real 1) .fail diagnostics {} with
  | error failure => simp [hplain, Except.toOption] at hcompiles
  | ok plain =>
    obtain ⟨negated, hnegated, hinverts⟩ := negation_inverts hplain
    obtain ⟨report, report', hreport, hreport', hmatched, -⟩ :=
      hinverts "f" [0x62, 0x0A, 0x41] (chunkedFile [[0x62], [0x0A, 0x41]])
        (chunkedFile [[0x62, 0x0A], [], [0x41]]) ⟨rfl, rfl⟩ ⟨rfl, rfl⟩
    exact ⟨plain, negated, report, report', rfl, hnegated, hreport, hreport', hmatched⟩

end ScanJob

end FileSearch
