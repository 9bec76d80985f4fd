import FileSearch.Proofs.Blocks
import FileSearch.Proofs.Literal
import FileSearch.Proofs.Negation
import FileSearch.Proofs.WholeFile

/-!
# Literals line by line and on the whole content

A literal without a line feed lies on one line. So a search that goes from line to line stops at the
line on which the search of the whole content has its span, and the line feeds before that span are as
many as the lines before that line (`ScanJob.modes_agree_on_literals`).
-/

namespace FileSearch


-- ---------------------------------------------------------------------------
-- Occurrences by their bytes
-- ---------------------------------------------------------------------------

/-- Only a line feed stands for a line feed. -/
theorem SameLetter.eq_lineFeed {fold : Bool} {a : UInt8} (h : SameLetter fold a lineFeed) :
    a = lineFeed := by
  have hbytes : ∀ n < 0x100, lineFeed = swapCase (.ofNat n) → n = lineFeed.toNat := by
    decide +kernel
  rcases h with h | ⟨-, h⟩
  · exact h.symm
  · have hvalue := hbytes a.toNat a.toNat_lt
    rw [UInt8.ofNat_toNat] at hvalue
    exact UInt8.toNat_inj.mp (hvalue h)

theorem lineFeed_notMem_of_same {fold : Bool} {needle found : Bytes}
    (h : List.Forall₂ (SameLetter fold) needle found) (hfeed : lineFeed ∉ needle) :
    lineFeed ∉ found := by
  induction h with
  | nil => simp
  | @cons a b needle found hab _ ih =>
    rw [List.mem_cons, not_or] at hfeed ⊢
    refine ⟨?_, ih hfeed.2⟩
    rintro rfl
    exact hfeed.1 hab.eq_lineFeed.symm

section Occurrences

variable {fold : Bool} {needle haystack body rest : Bytes} {offset : Nat}

theorem occursAt_iff :
    OccursAt fold needle haystack offset ↔
      ∀ (i : Nat) (a : UInt8), needle[i]? = some a →
        ∃ b, haystack[offset + i]? = some b ∧ SameLetter fold a b := by
  rw [occursAt_iff_takenAt]
  unfold Regex.TakenAt Regex.TakenUpTo
  simp only [List.length_map, List.getElem?_map]
  constructor
  · intro h i a ha
    obtain ⟨set, b, hset, hb, hcontains⟩ := h i (List.getElem?_eq_some_iff.mp ha).1
    rw [ha] at hset
    cases hset
    exact ⟨b, hb, (contains_byteSet fold a b).mp hcontains⟩
  · intro h i hi
    obtain ⟨b, hb, hsame⟩ := h i _ (List.getElem?_eq_getElem hi)
    refine ⟨_, b, ?_, hb, (contains_byteSet fold _ b).mpr hsame⟩
    rw [List.getElem?_eq_getElem hi]
    rfl

theorem OccursAt.le_length (h : OccursAt fold needle haystack offset) (hne : needle ≠ []) :
    offset + needle.length ≤ haystack.length := by
  have htaken := ((occursAt_iff_takenAt fold needle haystack offset).mp h).le_length (by simpa)
  simpa using htaken

/-- An occurrence of bytes none of which is a line feed does not go over one. -/
theorem OccursAt.ne_lineFeed (h : OccursAt fold needle haystack offset) (hfeed : lineFeed ∉ needle)
    {i : Nat} (hi : i < needle.length) : haystack[offset + i]? ≠ some lineFeed := by
  intro hlineFeed
  obtain ⟨b, hb, hsame⟩ := occursAt_iff.mp h i _ (List.getElem?_eq_getElem hi)
  obtain rfl : lineFeed = b := Option.some.inj (hlineFeed.symm.trans hb)
  exact hfeed (hsame.eq_lineFeed ▸ List.getElem_mem hi)

theorem OccursAt.append_left (h : OccursAt fold needle body offset) (more : Bytes) :
    OccursAt fold needle (body ++ more) offset := by
  rw [occursAt_iff] at h ⊢
  intro i a ha
  obtain ⟨b, hb, hsame⟩ := h i a ha
  exact ⟨b, by rw [List.getElem?_append_left (List.getElem?_eq_some_iff.mp hb).1, hb], hsame⟩

/-- What occurs behind the first bytes occurs in the rest. -/
theorem occursAt_append_right (front : Bytes) :
    OccursAt fold needle (front ++ rest) (front.length + offset)
      ↔ OccursAt fold needle rest offset := by
  rw [OccursAt, List.drop_length_add_append, OccursAt]

/-- An occurrence lies on one side of a line feed. -/
theorem occursAt_append_lineFeed (hfeed : lineFeed ∉ needle) :
    OccursAt fold needle (body ++ lineFeed :: rest) offset ↔
      OccursAt fold needle body offset ∨
        ∃ i, offset = body.length + 1 + i ∧ OccursAt fold needle rest i := by
  have hsplit : body ++ lineFeed :: rest = body ++ [lineFeed] ++ rest := by simp
  constructor
  · intro h
    rcases Nat.lt_or_ge body.length offset with hbehind | hbefore
    · right
      obtain ⟨i, rfl⟩ := Nat.exists_eq_add_of_le hbehind
      refine ⟨i, rfl, ?_⟩
      rw [hsplit] at h
      exact (occursAt_append_right (body ++ [lineFeed])).mp (by simpa using h)
    · left
      -- were it longer than the rest of the line, it would hold the line feed
      have hfits : offset + needle.length ≤ body.length := by
        by_contra hover
        refine h.ne_lineFeed hfeed (show body.length - offset < needle.length by omega) ?_
        simp [Nat.add_sub_cancel' hbefore]
      rw [occursAt_iff] at h ⊢
      intro i a ha
      obtain ⟨b, hb, hsame⟩ := h i a ha
      have hi := (List.getElem?_eq_some_iff.mp ha).1
      rw [List.getElem?_append_left (by omega)] at hb
      exact ⟨b, hb, hsame⟩
  · rintro (h | ⟨i, rfl, h⟩)
    · exact h.append_left _
    · rw [hsplit]
      simpa using (occursAt_append_right (body ++ [lineFeed])).mpr h

/-- Nothing occurs in two lines if nothing occurs in either. -/
theorem not_occursAt_append_lineFeed (hfeed : lineFeed ∉ needle)
    (hbody : ∀ offset, ¬ OccursAt fold needle body offset)
    (hrest : ∀ offset, ¬ OccursAt fold needle rest offset) (offset : Nat) :
    ¬ OccursAt fold needle (body ++ lineFeed :: rest) offset := by
  rw [occursAt_append_lineFeed hfeed]
  rintro (h | ⟨i, -, h⟩)
  · exact hbody offset h
  · exact hrest i h

theorem not_occursAt_nil (hne : needle ≠ []) (offset : Nat) : ¬ OccursAt fold needle [] offset := by
  intro h
  have hend := h.le_length hne
  rw [List.length_nil, Nat.le_zero, Nat.add_eq_zero_iff, List.length_eq_zero_iff] at hend
  exact hne hend.2

end Occurrences


-- ---------------------------------------------------------------------------
-- Line feeds before an offset
-- ---------------------------------------------------------------------------

theorem count_take_of_notMem {body : Bytes} (hbody : lineFeed ∉ body) (start : Nat) :
    (body.take start).count lineFeed = 0 :=
  List.count_eq_zero.mpr fun hmem => hbody (List.mem_of_mem_take hmem)

/-- Behind the first line there is one line feed more than in the rest alone. -/
theorem count_take_behind {body : Bytes} (hbody : lineFeed ∉ body) (rest : Bytes) (start : Nat) :
    ((body ++ lineFeed :: rest).take (body.length + 1 + start)).count lineFeed
      = (rest.take start).count lineFeed + 1 := by
  have htake : (body ++ lineFeed :: rest).take (body.length + 1 + start)
      = body ++ lineFeed :: rest.take start := by
    rw [Nat.add_assoc, List.take_length_add_append, Nat.add_comm 1, List.take_succ_cons]
  rw [htake, List.count_append, List.count_eq_zero.mpr hbody, List.count_cons_self, Nat.zero_add]


-- ---------------------------------------------------------------------------
-- The first line
-- ---------------------------------------------------------------------------

section FirstLine

variable {fold : Bool} {needle body rest : Bytes} {start : Nat}
  (hfeed : lineFeed ∉ needle) (hne : needle ≠ [])

include hfeed

/-- Behind a line without any occurrence, the first one is the first of the rest. -/
theorem isLeast_behind (hnone : ∀ offset, ¬ OccursAt fold needle body offset)
    (h : IsLeast {offset | OccursAt fold needle rest offset} start) :
    IsLeast {offset | OccursAt fold needle (body ++ lineFeed :: rest) offset}
      (body.length + 1 + start) := by
  refine ⟨(occursAt_append_lineFeed hfeed).mpr (.inr ⟨start, rfl, h.1⟩), fun offset hoffset => ?_⟩
  rcases (occursAt_append_lineFeed hfeed).mp hoffset with hbody | ⟨i, rfl, hi⟩
  · exact absurd hbody (hnone offset)
  · exact Nat.add_le_add_left (h.2 hi) _

include hne

/-- The first occurrence in a line is the first one. -/
theorem isLeast_inside (h : IsLeast {offset | OccursAt fold needle body offset} start) :
    IsLeast {offset | OccursAt fold needle (body ++ lineFeed :: rest) offset} start := by
  refine ⟨h.1.append_left _, fun offset hoffset => ?_⟩
  rcases (occursAt_append_lineFeed hfeed).mp hoffset with hbody | ⟨i, rfl, -⟩
  · exact h.2 hbody
  · have hend := OccursAt.le_length h.1 hne
    omega

variable {m : Matcher} (hfinds : ∀ haystack, FindsFirst fold needle haystack (m.search haystack))
  (htest : ∀ haystack, m.test haystack = (m.search haystack).isSome)

include hfinds htest

/-- The line feed of a line makes no difference to whether it is selected. -/
theorem selects_lineFeed (body : Bytes) :
    Grep.selects m.test (body ++ [lineFeed]) = (m.search body).isSome := by
  have hsame : (m.search (body ++ [lineFeed])).isSome = (m.search body).isSome := by
    rw [Bool.eq_iff_iff, (hfinds _).isSome_iff, (hfinds _).isSome_iff]
    simp [occursAt_append_lineFeed hfeed, not_occursAt_nil hne]
  simp [Grep.selects, htest, hsame]

omit hfeed in
/-- A line that does not end is selected if something occurs in it. -/
theorem selectFrom_unended (number : Nat) (hbody : lineFeed ∉ body) :
    Grep.selectFrom m.test number (physicalLines body)
      = if (m.search body).isSome then [(body, number)] else [] := by
  rw [physicalLines_of_notMem hbody]
  cases body with
  | nil =>
    have hnone : m.search [] = none := (hfinds []).eq_none_iff.mpr (not_occursAt_nil hne)
    rw [hnone]
    rfl
  | cons b more =>
    rw [if_neg (by simp), Grep.selectFrom_cons, Grep.selects_of_notMem hbody, htest]
    rfl

/-- The first line that is selected is the one on which the first occurrence is, and its number is
told by the line feeds before that. -/
theorem selectFrom_first (number : Nat) (content : Bytes) :
    (m.search content = none ∧ Grep.selectFrom m.test number (physicalLines content) = []) ∨
      ∃ s line more, m.search content = some s ∧
        Grep.selectFrom m.test number (physicalLines content)
          = (line, number + (content.take s.start).count lineFeed) :: more := by
  -- Induction on the lines; the number of the next line to be looked at carries it.
  induction content using lines_induction generalizing number with
  | last body hbody =>
    rw [selectFrom_unended hne hfinds htest number hbody]
    cases hsearch : m.search body with
    | none => exact .inl ⟨rfl, rfl⟩
    | some s => exact .inr ⟨s, body, [], rfl, by rw [count_take_of_notMem hbody]; rfl⟩
  | line body rest hbody ih =>
    have hwhole := hfinds (body ++ lineFeed :: rest)
    rw [physicalLines_append_lineFeed hbody, Grep.selectFrom_cons,
      selects_lineFeed hfeed hne hfinds htest]
    cases hsearch : m.search body with
    | none =>
      have hnone := (hfinds body).eq_none_iff.mp hsearch
      rw [Option.isSome_none, if_neg (by simp)]
      rcases ih (number + 1) with ⟨hrest, hselected⟩ | ⟨s, line, more, hrest, hselected⟩
      · have hnothing := (hfinds rest).eq_none_iff.mp hrest
        exact .inl ⟨hwhole.eq_none_iff.mpr (not_occursAt_append_lineFeed hfeed hnone hnothing),
          hselected⟩
      · have hleast := isLeast_behind hfeed hnone (((hfinds rest).eq_some_iff s).mp hrest).1
        refine .inr ⟨_, line, more, hwhole.eq_some_of_least hleast, ?_⟩
        rw [hselected, count_take_behind hbody, Nat.add_assoc, Nat.add_comm 1]
    | some s =>
      have hinside := (((hfinds body).eq_some_iff s).mp hsearch).1
      have hleast : IsLeast {offset | OccursAt fold needle (body ++ lineFeed :: rest) offset} s.start :=
        isLeast_inside hfeed hne hinside
      have hend := OccursAt.le_length hinside.1 hne
      refine .inr ⟨_, body ++ [lineFeed], Grep.selectFrom m.test (number + 1) (physicalLines rest),
        hwhole.eq_some_of_least hleast, ?_⟩
      rw [Option.isSome_some, if_pos rfl,
        List.take_append_of_le_length ((Nat.le_add_right _ _).trans hend),
        count_take_of_notMem hbody]
      rfl

/-- Both reports tell of a match or neither does, and give the same number first. -/
theorem reports_agree {m' : Matcher} (hsame : m'.search = m.search) (path : String)
    (content : Bytes) :
    ∃ report, Report.byLine m path { lines := physicalLines content } = .ok report ∧
      report.matched = (Report.wholeFile m' path content).matched ∧
      (report.matched = true →
        ∃ start shown shown' more,
          IsLeast {offset | OccursAt fold needle content offset} start ∧
          lineFeed ∉ shown ∧ lineFeed ∉ shown' ∧
          let number := (content.take start).count lineFeed + 1
          report.block = Report.line path number shown ++ more ∧
          (Report.wholeFile m' path content).block = Report.line path number shown') := by
  refine ⟨_, Report.byLine_eq m path content, ?_⟩
  simp only [Grep.any_selects m.test 1, Grep.output, Report.wholeFile, hsame]
  rcases selectFrom_first hfeed hne hfinds htest 1 content with
    ⟨hsearch, hselected⟩ | ⟨s, line, more, hsearch, hselected⟩
  · rw [hselected, hsearch]
    exact ⟨rfl, fun h => by cases h⟩
  · obtain ⟨hleast, hstop⟩ := ((hfinds content).eq_some_iff s).mp hsearch
    have hline : line ∈ physicalLines content := by
      have hmem : (line, 1 + (content.take s.start).count lineFeed)
          ∈ Grep.selectFrom m.test 1 (physicalLines content) := by
        rw [hselected]
        exact List.mem_cons_self
      exact List.fst_mem_of_mem_zipIdx (List.mem_filter.mp hmem).1
    have hend := OccursAt.le_length hleast.1 hne
    obtain ⟨cut, hcut, -⟩ := Report.exists_cut (show s.start ≤ s.stop by omega)
      (show s.stop ≤ content.length by omega)
    have htext := lineFeed_notMem_of_same ((hfinds content).text hsearch) hfeed
    rw [hselected, hsearch]
    refine ⟨rfl, fun _ => ⟨s.start, stripLineEnding line, Report.matchedLines content s,
      more.flatMap fun entry => Grep.row path entry.2 entry.1, hleast, ?_, ?_, ?_, rfl⟩⟩
    · exact Grep.lineFeed_notMem_stripLineEnding (physicalLines_shape line hline).2
    · simp [hcut, SpanCut.body, cut.notMem_head, htext, cut.notMem_tail]
    · rw [List.flatMap_cons, Report.line_eq, Nat.add_comm]

end FirstLine


-- ---------------------------------------------------------------------------
-- Two modes
-- ---------------------------------------------------------------------------

namespace ScanJob

/-- For a literal pattern without a line feed there is a job for either mode or for none, and then
for the same reason. On a file whose content both can read, however it is cut, both report a match
or neither does. The first line of the report by lines and the report on the whole then give the same
number: that of the line on which the first occurrence begins. -/
theorem modes_agree_on_literals {c : Config} (maxFileSize : Number) (policy : FileErrorPolicy)
    (diagnostics : Diagnostics) (log : Log) (hne : c.pattern ≠ "") (hliteral : IsLiteral c.pattern)
    (hfeed : '\n' ∉ c.pattern.toList) :
    let job (multiline : Bool) :=
      ofConfig { c with multiline, negate := false } maxFileSize policy diagnostics log
    (∃ failure, job false = .error failure ∧ job true = .error failure) ∨
      ∃ byLine wholeFile, job false = .ok byLine ∧ job true = .ok wholeFile ∧
        ∀ (path : String) (content : Bytes) (file file' : OpenFile),
          file.Gives false maxFileSize path content →
          file'.Gives true maxFileSize path content →
          ∃ report report' : Report,
            (byLine.options.scan path (.ok file)).result = .scanned path report ∧
            (wholeFile.options.scan path (.ok file')).result = .scanned path report' ∧
            report.matched = report'.matched ∧
            (report.matched = true →
              ∃ start shown shown' more,
                IsLeast {offset | OccursAt c.caseInsensitive (utf8 c.pattern) content offset} start ∧
                lineFeed ∉ shown ∧ lineFeed ∉ shown' ∧
                let number := (content.take start).count lineFeed + 1
                report.block = Report.line path number shown ++ more ∧
                report'.block = Report.line path number shown') := by
  intro job
  have hne' : utf8 c.pattern ≠ [] := by
    simpa [byteView] using byteView_utf8_ne_nil hne
  have hcompile (multiline : Bool) := Matcher.compile_literal hne hliteral
    { caseInsensitive := c.caseInsensitive, multiline }
  by_cases hlarge : (literalExpr c.caseInsensitive c.pattern).isTooLarge
  · left
    refine ⟨Matcher.refuse c.pattern .tooLarge, ?_, ?_⟩ <;>
      simp only [job, ofConfig, Config.matchOptions, hcompile, if_pos hlarge]
  · right
    simp only [job, ofConfig, Config.matchOptions, hcompile, if_neg hlarge]
    refine ⟨_, _, rfl, rfl, fun path content file file' hfile hfile' => ?_⟩
    let matcher (multiline : Bool) : Matcher :=
      .ofSearch c.pattern (MatchOptions.flags { caseInsensitive := c.caseInsensitive, multiline })
        (literalSearch c.caseInsensitive (utf8 c.pattern))
    have hfinds := literalSearch_finds c.caseInsensitive (utf8 c.pattern)
    obtain ⟨report, hreport, hmatched, hfirst⟩ :=
      reports_agree (m := matcher false) (lineFeed_notMem_utf8 hfeed) hne' hfinds (fun _ => rfl)
        (show (matcher true).search = (matcher false).search from rfl) path content
    refine ⟨report, _, ?_, ?_, hmatched, hfirst⟩
    · exact ScanOptions.result_of_report ((ScanOptions.report_lines _ false hfile).trans hreport)
    · exact ScanOptions.result_of_report (ScanOptions.report_content _ false hfile')

theorem modes_agree_on_literals_second_line :
    let diagnostics : Diagnostics := { enabled := false, detail := .hidden }
    let job (multiline : Bool) :=
      ofConfig { letterConfig with multiline, negate := false } (.real 9) .fail diagnostics {}
    letterConfig.pattern ≠ "" ∧ IsLiteral letterConfig.pattern ∧
      '\n' ∉ letterConfig.pattern.toList ∧
      ∃ byLine wholeFile report report', job false = .ok byLine ∧ job true = .ok wholeFile ∧
        (byLine.options.scan "f" (.ok (chunkedFile [[0x62], [0x0A, 0x41]]))).result
          = .scanned "f" report ∧
        (wholeFile.options.scan "f" (.ok (OpenFile.ofContents [0x62, 0x0A, 0x41]))).result
          = .scanned "f" report' ∧
        report.matched = report'.matched := by
  intro diagnostics job
  refine ⟨by decide, by decide, by decide, ?_⟩
  have hcompiles : (job false).toOption.isSome := by decide +kernel
  rcases modes_agree_on_literals (c := letterConfig) (.real 9) .fail diagnostics {} (by decide)
    (by decide) (by decide) with ⟨failure, hfailure, -⟩ | ⟨byLine, wholeFile, hline, hwhole, hagree⟩
  · simp [job, hfailure, Except.toOption] at hcompiles
  · have hgives : (OpenFile.ofContents [0x62, 0x0A, 0x41]).Gives true (.real 9) "f"
        [0x62, 0x0A, 0x41] := by
      have hread : ((OpenFile.ofContents [0x62, 0x0A, 0x41]).readLimited (.real 9) "f").outcome.toOption
          = some [0x62, 0x0A, 0x41] := by decide +kernel
      change LimitedRead.outcome _ = _
      cases houtcome : LimitedRead.outcome _ <;> simp_all [Except.toOption]
    obtain ⟨report, report', hreport, hreport', hmatched, -⟩ :=
      hagree "f" [0x62, 0x0A, 0x41] (chunkedFile [[0x62], [0x0A, 0x41]])
        (OpenFile.ofContents [0x62, 0x0A, 0x41]) ⟨rfl, rfl⟩ hgives
    exact ⟨byLine, wholeFile, report, report', hline, hwhole, hreport, hreport', hmatched⟩

end ScanJob

end FileSearch
