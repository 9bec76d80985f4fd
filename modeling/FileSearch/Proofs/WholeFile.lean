import FileSearch.Proofs.Grep
import FileSearch.Proofs.Pieces

/-!
# The report of a search over the whole content

The block of a whole file shows one run of its bytes: from the beginning of the line the match
begins on to the end of the match, or of that line where the match ends on it. It is put together
from two computations, the line around the start of the match and the pieces of the matched text.
They fit because the first piece of the matched text is the rest of that line.
-/

namespace FileSearch


-- ---------------------------------------------------------------------------
-- Cuts
-- ---------------------------------------------------------------------------

/-- A content cut around a span: the lines before the one the span begins on, this line up to the
span, what is left of it behind a span that ends on it, and everything else. -/
structure SpanCut (content : Bytes) (s : Regex.Span) where
  before : Bytes
  head : Bytes
  tail : Bytes
  after : Bytes
  content_eq : content = before ++ (head ++ s.text content ++ tail) ++ after
  start_eq : (before ++ head).length = s.start
  stop_eq : (before ++ head ++ s.text content).length = s.stop
  endsLines_before : EndsLines before
  notMem_head : lineFeed ∉ head
  tail_eq_nil : lineFeed ∈ s.text content → tail = []
  notMem_tail : lineFeed ∉ tail
  endsBefore_after : lineFeed ∉ s.text content → EndsBefore after

namespace SpanCut

variable {content : Bytes} {s : Regex.Span}

/-- The first line and the match. -/
def body (cut : SpanCut content s) : Bytes := cut.head ++ s.text content ++ cut.tail

end SpanCut

namespace Report

variable {content : Bytes} {s : Regex.Span}

theorem drop_start_eq (content : Bytes) {s : Regex.Span} (hstart : s.start ≤ s.stop) :
    content.drop s.start = s.text content ++ content.drop s.stop := by
  have hsum : s.start + (s.stop - s.start) = s.stop := by omega
  rw [Regex.Span.text, ← hsum, ← List.drop_drop, Nat.add_sub_cancel_left,
    List.take_append_drop]

variable {before head tail after : Bytes} (htake : content.take s.start = before ++ head)
  (hbefore : EndsLines before) (hhead : lineFeed ∉ head) (hstart : s.start ≤ s.stop)

include htake hbefore hhead hstart

/-- The first line ends inside the match, where the first piece of the match ends. -/
theorem matchedLines_of_mem (hmem : lineFeed ∈ s.text content) :
    matchedLines content s = head ++ s.text content ∧
      lineAt content s.start <+: head ++ s.text content := by
  obtain ⟨first, rest, htext, hfirst, hrest⟩ := exists_append_endsBefore (s.text content)
  have hne : rest ≠ [] := by
    rintro rfl
    rw [htext, List.append_nil] at hmem
    exact hfirst hmem
  obtain ⟨more, rfl⟩ := List.head?_eq_some_iff.mp (hrest.resolve_left hne)
  have hdrop : content.drop s.start = first ++ (lineFeed :: more ++ content.drop s.stop) := by
    rw [drop_start_eq content hstart, htext, List.append_assoc]
  have hline : lineAt content s.start = head ++ first :=
    lineAt_eq htake hdrop hbefore hhead hfirst (.inr rfl)
  have hpieces : splitLines (s.text content) = first :: splitLines more := by
    rw [htext, splitLines_append_lineFeed hfirst]
  constructor
  · rw [matchedLines, hline, hpieces, List.drop_one, List.tail_cons, joinLines_append_cons,
      ← hpieces, joinLines_splitLines]
  · rw [hline, htext, ← List.append_assoc]
    exact List.prefix_append _ _

/-- A match without a line feed ends on its first line. -/
theorem matchedLines_of_notMem (hdrop : content.drop s.stop = tail ++ after)
    (htail : lineFeed ∉ tail) (hafter : EndsBefore after) (hmem : lineFeed ∉ s.text content) :
    matchedLines content s = head ++ s.text content ++ tail ∧
      lineAt content s.start = head ++ s.text content ++ tail := by
  have hrest : lineFeed ∉ s.text content ++ tail := by simp [hmem, htail]
  have hline : lineAt content s.start = head ++ (s.text content ++ tail) := by
    refine lineAt_eq htake ?_ hbefore hhead hrest hafter
    rw [Int.toNat_natCast, drop_start_eq content hstart, hdrop, List.append_assoc]
  rw [matchedLines, splitLines_of_notMem hmem, List.drop_one, List.tail_cons, joinLines,
    List.intercalate_singleton, hline, List.append_assoc]
  exact ⟨rfl, rfl⟩

omit htake hbefore hhead

/-- The lines of a match are the content between the ends of a cut. -/
theorem exists_cut (hstop : s.stop ≤ content.length) :
    ∃ cut : SpanCut content s, matchedLines content s = cut.body ∧
      lineAt content s.start <+: cut.body := by
  obtain ⟨before, head, htake, hbefore, hhead⟩ := exists_lines_append (content.take s.start)
  have hcontent : content = before ++ head ++ (s.text content ++ content.drop s.stop) := by
    rw [← htake, ← drop_start_eq content hstart, List.take_append_drop]
  have hstartEq : (before ++ head).length = s.start := by
    rw [← htake, List.length_take]
    omega
  have hstopEq : (before ++ head ++ s.text content).length = s.stop := by
    rw [List.length_append, hstartEq, Regex.Span.text, List.length_take, List.length_drop]
    omega
  by_cases hmem : lineFeed ∈ s.text content
  · obtain ⟨hlines, hbegins⟩ := matchedLines_of_mem htake hbefore hhead hstart hmem
    refine ⟨{
      before, head, tail := [], after := content.drop s.stop
      content_eq := by simpa using hcontent
      start_eq := hstartEq, stop_eq := hstopEq
      endsLines_before := hbefore, notMem_head := hhead
      tail_eq_nil := fun _ => rfl, notMem_tail := by simp
      endsBefore_after := fun h => absurd hmem h }, ?_, ?_⟩
    · rw [SpanCut.body, List.append_nil, hlines]
    · rw [SpanCut.body, List.append_nil]
      exact hbegins
  · obtain ⟨tail, after, hdrop, htail, hafter⟩ := exists_append_endsBefore (content.drop s.stop)
    obtain ⟨hlines, hline⟩ :=
      matchedLines_of_notMem htake hbefore hhead hstart hdrop htail hafter hmem
    refine ⟨{
      before, head, tail, after
      content_eq := by
        rw [hdrop] at hcontent
        simpa using hcontent
      start_eq := hstartEq, stop_eq := hstopEq
      endsLines_before := hbefore, notMem_head := hhead
      tail_eq_nil := fun h => absurd h hmem, notMem_tail := htail
      endsBefore_after := fun _ => hafter }, hlines, ?_⟩
    rw [hline]
    exact List.prefix_rfl


-- ---------------------------------------------------------------------------
-- The report
-- ---------------------------------------------------------------------------

omit hstart

/-- Where the search finds a span inside the content, the report is the path, the number of the line
the span begins on and one run of the bytes of the content, with colons between them and a line feed
at the end. The run begins where that line begins and holds all of it, and holds the match. It ends
with the match if this has a line feed, else with the line, whose line feed is left out. -/
theorem wholeFile_eq_slice (m : Matcher) (path : String) {content : Bytes} {s : Regex.Span}
    (hsearch : m.search content = some s) (hstart : s.start ≤ s.stop)
    (hstop : s.stop ≤ content.length) :
    ∃ (cut : SpanCut content s) (line : Bytes),
      let before := (content.take s.start).count lineFeed
      (splitLines content)[before]? = some line ∧ line <+: cut.body ∧
      wholeFile m path content = {
        matched := true
        block := utf8 path ++ utf8 ":" ++ utf8 (toString (before + 1)) ++ utf8 ":" ++
          cut.body ++ [lineFeed] } := by
  obtain ⟨cut, hlines, hbegins⟩ := exists_cut hstart hstop
  refine ⟨cut, lineAt content s.start, ?_, hbegins, ?_⟩
  · exact getElem?_splitLines_countLineFeeds content s.start
  · simp [wholeFile, hsearch, line, hlines, countLineFeeds, utf8_append]

/-- Finds the first `c` and all bytes up to the `d` after it. -/
def fromCToD : Matcher :=
  Matcher.ofSearch "c.*?d" "ms" fun content =>
    (content.findIdx? (· = 0x63)).bind fun start =>
      ((content.drop start).findIdx? (· = 0x64)).map fun length =>
        { start, stop := start + length + 1 }

/-- The match begins in the middle of a line, goes over its end and stops inside the next one. -/
theorem wholeFile_eq_slice_over_line_end :
    let content : Bytes := [0x61, 0x0A, 0x62, 0x63, 0x0A, 0x64, 0x65, 0x0A]
    fromCToD.search content = some { start := 3, stop := 6 } ∧ 3 ≤ 6 ∧ 6 ≤ content.length ∧
      ∃ (cut : SpanCut content { start := 3, stop := 6 }) (line : Bytes),
        (splitLines content)[1]? = some line ∧ line <+: cut.body ∧
        wholeFile fromCToD "f" content = {
          matched := true
          block := utf8 "f" ++ utf8 ":" ++ utf8 (toString 2) ++ utf8 ":" ++ cut.body ++
            [lineFeed] } := by
  intro content
  have hsearch : fromCToD.search content = some { start := 3, stop := 6 } := by decide
  exact ⟨hsearch, by decide, by decide,
    wholeFile_eq_slice fromCToD "f" hsearch (by decide) (by decide)⟩

end Report

end FileSearch
