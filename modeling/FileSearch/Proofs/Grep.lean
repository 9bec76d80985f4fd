import FileSearch.File.Scan
import FileSearch.Proofs.Lines
import Mathlib.Data.List.DropRight

/-!
# Searching line by line

A search that has all bytes of a file before it picks lines from the list of its physical lines. The
scan sees one chunk after the other and never more than a line at a time, and reports the same.
-/

namespace FileSearch


-- ---------------------------------------------------------------------------
-- The search on a list of lines
-- ---------------------------------------------------------------------------

namespace Grep

/-- A line is selected as it stands or, if a line feed ends it, without that. -/
def selects (test : Bytes → Bool) (line : Bytes) : Bool :=
  test line || (decide (line.getLast? = some lineFeed) && test line.dropLast)

/-- The selected ones of some lines with their numbers, the first of which is `number`. -/
def selectFrom (test : Bytes → Bool) (number : Nat) (lines : List Bytes) : List (Bytes × Nat) :=
  (lines.zipIdx number).filter fun numbered => selects test numbered.1

/-- The line for the output: where it stands, and all of it but its longest ending of carriage
returns and line feeds. -/
def row (path : String) (number : Nat) (line : Bytes) : Bytes :=
  utf8 path ++ utf8 ":" ++ utf8 (toString number) ++ utf8 ":" ++
    line.rdropWhile (fun b => b = lineFeed || b = carriageReturn) ++ [lineFeed]

/-- The output of the search. -/
def output (test : Bytes → Bool) (path : String) (content : Bytes) : Bytes :=
  (selectFrom test 1 (physicalLines content)).flatMap fun (line, number) => row path number line

theorem selectFrom_cons (test : Bytes → Bool) (number : Nat) (line : Bytes) (rest : List Bytes) :
    selectFrom test number (line :: rest) =
      if selects test line then (line, number) :: selectFrom test (number + 1) rest
      else selectFrom test (number + 1) rest := by
  simp [selectFrom, List.filter_cons]

/-- A line without a line feed is looked at as it stands. -/
theorem selects_of_notMem {test : Bytes → Bool} {line : Bytes} (h : lineFeed ∉ line) :
    selects test line = test line := by
  have hlast : line.getLast? ≠ some lineFeed := fun hlast => h (List.mem_of_getLast? hlast)
  simp [selects, hlast]

theorem any_selects (test : Bytes → Bool) (number : Nat) (lines : List Bytes) :
    lines.any (selects test) = !(selectFrom test number lines).isEmpty := by
  induction lines generalizing number with
  | nil => rfl
  | cons line rest ih =>
    rw [List.any_cons, selectFrom_cons, ih (number + 1)]
    cases selects test line with
    | false => simp
    | true => simp

end Grep


-- ---------------------------------------------------------------------------
-- The scan
-- ---------------------------------------------------------------------------

/-- Only a line that had a line feed is looked at a second time. -/
theorem lineMatches_eq (m : Matcher) (line : Bytes) :
    lineMatches m line = Grep.selects m.test line := by
  unfold lineMatches stripLineFeed Grep.selects
  by_cases hlast : line.getLast? = some lineFeed
  · have hne : line ≠ [] := by
      rintro rfl
      simp at hlast
    have hshorter : (line.dropLast.length != line.length) = true := by
      have := List.length_pos_of_ne_nil hne
      rw [bne_iff_ne, List.length_dropLast]
      omega
    simp only [hlast, if_true, hshorter, Bool.true_and, decide_true]
  · simp [hlast]

namespace Report

theorem line_eq (path : String) (number : Nat) (l : Bytes) :
    line path number (stripLineEnding l) = Grep.row path number l := by
  have hstrip :
      stripLineEnding l = l.rdropWhile (fun b => b = lineFeed || b = carriageReturn) := rfl
  simp only [line, Grep.row, utf8_append, hstrip]

theorem matchingLines_eq (m : Matcher) (path : String) (number : Nat) (lines : List Bytes) :
    matchingLines m path number lines =
      (Grep.selectFrom m.test number lines).map fun (l, k) => Grep.row path k l := by
  induction lines generalizing number with
  | nil => rfl
  | cons l rest ih =>
    rw [matchingLines, lineMatches_eq, Grep.selectFrom_cons, ih (number + 1), line_eq]
    split <;> rfl

theorem byLine_eq (m : Matcher) (path : String) (content : Bytes) :
    byLine m path { lines := physicalLines content } =
      .ok
        { matched := (physicalLines content).any (Grep.selects m.test)
          block := Grep.output m.test path content } := by
  simp only [byLine, matchingLines_eq, Grep.output, Grep.any_selects m.test 1]
  cases Grep.selectFrom m.test 1 (physicalLines content) with
  | nil => rfl
  | cons first more => simp [List.flatMap_def]

end Report

/-- However a file arrives in chunks, a scan of it line by line comes to the output of the search
through its bytes, and to a match if any line is selected. -/
theorem ScanOptions.scan_byLine (m : Matcher) (maxFileSize : Number) (path : String)
    (file : OpenFile) (chunks : List Bytes) :
    (({ matcher := m, mode := .byLine, maxFileSize } : ScanOptions).scan path
        (.ok { file with chunks, failure := none })).result =
      .scanned path
        { matched := (physicalLines chunks.flatten).any (Grep.selects m.test)
          block := Grep.output m.test path chunks.flatten } := by
  have hreport :
      ({ matcher := m, mode := .byLine, maxFileSize } : ScanOptions).report path
          { file with chunks, failure := none } =
        Report.byLine m path (readLines chunks none) := rfl
  simp only [scan, result, hreport, readLines_eq, Report.byLine_eq]

end FileSearch
