import FileSearch.Proofs.Grep
import FileSearch.Proofs.Results
import FileSearch.Proofs.Text.Decimal

/-!
# Report blocks

A block that holds anything begins with the path of its file and ends in a line feed, so blocks put
one after the other are lines. A block of a search line by line can be read back: each of its lines
is a path, a number and a content with colons between them, and the path is known, the number has
digits only, and no content holds a line feed.
-/

namespace FileSearch


-- ---------------------------------------------------------------------------
-- Blocks of any mode
-- ---------------------------------------------------------------------------

namespace Report

variable {path : String}

/-- A report of a matched file begins with its path and ends in a line feed. -/
def Framed (path : String) (r : Report) : Prop :=
  r.matched → utf8 path <+: r.block ∧ r.block.getLast? = some lineFeed

theorem prefix_line (path : String) (number : Nat) (content : Bytes) :
    utf8 path <+: line path number content := by
  simp only [line, utf8_append, List.append_assoc]
  exact List.prefix_append _ _

theorem getLast?_line (path : String) (number : Nat) (content : Bytes) :
    (line path number content).getLast? = some lineFeed := by
  simp [line]

theorem Form.framed {r : Report} (h : Form path r) : Framed path r := by
  cases h with
  | nothing => simp [Framed, Report.nothing]
  | ofPath => simp [Framed, Report.ofPath]
  | @lines parts hne hparts =>
    refine fun _ => ⟨?starts, ?ends⟩
    case starts =>
      obtain ⟨first, rest, rfl⟩ := List.exists_cons_of_ne_nil hne
      obtain ⟨number, content, rfl⟩ := hparts first List.mem_cons_self
      exact (prefix_line path number content).trans (List.prefix_append _ _)
    case ends =>
      obtain ⟨init, last, rfl⟩ := (List.eq_nil_or_concat parts).resolve_left hne
      obtain ⟨number, content, rfl⟩ := hparts last (by simp)
      simp [getLast?_line]

end Report

namespace ScanOptions

variable (o : ScanOptions) {path : String}

/-- A scanned file is the one that was asked for, and its report is what reading it gave. -/
theorem scanned_inv {opening : Opening} {path' : String} {r : Report}
    (h : (o.scan path opening).result = .scanned path' r) :
    path' = path ∧ ∃ file, opening = .ok file ∧ o.report path file = .ok r := by
  cases opening with
  | error thrown => cases h
  | ok file =>
    simp only [scan, result] at h
    cases hreport : o.report path file with
    | error thrown =>
      rw [hreport] at h
      cases h
    | ok report =>
      rw [hreport] at h
      cases h
      exact ⟨rfl, file, rfl, hreport⟩

theorem endsLines_scan (path : String) (opening : Opening) :
    EndsLines (o.scan path opening).result.block := by
  cases hresult : (o.scan path opening).result with
  | failed path' failure => exact .inl rfl
  | scanned path' r =>
    obtain ⟨-, file, -, hreport⟩ := o.scanned_inv hresult
    cases hmatched : r.matched with
    | true => exact .inr ((o.form_report path hreport).framed hmatched).2
    | false =>
      have hhonest := o.honest_report path hreport
      rw [Report.Honest, hmatched] at hhonest
      exact .inl (by simpa [FileResult.block] using hhonest)

end ScanOptions


-- ---------------------------------------------------------------------------
-- Reading a block back
-- ---------------------------------------------------------------------------

namespace Grep

/-- A line of the output without its line feed: where a line was found, and its content. -/
def entry (path : String) (hit : Nat × Bytes) : Bytes :=
  utf8 path ++ utf8 ":" ++ utf8 (toString hit.1) ++ utf8 ":" ++ hit.2

/-- The lines a search finds, each with its number, counted from one, and without the carriage
returns and line feeds at its end. -/
def found (test : Bytes → Bool) (content : Bytes) : List (Nat × Bytes) :=
  (selectFrom test 1 (physicalLines content)).map fun (line, number) =>
    (number, stripLineEnding line)

end Grep

def isDigitByte (b : UInt8) : Bool := 0x30 ≤ b && b ≤ 0x39

namespace Report

/-- Reads a line as the path, a number in decimal digits and a content, with a colon after the path
and after the number. -/
def readLine (path : String) (line : Bytes) : Option (Nat × Bytes) :=
  (utf8 path ++ utf8 ":").isPrefixOf? line |>.bind fun numbered =>
    let digits := numbered.takeWhile isDigitByte
    if digits.isEmpty then none
    else (utf8 ":").isPrefixOf? (numbered.dropWhile isDigitByte) |>.map fun content =>
      (Text.digitsValue (byteView digits), content)

/-- Reads the pieces between the line feeds; there is nothing after the last one. -/
def readBlock (path : String) (block : Bytes) : Option (List (Nat × Bytes)) :=
  if (splitLines block).getLast? = some [] then (splitLines block).dropLast.mapM (readLine path)
  else none

theorem isDigitByte_of_mem_utf8 {n : Nat} : ∀ b ∈ utf8 (toString n), isDigitByte b := by
  intro b hb
  obtain ⟨c, hc, hbyte⟩ := List.mem_flatMap.mp hb
  obtain ⟨hlow, hhigh⟩ : 0x30 ≤ c.toNat ∧ c.toNat ≤ 0x39 :=
    Char.isDigit_iff_toNat.mp (Text.isDigit_of_mem_toString hc)
  rw [utf8EncodeChar_of_lt (by omega), List.mem_singleton] at hbyte
  subst hbyte
  simp only [isDigitByte, UInt8.le_iff_toNat_le, UInt8.toNat_ofNat', Bool.and_eq_true,
    decide_eq_true_eq]
  rw [Nat.mod_eq_of_lt (by omega)]
  exact ⟨hlow, hhigh⟩

theorem byteView_utf8_toString (n : Nat) : byteView (utf8 (toString n)) = (toString n).toList := by
  refine byteView_flatMap_utf8EncodeChar fun c hc => ?_
  have hdigit := (Char.isDigit_iff_toNat.mp (Text.isDigit_of_mem_toString hc)).2
  exact Nat.lt_of_le_of_lt hdigit (by decide)

theorem utf8_colon : utf8 ":" = [0x3A] := rfl

theorem utf8_toString_ne_nil (n : Nat) : utf8 (toString n) ≠ [] := by
  intro hnil
  have hview := byteView_utf8_toString n
  rw [hnil] at hview
  exact Text.toList_toString_ne_nil n hview.symm

theorem digitsValue_utf8 (n : Nat) : Text.digitsValue (byteView (utf8 (toString n))) = n := by
  rw [byteView_utf8_toString, Text.digitsValue_toString]

theorem readLine_entry (path : String) (number : Nat) (content : Bytes) :
    readLine path (Grep.entry path (number, content)) = some (number, content) := by
  have hpath : (utf8 path ++ utf8 ":").isPrefixOf? (Grep.entry path (number, content))
      = some (utf8 (toString number) ++ (utf8 ":" ++ content)) := by
    rw [List.isPrefixOf?_eq_some_iff_append_eq]
    simp [Grep.entry]
  have hcolon : isDigitByte 0x3A = false := by decide
  -- the colon that follows is no digit, so the digits end with the number
  have hdigits : (utf8 (toString number) ++ (utf8 ":" ++ content)).takeWhile isDigitByte
      = utf8 (toString number) := by
    rw [List.takeWhile_append_of_pos isDigitByte_of_mem_utf8]
    simp [utf8_colon, hcolon]
  have hrest : (utf8 (toString number) ++ (utf8 ":" ++ content)).dropWhile isDigitByte
      = utf8 ":" ++ content := by
    rw [List.dropWhile_append_of_pos isDigitByte_of_mem_utf8]
    simp [utf8_colon, hcolon]
  have hcontent : (utf8 ":").isPrefixOf? (utf8 ":" ++ content) = some content :=
    List.isPrefixOf?_eq_some_iff_append_eq.mpr rfl
  have hsome : (utf8 (toString number)).isEmpty = false :=
    List.isEmpty_eq_false_iff.mpr (utf8_toString_ne_nil number)
  simp only [readLine, hpath, Option.bind_some, hdigits, hrest, hcontent, hsome, Option.map_some,
    digitsValue_utf8, Bool.false_eq_true, if_false]

end Report


-- ---------------------------------------------------------------------------
-- The block of a search line by line
-- ---------------------------------------------------------------------------

namespace Grep

theorem output_eq (test : Bytes → Bool) (path : String) (content : Bytes) :
    output test path content =
      (found test content).flatMap fun hit => entry path hit ++ [lineFeed] := by
  rw [output, found, List.flatMap_map]
  rfl

/-- The numbers go up from line to line. -/
theorem pairwise_found (test : Bytes → Bool) (content : Bytes) :
    ((found test content).map Prod.fst).Pairwise (· < ·) := by
  have hnumbers : (((physicalLines content).zipIdx 1).map Prod.snd).Pairwise (· < ·) := by
    rw [List.zipIdx_map_snd]
    exact List.pairwise_lt_range' _
  rw [List.pairwise_map] at hnumbers
  rw [found, List.map_map, List.pairwise_map]
  exact hnumbers.filter _

/-- No line feed is left in what is reported of a line. -/
theorem lineFeed_notMem_stripLineEnding {line : Bytes} (h : lineFeed ∉ line.dropLast) :
    lineFeed ∉ stripLineEnding line := by
  change lineFeed ∉ line.rdropWhile isLineEnding
  rcases List.eq_nil_or_concat line with rfl | ⟨body, last, rfl⟩
  · simp
  · rw [List.concat_eq_append] at h ⊢
    rw [List.dropLast_concat] at h
    rw [List.rdropWhile_concat]
    split
    · exact fun hmem => h ((List.rdropWhile_prefix _ body).subset hmem)
    · next hkept =>
      have hlast : lineFeed ≠ last := by
        rintro rfl
        exact hkept rfl
      simp [h, hlast]

theorem lineFeed_notMem_found {test : Bytes → Bool} {content : Bytes} {hit : Nat × Bytes}
    (h : hit ∈ found test content) : lineFeed ∉ hit.2 := by
  obtain ⟨⟨line, number⟩, hselected, rfl⟩ := List.mem_map.mp h
  have hline : line ∈ physicalLines content :=
    List.fst_mem_of_mem_zipIdx (List.mem_filter.mp hselected).1
  exact lineFeed_notMem_stripLineEnding (physicalLines_shape line hline).2

theorem lineFeed_notMem_entry {path : String} (hpath : '\n' ∉ path.toList) {hit : Nat × Bytes}
    (hhit : lineFeed ∉ hit.2) : lineFeed ∉ entry path hit := by
  have hcolon : lineFeed ∉ utf8 ":" := by decide
  have hnumber : lineFeed ∉ utf8 (toString hit.1) := by
    intro hmem
    exact absurd (Report.isDigitByte_of_mem_utf8 lineFeed hmem) (by decide)
  simp only [entry, List.mem_append, not_or]
  exact ⟨⟨⟨⟨lineFeed_notMem_utf8 hpath, hcolon⟩, hnumber⟩, hcolon⟩, hhit⟩

end Grep

/-- Lines put one after the other come apart again at their line feeds. -/
theorem splitLines_flatMap {α : Type} {lines : List α} {body : α → Bytes}
    (h : ∀ x ∈ lines, lineFeed ∉ body x) :
    splitLines (lines.flatMap fun x => body x ++ [lineFeed]) = lines.map body ++ [[]] := by
  induction lines with
  | nil => rfl
  | cons x rest ih =>
    rw [List.forall_mem_cons] at h
    have hsplit := List.splitOn_append_cons_self_of_not_mem h.1
      (rest.flatMap fun x => body x ++ [lineFeed])
    simp only [splitLines, List.flatMap_cons, List.append_assoc, List.singleton_append] at ih ⊢
    rw [hsplit, ih h.2, List.map_cons, List.cons_append]

namespace Grep

theorem splitLines_output {path : String} (hpath : '\n' ∉ path.toList) (test : Bytes → Bool)
    (content : Bytes) :
    splitLines (output test path content) = (found test content).map (entry path) ++ [[]] := by
  rw [output_eq]
  exact splitLines_flatMap fun hit hhit =>
    lineFeed_notMem_entry hpath (lineFeed_notMem_found hhit)

theorem mapM_readLine (path : String) (hits : List (Nat × Bytes)) :
    (hits.map (entry path)).mapM (Report.readLine path) = some hits := by
  induction hits with
  | nil => rfl
  | cons hit rest ih =>
    rw [List.map_cons, List.mapM_cons, ih, Report.readLine_entry]
    rfl

/-- The block of a search tells the lines that were found. -/
theorem readBlock_output {path : String} (hpath : '\n' ∉ path.toList) (test : Bytes → Bool)
    (content : Bytes) :
    Report.readBlock path (output test path content) = some (found test content) := by
  rw [Report.readBlock, splitLines_output hpath, List.getLast?_concat, if_pos rfl,
    List.dropLast_concat, mapM_readLine]

end Grep

namespace ScanOptions

/-- A search line by line of a file that can be read to its end reports what it finds. -/
theorem exists_report_byLine {o : ScanOptions} (hmode : o.mode = .byLine) (path : String)
    {file : OpenFile} (hfile : file.failure = none) : ∃ report,
    (o.scan path (.ok file)).result = .scanned path report ∧
      report.block = Grep.output o.matcher.test path file.chunks.flatten := by
  have hlines : file.lines = { lines := physicalLines file.chunks.flatten } := by
    rw [OpenFile.lines, hfile, readLines_eq]
  have hreport : o.report path file = Report.byLine o.matcher path file.lines := by
    simp [report, hmode, ScanMode.readsLines, ScanMode.negated, Report.ofLines]
  rw [hlines, Report.byLine_eq] at hreport
  have hresult : (o.scan path (.ok file)).result = .scanned path
      { matched := (physicalLines file.chunks.flatten).any (Grep.selects o.matcher.test)
        block := Grep.output o.matcher.test path file.chunks.flatten } := by
    simp only [scan, result, hreport]
  exact ⟨_, hresult, rfl⟩

/-- A block holds something exactly if its file matched, and then begins with the path and ends in
a line feed; so blocks put one after the other are the lines of each of them, all of them complete.
The block of a search line by line comes apart into one line for each line that was found. These read
back as its number and its content, in the order of the numbers, and so no search that finds anything
else has the same block. -/
theorem blocks_decodable (o : ScanOptions) {path : String} (hpath : '\n' ∉ path.toList) :
    (∀ opening path' report, (o.scan path opening).result = .scanned path' report →
      path' = path ∧ (report.block = [] ↔ report.matched = false) ∧
        (report.matched →
          utf8 path <+: report.block ∧ report.block.getLast? = some lineFeed)) ∧
    (∀ scans : List (String × Opening),
      let blocks := scans.map fun (path, opening) => (o.scan path opening).result.block
      physicalLines blocks.flatten = blocks.flatMap physicalLines ∧
        ∀ line ∈ physicalLines blocks.flatten, line.getLast? = some lineFeed) ∧
    (o.mode = .byLine → ∀ file : OpenFile, file.failure = none → ∃ report,
      let found := Grep.found o.matcher.test file.chunks.flatten
      (o.scan path (.ok file)).result = .scanned path report ∧
        (splitLines report.block).length = found.length + 1 ∧
        Report.readBlock path report.block = some found ∧
        (found.map Prod.fst).Pairwise (· < ·) ∧
        ∀ (o' : ScanOptions) (file' : OpenFile), o'.mode = .byLine → file'.failure = none →
          (o'.scan path (.ok file')).result.block = report.block →
          Grep.found o'.matcher.test file'.chunks.flatten = found) := by
  refine ⟨?framed, ?lines, ?decoded⟩
  case framed =>
    intro opening path' report hresult
    obtain ⟨rfl, file, -, hreport⟩ := o.scanned_inv hresult
    have hhonest : report.matched = !report.block.isEmpty := o.honest_report _ hreport
    exact ⟨rfl, by simp [hhonest], (o.form_report _ hreport).framed⟩
  case lines =>
    intro scans blocks
    have hends : ∀ block ∈ blocks, EndsLines block := by
      intro block hblock
      obtain ⟨⟨path, opening⟩, -, rfl⟩ := List.mem_map.mp hblock
      exact o.endsLines_scan path opening
    have hlines := physicalLines_flatten hends
    refine ⟨hlines, ?_⟩
    rw [hlines, List.forall_mem_flatMap]
    exact fun block hblock => (hends block hblock).getLast?_eq
  case decoded =>
    intro hmode file hfile
    obtain ⟨report, hresult, hblock⟩ := exists_report_byLine hmode path hfile
    have hread := Grep.readBlock_output hpath o.matcher.test file.chunks.flatten
    refine ⟨report, hresult, ?_, hblock ▸ hread, Grep.pairwise_found _ _, ?_⟩
    · rw [hblock, Grep.splitLines_output hpath, List.length_append, List.length_map,
        List.length_singleton]
    · intro o' file' hmode' hfile' hsame
      obtain ⟨report', hresult', hblock'⟩ := exists_report_byLine hmode' path hfile'
      have hread' := Grep.readBlock_output hpath o'.matcher.test file'.chunks.flatten
      rw [hresult'] at hsame
      change report'.block = report.block at hsame
      rw [← hblock', hsame, hblock, hread] at hread'
      exact (Option.some.inj hread').symm

/-- Finds the lines that hold a colon. -/
def colons : ScanOptions where
  matcher := Matcher.ofSearch ":" "" fun line =>
    (line.findIdx? (· = 0x3A)).map fun i => { start := i, stop := i + 1 }
  mode := .byLine
  maxFileSize := .ofNat 100

/-- Cut into chunks, `x:\ry\r\n`, a line without a colon, and a byte that is no character. -/
def mixedLines : OpenFile where
  stat := .ok { size := .ofNat 9 }
  chunks := [[0x78, 0x3A, 0x0D], [0x79, 0x0D], [0x0A, 0x7A, 0x0A, 0xFF, 0x3A]]
  contents := .ok []

theorem blocks_decodable_mixed_lines :
    '\n' ∉ "a:1".toList ∧ colons.mode = .byLine ∧ mixedLines.failure = none ∧
      ∃ report, (colons.scan "a:1" (.ok mixedLines)).result = .scanned "a:1" report ∧
        Report.readBlock "a:1" report.block =
          some [(1, [0x78, 0x3A, 0x0D, 0x79]), (3, [0xFF, 0x3A])] := by
  have hpath : '\n' ∉ "a:1".toList := by decide
  obtain ⟨-, -, hdecoded⟩ := colons.blocks_decodable hpath
  obtain ⟨report, hresult, -, hread, -⟩ := hdecoded rfl mixedLines rfl
  exact ⟨hpath, rfl, rfl, report, hresult, hread⟩

end ScanOptions

end FileSearch
