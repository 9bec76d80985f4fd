import FileSearch.PathList
import FileSearch.Proofs.Text.Trim
import FileSearch.Proofs.Text.Utf8

/-!
# The paths of a list

The paths of a list are a function of its bytes, however they arrive in chunks
(`readPathLines_paths`). A reader may take the two halves of a line end for two line ends, if a chunk
that brings no text comes between them; that only adds a blank line, and blank lines are skipped.
-/

namespace FileSearch


-- ---------------------------------------------------------------------------
-- The paths in a text
-- ---------------------------------------------------------------------------

/-- The text with a line feed for each of its line ends. -/
def unifyEnds : List Char → List Char
  | [] => []
  | '\r' :: '\n' :: rest => '\n' :: unifyEnds rest
  | c :: rest => (if c = '\r' then '\n' else c) :: unifyEnds rest

/-- What lines have besides blanks, for those that have anything. -/
def namesIn (lines : List (List Char)) : List String :=
  ((lines.map Text.trimChars).filter (!·.isEmpty)).map String.ofList

/-- The paths in a text: one on a line, without the blanks around it. -/
def listedPaths (text : List Char) : List String := namesIn ((unifyEnds text).splitOn '\n')

theorem namesIn_append (xs ys : List (List Char)) :
    namesIn (xs ++ ys) = namesIn xs ++ namesIn ys := by
  simp [namesIn]

@[simp] theorem namesIn_nil : namesIn [] = [] := rfl

@[simp] theorem namesIn_blank : namesIn [[]] = [] := rfl

theorem namesIn_cons (line : List Char) (lines : List (List Char)) :
    namesIn (line :: lines) = namesIn [line] ++ namesIn lines := namesIn_append [line] lines

/-- The paths of a list of lines are the names in them. -/
theorem filterMap_path? (lines : List (List Char)) :
    (lines.map PathLine.ofChars).filterMap PathLine.path? = namesIn lines := by
  induction lines with
  | nil => rfl
  | cons line rest ih =>
    rw [namesIn_cons, ← ih, List.map_cons, List.filterMap_cons]
    unfold PathLine.ofChars namesIn
    cases htrimmed : Text.trimChars line <;> simp [htrimmed, PathLine.path?]


-- ---------------------------------------------------------------------------
-- Every line end by itself
-- ---------------------------------------------------------------------------

def isLineEnd (c : Char) : Bool := c = '\n' || c = '\r'

/-- Text within a line. -/
def Unended (line : List Char) : Prop := ∀ c ∈ line, isLineEnd c = false

theorem unended_nil : Unended [] := by simp [Unended]

theorem Unended.concat {line : List Char} (h : Unended line) {c : Char} (hc : isLineEnd c = false) :
    Unended (line ++ [c]) := by
  intro c' hc'
  rcases List.mem_append.mp hc' with hold | hnew
  · exact h c' hold
  · exact List.mem_singleton.mp hnew ▸ hc

/-- The names between line ends, where the halves of one count as two. -/
def namesBetween (text : List Char) : List String := namesIn (text.splitOnP isLineEnd)

variable {line : List Char} (hline : Unended line)
include hline

theorem namesBetween_of_unended : namesBetween line = namesIn [line] := by
  rw [namesBetween, List.splitOnP_eq_singleton hline]

theorem namesBetween_append {c : Char} (hc : isLineEnd c) (text : List Char) :
    namesBetween (line ++ c :: text) = namesIn [line] ++ namesBetween text := by
  rw [namesBetween, List.splitOnP_append_cons_of_forall_mem hline c hc, namesIn_cons]
  rfl

omit hline in
/-- A line end more makes a blank line more. -/
theorem namesBetween_cons {c : Char} (hc : isLineEnd c) (text : List Char) :
    namesBetween (c :: text) = namesBetween text := namesBetween_append unended_nil hc text

/-- The names in a text are those between its line ends. -/
theorem namesIn_splitOn_unifyEnds (text : List Char) :
    namesIn ((line ++ unifyEnds text).splitOn '\n') = namesBetween (line ++ text) := by
  have hfeed {line : List Char} (hline : Unended line) : '\n' ∉ line :=
    fun hmem => Bool.noConfusion (hline _ hmem)
  fun_induction unifyEnds text generalizing line with
  | case1 =>
    rw [List.append_nil, List.splitOn_eq_singleton (hfeed hline), namesBetween_of_unended hline]
  | case2 rest ih =>
    rw [List.splitOn_append_cons_self_of_not_mem (hfeed hline), namesIn_cons,
      namesBetween_append hline (by decide), namesBetween_cons (by decide)]
    exact congrArg _ (ih unended_nil)
  | case3 c rest hpair ih =>
    cases hc : isLineEnd c with
    | true =>
      have hunified : (if c = '\r' then '\n' else c) = '\n' := by
        rcases (by simpa [isLineEnd] using hc : c = '\n' ∨ c = '\r') with rfl | rfl <;> rfl
      rw [hunified, List.splitOn_append_cons_self_of_not_mem (hfeed hline), namesIn_cons,
        namesBetween_append hline hc]
      exact congrArg _ (ih unended_nil)
    | false =>
      have hkept : (if c = '\r' then '\n' else c) = c :=
        if_neg fun hreturn => by simp [isLineEnd, hreturn] at hc
      rw [hkept, List.append_cons, List.append_cons line c rest]
      exact ih (hline.concat hc)

omit hline in
theorem listedPaths_eq (text : List Char) : listedPaths text = namesBetween text :=
  namesIn_splitOn_unifyEnds unended_nil text

theorem unended_of_mem_splitOnP (text : List Char) :
    ∀ piece ∈ (line ++ text).splitOnP isLineEnd, Unended piece := by
  induction text generalizing line with
  | nil =>
    rw [List.append_nil, List.splitOnP_eq_singleton hline]
    simpa using hline
  | cons c text ih =>
    cases hc : isLineEnd c with
    | true =>
      rw [List.splitOnP_append_cons_of_forall_mem hline c hc]
      exact List.forall_mem_cons.mpr ⟨hline, ih unended_nil⟩
    | false =>
      rw [List.append_cons]
      exact ih (hline.concat hc)

omit hline

/-- What a path of a list is like. -/
structure IsListed (path : String) : Prop where
  ne_empty : path ≠ ""
  trim_eq : Text.trim path = path
  not_feed : '\n' ∉ path.toList
  not_return : '\r' ∉ path.toList

theorem isListed_of_mem {path : String} {text : List Char} (h : path ∈ namesBetween text) :
    IsListed path := by
  obtain ⟨name, hname, rfl⟩ := List.mem_map.mp h
  obtain ⟨hpiece, hne⟩ := List.mem_filter.mp hname
  obtain ⟨piece, hmem, rfl⟩ := List.mem_map.mp hpiece
  have hunended : Unended (Text.trimChars piece) := fun c hc =>
    unended_of_mem_splitOnP unended_nil text piece hmem c (Text.trimChars_subset piece hc)
  have hno {c : Char} (hc : isLineEnd c) : c ∉ (String.ofList (Text.trimChars piece)).toList := by
    rw [String.toList_ofList]
    exact fun hmem => Bool.false_ne_true ((hunended c hmem).symm.trans hc)
  refine ⟨fun hempty => ?_, ?_, hno (by decide), hno (by decide)⟩
  · have hnil : Text.trimChars piece = [] := by simpa using hempty
    simp [hnil] at hne
  · rw [Text.trim, String.toList_ofList, Text.trimChars_trimChars]


-- ---------------------------------------------------------------------------
-- The reader
-- ---------------------------------------------------------------------------

/-- A text cut into lines and the rest: with whatever comes later, they have the names of the text. -/
structure Pieces (text : List Char) (lines : List (List Char)) (last : List Char) : Prop where
  names : ∀ later, namesIn lines ++ namesBetween (last ++ later) = namesBetween (text ++ later)
  unended : Unended last
  is_suffix : last <:+ text

namespace Pieces

variable {text last : List Char} {lines : List (List Char)} {c : Char}

theorem skip (h : Pieces text lines last) (hc : isLineEnd c) : Pieces (c :: text) lines last where
  names later := (h.names later).trans (namesBetween_cons hc (text ++ later)).symm
  unended := h.unended
  is_suffix := h.is_suffix.trans (List.suffix_cons c text)

theorem ended (h : Pieces text lines last) (hline : Unended line) (hc : isLineEnd c) :
    Pieces (line ++ c :: text) (line :: lines) last where
  names later := by
    rw [List.append_assoc, List.cons_append, namesBetween_append hline hc, namesIn_cons,
      List.append_assoc, h.names]
  unended := h.unended
  is_suffix := h.is_suffix.trans ((List.suffix_cons c text).trans (List.suffix_append line _))

/-- Nothing is left of a text that ends in a line end. -/
theorem last_eq_nil (h : Pieces text lines last) (hc : isLineEnd c)
    (hend : text.getLast? = some c) : last = [] := by
  cases hlast : last.getLast? with
  | none => exact List.getLast?_eq_none_iff.mp hlast
  | some c' =>
    obtain ⟨before, rfl⟩ := h.is_suffix
    have hsame : c' = c := by simpa [List.getLast?_append, hlast] using hend
    have hunended := h.unended c' (List.mem_of_getLast? hlast)
    rw [hsame, hc] at hunended
    cases hunended

end Pieces

namespace PathReader

theorem prepend_nil (pieces : List (List Char) × List Char) : prepend [] pieces = pieces := by
  obtain ⟨lines, last⟩ := pieces
  cases lines <;> rfl

theorem pieces_cut (hline : Unended line) (text : List Char) :
    Pieces (line ++ text) (prepend line (cut text)).1 (prepend line (cut text)).2 := by
  fun_induction cut text generalizing line with
  | case1 => exact ⟨fun later => by simp [prepend], by simpa [prepend] using hline, by simp [prepend]⟩
  | case2 rest lines last hcut ih =>
    have hrest : Pieces rest lines last := by simpa [hcut, prepend_nil] using ih unended_nil
    simpa [prepend] using (hrest.skip (c := '\n') rfl).ended (c := '\r') hline rfl
  | case3 c rest hpair lines last hcut hc ih =>
    have hrest : Pieces rest lines last := by simpa [hcut, prepend_nil] using ih unended_nil
    simpa [prepend] using hrest.ended hline hc
  | case4 c rest hpair last hc hcut ih =>
    simpa [hcut, prepend] using ih (hline.concat (Bool.eq_false_iff.mpr hc))
  | case5 c rest hpair last hc first more hcut ih =>
    simpa [hcut, prepend] using ih (hline.concat (Bool.eq_false_iff.mpr hc))

/-- The text that a chunk brings. -/
def decoded (r : PathReader) (chunk : Bytes) : List Char :=
  Text.decodeChars (Text.splitUnfinished (r.held ++ chunk)).1

/-- What a reader keeps: part of a line, none after a carriage return, and bytes that have to wait. -/
structure Keeps (r : PathReader) : Prop where
  unended : Unended r.line
  line_eq : r.afterReturn → r.line = []
  held_eq : (Text.splitUnfinished r.held).1 = []

theorem keeps_new : Keeps {} := ⟨unended_nil, fun _ => rfl, rfl⟩

/-- The lines that end in a chunk, and the rest of it, are those of its text. If the second half of a
line end is left out, it would have made a blank line. -/
theorem Keeps.pieces_feed {r : PathReader} (h : r.Keeps) (chunk : Bytes) :
    Pieces (r.line ++ r.decoded chunk) (r.feed chunk).2 (r.feed chunk).1.line := by
  unfold feed decoded
  dsimp only
  split
  · next rest hdecoded =>
    split
    · next hafter =>
      rw [h.line_eq hafter, hdecoded]
      exact (pieces_cut unended_nil rest).skip (c := '\n') rfl
    · exact pieces_cut h.unended _
  · exact pieces_cut h.unended _

theorem Keeps.feed {r : PathReader} (h : r.Keeps) (chunk : Bytes) : (r.feed chunk).1.Keeps where
  unended := (h.pieces_feed chunk).unended
  line_eq hafter := by
    have hdecoded : (r.decoded chunk).getLast? = some '\r' := by
      simpa [PathReader.feed, decoded] using hafter
    exact (h.pieces_feed chunk).last_eq_nil (c := '\r') rfl (by simp [List.getLast?_append, hdecoded])
  held_eq := Text.splitUnfinished_held _

/-- A reader finds the names in what it keeps and what is still to come. -/
theorem Keeps.namesIn_feedAll {r : PathReader} (h : r.Keeps) (chunks : List Bytes) :
    namesIn (r.feedAll chunks) = namesBetween (r.line ++ r.decoded chunks.flatten) := by
  induction chunks generalizing r with
  | nil =>
    have hdecoded : r.decoded [] = [] := by
      rw [decoded, List.append_nil, h.held_eq]
      rfl
    rw [List.flatten_nil, hdecoded, List.append_nil, namesBetween_of_unended h.unended, feedAll]
    unfold finish
    split
    · next hnil => rw [hnil, namesIn_blank, namesIn_nil]
    · rfl
  | cons chunk rest ih =>
    have hdecoded : r.decoded (chunk :: rest).flatten
        = r.decoded chunk ++ (r.feed chunk).1.decoded rest.flatten := by
      rw [decoded, List.flatten_cons, ← List.append_assoc]
      exact Text.decodeChars_settled_append _ _
    rw [feedAll, namesIn_append, ih (h.feed chunk), hdecoded, ← List.append_assoc]
    exact (h.pieces_feed chunk).names _

end PathReader

/-- The paths of a list that arrives in chunks. -/
def pathsOf (chunks : List Bytes) : List String := (readPathLines chunks).filterMap PathLine.path?

theorem pathsOf_eq (chunks : List Bytes) :
    pathsOf chunks = listedPaths (Text.decodeChars (Text.splitUnfinished chunks.flatten).1) := by
  rw [listedPaths_eq, pathsOf, readPathLines, filterMap_path?]
  exact PathReader.keeps_new.namesIn_feedAll chunks

/-- The paths of a list are those in the text of its bytes, as if these had arrived at once. Bytes at
the end that lack others of their sequence are no part of the text. -/
theorem readPathLines_paths (chunks : List Bytes) :
    pathsOf chunks = pathsOf [chunks.flatten] ∧
      (∃ body tail, Text.Parts chunks.flatten body tail ∧
        pathsOf chunks = listedPaths (Text.decodeChars body)) ∧
      ∀ path ∈ pathsOf chunks, IsListed path := by
  refine ⟨?_, ⟨_, _, Text.parts_split _, pathsOf_eq chunks⟩, ?_⟩
  · rw [pathsOf_eq, pathsOf_eq, List.flatten_singleton]
  · intro path hpath
    rw [pathsOf_eq, listedPaths_eq] at hpath
    exact isListed_of_mem hpath

/-- A sequence that breaks off at the end is not replaced. -/
theorem unfinished_end_dropped :
    pathsOf [[0x61, 0xE9]] = ["a"] ∧
      listedPaths (Text.decodeChars [0x61, 0xE9]) = ["a\ufffd"] := by
  decide

/-- The line feed is not known any more to belong to the carriage return. -/
example : readPathLines [[0x61, 0x0D], [], [0x0A, 0x62]] = [.path "a", .blank, .path "b"] := by
  decide

end FileSearch
