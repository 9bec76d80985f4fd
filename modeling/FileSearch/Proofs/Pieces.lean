import FileSearch.Proofs.Lines
import Mathlib.Data.List.DropRight

/-!
# The pieces between line feeds

Splitting at line feeds and joining with them are inverse. The number of line feeds before an offset
is the index of a piece, and that piece is the line around the offset: its beginning is what the
bytes before the offset end with, its rest is what the bytes behind begin with.
-/

namespace FileSearch


-- ---------------------------------------------------------------------------
-- Splitting and joining
-- ---------------------------------------------------------------------------

theorem joinLines_splitLines (bytes : Bytes) : joinLines (splitLines bytes) = bytes :=
  List.intercalate_splitOn lineFeed

/-- What the first piece begins with comes first. -/
theorem joinLines_append_cons (front first : Bytes) (more : List Bytes) :
    joinLines ((front ++ first) :: more) = front ++ joinLines (first :: more) := by
  cases more with
  | nil => simp [joinLines]
  | cons second others => simp [joinLines, List.intercalate_cons_cons]

theorem splitLines_of_notMem {bytes : Bytes} (h : lineFeed ∉ bytes) : splitLines bytes = [bytes] :=
  List.splitOn_eq_singleton h

theorem splitLines_append_lineFeed {first : Bytes} (h : lineFeed ∉ first) (rest : Bytes) :
    splitLines (first ++ lineFeed :: rest) = first :: splitLines rest :=
  List.splitOn_append_cons_self_of_not_mem h rest

/-- Whole lines give one piece each, and the pieces of what follows come after them. -/
theorem exists_splitLines_append {before : Bytes} (h : EndsLines before) (rest : Bytes) :
    ∃ pieces, pieces.length = before.count lineFeed ∧
      splitLines (before ++ rest) = pieces ++ splitLines rest := by
  induction before with
  | nil => exact ⟨[], rfl, rfl⟩
  | cons b more ih =>
    obtain ⟨pieces, hlength, hpieces⟩ := ih h.of_cons
    by_cases hb : b = lineFeed
    · subst hb
      exact ⟨[] :: pieces, by simp [hlength], by simp [splitLines_lineFeed, hpieces]⟩
    · have hcount : (b :: more).count lineFeed = more.count lineFeed := List.count_cons_of_ne hb
      refine ⟨pieces.modifyHead (b :: ·), by simp [hcount, hlength], ?_⟩
      -- the line that `b` begins ends in `before`
      have hmem : lineFeed ∈ more := by
        rcases h with h | h
        · cases h
        · have hlast := List.mem_of_getLast? h
          exact (List.mem_cons.mp hlast).resolve_left (Ne.symm hb)
      have hne : pieces ≠ [] := by
        rw [← List.length_pos_iff, hlength]
        exact List.count_pos_iff.mpr hmem
      obtain ⟨first, others, rfl⟩ := List.exists_cons_of_ne_nil hne
      rw [List.cons_append, splitLines_of_ne hb, hpieces]
      rfl


-- ---------------------------------------------------------------------------
-- Around an offset
-- ---------------------------------------------------------------------------

/-- Whether a line that is under way ends before these bytes. -/
def EndsBefore (bytes : Bytes) : Prop := bytes = [] ∨ bytes.head? = some lineFeed

/-- Bytes are whole lines and the beginning of a next one. -/
theorem exists_lines_append (bytes : Bytes) :
    ∃ before head, bytes = before ++ head ∧ EndsLines before ∧ lineFeed ∉ head := by
  refine ⟨bytes.rdropWhile (· != lineFeed), bytes.rtakeWhile (· != lineFeed),
    List.rdropWhile_append_rtakeWhile.symm, ?_, ?_⟩
  · by_cases hnil : bytes.rdropWhile (· != lineFeed) = []
    · exact .inl hnil
    · have hlast := List.rdropWhile_last_not (· != lineFeed) bytes hnil
      refine .inr ?_
      rw [List.getLast?_eq_some_getLast hnil]
      simpa using hlast
  · intro hmem
    simpa using List.mem_rtakeWhile_imp hmem

/-- Bytes are the rest of a line and what follows it. -/
theorem exists_append_endsBefore (bytes : Bytes) :
    ∃ tail after, bytes = tail ++ after ∧ lineFeed ∉ tail ∧ EndsBefore after := by
  refine ⟨bytes.takeWhile (· != lineFeed), bytes.dropWhile (· != lineFeed),
    List.takeWhile_append_dropWhile.symm, ?_, ?_⟩
  · intro hmem
    simpa using List.mem_takeWhile_imp hmem
  · have hhead := List.head?_dropWhile_not (· != lineFeed) bytes
    cases hafter : bytes.dropWhile (· != lineFeed) with
    | nil => exact .inl rfl
    | cons b rest =>
      rw [hafter] at hhead
      exact .inr (by simpa using hhead)

/-- Bytes are a line without a line feed, or one with a line feed and then others. -/
theorem lines_induction {motive : Bytes → Prop} (bytes : Bytes)
    (last : ∀ body, lineFeed ∉ body → motive body)
    (line : ∀ body rest, lineFeed ∉ body → motive rest → motive (body ++ lineFeed :: rest)) :
    motive bytes := by
  induction hlength : bytes.length using Nat.strong_induction_on generalizing bytes with
  | _ n ih =>
    obtain ⟨body, after, rfl, hbody, rfl | hafter⟩ := exists_append_endsBefore bytes
    · rw [List.append_nil]
      exact last body hbody
    · obtain ⟨rest, rfl⟩ := List.head?_eq_some_iff.mp hafter
      refine line body rest hbody (ih rest.length ?_ rest rfl)
      rw [← hlength, List.length_append, List.length_cons]
      omega

theorem takeWhile_append_of_endsBefore {tail after : Bytes} (htail : lineFeed ∉ tail)
    (hafter : EndsBefore after) : (tail ++ after).takeWhile (· != lineFeed) = tail := by
  have hall : ∀ b ∈ tail, (b != lineFeed) = true := by
    intro b hb
    simp only [bne_iff_ne]
    rintro rfl
    exact htail hb
  rw [List.takeWhile_append_of_pos hall]
  rcases hafter with rfl | hafter
  · simp
  · obtain ⟨rest, rfl⟩ := List.head?_eq_some_iff.mp hafter
    simp

/-- The line around an offset is the beginning before it and the rest behind it. -/
theorem lineAt_eq {bytes before head tail after : Bytes} {offset : Int}
    (htake : bytes.take offset.toNat = before ++ head)
    (hdrop : bytes.drop offset.toNat = tail ++ after) (hbefore : EndsLines before)
    (hhead : lineFeed ∉ head) (htail : lineFeed ∉ tail) (hafter : EndsBefore after) :
    lineAt bytes offset = head ++ tail := by
  have hreverse : EndsBefore before.reverse := by
    simpa [EndsBefore, EndsLines, List.head?_reverse] using hbefore
  have hnotMem : lineFeed ∉ head.reverse := by simpa using hhead
  simp only [lineAt, htake, hdrop, List.reverse_append]
  rw [takeWhile_append_of_endsBefore hnotMem hreverse, List.reverse_reverse,
    takeWhile_append_of_endsBefore htail hafter]

theorem exists_splitLines_cons {line after : Bytes} (hline : lineFeed ∉ line)
    (hafter : EndsBefore after) : ∃ more, splitLines (line ++ after) = line :: more := by
  rcases hafter with rfl | hafter
  · exact ⟨[], by rw [List.append_nil, splitLines_of_notMem hline]⟩
  · obtain ⟨rest, rfl⟩ := List.head?_eq_some_iff.mp hafter
    exact ⟨splitLines rest, splitLines_append_lineFeed hline rest⟩

/-- The line around an offset is the piece that has as many before it as there are line feeds. -/
theorem getElem?_splitLines_countLineFeeds (bytes : Bytes) (offset : Int) :
    (splitLines bytes)[countLineFeeds bytes offset]? = some (lineAt bytes offset) := by
  obtain ⟨before, head, htake, hbefore, hhead⟩ := exists_lines_append (bytes.take offset.toNat)
  obtain ⟨tail, after, hdrop, htail, hafter⟩ :=
    exists_append_endsBefore (bytes.drop offset.toNat)
  have hbytes : before ++ (head ++ tail ++ after) = bytes := by
    rw [← List.take_append_drop offset.toNat bytes, htake, hdrop]
    simp
  have hcount : countLineFeeds bytes offset = before.count lineFeed := by
    simp [countLineFeeds, htake, List.count_eq_zero.mpr hhead]
  have hline : lineFeed ∉ head ++ tail := by simp [hhead, htail]
  obtain ⟨pieces, hlength, hpieces⟩ := exists_splitLines_append hbefore (head ++ tail ++ after)
  obtain ⟨more, hmore⟩ := exists_splitLines_cons hline hafter
  rw [hbytes, hmore] at hpieces
  rw [lineAt_eq htake hdrop hbefore hhead htail hafter, hcount, ← hlength, hpieces]
  simp

end FileSearch
