import FileSearch.Proofs.Pieces

/-!
# Line feeds by their indices

Line feeds are counted, and lines are cut out, by looking for the next line feed from some index on,
or for the last one before it. Wherever an offset lies, below zero, on a line feed, behind one or
beyond the end, this comes to the pieces between the line feeds: the number of line feeds before the
offset is the index of a piece, and that piece is the line around the offset. Joined again, the
pieces are the bytes they were cut from.
-/

namespace FileSearch


-- ---------------------------------------------------------------------------
-- Looking for line feeds
-- ---------------------------------------------------------------------------

/-- The first line feed at an index or behind it. -/
def nextLineFeed (bytes : Bytes) (start : Nat) : Option Nat :=
  ((bytes.drop start).findIdx? (· = lineFeed)).map (start + ·)

/-- The last line feed before an index. -/
def lineFeedBefore (bytes : Bytes) : Nat → Option Nat
  | 0 => none
  | stop + 1 => if bytes[stop]? = some lineFeed then some stop else lineFeedBefore bytes stop

/-- The last line feed at an index or before it. An index below zero counts from the end. -/
def lastLineFeed (bytes : Bytes) (index : Int) : Option Nat :=
  let place := if index < 0 then bytes.length + index else index
  lineFeedBefore bytes (place + 1).toNat

theorem notMem_of_nextLineFeed_eq_none {bytes : Bytes} {start : Nat}
    (h : nextLineFeed bytes start = none) : lineFeed ∉ bytes.drop start := by
  unfold nextLineFeed at h
  rw [Option.map_eq_none_iff, List.findIdx?_eq_none_iff] at h
  intro hmem
  simpa using h lineFeed hmem

/-- What comes before the next line feed holds none. -/
theorem drop_of_nextLineFeed_eq_some {bytes : Bytes} {start index : Nat}
    (h : nextLineFeed bytes start = some index) :
    ∃ body, bytes.drop start = body ++ lineFeed :: bytes.drop (index + 1) ∧ lineFeed ∉ body ∧
      index = start + body.length := by
  obtain ⟨i, hi, rfl⟩ := Option.map_eq_some_iff.mp h
  obtain ⟨hlt, hfound, hbefore⟩ := List.findIdx?_eq_some_iff_getElem.mp hi
  have hbyte : (bytes.drop start)[i] = lineFeed := by simpa using hfound
  refine ⟨(bytes.drop start).take i, ?_, ?_, ?_⟩
  · rw [← hbyte, Nat.add_assoc, ← List.drop_drop, ← List.drop_eq_getElem_cons hlt,
      List.take_append_drop]
  · intro hmem
    obtain ⟨j, hj, hget⟩ := List.mem_iff_getElem.mp hmem
    rw [List.length_take] at hj
    rw [List.getElem_take] at hget
    simpa [hget] using hbefore j (by omega)
  · rw [List.length_take, Nat.min_eq_left hlt.le]

theorem lt_length_of_nextLineFeed {bytes : Bytes} {start index : Nat}
    (h : nextLineFeed bytes start = some index) : start ≤ index ∧ index < bytes.length := by
  obtain ⟨body, hdrop, -, rfl⟩ := drop_of_nextLineFeed_eq_some h
  have hlength := congrArg List.length hdrop
  simp only [List.length_append, List.length_cons, List.length_drop] at hlength
  omega

/-- The next line feed ends the line that begins at an index. -/
theorem extract_nextLineFeed {bytes line after : Bytes} {start : Nat}
    (hdrop : bytes.drop start = line ++ after) (hline : lineFeed ∉ line)
    (hafter : EndsBefore after) :
    bytes.extract start ((nextLineFeed bytes start).getD bytes.length) = line := by
  have htake := takeWhile_append_of_endsBefore hline hafter
  rw [← hdrop] at htake
  rw [List.extract_eq_take_drop]
  cases hnext : nextLineFeed bytes start with
  | none =>
    have hnone := notMem_of_nextLineFeed_eq_none hnext
    have hall := takeWhile_append_of_endsBefore hnone (.inl rfl : EndsBefore [])
    rw [List.append_nil] at hall
    rw [Option.getD_none, ← List.length_drop, List.take_length, ← htake, hall]
  | some index =>
    obtain ⟨body, hbody, hnotMem, rfl⟩ := drop_of_nextLineFeed_eq_some hnext
    have hfirst := takeWhile_append_of_endsBefore hnotMem
      (.inr rfl : EndsBefore (lineFeed :: bytes.drop (start + body.length + 1)))
    rw [← hbody, htake] at hfirst
    rw [Option.getD_some, Nat.add_sub_cancel_left, hbody, List.take_left, hfirst]

/-- A line begins behind the last line feed before an index. -/
theorem take_of_lineFeedBefore (bytes : Bytes) (stop : Nat) :
    ∃ before head, bytes.take stop = before ++ head ∧ EndsLines before ∧ lineFeed ∉ head ∧
      ((lineFeedBefore bytes stop).map (· + 1)).getD 0 = before.length := by
  induction stop with
  | zero => exact ⟨[], [], rfl, .inl rfl, List.not_mem_nil, rfl⟩
  | succ stop ih =>
    rw [List.take_add_one, lineFeedBefore]
    by_cases hbyte : bytes[stop]? = some lineFeed
    · have hlt := (List.getElem?_eq_some_iff.mp hbyte).1
      refine ⟨bytes.take stop ++ [lineFeed], [], ?_, .inr ?_, List.not_mem_nil, ?_⟩
      · simp [hbyte]
      · simp
      · simp [hbyte, Nat.min_eq_left hlt.le]
    · obtain ⟨before, head, htake, hbefore, hhead, hlength⟩ := ih
      refine ⟨before, head ++ bytes[stop]?.toList, ?_, hbefore, ?_, ?_⟩
      · rw [htake, List.append_assoc]
      · rw [List.mem_append, Option.mem_toList]
        exact not_or.mpr ⟨hhead, hbyte⟩
      · rw [if_neg hbyte, hlength]


-- ---------------------------------------------------------------------------
-- From one line feed to the next
-- ---------------------------------------------------------------------------

/-- Cuts a piece off at every next line feed. -/
def splittingLoop (bytes : Bytes) (start : Nat) : List Bytes :=
  match _ : nextLineFeed bytes start with
  | some index => bytes.extract start index :: splittingLoop bytes (index + 1)
  | none => [bytes.drop start]
termination_by bytes.length - start
decreasing_by
  have hbounds := lt_length_of_nextLineFeed ‹_›
  omega

/-- Counts the line feeds one after the other as long as they are before the offset. -/
def countingLoop (bytes : Bytes) (offset : Int) (start count : Nat) : Nat :=
  match _ : nextLineFeed bytes start with
  | some index =>
    if index < offset then countingLoop bytes offset (index + 1) (count + 1) else count
  | none => count
termination_by bytes.length - start
decreasing_by
  have hbounds := lt_length_of_nextLineFeed ‹_›
  omega

/-- What stands from behind the last line feed before an offset to the next one. There is nothing
before an offset that is not above zero. -/
def lineBetween (bytes : Bytes) (offset : Int) : Bytes :=
  let start := if 0 < offset then ((lastLineFeed bytes (offset - 1)).map (· + 1)).getD 0 else 0
  bytes.extract start ((nextLineFeed bytes start).getD bytes.length)

theorem splittingLoop_eq (bytes : Bytes) (start : Nat) :
    splittingLoop bytes start = splitLines (bytes.drop start) := by
  fun_induction splittingLoop bytes start with
  | case1 start index hnext ih =>
    obtain ⟨body, hdrop, hbody, rfl⟩ := drop_of_nextLineFeed_eq_some hnext
    rw [ih, hdrop, splitLines_append_lineFeed hbody, List.extract_eq_take_drop, hdrop,
      Nat.add_sub_cancel_left, List.take_left]
  | case2 start hnext =>
    exact (splitLines_of_notMem (notMem_of_nextLineFeed_eq_none hnext)).symm

theorem countingLoop_eq (bytes : Bytes) (offset : Int) (start count : Nat) :
    countingLoop bytes offset start count
      = count + ((bytes.drop start).take (offset.toNat - start)).count lineFeed := by
  fun_induction countingLoop bytes offset start count with
  | case1 start count index hnext hlt ih =>
    obtain ⟨body, hdrop, hbody, rfl⟩ := drop_of_nextLineFeed_eq_some hnext
    have hsplit : offset.toNat - start
        = body.length + (offset.toNat - (start + body.length + 1) + 1) := by
      omega
    rw [ih, hdrop, hsplit, List.take_length_add_append, List.take_succ_cons, List.count_append,
      List.count_cons_self, List.count_eq_zero.mpr hbody]
    omega
  | case2 start count index hnext hge =>
    obtain ⟨body, hdrop, hbody, rfl⟩ := drop_of_nextLineFeed_eq_some hnext
    have hshort : offset.toNat - start ≤ body.length := by omega
    have hnone : lineFeed ∉ body.take (offset.toNat - start) :=
      fun h => hbody (List.mem_of_mem_take h)
    rw [hdrop, List.take_append_of_le_length hshort, List.count_eq_zero.mpr hnone, Nat.add_zero]
  | case3 start count hnext =>
    have hnone := notMem_of_nextLineFeed_eq_none hnext
    rw [List.count_eq_zero.mpr fun h => hnone (List.mem_of_mem_take h), Nat.add_zero]

theorem start_lineBetween (bytes : Bytes) (offset : Int) :
    (if 0 < offset then ((lastLineFeed bytes (offset - 1)).map (· + 1)).getD 0 else 0)
      = ((lineFeedBefore bytes offset.toNat).map (· + 1)).getD 0 := by
  split_ifs with hpos
  · have hindex : ¬ offset - 1 < 0 := by omega
    simp only [lastLineFeed, if_neg hindex, Int.sub_add_cancel]
  · rw [Int.toNat_of_nonpos (Int.not_lt.mp hpos)]
    rfl

theorem lineBetween_eq (bytes : Bytes) (offset : Int) :
    lineBetween bytes offset = lineAt bytes offset := by
  obtain ⟨before, head, htake, hbefore, hhead, hstart⟩ := take_of_lineFeedBefore bytes offset.toNat
  obtain ⟨tail, after, hdrop, htail, hafter⟩ :=
    exists_append_endsBefore (bytes.drop offset.toNat)
  have hrest : bytes.drop before.length = head ++ tail ++ after := by
    rw [← List.take_append_drop offset.toNat bytes, htake, hdrop, List.append_assoc, List.drop_left,
      List.append_assoc]
  have hline : lineFeed ∉ head ++ tail := by simp [hhead, htail]
  rw [lineAt_eq htake hdrop hbefore hhead htail hafter]
  simp only [lineBetween, start_lineBetween, hstart]
  exact extract_nextLineFeed hrest hline hafter


-- ---------------------------------------------------------------------------
-- One line structure
-- ---------------------------------------------------------------------------

/-- Whatever the offset, the number of line feeds before it is the index of a piece between line
feeds, and that piece is the line around the offset. The three are the same if they are found by
going from one line feed to the next. -/
theorem lineAt_is_counted_piece (bytes : Bytes) (offset : Int) :
    countLineFeeds bytes offset < (splitLines bytes).length ∧
    (splitLines bytes)[countLineFeeds bytes offset]? = some (lineAt bytes offset) ∧
    splittingLoop bytes 0 = splitLines bytes ∧
    countingLoop bytes offset 0 0 = countLineFeeds bytes offset ∧
    lineBetween bytes offset = lineAt bytes offset := by
  have hpiece := getElem?_splitLines_countLineFeeds bytes offset
  refine ⟨(List.getElem?_eq_some_iff.mp hpiece).1, hpiece, splittingLoop_eq bytes 0, ?_,
    lineBetween_eq bytes offset⟩
  rw [countingLoop_eq, Nat.zero_add]
  rfl


-- ---------------------------------------------------------------------------
-- There and back
-- ---------------------------------------------------------------------------

/-- Puts a line feed in front of every piece but the one at index zero. -/
def joiningLoop (pieces : List Bytes) : Bytes :=
  pieces.zipIdx.flatMap fun (piece, index) => if 0 < index then lineFeed :: piece else piece

theorem joinLines_cons (first : Bytes) (rest : List Bytes) :
    joinLines (first :: rest) = first ++ rest.flatMap (lineFeed :: ·) := by
  induction rest generalizing first with
  | nil => simp [joinLines]
  | cons second more ih =>
    have hjoin : joinLines (first :: second :: more)
        = first ++ lineFeed :: joinLines (second :: more) := by
      simp [joinLines, List.intercalate_cons_cons]
    rw [hjoin, ih, List.flatMap_cons, List.cons_append]

theorem joiningLoop_eq (pieces : List Bytes) : joiningLoop pieces = joinLines pieces := by
  have hbehind : ∀ (pieces : List Bytes) (index : Nat),
      ((pieces.zipIdx (index + 1)).flatMap fun (piece, index) =>
        if 0 < index then lineFeed :: piece else piece) = pieces.flatMap (lineFeed :: ·) := by
    intro pieces index
    induction pieces generalizing index with
    | nil => rfl
    | cons piece rest ih => simp [ih (index + 1)]
  cases pieces with
  | nil => rfl
  | cons first rest =>
    rw [joinLines_cons, joiningLoop, List.zipIdx_cons, List.flatMap_cons, hbehind]
    rfl

theorem lineFeed_notMem_of_mem_splitLines {bytes piece : Bytes} (h : piece ∈ splitLines bytes) :
    lineFeed ∉ piece := by
  induction bytes using lines_induction with
  | last body hbody =>
    rw [splitLines_of_notMem hbody, List.mem_singleton] at h
    exact h ▸ hbody
  | line body rest hbody ih =>
    rw [splitLines_append_lineFeed hbody, List.mem_cons] at h
    rcases h with rfl | h
    · exact hbody
    · exact ih h

theorem length_splitLines (bytes : Bytes) :
    (splitLines bytes).length = bytes.count lineFeed + 1 := by
  induction bytes using lines_induction with
  | last body hbody =>
    rw [splitLines_of_notMem hbody, List.count_eq_zero.mpr hbody, List.length_singleton]
  | line body rest hbody ih =>
    rw [splitLines_append_lineFeed hbody, List.length_cons, ih, List.count_append,
      List.count_eq_zero.mpr hbody, List.count_cons_self, Nat.zero_add]

/-- Joined pieces are split where they were joined, and where they held line feeds themselves. -/
theorem splitLines_joinLines {pieces : List Bytes} (hne : pieces ≠ []) :
    splitLines (joinLines pieces) = pieces.flatMap splitLines := by
  obtain ⟨first, rest, rfl⟩ := List.exists_cons_of_ne_nil hne
  clear hne
  induction rest generalizing first with
  | nil => simp [joinLines_cons]
  | cons second more ih =>
    rw [joinLines_cons, List.flatMap_cons, List.cons_append, ← joinLines_cons, splitLines,
      List.splitOn_append_cons_self]
    exact congrArg (splitLines first ++ ·) (ih second)

theorem flatMap_splitLines_eq_self_iff {pieces : List Bytes} :
    pieces.flatMap splitLines = pieces ↔ ∀ piece ∈ pieces, lineFeed ∉ piece := by
  constructor
  · intro h piece hpiece
    rw [← h] at hpiece
    obtain ⟨whole, -, hmem⟩ := List.mem_flatMap.mp hpiece
    exact lineFeed_notMem_of_mem_splitLines hmem
  · intro h
    rw [List.flatMap_congr fun piece hpiece => splitLines_of_notMem (h piece hpiece),
      List.flatMap_singleton']

/-- Splitting at line feeds and joining with them undo each other. Bytes are split into one piece
more than they have line feeds, none of which holds one, and joined again they are what they were.
Pieces that are joined and split come back if none of them holds a line feed, and only then:
otherwise each of them is split where it stands. -/
theorem split_and_join_inverse (bytes : Bytes) :
    joinLines (splitLines bytes) = bytes ∧
    splitLines bytes ≠ [] ∧
    (∀ piece ∈ splitLines bytes, lineFeed ∉ piece) ∧
    (splitLines bytes).length = bytes.count lineFeed + 1 ∧
    ∀ pieces : List Bytes,
      joiningLoop pieces = joinLines pieces ∧
      (pieces ≠ [] →
        splitLines (joinLines pieces) = pieces.flatMap splitLines ∧
        (splitLines (joinLines pieces) = pieces ↔ ∀ piece ∈ pieces, lineFeed ∉ piece)) := by
  refine ⟨joinLines_splitLines bytes, splitLines_ne_nil bytes,
    fun piece => lineFeed_notMem_of_mem_splitLines, length_splitLines bytes, fun pieces => ?_⟩
  refine ⟨joiningLoop_eq pieces, fun hne => ?_⟩
  have hsplit := splitLines_joinLines hne
  exact ⟨hsplit, by rw [hsplit, flatMap_splitLines_eq_self_iff]⟩

/-- Empty pieces at the ends and between line feeds are pieces like others; one with a line feed in
it comes back as two. -/
theorem split_and_join_inverse_empty_pieces :
    lineFeed ∉ ([0x61] : Bytes) ∧
    splitLines (joinLines [[], [0x61, 0x0A], []]) = [[], [0x61], [], []] ∧
    splitLines (joinLines [[], [0x61], []]) = [[], [0x61], []] := by
  obtain ⟨-, -, hnone, -, hjoined⟩ := split_and_join_inverse [0x0A, 0x61, 0x0A]
  have hheld := (hjoined [[], [0x61, 0x0A], []]).2 (by decide)
  have hfree := (hjoined [[], [0x61], []]).2 (by decide)
  exact ⟨hnone [0x61] (by decide), hheld.1.trans (by decide), hfree.2.mpr (by decide)⟩

end FileSearch
