import FileSearch.Lines.Reader

/-!
# The lines of a file

The lines of a file are a function of its bytes. However the stream cuts them into chunks, reading
gives the same lines, for what the reader carries from chunk to chunk is always the beginning of a
line.
-/

namespace FileSearch


-- ---------------------------------------------------------------------------
-- Physical lines
-- ---------------------------------------------------------------------------

/-- The lines of a run of bytes. A line ends at a line feed and includes it; what is left after the
last one is a line too, unless it is empty. -/
def physicalLines : Bytes → List Bytes
  | [] => []
  | b :: rest =>
    if b = lineFeed then [b] :: physicalLines rest
    else match physicalLines rest with
      | [] => [[b]]
      | line :: more => (b :: line) :: more

theorem physicalLines_cons_of_ne {b : UInt8} (hb : b ≠ lineFeed) {rest line : Bytes}
    {more : List Bytes} (hrest : physicalLines rest = line :: more) :
    physicalLines (b :: rest) = (b :: line) :: more := by
  simp [physicalLines, hb, hrest]

theorem flatten_physicalLines (bytes : Bytes) : (physicalLines bytes).flatten = bytes := by
  induction bytes with
  | nil => rfl
  | cons b rest ih =>
    simp only [physicalLines]
    split
    · simp [ih]
    · cases hrest : physicalLines rest with
      | nil =>
        rw [hrest] at ih
        simp [← ih]
      | cons line more =>
        rw [hrest] at ih
        simp [← ih]

/-- Bytes up to a line feed are the first line. -/
theorem physicalLines_append_lineFeed {body : Bytes} (hbody : lineFeed ∉ body) (rest : Bytes) :
    physicalLines (body ++ lineFeed :: rest) = (body ++ [lineFeed]) :: physicalLines rest := by
  induction body with
  | nil => simp [physicalLines]
  | cons b more ih =>
    have hb : b ≠ lineFeed := fun h => hbody (by simp [h])
    have hmore : lineFeed ∉ more := fun h => hbody (List.mem_cons_of_mem b h)
    exact physicalLines_cons_of_ne hb (ih hmore)

/-- Bytes without a line feed are one line, unless there are none. -/
theorem physicalLines_of_notMem {body : Bytes} (hbody : lineFeed ∉ body) :
    physicalLines body = if body.isEmpty then [] else [body] := by
  induction body with
  | nil => rfl
  | cons b more ih =>
    have hb : b ≠ lineFeed := fun h => hbody (by simp [h])
    have hmore : lineFeed ∉ more := fun h => hbody (List.mem_cons_of_mem b h)
    cases more with
    | nil => simp [physicalLines, hb]
    | cons c others => exact physicalLines_cons_of_ne hb (ih hmore)

/-- A line is not empty, and holds a line feed at its end or not at all. -/
theorem physicalLines_shape {bytes : Bytes} :
    ∀ line ∈ physicalLines bytes, line ≠ [] ∧ lineFeed ∉ line.dropLast := by
  induction bytes with
  | nil => simp [physicalLines]
  | cons b rest ih =>
    by_cases hb : b = lineFeed
    · subst hb
      simpa [physicalLines] using ih
    · cases hrest : physicalLines rest with
      | nil => simp [physicalLines, hb, hrest]
      | cons line more =>
        rw [hrest, List.forall_mem_cons] at ih
        obtain ⟨⟨hne, hfirst⟩, hmore⟩ := ih
        rw [physicalLines_cons_of_ne hb hrest, List.forall_mem_cons]
        refine ⟨⟨List.cons_ne_nil _ _, ?_⟩, hmore⟩
        rw [List.dropLast_cons_of_ne_nil hne]
        simp [hfirst, Ne.symm hb]

/-- Whether there is nothing of a line after the last line feed. -/
def EndsLines (bytes : Bytes) : Prop := bytes = [] ∨ bytes.getLast? = some lineFeed

theorem EndsLines.of_cons {b : UInt8} {rest : Bytes} (h : EndsLines (b :: rest)) :
    EndsLines rest := by
  cases rest with
  | nil => exact .inl rfl
  | cons c more => exact .inr (by simpa [EndsLines] using h)

theorem EndsLines.lines_ne_nil {b : UInt8} {rest : Bytes} (h : EndsLines (b :: rest))
    (hb : b ≠ lineFeed) : physicalLines rest ≠ [] := by
  intro hlines
  have hrest := flatten_physicalLines rest
  rw [hlines, List.flatten_nil] at hrest
  simp [EndsLines, ← hrest, hb] at h

/-- After the last line feed a new line begins. -/
theorem physicalLines_append {xs : Bytes} (h : EndsLines xs) (ys : Bytes) :
    physicalLines (xs ++ ys) = physicalLines xs ++ physicalLines ys := by
  induction xs with
  | nil => rfl
  | cons b rest ih =>
    have hrest := ih h.of_cons
    by_cases hb : b = lineFeed
    · simp [physicalLines, hb, hrest]
    · obtain ⟨line, more, hlines⟩ := List.exists_cons_of_ne_nil (h.lines_ne_nil hb)
      rw [hlines, List.cons_append] at hrest
      rw [physicalLines_cons_of_ne hb hlines, List.cons_append, List.cons_append]
      exact physicalLines_cons_of_ne hb hrest

theorem physicalLines_flatten {blocks : List Bytes} (h : ∀ block ∈ blocks, EndsLines block) :
    physicalLines blocks.flatten = blocks.flatMap physicalLines := by
  induction blocks with
  | nil => rfl
  | cons block rest ih =>
    rw [List.forall_mem_cons] at h
    rw [List.flatten_cons, physicalLines_append h.1, ih h.2, List.flatMap_cons]

theorem EndsLines.getLast?_eq {bytes : Bytes} (h : EndsLines bytes) :
    ∀ line ∈ physicalLines bytes, line.getLast? = some lineFeed := by
  induction bytes with
  | nil => simp [physicalLines]
  | cons b rest ih =>
    have hrest := ih h.of_cons
    by_cases hb : b = lineFeed
    · simpa [physicalLines, hb] using hrest
    · obtain ⟨line, more, hlines⟩ := List.exists_cons_of_ne_nil (h.lines_ne_nil hb)
      rw [hlines, List.forall_mem_cons] at hrest
      rw [physicalLines_cons_of_ne hb hlines, List.forall_mem_cons]
      refine ⟨?_, hrest.2⟩
      rw [List.getLast?_cons, hrest.1]
      rfl


-- ---------------------------------------------------------------------------
-- The reader
-- ---------------------------------------------------------------------------

theorem splitLines_ne_nil (bytes : Bytes) : splitLines bytes ≠ [] :=
  List.splitOn_ne_nil lineFeed bytes

theorem splitLines_lineFeed (rest : Bytes) :
    splitLines (lineFeed :: rest) = [] :: splitLines rest := by
  simp [splitLines, List.splitOn_cons_eq_if_modifyHead]

theorem splitLines_of_ne {b : UInt8} (hb : b ≠ lineFeed) (rest : Bytes) :
    splitLines (b :: rest) = (splitLines rest).modifyHead (b :: ·) := by
  simp [splitLines, List.splitOn_cons_eq_if_modifyHead, hb]

namespace LineReader

/-- What the first piece begins with may as well be in the carry. -/
theorem close_modifyHead (r : LineReader) (b : UInt8) {pieces : List Bytes} (hne : pieces ≠ []) :
    r.close (pieces.modifyHead (b :: ·))
      = { carry := r.carry ++ [b] : LineReader }.close pieces := by
  obtain ⟨first, more, rfl⟩ := List.exists_cons_of_ne_nil hne
  cases more with
  | nil => simp [close]
  | cons second others => simp [close]

theorem feed_nil (r : LineReader) : r.feed [] = (r, []) := by
  simp [feed, splitLines, close]

theorem feed_lineFeed (r : LineReader) (rest : Bytes) :
    r.feed (lineFeed :: rest)
      = ((({} : LineReader).feed rest).1,
          (r.carry ++ [lineFeed]) :: (({} : LineReader).feed rest).2) := by
  obtain ⟨first, more, hrest⟩ := List.exists_cons_of_ne_nil (splitLines_ne_nil rest)
  simp [feed, splitLines_lineFeed, hrest, close]

theorem feed_of_ne {b : UInt8} (hb : b ≠ lineFeed) (r : LineReader) (rest : Bytes) :
    r.feed (b :: rest) = { carry := r.carry ++ [b] : LineReader }.feed rest := by
  unfold feed
  rw [splitLines_of_ne hb]
  exact r.close_modifyHead b (splitLines_ne_nil rest)

/-- Two chunks are read as one. -/
theorem feed_append (r : LineReader) (first second : Bytes) :
    r.feed (first ++ second) =
      (((r.feed first).1.feed second).1,
        (r.feed first).2 ++ ((r.feed first).1.feed second).2) := by
  induction first generalizing r with
  | nil => simp [feed_nil]
  | cons b rest ih =>
    by_cases hb : b = lineFeed
    · subst hb
      simp [feed_lineFeed, ih]
    · simp [feed_of_ne hb, ih]

/-- What a reader makes of a stream does not depend on how it is cut. -/
theorem feedAll_eq (r : LineReader) (chunks : List Bytes) :
    r.feedAll chunks = r.feed chunks.flatten := by
  induction chunks generalizing r with
  | nil => simp [feedAll, feed_nil]
  | cons chunk rest ih => simp [feedAll, ih, feed_append]

/-- The carry, which holds no line feed, is where the first line begins. -/
theorem feed_lines {r : LineReader} (hr : lineFeed ∉ r.carry) (bytes : Bytes) :
    (r.feed bytes).2 ++ (r.feed bytes).1.finish = physicalLines (r.carry ++ bytes) := by
  induction bytes generalizing r with
  | nil => simp [feed_nil, finish, physicalLines_of_notMem hr]
  | cons b rest ih =>
    by_cases hb : b = lineFeed
    · subst hb
      have hrest := ih (r := {}) (by simp)
      simpa [feed_lineFeed, physicalLines_append_lineFeed hr] using hrest
    · have hcarry : lineFeed ∉ r.carry ++ [b] := by simp [hr, Ne.symm hb]
      have hrest := ih (r := { carry := r.carry ++ [b] }) hcarry
      simpa [feed_of_ne hb] using hrest

end LineReader


-- ---------------------------------------------------------------------------
-- Streams
-- ---------------------------------------------------------------------------

/-- A stream that ends gives the lines of its bytes. -/
theorem readLines_eq (chunks : List Bytes) :
    readLines chunks none = { lines := physicalLines chunks.flatten } := by
  have hlines := LineReader.feed_lines (r := {}) (by simp) chunks.flatten
  simpa [readLines, LineReader.feedAll_eq] using hlines

/-- A cut between a carriage return and its line feed, and an empty chunk. -/
example : (readLines [[0x61, 0x0D], [], [0x0A, 0x0A, 0x62], [0x63]] none).lines =
    [[0x61, 0x0D, 0x0A], [0x0A], [0x62, 0x63]] := by
  decide

end FileSearch
