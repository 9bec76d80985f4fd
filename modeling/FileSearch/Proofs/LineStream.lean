import FileSearch.Proofs.Lines

/-!
# Lines on demand

The lines of a stream are the only way to cut its bytes behind each line feed, whatever chunks they
arrive in. A consumer asks for them one at a time. Between two of them the reader stands still in
the middle of a chunk, and what it gives in the end is what reading the whole stream gives.
-/

namespace FileSearch


-- ---------------------------------------------------------------------------
-- Cutting behind line feeds
-- ---------------------------------------------------------------------------

/-- Lines that are bytes cut behind each line feed. -/
structure CutsLines (bytes : Bytes) (lines : List Bytes) : Prop where
  flatten_eq : lines.flatten = bytes
  ne_nil : ∀ line ∈ lines, line ≠ []
  inner : ∀ line ∈ lines, lineFeed ∉ line.dropLast
  ended : ∀ line ∈ lines.dropLast, line.getLast? = some lineFeed

theorem physicalLines_ended (bytes : Bytes) :
    ∀ line ∈ (physicalLines bytes).dropLast, line.getLast? = some lineFeed := by
  induction bytes with
  | nil => simp [physicalLines]
  | cons b rest ih =>
    by_cases hb : b = lineFeed
    · subst hb
      cases hrest : physicalLines rest with
      | nil => simp [physicalLines, hrest]
      | cons line more =>
        rw [hrest] at ih
        simpa [physicalLines, hrest] using ih
    · cases hrest : physicalLines rest with
      | nil => simp [physicalLines, hb, hrest]
      | cons line more =>
        rw [physicalLines_cons_of_ne hb hrest]
        cases more with
        | nil => simp
        | cons second others =>
          rw [hrest, List.dropLast_cons_cons, List.forall_mem_cons] at ih
          rw [List.dropLast_cons_cons, List.forall_mem_cons]
          refine ⟨?_, ih.2⟩
          rw [List.getLast?_cons, ih.1]
          rfl

theorem cutsLines_physicalLines (bytes : Bytes) : CutsLines bytes (physicalLines bytes) where
  flatten_eq := flatten_physicalLines bytes
  ne_nil line hline := (physicalLines_shape line hline).1
  inner line hline := (physicalLines_shape line hline).2
  ended := physicalLines_ended bytes

namespace CutsLines

theorem eq_of_getLast? {line : Bytes} (h : line.getLast? = some lineFeed) :
    line.dropLast ++ [lineFeed] = line := by
  obtain ⟨body, rfl⟩ := List.getLast?_eq_some_iff.mp h
  simp

/-- There is one way to cut bytes behind each line feed. -/
theorem eq_physicalLines {bytes : Bytes} {lines : List Bytes} (h : CutsLines bytes lines) :
    lines = physicalLines bytes := by
  induction lines generalizing bytes with
  | nil => simp [← h.flatten_eq, physicalLines]
  | cons line more ih =>
    have hinner := h.inner line List.mem_cons_self
    rw [← h.flatten_eq, List.flatten_cons]
    by_cases hend : line.getLast? = some lineFeed
    · have hmore : CutsLines more.flatten more := {
        flatten_eq := rfl
        ne_nil := fun l hl => h.ne_nil l (List.mem_cons_of_mem _ hl)
        inner := fun l hl => h.inner l (List.mem_cons_of_mem _ hl)
        ended := by
          cases more with
          | nil => simp
          | cons second others =>
            intro l hl
            exact h.ended l (by rw [List.dropLast_cons_cons]; exact List.mem_cons_of_mem _ hl) }
      rw [← eq_of_getLast? hend, List.append_assoc, List.singleton_append,
        physicalLines_append_lineFeed hinner, ← ih hmore]
    · -- a line that does not end in a line feed is the last one
      cases more with
      | cons second others => exact absurd (h.ended line (by simp)) hend
      | nil =>
        have hne := h.ne_nil line List.mem_cons_self
        have hnone : lineFeed ∉ line := by
          intro hmem
          rw [← List.dropLast_concat_getLast hne, List.mem_append, List.mem_singleton] at hmem
          rcases hmem with hmem | hmem
          · exact hinner hmem
          · exact hend (by rw [List.getLast?_eq_some_getLast hne, ← hmem])
        simp [physicalLines_of_notMem hnone, hne]

end CutsLines


-- ---------------------------------------------------------------------------
-- The carry
-- ---------------------------------------------------------------------------

namespace LineStream

/-- The stream behind lines that came before. -/
def after (s : LineStream) (lines : List Bytes) : LineStream :=
  { s with lines := lines ++ s.lines }

theorem after_nil (s : LineStream) : s.after [] = s := rfl

theorem after_after (s : LineStream) (first second : List Bytes) :
    (s.after second).after first = s.after (first ++ second) := by
  simp [after]

theorem take_after_singleton (s : LineStream) (line : Bytes) (count : Nat) :
    (s.after [line]).take (count + 1) = (s.take count).after [line] := by
  simp [after, take]

end LineStream

namespace LineReader

/-- What is carried holds no line feed, and every line given ends in one. -/
theorem feed_shape {r : LineReader} (hr : lineFeed ∉ r.carry) (bytes : Bytes) :
    lineFeed ∉ (r.feed bytes).1.carry ∧
      ∀ line ∈ (r.feed bytes).2, line.getLast? = some lineFeed := by
  induction bytes generalizing r with
  | nil => simp [feed_nil, hr]
  | cons b rest ih =>
    by_cases hb : b = lineFeed
    · subst hb
      have hrest := ih (r := {}) (by simp)
      simpa [feed_lineFeed] using hrest
    · have hcarry : lineFeed ∉ r.carry ++ [b] := by simp [hr, Ne.symm hb]
      simpa [feed_of_ne hb] using ih (r := { carry := r.carry ++ [b] }) hcarry

theorem flatten_finish (r : LineReader) : r.finish.flatten = r.carry := by
  cases h : r.carry <;> simp [finish, h]

/-- The lines that a reader makes of the chunks still to come. -/
def stream (r : LineReader) (chunks : List Bytes) (failure : Option Thrown) : LineStream :=
  let (reader, lines) := r.feedAll chunks
  match failure with
  | none => { lines := lines ++ reader.finish }
  | some thrown => { lines, failure := some thrown }

theorem readLines_eq_stream (chunks : List Bytes) (failure : Option Thrown) :
    readLines chunks failure = ({} : LineReader).stream chunks failure := rfl

theorem stream_cons (r : LineReader) (chunk : Bytes) (chunks : List Bytes)
    (failure : Option Thrown) :
    r.stream (chunk :: chunks) failure
      = ((r.feed chunk).1.stream chunks failure).after (r.feed chunk).2 := by
  cases failure <;> simp [stream, feedAll, LineStream.after]

end LineReader


-- ---------------------------------------------------------------------------
-- One line at a time
-- ---------------------------------------------------------------------------

/-- The bytes up to the first line feed and those behind it. -/
def cutLine : Bytes → Option (Bytes × Bytes)
  | [] => none
  | b :: rest =>
    if b = lineFeed then some ([b], rest)
    else (cutLine rest).map fun (line, rest) => (b :: line, rest)

/-- A reader between two lines: the beginning of the next one, what it has not looked at of the
current chunk, the chunks to come and the error after them. -/
structure Reading where
  carry : Bytes := []
  chunk : Bytes := []
  pending : List Bytes
  failure : Option Thrown

/-- What a consumer gets that asks for the next line. -/
inductive Answer where
  | line (bytes : Bytes) (rest : Reading)
  | ended
  | failed (thrown : Thrown)

namespace LineReader

theorem feed_cutLine_some (r : LineReader) {chunk line rest : Bytes}
    (h : cutLine chunk = some (line, rest)) :
    r.feed chunk
      = ((({} : LineReader).feed rest).1,
          (r.carry ++ line) :: (({} : LineReader).feed rest).2) := by
  induction chunk generalizing r line with
  | nil => cases h
  | cons b more ih =>
    by_cases hb : b = lineFeed
    · subst hb
      simp only [cutLine, if_true, Option.some.injEq, Prod.mk.injEq] at h
      obtain ⟨rfl, rfl⟩ := h
      exact feed_lineFeed r more
    · simp only [cutLine, if_neg hb, Option.map_eq_some_iff, Prod.exists, Prod.mk.injEq] at h
      obtain ⟨line, rest, hcut, rfl, rfl⟩ := h
      rw [feed_of_ne hb, ih _ hcut, List.append_assoc, List.singleton_append]

theorem feed_cutLine_none (r : LineReader) {chunk : Bytes} (h : cutLine chunk = none) :
    r.feed chunk = ({ carry := r.carry ++ chunk }, []) := by
  induction chunk generalizing r with
  | nil => simp [feed_nil]
  | cons b more ih =>
    by_cases hb : b = lineFeed
    · simp [cutLine, hb] at h
    · simp only [cutLine, if_neg hb, Option.map_eq_none_iff] at h
      rw [feed_of_ne hb, ih _ h, List.append_assoc, List.singleton_append]

end LineReader

namespace Reading

/-- A reader that has not begun. -/
def start (chunks : List Bytes) (failure : Option Thrown) : Reading :=
  { pending := chunks, failure }

/-- Looks for a line feed in the current chunk, else in those to come. -/
def search (failure : Option Thrown) (carry chunk : Bytes) (pending : List Bytes) : Answer :=
  match cutLine chunk with
  | some (line, rest) => .line (carry ++ line) { chunk := rest, pending, failure }
  | none =>
    match pending with
    | next :: more => search failure (carry ++ chunk) next more
    | [] =>
      match failure with
      | some thrown => .failed thrown
      | none =>
        if carry ++ chunk = [] then .ended
        else .line (carry ++ chunk) (start [] none)

/-- Runs the reader up to the next line. -/
def ask (r : Reading) : Answer := search r.failure r.carry r.chunk r.pending

/-- What a consumer has seen that asks for so many lines. -/
def take : Nat → Reading → LineStream
  | 0, _ => { lines := [] }
  | count + 1, r =>
    match r.ask with
    | .line line rest => (take count rest).after [line]
    | .ended => { lines := [] }
    | .failed thrown => { lines := [], failure := some thrown }

/-- The lines to come. -/
def remaining (r : Reading) : LineStream :=
  ({ carry := r.carry } : LineReader).stream (r.chunk :: r.pending) r.failure

theorem remaining_start (chunks : List Bytes) (failure : Option Thrown) :
    (start chunks failure).remaining = readLines chunks failure := by
  simp [start, remaining, LineReader.stream_cons, LineReader.feed_nil, LineStream.after_nil,
    LineReader.readLines_eq_stream]

/-- What the lines to come must have been for an answer. -/
def explained : Answer → LineStream
  | .line line rest => rest.remaining.after [line]
  | .ended => { lines := [] }
  | .failed thrown => { lines := [], failure := some thrown }

/-- An answer gives the first of the lines to come and leaves the others. -/
theorem explained_search (failure : Option Thrown) (carry chunk : Bytes) (pending : List Bytes) :
    explained (search failure carry chunk pending)
      = ({ carry } : LineReader).stream (chunk :: pending) failure := by
  induction pending generalizing carry chunk with
  | nil =>
    unfold search
    split
    next line rest hcut =>
      simp [explained, remaining, LineReader.stream_cons, LineReader.feed_cutLine_some _ hcut,
        LineStream.after_after]
    next hcut =>
      rw [LineReader.stream_cons, LineReader.feed_cutLine_none _ hcut, LineStream.after_nil]
      cases failure with
      | some thrown => rfl
      | none =>
        by_cases hrest : carry ++ chunk = []
        · simp [hrest, explained, LineReader.stream, LineReader.feedAll, LineReader.finish]
        · simp [hrest, explained, remaining_start, readLines, LineReader.stream,
            LineReader.feedAll, LineReader.finish, LineStream.after]
  | cons next more ih =>
    unfold search
    split
    next line rest hcut =>
      simp [explained, remaining, LineReader.stream_cons, LineReader.feed_cutLine_some _ hcut,
        LineStream.after_after]
    next hcut =>
      rw [ih, LineReader.stream_cons _ chunk, LineReader.feed_cutLine_none _ hcut,
        LineStream.after_nil]

theorem explained_ask (r : Reading) : explained r.ask = r.remaining :=
  explained_search ..

/-- A consumer that stops after some lines has seen the first ones of those to come. -/
theorem take_eq (count : Nat) (r : Reading) : take count r = r.remaining.take count := by
  induction count generalizing r with
  | zero => simp [take, LineStream.take]
  | succ count ih =>
    rw [← explained_ask]
    unfold take
    cases r.ask with
    | line line rest => simp [explained, ih, LineStream.take_after_singleton]
    | ended => simp [explained, LineStream.take]
    | failed thrown => simp [explained, LineStream.take]

end Reading


-- ---------------------------------------------------------------------------
-- Reading a stream
-- ---------------------------------------------------------------------------

/-- Lines are a function of the bytes, not of the chunks. -/
theorem readLines_congr {chunks others : List Bytes} (h : others.flatten = chunks.flatten)
    (failure : Option Thrown) : readLines others failure = readLines chunks failure := by
  simp [readLines, LineReader.feedAll_eq, h]

/-- A stream that fails has given the lines that are complete; what is left begins a line. -/
theorem readLines_failed (chunks : List Bytes) (thrown : Thrown) :
    ∃ complete rest, readLines chunks (some thrown) = { lines := complete, failure := some thrown } ∧
      (∀ line ∈ complete, line.getLast? = some lineFeed) ∧ lineFeed ∉ rest ∧
      complete.flatten ++ rest = chunks.flatten ∧
      (readLines chunks none).lines = complete ++ (if rest.isEmpty then [] else [rest]) := by
  obtain ⟨hcarry, hended⟩ := LineReader.feed_shape (r := {}) (by simp) chunks.flatten
  have hlines := LineReader.feed_lines (r := {}) (by simp) chunks.flatten
  refine ⟨_, (({} : LineReader).feed chunks.flatten).1.carry, ?_, hended, hcarry, ?_, ?_⟩
  · simp [readLines, LineReader.feedAll_eq]
  · have hall := congrArg List.flatten hlines
    rwa [List.nil_append, flatten_physicalLines, List.flatten_append,
      LineReader.flatten_finish] at hall
  · simp [readLines, LineReader.feedAll_eq, LineReader.finish]

/-- However a stream of bytes is cut into chunks, its lines are the bytes cut behind each line feed,
and there is one way to cut them. If the stream fails, the lines that ended before the error are
given and the unfinished rest is not. A consumer that stops early has seen the first lines. -/
theorem readLines_cut_anywhere (chunks : List Bytes) :
    (readLines chunks none).failure = none ∧
    (∀ lines, lines = (readLines chunks none).lines ↔ CutsLines chunks.flatten lines) ∧
    (∀ others failure, others.flatten = chunks.flatten →
      readLines others failure = readLines chunks failure) ∧
    (∀ thrown, ∃ complete rest,
      readLines chunks (some thrown) = { lines := complete, failure := some thrown } ∧
      (∀ line ∈ complete, line.getLast? = some lineFeed) ∧ lineFeed ∉ rest ∧
      complete.flatten ++ rest = chunks.flatten ∧
      (readLines chunks none).lines = complete ++ (if rest.isEmpty then [] else [rest])) ∧
    ∀ failure count,
      (Reading.start chunks failure).take count = (readLines chunks failure).take count := by
  refine ⟨rfl, fun lines => ?_, fun others failure h => readLines_congr h failure,
    readLines_failed chunks, fun failure count => ?_⟩
  · rw [readLines_eq]
    constructor
    · rintro rfl
      exact cutsLines_physicalLines _
    · exact CutsLines.eq_physicalLines
  · rw [Reading.take_eq, Reading.remaining_start]

theorem readLines_cut_anywhere_inside_line :
    [[0x61, 0x62, 0x0A], [0x63]] = (readLines [[0x61], [], [0x62, 0x0A, 0x63]] none).lines ∧
    readLines [[0x61, 0x62], [0x0A, 0x63]] none = readLines [[0x61], [], [0x62, 0x0A, 0x63]] none ∧
    (Reading.start [[0x61], [], [0x62, 0x0A, 0x63]] none).take 1
      = { lines := [[0x61, 0x62, 0x0A]] } := by
  obtain ⟨-, hlines, hcongr, -, htake⟩ :=
    readLines_cut_anywhere [[0x61], [], [0x62, 0x0A, 0x63]]
  refine ⟨(hlines _).mpr ?_, hcongr [[0x61, 0x62], [0x0A, 0x63]] none rfl, ?_⟩
  · exact { flatten_eq := rfl, ne_nil := by decide, inner := by decide, ended := by decide }
  · rw [htake none 1]
    rfl

end FileSearch
