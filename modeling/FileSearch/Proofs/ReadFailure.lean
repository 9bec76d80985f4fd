import FileSearch.Proofs.LineStream
import FileSearch.Proofs.Negation
import FileSearch.Proofs.Scan.Steps

/-!
# Files that cannot be read

A file may fail to open, to give its size or to be read to its end, and may be refused for what it
is or how large it is. The scan then comes to the failure whatever it had found before, except where a
negated search has met a match already, and nothing is emitted
(`Scan.read_failure_never_misreports`). What stands unfinished before the error is never looked at:
the scan asks for one line at a time, and the reader gives no line that has not ended.
-/

namespace FileSearch


-- ---------------------------------------------------------------------------
-- Errors of files
-- ---------------------------------------------------------------------------

/-- The failure for an error of a file has the code the error is classified as. It is the error
itself, or one with the path and with the error as its cause. -/
theorem Thrown.toFileFailure_spec (thrown : Thrown) (path : String) :
    (thrown.toFileFailure path).code = thrown.classify ∧
      (thrown = .failure (thrown.toFileFailure path) ∨
        (thrown.toFileFailure path).path = some path ∧
          (thrown.toFileFailure path).cause = some thrown) := by
  cases thrown with
  | failure f => exact ⟨rfl, .inl rfl⟩
  | fault f => exact ⟨rfl, .inr ⟨rfl, rfl⟩⟩
  | value v => exact ⟨rfl, .inr ⟨rfl, rfl⟩⟩

namespace ScanOptions

/-- The scan meets an error with a file, or refuses it. -/
inductive Meets (o : ScanOptions) (path : String) : Opening → Thrown → Prop
  | opening (thrown : Thrown) : Meets o path (.error thrown) thrown
  /-- Reading in chunks fails after the last of them. -/
  | chunks {file : OpenFile} {thrown : Thrown} (hmode : o.mode.readsLines = true)
      (hfailure : file.failure = some thrown) : Meets o path (.ok file) thrown
  | stat {file : OpenFile} {thrown : Thrown} (hmode : o.mode.readsLines = false)
      (hstat : file.stat = .error thrown) : Meets o path (.ok file) thrown
  | directory {file : OpenFile} {stat : FileStat} (hmode : o.mode.readsLines = false)
      (hstat : file.stat = .ok stat) (hdirectory : stat.isDirectory = true) :
      Meets o path (.ok file) (.failure (OpenFile.notRegular path))
  | size {file : OpenFile} {stat : FileStat} (hmode : o.mode.readsLines = false)
      (hstat : file.stat = .ok stat) (hregular : stat.isDirectory = false)
      (hlarge : o.maxFileSize.lt stat.size = true) :
      Meets o path (.ok file) (.failure (OpenFile.tooLarge stat.size o.maxFileSize path))
  | contents {file : OpenFile} {stat : FileStat} {thrown : Thrown}
      (hmode : o.mode.readsLines = false) (hstat : file.stat = .ok stat)
      (hregular : stat.isDirectory = false) (hsize : o.maxFileSize.lt stat.size = false)
      (hcontents : file.contents = .error thrown) : Meets o path (.ok file) thrown
  /-- The contents turn out longer than the size that was reported. -/
  | grown {file : OpenFile} {stat : FileStat} {bytes : Bytes}
      (hmode : o.mode.readsLines = false) (hstat : file.stat = .ok stat)
      (hregular : stat.isDirectory = false) (hsize : o.maxFileSize.lt stat.size = false)
      (hcontents : file.contents = .ok bytes)
      (hlarge : o.maxFileSize.lt (.ofNat bytes.length) = true) :
      Meets o path (.ok file)
        (.failure (OpenFile.tooLarge (.ofNat bytes.length) o.maxFileSize path))

variable {o : ScanOptions} {path : String} {file : OpenFile} {thrown : Thrown}

theorem failure_of_meets (hmode : o.mode.readsLines = true) (h : o.Meets path (.ok file) thrown) :
    file.failure = some thrown := by
  cases h with
  | chunks _ hfailure => exact hfailure
  | _ hother =>
    rw [hmode] at hother
    cases hother

/-- Reading the whole contents fails exactly with what the scan of a whole file meets. -/
theorem meets_iff_readLimited (hmode : o.mode.readsLines = false) :
    o.Meets path (.ok file) thrown
      ↔ (file.readLimited o.maxFileSize path).outcome = .error thrown := by
  constructor
  · intro h
    cases h with
    | chunks hlines => rw [hlines] at hmode; cases hmode
    | stat _ hstat => simp [OpenFile.readLimited, hstat]
    | directory _ hstat hdirectory => simp [OpenFile.readLimited, hstat, hdirectory]
    | size _ hstat hregular hlarge => simp [OpenFile.readLimited, hstat, hregular, hlarge]
    | contents _ hstat hregular hsize hcontents =>
      simp [OpenFile.readLimited, hstat, hregular, hsize, hcontents]
    | grown _ hstat hregular hsize hcontents hlarge =>
      simp [OpenFile.readLimited, hstat, hregular, hsize, hcontents, hlarge]
  · intro h
    cases hstat : file.stat with
    | error fault =>
      obtain rfl : fault = thrown := by simpa [OpenFile.readLimited, hstat] using h
      exact .stat hmode hstat
    | ok stat =>
      cases hdirectory : stat.isDirectory with
      | true =>
        obtain rfl : .failure (OpenFile.notRegular path) = thrown := by
          simpa [OpenFile.readLimited, hstat, hdirectory] using h
        exact .directory hmode hstat hdirectory
      | false =>
        cases hsize : o.maxFileSize.lt stat.size with
        | true =>
          obtain rfl : .failure (OpenFile.tooLarge stat.size o.maxFileSize path) = thrown := by
            simpa [OpenFile.readLimited, hstat, hdirectory, hsize] using h
          exact .size hmode hstat hdirectory hsize
        | false =>
          cases hcontents : file.contents with
          | error fault =>
            obtain rfl : fault = thrown := by
              simpa [OpenFile.readLimited, hstat, hdirectory, hsize, hcontents] using h
            exact .contents hmode hstat hdirectory hsize hcontents
          | ok bytes =>
            cases hlarge : o.maxFileSize.lt (.ofNat bytes.length) with
            | true =>
              obtain rfl : .failure (OpenFile.tooLarge (.ofNat bytes.length) o.maxFileSize path)
                  = thrown := by
                simpa [OpenFile.readLimited, hstat, hdirectory, hsize, hcontents, hlarge] using h
              exact .grown hmode hstat hdirectory hsize hcontents hlarge
            | false => simp [OpenFile.readLimited, hstat, hdirectory, hsize, hcontents, hlarge] at h

end ScanOptions


-- ---------------------------------------------------------------------------
-- Lines before an error
-- ---------------------------------------------------------------------------

/-- The lines that have ended. -/
def endedLines (bytes : Bytes) : List Bytes :=
  (physicalLines bytes).filter (·.getLast? = some lineFeed)

theorem readLines_some (chunks : List Bytes) (thrown : Thrown) :
    readLines chunks (some thrown)
      = { lines := endedLines chunks.flatten, failure := some thrown } := by
  obtain ⟨complete, rest, hread, hended, hrest, -, hall⟩ := readLines_failed chunks thrown
  have hunfinished : (if rest.isEmpty then [] else [rest]).filter
      (fun line : Bytes => line.getLast? = some lineFeed) = [] := by
    rw [List.filter_eq_nil_iff]
    intro line hline
    have hline : line = rest := by
      split at hline
      · cases hline
      · exact List.mem_singleton.mp hline
    subst hline
    simpa using fun h => hrest (List.mem_of_getLast? h)
  have hcomplete : complete.filter (fun line : Bytes => line.getLast? = some lineFeed) = complete :=
    List.filter_eq_self.mpr fun line hline => by simpa using hended line hline
  have hlines : physicalLines chunks.flatten
      = complete ++ (if rest.isEmpty then [] else [rest]) := by
    rw [← hall, readLines_eq]
  rw [hread, endedLines, hlines, List.filter_append, hunfinished, hcomplete, List.append_nil]

theorem failure_readLines (chunks : List Bytes) (failure : Option Thrown) :
    (readLines chunks failure).failure = failure := by
  cases failure <;> rfl


-- ---------------------------------------------------------------------------
-- What is tested
-- ---------------------------------------------------------------------------

/-- What a line is tested as: as it stands, and if that fails without its line feed. -/
def haystacks (m : Matcher) (line : Bytes) : List Bytes :=
  if m.test line then [line]
  else
    let content := stripLineFeed line
    if content.length != line.length then [line, content] else [line]

theorem lineMatches_eq_any (m : Matcher) (line : Bytes) :
    lineMatches m line = (haystacks m line).any m.test := by
  unfold lineMatches haystacks
  cases htest : m.test line with
  | true => simp [htest]
  | false => cases hshort : (stripLineFeed line).length != line.length <;> simp [htest, hshort]

theorem eq_of_mem_haystacks {m : Matcher} {line haystack : Bytes}
    (h : haystack ∈ haystacks m line) : haystack = line ∨ haystack = stripLineFeed line := by
  simp only [haystacks] at h
  split at h
  · exact .inl (List.mem_singleton.mp h)
  · split at h
    · simpa using h
    · exact .inl (List.mem_singleton.mp h)

theorem lineMatches_congr {m m' : Matcher} {line : Bytes} (hline : m'.test line = m.test line)
    (hcontent : m'.test (stripLineFeed line) = m.test (stripLineFeed line)) :
    lineMatches m' line = lineMatches m line := by
  simp only [lineMatches, hline, hcontent]

/-- What a scan comes to, and what it gave to the matcher on the way. -/
structure TestedReport where
  outcome : Except Thrown Report
  tested : List Bytes := []

/-- The same with tests made before. -/
def TestedReport.after (t : TestedReport) (earlier : List Bytes) : TestedReport :=
  { t with tested := earlier ++ t.tested }

namespace Report

variable {m : Matcher} {path : String}

/-- The report of the parts that were found. -/
def ofParts : List Bytes → Report
  | [] => nothing
  | parts => { matched := true, block := parts.flatten }

theorem remaining_of_ask {r rest : Reading} {line : Bytes} (h : r.ask = .line line rest) :
    r.remaining = rest.remaining.after [line] := by
  rw [← Reading.explained_ask, h, Reading.explained]

/-- A scan as it goes on: it asks for a line, tests it, and keeps what it has found so far. -/
def loop (negated : Bool) (m : Matcher) (path : String) (number : Nat) (parts : List Bytes)
    (r : Reading) : TestedReport :=
  match _h : r.ask with
  | .failed thrown => { outcome := .error thrown }
  | .ended => { outcome := .ok (if negated then ofPath path else ofParts parts) }
  | .line line rest =>
    let tests := haystacks m line
    if tests.any m.test then
      if negated then { outcome := .ok nothing, tested := tests }
      else
        let part := Report.line path number (stripLineEnding line)
        (loop negated m path (number + 1) (parts ++ [part]) rest).after tests
    else (loop negated m path (number + 1) parts rest).after tests
termination_by r.remaining.lines.length
decreasing_by all_goals simp [remaining_of_ask _h, LineStream.after]

/-- The outcome of a scan that has found some parts and has these lines before it. -/
def resume (negated : Bool) (m : Matcher) (path : String) (number : Nat) (parts : List Bytes)
    (s : LineStream) : Except Thrown Report :=
  if negated then byLineNegated m path s
  else match s.failure with
    | some thrown => .error thrown
    | none => .ok (ofParts (parts ++ matchingLines m path number s.lines))

theorem resume_start (negated : Bool) (m : Matcher) (path : String) (s : LineStream) :
    resume negated m path 1 [] s = ofLines negated m path s := by
  unfold resume ofLines byLine
  cases negated with
  | true => rfl
  | false =>
    cases s.failure with
    | some thrown => rfl
    | none => cases matchingLines m path 1 s.lines <;> rfl

theorem resume_of_no_match {line : Bytes} (h : lineMatches m line = false) (negated : Bool)
    (number : Nat) (parts : List Bytes) (s : LineStream) :
    resume negated m path number parts (s.after [line])
      = resume negated m path (number + 1) parts s := by
  cases negated <;> simp [resume, byLineNegated, LineStream.after, matchingLines, h]

theorem resume_of_match {line : Bytes} (h : lineMatches m line) (number : Nat)
    (parts : List Bytes) (s : LineStream) :
    resume false m path number parts (s.after [line])
      = resume false m path (number + 1)
          (parts ++ [Report.line path number (stripLineEnding line)]) s := by
  simp [resume, LineStream.after, matchingLines, h]

theorem resume_negated_of_match {line : Bytes} (h : lineMatches m line) (number : Nat)
    (parts : List Bytes) (s : LineStream) :
    resume true m path number parts (s.after [line]) = .ok nothing := by
  simp [resume, byLineNegated, LineStream.after, h]

/-- The tests of a line, and of those behind it. -/
theorem tested_after {t : TestedReport} {s : LineStream} {line : Bytes}
    (h : ∀ haystack ∈ t.tested, ∃ l ∈ s.lines, haystack ∈ haystacks m l) :
    ∀ haystack ∈ (t.after (haystacks m line)).tested,
      ∃ l ∈ (s.after [line]).lines, haystack ∈ haystacks m l := by
  intro haystack hmem
  rcases List.mem_append.mp hmem with hmem | hmem
  · exact ⟨line, List.mem_cons_self, hmem⟩
  · obtain ⟨l, hl, hin⟩ := h haystack hmem
    exact ⟨l, List.mem_cons_of_mem _ hl, hin⟩

theorem failure_of_ofLines {negated : Bool} {s : LineStream} {thrown : Thrown}
    (h : ofLines negated m path s = .error thrown) : s.failure = some thrown := by
  cases negated with
  | true =>
    simp only [ofLines, if_true, byLineNegated] at h
    split at h
    · cases h
    · split at h
      next fault hfailure => rw [hfailure, Except.error.inj h]
      next => cases h
  | false =>
    simp only [ofLines, Bool.false_eq_true, if_false, byLine] at h
    split at h
    next fault hfailure => rw [hfailure, Except.error.inj h]
    next => split at h <;> cases h

/-- The loop comes to what the lines to come decide, and tests none but these. -/
theorem loop_spec (negated : Bool) (m : Matcher) (path : String) (number : Nat)
    (parts : List Bytes) (r : Reading) :
    (loop negated m path number parts r).outcome
        = resume negated m path number parts r.remaining ∧
      ∀ haystack ∈ (loop negated m path number parts r).tested,
        ∃ line ∈ r.remaining.lines, haystack ∈ haystacks m line := by
  fun_induction loop negated m path number parts r with
  | case1 number parts r thrown h =>
    simp [← Reading.explained_ask, h, Reading.explained, resume, byLineNegated]
  | case2 number parts r h =>
    rw [← Reading.explained_ask, h, Reading.explained]
    cases negated <;> simp [resume, byLineNegated, matchingLines]
  | case3 number parts r line rest h tests htests hnegated =>
    have hmatch : lineMatches m line := by rw [lineMatches_eq_any, htests]
    obtain rfl : negated = true := hnegated
    rw [remaining_of_ask h, resume_negated_of_match hmatch]
    exact ⟨rfl, fun haystack hmem => ⟨line, List.mem_cons_self, hmem⟩⟩
  | case4 number parts r line rest h tests htests hnegated part ih =>
    have hmatch : lineMatches m line := by rw [lineMatches_eq_any, htests]
    obtain rfl : negated = false := by simpa using hnegated
    rw [remaining_of_ask h, resume_of_match hmatch]
    exact ⟨ih.1, tested_after ih.2⟩
  | case5 number parts r line rest h tests htests ih =>
    have hmatch : lineMatches m line = false := by
      rw [lineMatches_eq_any]
      simpa using htests
    rw [remaining_of_ask h, resume_of_no_match hmatch]
    exact ⟨ih.1, tested_after ih.2⟩

end Report

namespace ScanOptions

/-- The scan of a file as it goes on. A content that is read as a whole is tested as a whole. -/
def loop (o : ScanOptions) (path : String) : Opening → TestedReport
  | .error thrown => { outcome := .error thrown }
  | .ok file =>
    if o.mode.readsLines then
      Report.loop o.mode.negated o.matcher path 1 [] (.start file.chunks file.failure)
    else match (file.readLimited o.maxFileSize path).outcome with
      | .error thrown => { outcome := .error thrown }
      | .ok content =>
        { outcome := .ok (Report.ofContent o.mode.negated o.matcher path content)
          tested := [content] }

/-- What a file comes to whose scan has this outcome. -/
def resultOf (path : String) : Except Thrown Report → FileResult
  | .ok report => .scanned path report
  | .error thrown => .failed path (thrown.toFileFailure path)

theorem outcome_loop (o : ScanOptions) (path : String) (file : OpenFile) :
    (o.loop path (.ok file)).outcome = o.report path file := by
  unfold report loop
  cases o.mode.readsLines with
  | true =>
    have hloop := (Report.loop_spec o.mode.negated o.matcher path 1 []
      (.start file.chunks file.failure)).1
    rwa [Report.resume_start, Reading.remaining_start] at hloop
  | false =>
    simp only [Bool.false_eq_true, if_false]
    cases (file.readLimited o.maxFileSize path).outcome <;> rfl

theorem result_scan_eq_loop (o : ScanOptions) (path : String) (opening : Opening) :
    (o.scan path opening).result = resultOf path (o.loop path opening).outcome := by
  cases opening with
  | error thrown => rfl
  | ok file =>
    simp only [scan, result, outcome_loop]
    cases o.report path file <;> rfl

/-- The lines that have ended before reading stops, where the scan reads lines. -/
def endedBefore (o : ScanOptions) : Opening → List Bytes
  | .ok file => if o.mode.readsLines then endedLines file.chunks.flatten else []
  | .error _ => []

/-- The scan has met a match before an error and asks for nothing more. -/
def Settles (o : ScanOptions) (opening : Opening) : Prop :=
  o.mode.negated = true ∧ ∃ line ∈ o.endedBefore opening, lineMatches o.matcher line

/-- The scan comes to an error, unless it has settled before, and tests no line that has not
ended. -/
structure StopsAt (o : ScanOptions) (path : String) (opening : Opening) (thrown : Thrown) :
    Prop where
  settled : o.Settles opening → (o.loop path opening).outcome = .ok .nothing
  failed : ¬o.Settles opening → (o.loop path opening).outcome = .error thrown
  tested : ∀ haystack ∈ (o.loop path opening).tested,
    ∃ line ∈ o.endedBefore opening, haystack ∈ haystacks o.matcher line

variable {o : ScanOptions} {path : String} {opening : Opening} {file : OpenFile} {thrown : Thrown}

theorem not_settles (h : o.endedBefore opening = []) : ¬o.Settles opening := by
  simp [Settles, h]

/-- A scan that never begins has nothing to settle with. -/
theorem stopsAt_of_loop_eq (hended : o.endedBefore opening = [])
    (hloop : o.loop path opening = { outcome := .error thrown }) :
    o.StopsAt path opening thrown where
  settled hsettles := absurd hsettles (not_settles hended)
  failed _ := by rw [hloop]
  tested := by simp [hloop]

/-- A scan that reads lines settles at one that has ended, or comes to the error behind them. -/
theorem stopsAt_of_failure (hmode : o.mode.readsLines = true)
    (hfailure : file.failure = some thrown) : o.StopsAt path (.ok file) thrown := by
  have hlines : readLines file.chunks file.failure
      = { lines := o.endedBefore (.ok file), failure := some thrown } := by
    rw [hfailure, readLines_some]
    simp [endedBefore, hmode]
  have houtcome := outcome_loop o path file
  simp only [report, hmode, if_true, OpenFile.lines, hlines] at houtcome
  refine ⟨fun hsettles => ?_, fun hnot => ?_, ?_⟩
  · have hany : (o.endedBefore (.ok file)).any (lineMatches o.matcher) = true :=
      List.any_eq_true.mpr hsettles.2
    rw [houtcome]
    simp [Report.ofLines, Report.byLineNegated, hsettles.1, hany]
  · rw [houtcome]
    cases hnegated : o.mode.negated with
    | false => simp [Report.ofLines, Report.byLine]
    | true =>
      have hany : (o.endedBefore (.ok file)).any (lineMatches o.matcher) = false := by
        rw [← Bool.not_eq_true, List.any_eq_true]
        exact fun hmatch => hnot ⟨hnegated, hmatch⟩
      simp [Report.ofLines, Report.byLineNegated, hany]
  · have htested := (Report.loop_spec o.mode.negated o.matcher path 1 []
      (.start file.chunks file.failure)).2
    rw [Reading.remaining_start, hlines] at htested
    simpa [loop, hmode] using htested

/-- Where the scan meets an error, that is where it stops. -/
theorem Meets.stopsAt (h : o.Meets path opening thrown) : o.StopsAt path opening thrown := by
  cases opening with
  | error fault =>
    cases h
    exact stopsAt_of_loop_eq rfl rfl
  | ok file =>
    cases hmode : o.mode.readsLines with
    | false =>
      have hread := (meets_iff_readLimited hmode).mp h
      exact stopsAt_of_loop_eq (by simp [endedBefore, hmode]) (by simp [loop, hmode, hread])
    | true => exact stopsAt_of_failure hmode (failure_of_meets hmode h)

/-- What the scan meets has nothing to do with the pattern. -/
theorem Meets.of_matcher (h : o.Meets path opening thrown) (m : Matcher) :
    { o with matcher := m }.Meets path opening thrown := by
  cases h with
  | opening => exact .opening thrown
  | chunks hmode hfailure => exact .chunks hmode hfailure
  | stat hmode hstat => exact .stat hmode hstat
  | directory hmode hstat hdirectory => exact .directory hmode hstat hdirectory
  | size hmode hstat hregular hlarge => exact .size hmode hstat hregular hlarge
  | contents hmode hstat hregular hsize hcontents =>
    exact .contents hmode hstat hregular hsize hcontents
  | grown hmode hstat hregular hsize hcontents hlarge =>
    exact .grown hmode hstat hregular hsize hcontents hlarge

/-- Before an error nothing depends on what the matcher says of anything but lines that have
ended. -/
theorem Meets.result_of_matcher (h : o.Meets path opening thrown) {m : Matcher}
    (hm : ∀ line ∈ o.endedBefore opening, m.test line = o.matcher.test line ∧
      m.test (stripLineFeed line) = o.matcher.test (stripLineFeed line)) :
    ({ o with matcher := m }.scan path opening).result = (o.scan path opening).result := by
  let o' : ScanOptions := { o with matcher := m }
  have hsettles : o'.Settles opening ↔ o.Settles opening := by
    refine and_congr_right fun _ => exists_congr fun line => and_congr_right fun hline => ?_
    rw [lineMatches_congr (hm line hline).1 (hm line hline).2]
  have hstops := h.stopsAt
  have hstops' : o'.StopsAt path opening thrown := (h.of_matcher m).stopsAt
  rw [result_scan_eq_loop, result_scan_eq_loop]
  by_cases hsettled : o.Settles opening
  · rw [hstops.settled hsettled, hstops'.settled (hsettles.mpr hsettled)]
  · rw [hstops.failed hsettled, hstops'.failed (mt hsettles.mp hsettled)]

/-- A scan comes to an error only if it meets one. -/
theorem meets_of_loop (h : (o.loop path opening).outcome = .error thrown) :
    o.Meets path opening thrown := by
  cases opening with
  | error fault =>
    obtain rfl : fault = thrown := Except.error.inj h
    exact .opening fault
  | ok file =>
    rw [outcome_loop, report] at h
    cases hmode : o.mode.readsLines with
    | false =>
      rw [meets_iff_readLimited hmode]
      simp only [hmode, Bool.false_eq_true, if_false] at h
      cases hread : (file.readLimited o.maxFileSize path).outcome with
      | error fault =>
        rw [hread] at h
        obtain rfl : fault = thrown := Except.error.inj h
        rfl
      | ok content => simp [hread] at h
    | true =>
      simp only [hmode, if_true] at h
      have hfailure := Report.failure_of_ofLines h
      rw [OpenFile.lines, failure_readLines] at hfailure
      exact .chunks hmode hfailure

end ScanOptions


-- ---------------------------------------------------------------------------
-- The sink
-- ---------------------------------------------------------------------------

/-- An empty block is only waited for. -/
theorem Sink.write_nil {κ : Type} (s : Sink κ) (caller : κ) :
    (s.write caller []).1.queue.map (·.bytes) = s.queue.map (·.bytes) ∧
      (s.write caller []).2.delivered = [] ∧
      ∀ a ∈ (s.write caller []).2.answers, a.call.caller = caller := by
  have hwrite : s.write caller [] = s.awaitLast { caller, kind := .write } := rfl
  rw [hwrite, awaitLast]
  cases hempty : s.queue.isEmpty with
  | true => simp [reply]
  | false => simp

namespace Scan

variable {p : ScanPlan}

theorem delivered_finishTask (s : Scan) (index : Nat) (path : String)
    (outcome : Except Thrown FileResult) :
    (s.finishTask p index path outcome).delivered = s.delivered := by
  cases outcome with
  | error thrown => rfl
  | ok result =>
    cases result with
    | scanned path report => rfl
    | failed path failure =>
      simp only [finishTask, FileResult.failure?, record_eq]
      rfl

/-- An answer to a task is passed on without a word to the sink. -/
theorem receive_task (s : Scan) {a : SinkAnswer ScanCaller} {index : Nat}
    (h : a.call.caller = .task index) :
    (s.receive p a).sink = s.sink ∧ (s.receive p a).delivered = s.delivered := by
  unfold receive
  rw [h]
  simp only
  split
  · exact ⟨(finishTask_frame ..).1, delivered_finishTask ..⟩
  · exact ⟨rfl, rfl⟩

theorem receiveAll_task (s : Scan) {index : Nat} {answers : List (SinkAnswer ScanCaller)}
    (h : ∀ a ∈ answers, a.call.caller = .task index) :
    (answers.foldl (receive p) s).sink = s.sink ∧
      (answers.foldl (receive p) s).delivered = s.delivered := by
  induction answers generalizing s with
  | nil => exact ⟨rfl, rfl⟩
  | cons a rest ih =>
    rw [List.forall_mem_cons] at h
    obtain ⟨hsink, hdelivered⟩ := receive_task (p := p) s h.1
    obtain ⟨hsink', hdelivered'⟩ := ih (s.receive p a) h.2
    exact ⟨hsink'.trans hsink, hdelivered'.trans hdelivered⟩

/-- A file without a report has nothing to do with the sink. -/
theorem fileScanned_failed (s : Scan) (index : Nat) {path : String} {failure : Failure}
    (h : (p.scan path).result = .failed path failure) :
    (s.fileScanned p index path).sink = s.sink ∧
      (s.fileScanned p index path).delivered = s.delivered := by
  have hreport (q : String) (report : Report) : s.fileOutcome p path ≠ .ok (.scanned q report) := by
    intro houtcome
    have hresult := result_of_fileOutcome houtcome
    rw [h] at hresult
    cases hresult
  obtain ⟨lines, heq⟩ := fileScanned_ended index rfl hreport
  rw [heq]
  exact ⟨(finishTask_frame ..).1, delivered_finishTask ..⟩

/-- A report without a block adds nothing to what the sink has to write. -/
theorem fileScanned_nothing (s : Scan) (index : Nat) {path : String}
    (h : (p.scan path).result = .scanned path .nothing) :
    (s.fileScanned p index path).sink.queue.map (·.bytes) = s.sink.queue.map (·.bytes) ∧
      (s.fileScanned p index path).delivered = s.delivered := by
  rcases houtcome : s.fileOutcome p path with thrown | r
  · obtain ⟨lines, heq⟩ := fileScanned_ended (p := p) (s := s) index houtcome (by simp)
    rw [heq]
    exact ⟨congrArg _ (congrArg _ (finishTask_frame ..).1), delivered_finishTask ..⟩
  · obtain rfl : .scanned path .nothing = r := h.symm.trans (result_of_fileOutcome houtcome)
    obtain ⟨lines, heq⟩ := fileScanned_handed (p := p) (s := s) index houtcome
    obtain ⟨hqueue, hdelivered, hanswers⟩ := Sink.write_nil s.sink (.task index)
    rw [heq]
    obtain ⟨hsink, hdelivered'⟩ := receiveAll_task (p := p) _ hanswers
    refine ⟨(congrArg (fun sink : Sink ScanCaller => sink.queue.map (·.bytes)) hsink).trans hqueue,
      hdelivered'.trans ?_⟩
    exact (congrArg (s.delivered ++ ·) hdelivered).trans (List.append_nil _)


-- ---------------------------------------------------------------------------
-- No report of a file that cannot be read
-- ---------------------------------------------------------------------------

/-- Whatever error the scan of a file meets, or for whatever reason it refuses the file, it comes to
a failure for that error: one with its code and, unless it is a failure already, with the path and
the error as its cause. Only a negated search that reads lines and has met a match in a line that
ended before the error comes to a report, an empty one. In neither case is anything emitted, and a
file that fails has nothing to do with the sink. The scan asks for one line at a time, and whatever
it gives to the matcher before an error is a line that has ended, or that line without its line
feed; what the matcher says of anything else makes no difference. A scan comes to a failure only in
this way. -/
theorem read_failure_never_misreports (p : ScanPlan) (path : String) :
    let o := p.options
    let opening := p.files path
    (p.scan path).result = ScanOptions.resultOf path (o.loop path opening).outcome ∧
    (∀ thrown, o.Meets path opening thrown →
      let failure := thrown.toFileFailure path
      (failure.code = thrown.classify ∧
        (thrown = .failure failure ∨ failure.path = some path ∧ failure.cause = some thrown)) ∧
      (o.Settles opening → (p.scan path).result = .scanned path .nothing) ∧
      (¬o.Settles opening → (p.scan path).result = .failed path failure) ∧
      (∀ haystack ∈ (o.loop path opening).tested, ∃ line ∈ o.endedBefore opening,
        haystack = line ∨ haystack = stripLineFeed line) ∧
      (∀ m : Matcher, (∀ line ∈ o.endedBefore opening, m.test line = o.matcher.test line ∧
          m.test (stripLineFeed line) = o.matcher.test (stripLineFeed line)) →
        ({ o with matcher := m }.scan path opening).result = (p.scan path).result) ∧
      ∀ (s : Scan) (index : Nat),
        let after := s.fileScanned p index path
        after.delivered = s.delivered ∧
          after.sink.queue.map (·.bytes) = s.sink.queue.map (·.bytes) ∧
          (¬o.Settles opening → after.sink = s.sink)) ∧
    ∀ q failure, (p.scan path).result = .failed q failure →
      q = path ∧ ∃ thrown, o.Meets path opening thrown ∧ failure = thrown.toFileFailure path := by
  intro o opening
  have hresult : (p.scan path).result = ScanOptions.resultOf path (o.loop path opening).outcome :=
    o.result_scan_eq_loop path opening
  refine ⟨hresult, fun thrown hmeets => ?_, fun q failure hfailed => ?_⟩
  · intro failure
    obtain ⟨hsettled, hfailed, htested⟩ := hmeets.stopsAt
    have hsettled (h : o.Settles opening) : (p.scan path).result = .scanned path .nothing := by
      rw [hresult, hsettled h]
      rfl
    have hfailed (h : ¬o.Settles opening) : (p.scan path).result = .failed path failure := by
      rw [hresult, hfailed h]
      rfl
    refine ⟨thrown.toFileFailure_spec path, hsettled, hfailed, ?_,
      fun m hm => hmeets.result_of_matcher hm, fun s index => ?_⟩
    · intro haystack hmem
      obtain ⟨line, hline, hin⟩ := htested haystack hmem
      exact ⟨line, hline, eq_of_mem_haystacks hin⟩
    · by_cases hsettles : o.Settles opening
      · obtain ⟨hqueue, hdelivered⟩ := fileScanned_nothing s index (hsettled hsettles)
        exact ⟨hdelivered, hqueue, fun hnot => absurd hsettles hnot⟩
      · obtain ⟨hsink, hdelivered⟩ := fileScanned_failed s index (hfailed hsettles)
        exact ⟨hdelivered, congrArg _ (congrArg _ hsink), fun _ => hsink⟩
  · rw [hresult] at hfailed
    cases houtcome : (o.loop path opening).outcome with
    | ok report =>
      rw [houtcome] at hfailed
      cases hfailed
    | error thrown =>
      rw [houtcome] at hfailed
      cases hfailed
      exact ⟨rfl, thrown, ScanOptions.meets_of_loop houtcome, rfl⟩

/-- Every file holds some bytes and then fails to be read. Every line matches. -/
def brokenOff (mode : ScanMode) (contents : Bytes) (thrown : Thrown) : ScanPlan where
  concurrency := .real 1
  options :=
    { matcher := .ofSearch "" "" fun _ => some { start := 0, stop := 0 }
      mode
      maxFileSize := .real 9 }
  policy := .fail
  diagnostics := { enabled := false, detail := .hidden }
  log := {}
  files _ := .ok
    { stat := .ok { size := .ofNat contents.length }
      chunks := [contents]
      failure := some thrown
      contents := .error thrown }

theorem read_failure_never_misreports_broken_off :
    let thrown : Thrown := .fault (SystemError.isDirectory.fault "read")
    ((brokenOff .byLineNegated [0x61, 0x0A, 0x62] thrown).scan "f").result
      = .scanned "f" .nothing ∧
    ((brokenOff .byLineNegated [0x61, 0x62] thrown).scan "f").result
      = .failed "f" (thrown.toFileFailure "f") ∧
    ((brokenOff .byLine [0x61, 0x0A, 0x62] thrown).scan "f").result
      = .failed "f" (thrown.toFileFailure "f") ∧
    ((brokenOff .wholeFile [0x61, 0x0A, 0x62] thrown).scan "f").result
      = .failed "f" (thrown.toFileFailure "f") := by
  intro thrown
  have hrun (mode : ScanMode) (contents : Bytes) :=
    (read_failure_never_misreports (brokenOff mode contents thrown) "f").2.1 thrown
  refine ⟨?_, ?_, ?_, ?_⟩
  · exact (hrun .byLineNegated [0x61, 0x0A, 0x62] (.chunks rfl rfl)).2.1
      ⟨rfl, [0x61, 0x0A], by decide, rfl⟩
  · exact (hrun .byLineNegated [0x61, 0x62] (.chunks rfl rfl)).2.2.1
      (ScanOptions.not_settles (by decide))
  · exact (hrun .byLine [0x61, 0x0A, 0x62] (.chunks rfl rfl)).2.2.1 fun h => by cases h.1
  · exact (hrun .wholeFile [0x61, 0x0A, 0x62] (.contents rfl rfl rfl (by decide +kernel) rfl)).2.2.1
      fun h => by cases h.1

end Scan

end FileSearch
