import FileSearch.Proofs.Scan.Moves

/-!
# Steps of a scan

Every step of a running scan is a chain of moves, and ends with no answer due (`Scan.step_moves`).
When the pool has settled nothing waits for the sink any more, so it answers its closing at once:
a run never stays in the closing phase, and its result is the verdict on pool and tally.
-/

namespace FileSearch

variable {p : ScanPlan}

/-- What a task comes to when the sink has answered. -/
def ScanTask.outcome (path : String) (report : Report) :
    Except Failure Unit → Except Thrown FileResult
  | .ok _ => .ok (.scanned path report)
  | .error failure => .error (.failure failure)

/-- What a task fails with that ends with an outcome: the failure of another part, or that of logging
its own. -/
def ScanTask.fault? (log : Log) : Except Thrown FileResult → Option Thrown
  | .ok result => result.failure?.bind fun failure => log.refused (ScanPlan.failureEntry failure)
  | .error thrown => some thrown

/-- The books after what came to pass with a sink and around it. -/
def ScanBooks.enter (b : ScanBooks) (sink : Sink ScanCaller) (h : ScanHistory) : ScanBooks where
  pulled := b.pulled ++ h.pulled
  found := b.found ++ h.found
  ledger := b.ledger.enterAll (sink.history h.sinkEvents)

namespace Scan

def stage (s : Scan) (b : ScanBooks) (due : List (SinkAnswer ScanCaller) := []) : ScanStage :=
  { b with
    pool := s.pool
    core := s.sink.core
    due
    tally := s.tally
    logLines := s.logLines
    delivered := s.delivered }

/-- What the moves of a plan lead to. -/
abbrev Chain (p : ScanPlan) : ScanStage → ScanStage → Prop :=
  Relation.ReflTransGen (ScanStage.Move p)

variable {s : Scan} {b : ScanBooks}


-- ---------------------------------------------------------------------------
-- Log entries
-- ---------------------------------------------------------------------------

theorem record_eq (s : Scan) (e : LogEntry) :
    s.record p e = ({ s with logLines := s.logLines ++ p.log.written e }, p.log.refused e) := by
  unfold record
  rw [Log.write_eq]
  cases hrefused : p.log.refused e with
  | none => rfl
  | some thrown =>
    have hwritten : p.log.written e = [] := by
      unfold Log.refused at hrefused
      unfold Log.written
      cases hadmits : p.log.threshold.admits e.level with
      | false => simp
      | true =>
        rw [hadmits, if_pos rfl] at hrefused
        simp [hrefused]
    simp [hwritten]

theorem record_reliable (hlog : p.log.Reliable) (s : Scan) (e : LogEntry) :
    s.record p e = ({ s with logLines := s.logLines ++ p.log.written e }, none) := by
  rw [record_eq, hlog.refused_eq]

theorem recordAll_reliable (hlog : p.log.Reliable) (s : Scan) (entries : List LogEntry) :
    s.recordAll p entries
      = ({ s with logLines := s.logLines ++ entries.flatMap p.log.written }, none) := by
  induction entries generalizing s with
  | nil => simp [recordAll]
  | cons e rest ih => simp [recordAll, record_reliable hlog, ih]

theorem exists_fault_of_refused {e : LogEntry} {thrown : Thrown}
    (h : p.log.refused e = some thrown) : ∃ line, p.log.fault line = some thrown := by
  unfold Log.refused at h
  split at h
  · exact ⟨e.line, h⟩
  · cases h

theorem recordAll_moves (due : List (SinkAnswer ScanCaller)) {entries : List LogEntry}
    (hlevel : ∀ e ∈ entries, e.level ≠ .error) :
    ∃ lines fault, s.recordAll p entries = ({ s with logLines := lines }, fault) ∧
      Chain p (s.stage b due) ({ s with logLines := lines }.stage b due) ∧
      ∀ thrown, fault = some thrown → ∃ line, p.log.fault line = some thrown := by
  induction entries generalizing s with
  | nil => exact ⟨s.logLines, none, rfl, .refl, by simp⟩
  | cons e rest ih =>
    have hnoted : ScanStage.Move p (s.stage b due)
        ({ s with logLines := s.logLines ++ p.log.written e }.stage b due) :=
      .noted (hlevel e List.mem_cons_self)
    simp only [recordAll, record_eq]
    cases hrefused : p.log.refused e with
    | some thrown =>
      refine ⟨_, some thrown, rfl, .single hnoted, ?_⟩
      rintro _ ⟨⟩
      exact exists_fault_of_refused hrefused
    | none =>
      obtain ⟨lines, fault, heq, hchain, hfault⟩ :=
        ih (s := { s with logLines := s.logLines ++ p.log.written e })
          fun e he => hlevel e (List.mem_cons_of_mem _ he)
      exact ⟨lines, fault, heq, .head hnoted hchain, hfault⟩


-- ---------------------------------------------------------------------------
-- Answers of the sink
-- ---------------------------------------------------------------------------

/-- A task finishes without a word to the sink, and the run goes on. -/
theorem finishTask_frame (s : Scan) (index : Nat) (path : String)
    (outcome : Except Thrown FileResult) :
    (s.finishTask p index path outcome).sink = s.sink ∧
      (s.finishTask p index path outcome).phase = s.phase := by
  cases outcome with
  | error thrown => exact ⟨rfl, rfl⟩
  | ok result =>
    cases result with
    | scanned path report => exact ⟨rfl, rfl⟩
    | failed path failure =>
      simp only [finishTask, FileResult.failure?, record_eq]
      exact ⟨rfl, rfl⟩

/-- A task that ends publishes its end, and then the start of the task that takes its slot. -/
theorem finishTask_eq (p : ScanPlan) (s : Scan) (index : Nat) (path : String)
    (outcome : Except Thrown FileResult) :
    let next := s.pool.step (.finished index (ScanTask.fault? p.log outcome))
    (s.finishTask p index path outcome).pool = next.1 ∧
      (s.finishTask p index path outcome).events = s.events ++ p.diagnostics.finished path outcome
        ++ next.2.flatMap fun t => p.diagnostics.started t.2.path := by
  cases outcome with
  | error thrown => exact ⟨rfl, rfl⟩
  | ok result =>
    cases result with
    | scanned path' report => exact ⟨rfl, rfl⟩
    | failed path' failure =>
      simp only [finishTask, FileResult.failure?, record_eq]
      exact ⟨rfl, rfl⟩

/-- An answer that is due belongs to a live task that waits for it, and ends it. -/
theorem receive_eq {a : SinkAnswer ScanCaller} {due : List (SinkAnswer ScanCaller)}
    (hs : (s.stage b (a :: due)).Sound) :
    ∃ index path report, a.call = ScanTask.call index ∧
      s.task? index = some { path, report := some report } ∧
      s.receive p a = s.finishTask p index path (ScanTask.outcome path report a.outcome) := by
  have hmem : a.call ∈ ScanTask.awaited s.pool.live :=
    hs.calls_perm.mem_iff.mp (by simp [stage])
  obtain ⟨index, path, report, hcall, hlive⟩ := ScanTask.exists_of_mem_awaited hmem
  have htask : s.task? index = some { path, report := some report } :=
    Pool.lookup_of_mem hs.pool.nodup hlive
  refine ⟨index, path, report, hcall, htask, ?_⟩
  simp only [receive, hcall, ScanTask.call, htask]
  rfl

theorem receive_move {a : SinkAnswer ScanCaller} {due : List (SinkAnswer ScanCaller)}
    (hs : (s.stage b (a :: due)).Sound) :
    ScanStage.Move p (s.stage b (a :: due)) ((s.receive p a).stage b due) ∧
      (s.receive p a).sink = s.sink ∧ (s.receive p a).phase = s.phase := by
  obtain ⟨index, path, report, hcall, htask, hreceive⟩ := receive_eq (p := p) hs
  obtain ⟨hsink, hphase⟩ :=
    finishTask_frame (p := p) s index path (ScanTask.outcome path report a.outcome)
  obtain ⟨call, outcome⟩ := a
  obtain rfl : call = ScanTask.call index := hcall
  rw [hreceive]
  cases outcome with
  | ok _ => exact ⟨.accepted rfl htask, hsink, hphase⟩
  | error failure => exact ⟨.rejected rfl htask, hsink, hphase⟩

theorem receiveAll_moves {due : List (SinkAnswer ScanCaller)} (hs : (s.stage b due).Sound) :
    Chain p (s.stage b due) ((due.foldl (receive p) s).stage b) ∧
      (due.foldl (receive p) s).sink = s.sink ∧ (due.foldl (receive p) s).phase = s.phase := by
  induction due generalizing s with
  | nil => exact ⟨.refl, rfl, rfl⟩
  | cons a rest ih =>
    obtain ⟨hmove, hsink, hphase⟩ := receive_move (p := p) hs
    obtain ⟨hchain, hsink', hphase'⟩ := ih (hmove.sound hs)
    exact ⟨.head hmove hchain, hsink'.trans hsink, hphase'.trans hphase⟩

/-- What a step of the sink brings about: after the move that takes it up, its answers are passed
on. -/
theorem absorb_moves {st : ScanStage} (hst : st.Sound)
    {next : Sink ScanCaller × SinkOutput ScanCaller}
    (hmove : ScanStage.Move p st
      ({ s with sink := next.1, delivered := s.delivered ++ next.2.delivered }.stage b
        next.2.answers)) :
    Chain p st ((s.absorb p next).stage b) ∧
      (s.absorb p next).sink = next.1 ∧ (s.absorb p next).phase = s.phase := by
  obtain ⟨hchain, hsink, hphase⟩ := receiveAll_moves (p := p) (hmove.sound hst)
  exact ⟨.head hmove hchain, hsink, hphase⟩


-- ---------------------------------------------------------------------------
-- Events
-- ---------------------------------------------------------------------------

theorem enter_nothing (b : ScanBooks) (sink : Sink ScanCaller) : b.enter sink {} = b := by
  simp [ScanBooks.enter]

theorem failSource_moves (reason : Reason) :
    Chain p (s.stage b) ((s.failSource p reason).stage b) ∧
      (s.failSource p reason).sink = s.sink ∧ (s.failSource p reason).phase = s.phase := by
  refine ⟨?_, rfl, rfl⟩
  cases hasks : s.pool.asks with
  | false =>
    simp only [failSource, takeUp, Pool.step, hasks]
    exact .refl
  | true =>
    simp only [failSource, takeUp, Pool.step_sourceFailed hasks]
    exact .single (.sourceFailed hasks)

theorem takePath_moves (path : String) :
    Chain p (s.stage b)
        ((s.takeLine p (.path path)).stage
          (b.enter s.sink { pulled := (s.pulledBy (.line (.path path))).toList })) := by
  cases hasks : s.pool.asks with
  | false =>
    have hstep : s.pool.step (.delivered { path }) = (s.pool, []) := by
      simp [Pool.step, hasks]
    simp only [takeLine, takeUp, hstep, pulledBy, hasks, Bool.false_eq_true, if_false,
      Option.toList_none, enter_nothing]
    exact .refl
  | true =>
    have hbooks : b.enter s.sink { pulled := [path] } = { b with pulled := b.pulled ++ [path] } := by
      simp [ScanBooks.enter]
    simp only [takeLine, pulledBy, hasks, if_true, Option.toList_some, hbooks]
    exact .single (.pulled hasks)

theorem takeBlank_moves :
    Chain p (s.stage b) ((s.takeLine p .blank).stage b) ∧
      (s.takeLine p .blank).sink = s.sink ∧ (s.takeLine p .blank).phase = s.phase := by
  cases hasks : s.pool.asks with
  | false =>
    have hidle : s.takeLine p .blank = s := by simp [takeLine, hasks]
    rw [hidle]
    exact ⟨.refl, rfl, rfl⟩
  | true =>
    let s₁ : Scan := { s with logLines := s.logLines ++ p.log.written PathLine.skipped }
    have hnoted : ScanStage.Move p (s.stage b) (s₁.stage b) := .noted (by simp [PathLine.skipped])
    cases hrefused : p.log.refused PathLine.skipped with
    | none =>
      have htake : s.takeLine p .blank = s₁ := by simp [takeLine, hasks, record_eq, hrefused, s₁]
      rw [htake]
      exact ⟨.single hnoted, rfl, rfl⟩
    | some thrown =>
      have htake : s.takeLine p .blank = s₁.failSource p thrown := by
        simp [takeLine, hasks, record_eq, hrefused, s₁]
      obtain ⟨hchain, hsink, hphase⟩ := failSource_moves (p := p) (s := s₁) (b := b) thrown
      rw [htake]
      exact ⟨.head hnoted hchain, hsink, hphase⟩

theorem endSource_moves :
    Chain p (s.stage b) ((s.takeUp p (s.pool.step .sourceEnded)).stage b) := by
  cases hasks : s.pool.asks with
  | false =>
    simp only [takeUp, Pool.step, hasks]
    exact .refl
  | true =>
    simp only [takeUp, Pool.step_sourceEnded hasks]
    exact .single (.sourceEnded hasks)

theorem warnings_level (f : FileScan) : ∀ e ∈ f.warnings, e.level ≠ .error := by
  intro e he
  obtain ⟨thrown, -, rfl⟩ := List.mem_map.mp he
  simp [FileScan.closeWarning]

/-- A task hands its report to the sink, whose answers are due then. -/
theorem write_move (hs : (s.stage b).Sound) {index : Nat} {path : String} {report : Report}
    (htask : s.task? index = some { path }) (hresult : (p.scan path).result = .scanned path report) :
    let write : SinkEvent ScanCaller := .write (.task index) report.block
    let next := s.sink.step write
    ScanStage.Move p (s.stage b)
      ({ s with
          pool := s.pool.update index fun t => { t with report := some report }
          sink := next.1
          delivered := s.delivered ++ next.2.delivered }.stage
        { b with
          found := b.found ++ [FileResult.scanned path report]
          ledger := b.ledger.enterAll (s.sink.moments write) } next.2.answers) := by
  intro write next
  have hlive : (s.stage b).pool.live.lookup index = some { path } := htask
  have hmove := ScanStage.Move.handed (p := p) hlive hresult (Sink.step_turn hs.core write)
    (by rw [Sink.calls_moments]; rfl)
    (by
      rw [Sink.offered_moments]
      cases hblock : report.block <;> simp [Sink.opening, write, hblock])
  rw [Sink.answers_moments, Sink.passed_moments] at hmove
  exact hmove

/-- The sink takes up an event of the stream. -/
theorem stream_move (hs : (s.stage b).Sound) (e : StreamEvent) :
    let next := s.sink.onStream e
    ScanStage.Move p (s.stage b)
      ({ s with sink := next.1, delivered := s.delivered ++ next.2.delivered }.stage
        { b with ledger := b.ledger.enterAll (s.sink.moments (.stream e)) } next.2.answers) := by
  intro next
  have hturn : (s.stage b).core.Turn (s.sink.moments (.stream e)) next.1.core :=
    Sink.step_turn hs.core (.stream e)
  have hmove := ScanStage.Move.streamed (p := p) hturn
    (by rw [Sink.calls_moments]; exact Sink.calls_opening_stream ..)
    (by rw [Sink.offered_moments]; exact Sink.offered_opening_stream ..)
  rw [Sink.answers_moments, Sink.passed_moments] at hmove
  exact hmove

/-- The file of a task is done: the task fails, or its result is found and the report handed in. -/
theorem fileScanned_moves (hs : (s.stage b).Sound) {index : Nat} {path : String}
    (htask : s.task? index = some { path }) :
    Chain p (s.stage b) ((s.fileScanned p index path).stage (b.enter s.sink
        { found := ((s.foundBy p (.scanned index)).map (·.2)).toList
          sinkEvents := s.passedOn p (.scanned index) })) ∧
      (s.fileScanned p index path).sink = s.sink.run (s.passedOn p (.scanned index)) ∧
      (s.fileScanned p index path).phase = s.phase := by
  obtain ⟨lines, fault, hrecord, hchain, hfault⟩ :=
    recordAll_moves (p := p) (s := s) (b := b) [] (warnings_level (p.scan path))
  let s₁ : Scan := { s with logLines := lines }
  cases fault with
  | some thrown =>
    obtain ⟨line, hline⟩ := hfault thrown rfl
    have hfound : s.foundBy p (.scanned index) = none := by simp [foundBy, htask, hrecord]
    have hpassed : s.passedOn p (.scanned index) = [] := by simp [passedOn, hfound]
    have hscan : s.fileScanned p index path = s₁.finishTask p index path (.error thrown) := by
      simp [fileScanned, hrecord, s₁]
    rw [hscan, hfound, hpassed]
    refine ⟨?_, rfl, rfl⟩
    simp only [Option.map_none, Option.toList_none, enter_nothing]
    exact .tail hchain (.lost htask hline)
  | none =>
    have hfound : s.foundBy p (.scanned index) = some (index, (p.scan path).result) := by
      simp [foundBy, htask, hrecord]
    have hpath : (p.scan path).result.path = path := p.options.path_scan path _
    cases hresult : (p.scan path).result with
    | failed path' failure =>
      obtain rfl : path' = path := by rw [← hpath, hresult]; rfl
      rw [hresult] at hfound
      have hpassed : s.passedOn p (.scanned index) = [] := by simp [passedOn, hfound]
      have hscan : s.fileScanned p index path'
          = s₁.finishTask p index path' (.ok (.failed path' failure)) := by
        simp [fileScanned, hrecord, hresult, s₁]
      have hbooks : b.enter s.sink { found := [.failed path' failure] }
          = { b with found := b.found ++ [.failed path' failure] } := by
        simp [ScanBooks.enter]
      have hstage : (s₁.finishTask p index path' (.ok (.failed path' failure))).stage
            { b with found := b.found ++ [.failed path' failure] }
          = { s₁.stage b with
              pool := (s.pool.step (.finished index
                (p.log.refused (ScanPlan.failureEntry failure)))).1
              tally := s.tally.record (.failed path' failure)
              logLines := lines ++ p.log.written (ScanPlan.failureEntry failure)
              found := b.found ++ [.failed path' failure] } := by
        simp only [finishTask, FileResult.failure?, record_eq]
        rfl
      obtain ⟨hsink, hphase⟩ := finishTask_frame (p := p) s₁ index path' (.ok (.failed path' failure))
      rw [hscan, hfound, hpassed]
      refine ⟨?_, hsink, hphase⟩
      simp only [Option.map_some, Option.toList_some, hbooks, hstage]
      exact .tail hchain (.unreadable htask hresult)
    | scanned path' report =>
      obtain rfl : path' = path := by rw [← hpath, hresult]; rfl
      rw [hresult] at hfound
      let write : SinkEvent ScanCaller := .write (.task index) report.block
      have hpassed : s.passedOn p (.scanned index) = [write] := by simp [passedOn, hfound, write]
      let s₂ : Scan :=
        { s₁ with pool := s.pool.update index fun t => { t with report := some report } }
      have hscan : s.fileScanned p index path' = s₂.absorb p (s.sink.step write) := by
        simp [fileScanned, hrecord, hresult, s₁, s₂, write, Sink.step]
      have hbooks : b.enter s.sink { found := [.scanned path' report], sinkEvents := [write] }
          = { b with
              found := b.found ++ [.scanned path' report]
              ledger := b.ledger.enterAll (s.sink.moments write) } := by
        simp [ScanBooks.enter]
      have hs₁ : (s₁.stage b).Sound := ScanStage.sound_of_moves hchain hs
      obtain ⟨hrest, hsink, hphase⟩ := absorb_moves (s := s₂) hs₁ (write_move hs₁ htask hresult)
      rw [hscan, hfound, hpassed]
      refine ⟨?_, hsink, hphase⟩
      simp only [Option.map_some, Option.toList_some, hbooks]
      exact .trans hchain hrest

/-- Log entries change the log lines only. -/
theorem recordAll_frame (s : Scan) (entries : List LogEntry) :
    ∃ lines, (s.recordAll p entries).1 = { s with logLines := lines } := by
  induction entries generalizing s with
  | nil => exact ⟨s.logLines, rfl⟩
  | cons e rest ih =>
    simp only [recordAll, record_eq]
    cases p.log.refused e with
    | some thrown => exact ⟨_, rfl⟩
    | none => exact ih { s with logLines := s.logLines ++ p.log.written e }

/-- A task ends without a word to the sink if it has no report. -/
theorem fileScanned_ended (index : Nat) {path : String} {outcome : Except Thrown FileResult}
    (houtcome : s.fileOutcome p path = outcome)
    (hreport : ∀ q report, outcome ≠ .ok (.scanned q report)) :
    ∃ lines, s.fileScanned p index path
      = { s with logLines := lines }.finishTask p index path outcome := by
  obtain ⟨lines, hlines⟩ := recordAll_frame (p := p) s (p.scan path).warnings
  refine ⟨lines, ?_⟩
  rcases hrecord : s.recordAll p (p.scan path).warnings with ⟨s', fault⟩
  obtain rfl : s' = { s with logLines := lines } := by rw [← hlines, hrecord]
  simp only [fileOutcome, hrecord] at houtcome
  cases fault with
  | some thrown => simp [fileScanned, hrecord, ← houtcome]
  | none =>
    cases hresult : (p.scan path).result with
    | failed q failure => simp [fileScanned, hrecord, hresult, ← houtcome]
    | scanned q report => exact absurd (houtcome.symm.trans (by rw [hresult])) (hreport q report)

/-- A report is kept with its task and handed to the sink. -/
theorem fileScanned_handed (index : Nat) {path q : String} {report : Report}
    (houtcome : s.fileOutcome p path = .ok (.scanned q report)) :
    ∃ lines, s.fileScanned p index path
      = { s with
          logLines := lines
          pool := s.pool.update index fun t => { t with report := some report } }.absorb p
        (s.sink.step (.write (.task index) report.block)) := by
  obtain ⟨lines, hlines⟩ := recordAll_frame (p := p) s (p.scan path).warnings
  refine ⟨lines, ?_⟩
  rcases hrecord : s.recordAll p (p.scan path).warnings with ⟨s', fault⟩
  obtain rfl : s' = { s with logLines := lines } := by rw [← hlines, hrecord]
  simp only [fileOutcome, hrecord] at houtcome
  cases fault with
  | some thrown => cases houtcome
  | none =>
    have hresult : (p.scan path).result = .scanned q report := Except.ok.inj houtcome
    simp [fileScanned, hrecord, hresult, Sink.step]

/-- The result that is found is what the work on the file came to, unless that is an error. -/
theorem foundBy_of_task {index : Nat} {path : String} (htask : s.task? index = some { path }) :
    s.foundBy p (.scanned index) = (s.fileOutcome p path).toOption.map fun r => (index, r) := by
  simp only [foundBy, htask, fileOutcome]
  cases (s.recordAll p (p.scan path).warnings).2 <;> rfl

theorem result_of_fileOutcome {path : String} {r : FileResult}
    (houtcome : s.fileOutcome p path = .ok r) : (p.scan path).result = r := by
  unfold fileOutcome at houtcome
  split at houtcome
  · cases houtcome
  · exact Except.ok.inj houtcome

/-- With every entry logged nothing is lost of a file. -/
theorem fileOutcome_reliable (hlog : p.log.Reliable) (s : Scan) (path : String) :
    s.fileOutcome p path = .ok (p.scan path).result := by
  unfold fileOutcome
  rw [recordAll_reliable hlog]

/-- The result names the path of its task. -/
theorem path_of_fileOutcome {path : String} {r : FileResult}
    (houtcome : s.fileOutcome p path = .ok r) : r.path = path := by
  rw [← result_of_fileOutcome houtcome]
  exact p.options.path_scan path _

/-- What an event leads to before the pool is looked at. -/
theorem advance_moves (hs : (s.stage b).Sound) (e : ScanEvent) :
    Chain p (s.stage b) ((s.advance p e).stage
        (b.enter s.sink { s.told p e with sinkEvents := s.passedOn p e })) ∧
      (s.advance p e).sink = s.sink.run (s.passedOn p e) ∧
      (s.advance p e).phase = s.phase := by
  cases e with
  | line line =>
    cases line with
    | path path => exact ⟨takePath_moves path, rfl, rfl⟩
    | blank =>
      have hbooks : b.enter s.sink
          { s.told p (.line .blank) with sinkEvents := s.passedOn p (.line .blank) } = b :=
        enter_nothing ..
      rw [hbooks]
      exact takeBlank_moves
  | linesEnded =>
    have hbooks : b.enter s.sink { s.told p .linesEnded with sinkEvents := s.passedOn p .linesEnded }
        = b := enter_nothing ..
    rw [hbooks]
    exact ⟨endSource_moves, rfl, rfl⟩
  | linesFailed reason =>
    have hbooks : b.enter s.sink
        { s.told p (.linesFailed reason) with sinkEvents := s.passedOn p (.linesFailed reason) } = b :=
      enter_nothing ..
    rw [hbooks]
    exact failSource_moves reason
  | scanned index =>
    have hidle (hfound : s.foundBy p (.scanned index) = none)
        (hadvance : s.advance p (.scanned index) = s) :
        Chain p (s.stage b) ((s.advance p (.scanned index)).stage (b.enter s.sink
          { s.told p (.scanned index) with sinkEvents := s.passedOn p (.scanned index) })) ∧
        (s.advance p (.scanned index)).sink = s.sink.run (s.passedOn p (.scanned index)) ∧
        (s.advance p (.scanned index)).phase = s.phase := by
      have hpassed : s.passedOn p (.scanned index) = [] := by simp [passedOn, hfound]
      have hbooks : b.enter s.sink
          { s.told p (.scanned index) with sinkEvents := s.passedOn p (.scanned index) } = b := by
        simp [ScanBooks.enter, told, pulledBy, hfound, hpassed]
      rw [hadvance, hbooks, hpassed]
      exact ⟨.refl, rfl, rfl⟩
    cases htask : s.task? index with
    | none => exact hidle (by simp [foundBy, htask]) (by simp [advance, htask])
    | some task =>
      obtain ⟨path, report?⟩ := task
      cases report? with
      | some report => exact hidle (by simp [foundBy, htask]) (by simp [advance, htask])
      | none =>
        have hadvance : s.advance p (.scanned index) = s.fileScanned p index path := by
          simp [advance, htask]
        rw [hadvance]
        exact fileScanned_moves hs htask
  | stream e =>
    let event : SinkEvent ScanCaller := .stream e
    have hbooks : b.enter s.sink { s.told p (.stream e) with sinkEvents := s.passedOn p (.stream e) }
        = { b with ledger := b.ledger.enterAll (s.sink.moments event) } := by
      simp [ScanBooks.enter, told, pulledBy, foundBy, passedOn, event]
    rw [hbooks]
    exact absorb_moves hs (stream_move hs e)


-- ---------------------------------------------------------------------------
-- The end of a run
-- ---------------------------------------------------------------------------

/-- What a run may end with whose pool has settled. -/
inductive Verdict (job : ScanJob) (pool : Pool ScanTask) (tally : Tally) :
    Except Thrown Summary → Prop
  /-- Some entry could not be logged. -/
  | unlogged {line : String} {fault thrown : Thrown} (hfault : job.log.fault line = some fault) :
      Verdict job pool tally (.error thrown)
  | sourceFailed {thrown : Thrown} (hsource : pool.source = .failed thrown) :
      Verdict job pool tally (.error (.failure (ScanPlan.poolFailure thrown)))
  | taskFailed {first : TaskFailure} {rest : List TaskFailure} (hsource : pool.source = .ended)
      (hfailures : pool.failures = first :: rest) :
      Verdict job pool tally (.error (.failure (ScanPlan.taskFailure first.error)))
  | summed (hsource : pool.source = .ended) (hfailures : pool.failures = []) :
      Verdict job pool tally (.ok (tally.summary job.policy))

/-- What the closing of the sink waits to report. -/
def Accords (job : ScanJob) (pool : Pool ScanTask) : Except Thrown (List TaskFailure) → Prop
  | .ok failures => pool.source = .ended ∧ failures = pool.failures
  | .error thrown =>
    (∃ cause, pool.source = .failed cause ∧ thrown = .failure (ScanPlan.poolFailure cause)) ∨
      ∃ line fault, job.log.fault line = some fault

theorem conclude_moves {outcome : Except Thrown (List TaskFailure)}
    (haccords : Accords p.toScanJob s.pool outcome) :
    ∃ lines result, s.conclude p outcome = { s with logLines := lines, phase := .settled result } ∧
      Chain p (s.stage b) ({ s with logLines := lines }.stage b) ∧
      Verdict p.toScanJob s.pool s.tally result := by
  match outcome with
  | .error thrown =>
    refine ⟨s.logLines, .error thrown, rfl, .refl, ?_⟩
    rcases haccords with ⟨cause, hsource, rfl⟩ | ⟨line, fault, hfault⟩
    · exact .sourceFailed hsource
    · exact .unlogged hfault
  | .ok (first :: rest) =>
    exact ⟨s.logLines, _, rfl, .refl, .taskFailed haccords.1 haccords.2.symm⟩
  | .ok [] =>
    let entry := ScanPlan.summaryEntry (s.tally.summary p.policy)
    have hnoted : ScanStage.Move p (s.stage b)
        ({ s with logLines := s.logLines ++ p.log.written entry }.stage b) :=
      .noted (by simp [entry, ScanPlan.summaryEntry, ScanPlan.entry])
    cases hrefused : p.log.refused entry with
    | some thrown =>
      obtain ⟨line, hfault⟩ := exists_fault_of_refused hrefused
      refine ⟨_, .error thrown, ?_, .single hnoted, .unlogged hfault⟩
      simp only [conclude, record_eq, entry] at hrefused ⊢
      rw [hrefused]
      rfl
    | none =>
      refine ⟨_, .ok (s.tally.summary p.policy), ?_, .single hnoted,
        .summed haccords.1 haccords.2.symm⟩
      simp only [conclude, record_eq, entry] at hrefused ⊢
      rw [hrefused]
      rfl

theorem sinkClosed_moves {outcome : Except Thrown (List TaskFailure)}
    (hphase : s.phase = .closing outcome) (haccords : Accords p.toScanJob s.pool outcome)
    (answer : Except Failure Unit) :
    ∃ lines result, s.sinkClosed p answer = { s with logLines := lines, phase := .settled result } ∧
      Chain p (s.stage b) ({ s with logLines := lines }.stage b) ∧
      Verdict p.toScanJob s.pool s.tally result := by
  cases answer with
  | ok _ =>
    have hclosed : s.sinkClosed p (.ok ()) = s.conclude p outcome := by
      simp [sinkClosed, hphase]
    rw [hclosed]
    exact conclude_moves haccords
  | error failure =>
    let entry := ScanPlan.flushEntry failure
    let s₁ : Scan := { s with logLines := s.logLines ++ p.log.written entry }
    have hnoted : ScanStage.Move p (s.stage b) (s₁.stage b) :=
      .noted (by simp [entry, ScanPlan.flushEntry, ScanPlan.entry])
    cases hrefused : p.log.refused entry with
    | some thrown =>
      obtain ⟨line, hfault⟩ := exists_fault_of_refused hrefused
      refine ⟨_, .error thrown, ?_, .single hnoted, .unlogged hfault⟩
      simp only [sinkClosed, hphase, record_eq, entry] at hrefused ⊢
      rw [hrefused]
      rfl
    | none =>
      have hclosed : s.sinkClosed p (.error failure) = s₁.conclude p outcome := by
        simp only [sinkClosed, hphase, record_eq, entry, s₁] at hrefused ⊢
        rw [hrefused]
      obtain ⟨lines, result, heq, hchain, hverdict⟩ := conclude_moves (s := s₁) (b := b) haccords
      rw [hclosed, heq]
      exact ⟨lines, result, rfl, .head hnoted hchain, hverdict⟩

theorem queue_eq_nil (hs : (s.stage b).Sound) (hlive : s.pool.live = []) :
    s.sink.core.queue = [] := by
  have hcalls : s.sink.core.waiting.Perm (ScanTask.awaited s.pool.live) := hs.calls_perm
  have hnone : ScanTask.awaited s.pool.live = [] := by rw [hlive]; rfl
  rw [hnone] at hcalls
  exact hs.core.queue_eq_nil_of_waiting hcalls.eq_nil

/-- With no live task left nothing is queued, so the sink answers the closing at once. -/
theorem close_moves (hs : (s.stage b).Sound) (hlive : s.pool.live = [])
    {outcome : Except Thrown (List TaskFailure)} (haccords : Accords p.toScanJob s.pool outcome) :
    ∃ lines result,
      s.close p outcome
        = { s with
            sink := s.sink.run [.close .run], logLines := lines, phase := .settled result } ∧
      Chain p (s.stage b)
        ((s.close p outcome).stage (b.enter s.sink { sinkEvents := [.close .run] })) ∧
      Verdict p.toScanJob s.pool s.tally result := by
  have hqueue : s.sink.queue = [] := queue_eq_nil hs hlive
  let call : SinkCall ScanCaller := { caller := .run, kind := .close }
  let answer : SinkAnswer ScanCaller := { call, outcome := s.sink.core.standing }
  have hsink : s.sink.close .run = s.sink.reply [] [(0, answer)] := by
    simp only [Sink.close, Sink.awaitLast, hqueue]
    rfl
  have hanswers : (s.sink.close .run).2.answers = [answer] := by
    simp [hsink, Sink.reply]
  have hbooks : b.enter s.sink { sinkEvents := [.close .run] }
      = { b with ledger := b.ledger.enterAll [.called call [], .answered answer] } := by
    simp [ScanBooks.enter, Sink.moments, Sink.opening, Sink.step, hsink, Sink.reply, call]
  let s₁ : Scan :=
    { s with
      sink := (s.sink.close .run).1
      delivered := s.delivered ++ (s.sink.close .run).2.delivered
      phase := .closing outcome }
  have hclose : s.close p outcome = s₁.sinkClosed p answer.outcome := by
    simp only [close, absorb, hanswers, List.foldl_cons, List.foldl_nil, receive, answer, call, s₁]
  have hdelivered : s.delivered ++ (s.sink.close .run).2.delivered = s.delivered := by
    rw [hsink]
    exact List.append_nil _
  have hmove : ScanStage.Move p (s.stage b)
      (s₁.stage { b with ledger := b.ledger.enterAll [.called call [], .answered answer] }) := by
    have hcore : s₁.sink.core = s.sink.core := by
      simp only [s₁, hsink, Sink.reply_core]
    have hstage : (s.stage b).core.queue = [] := hqueue
    simp only [stage, hcore]
    simp only [s₁, hdelivered]
    exact .closed rfl hstage
  have hphase : s₁.phase = .closing outcome := rfl
  obtain ⟨lines, result, heq, hchain, hverdict⟩ :=
    sinkClosed_moves (b := { b with ledger := b.ledger.enterAll [.called call [], .answered answer] })
      hphase haccords answer.outcome
  refine ⟨lines, result, ?_, ?_, hverdict⟩
  · rw [hclose, heq]
    simp only [s₁, hdelivered]
    rfl
  · rw [hclose, heq, hbooks]
    exact .head hmove hchain

theorem step_of_running (hrunning : s.phase = .running) (e : ScanEvent) :
    s.step p e = (s.advance p e).closeIfDone p := by
  unfold step
  rw [hrunning]

theorem closeIfDone_of_not_settled (hrunning : s.phase = .running)
    (hsettled : s.pool.settled = false) : s.closeIfDone p = s := by
  unfold closeIfDone
  rw [hrunning]
  simp [hsettled]

/-- The closing that a settled pool brings about. -/
theorem closeIfDone_moves (hs : (s.stage b).Sound) (hrunning : s.phase = .running)
    (hsettled : s.pool.settled) :
    ∃ lines result,
      s.closeIfDone p
        = { s with
            sink := s.sink.run [.close .run], logLines := lines, phase := .settled result } ∧
      Chain p (s.stage b)
        ((s.closeIfDone p).stage (b.enter s.sink { sinkEvents := [.close .run] })) ∧
      Verdict p.toScanJob s.pool s.tally result := by
  have hlive := Pool.live_of_settled hsettled
  cases hsource : s.pool.source with
  | «open» => simp [Pool.settled, hsource, SourceState.isOpen] at hsettled
  | failed cause =>
    have houtcome : s.pool.outcome = .error cause := by simp [Pool.outcome, hsource]
    have hclosing : s.closeIfDone p
        = s.close p (.error (.failure (ScanPlan.poolFailure cause))) := by
      simp [closeIfDone, hrunning, hsettled, houtcome]
    rw [hclosing]
    exact close_moves hs hlive (.inl ⟨cause, hsource, rfl⟩)
  | ended =>
    have houtcome : s.pool.outcome
        = .ok { dispatched := s.pool.started, failures := s.pool.failures } := by
      simp [Pool.outcome, hsource]
    let entry := ScanPlan.dispatchedEntry s.pool.started
    let s₁ : Scan := { s with logLines := s.logLines ++ p.log.written entry }
    have hnoted : ScanStage.Move p (s.stage b) (s₁.stage b) :=
      .noted (by simp [entry, ScanPlan.dispatchedEntry, ScanPlan.entry])
    have hrecord : s.record p (ScanPlan.dispatchedEntry s.pool.started)
        = (s₁, p.log.refused entry) := record_eq ..
    cases hrefused : p.log.refused entry with
    | some thrown =>
      obtain ⟨line, hfault⟩ := exists_fault_of_refused hrefused
      have haccords :
          Accords p.toScanJob s₁.pool (.error (.failure (ScanPlan.poolFailure thrown))) :=
        Or.inr ⟨line, thrown, hfault⟩
      have hclosing : s.closeIfDone p
          = s₁.close p (.error (.failure (ScanPlan.poolFailure thrown))) := by
        simp [closeIfDone, hrunning, hsettled, houtcome, hrecord, hrefused]
      obtain ⟨lines, result, heq, hchain, hverdict⟩ := close_moves (hnoted.sound hs) hlive haccords
      rw [hclosing]
      exact ⟨lines, result, heq, .head hnoted hchain, hverdict⟩
    | none =>
      have haccords : Accords p.toScanJob s₁.pool (.ok s.pool.failures) := ⟨hsource, rfl⟩
      have hclosing : s.closeIfDone p = s₁.close p (.ok s.pool.failures) := by
        simp [closeIfDone, hrunning, hsettled, houtcome, hrecord, hrefused]
      obtain ⟨lines, result, heq, hchain, hverdict⟩ := close_moves (hnoted.sound hs) hlive haccords
      rw [hclosing]
      exact ⟨lines, result, heq, .head hnoted hchain, hverdict⟩

theorem enter_enter (b : ScanBooks) (sink : Sink ScanCaller) (now later : ScanHistory) :
    (b.enter sink now).enter (sink.run now.sinkEvents) later = b.enter sink (now.append later) := by
  simp [ScanBooks.enter, ScanHistory.append, Sink.history_append, SinkLedger.enterAll_append]

/-- A step of a running scan is a chain of moves. After it the scan is running and not done, or it
has ended with the verdict on its pool. -/
theorem step_moves (hs : (s.stage b).Sound) (hrunning : s.phase = .running) (e : ScanEvent) :
    Chain p (s.stage b) ((s.step p e).stage (b.enter s.sink (s.told p e))) ∧
      (s.step p e).sink = s.sink.run (s.told p e).sinkEvents ∧
      (((s.step p e).phase = .running ∧ (s.step p e).pool.settled = false) ∨
        ∃ result, (s.step p e).phase = .settled result ∧ (s.step p e).pool.settled ∧
          Verdict p.toScanJob (s.step p e).pool (s.step p e).tally result) := by
  obtain ⟨hchain, hsink, hphase⟩ := advance_moves (p := p) hs e
  rw [hrunning] at hphase
  have htold : s.told p e = { s.told p e with sinkEvents := s.passedOn p e }.append
      { sinkEvents := (s.advance p e).closing } := by
    simp [told, ScanHistory.append]
  rw [step_of_running hrunning]
  cases hsettled : (s.advance p e).pool.settled with
  | false =>
    have hclosing : (s.advance p e).closing = [] := by simp [closing, hphase, hsettled]
    have hsame : s.told p e = { s.told p e with sinkEvents := s.passedOn p e } := by
      simp [told, hclosing]
    rw [closeIfDone_of_not_settled hphase hsettled, hsame]
    exact ⟨hchain, hsink, .inl ⟨hphase, hsettled⟩⟩
  | true =>
    have hclosing : (s.advance p e).closing = [.close .run] := by simp [closing, hphase, hsettled]
    obtain ⟨lines, result, heq, hmore, hverdict⟩ :=
      closeIfDone_moves (ScanStage.sound_of_moves hchain hs) hphase hsettled
    rw [hsink, enter_enter] at hmore
    rw [hclosing] at htold
    rw [htold]
    refine ⟨hchain.trans hmore, ?_, .inr ⟨result, ?_⟩⟩
    · rw [heq, hsink]
      exact (Sink.run_append ..).symm
    · rw [heq]
      exact ⟨rfl, hsettled, hverdict⟩

end Scan

end FileSearch
