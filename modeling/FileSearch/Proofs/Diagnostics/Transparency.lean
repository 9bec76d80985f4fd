import FileSearch.Proofs.Scan.Steps

/-!
# Diagnostics change nothing

Whatever is published is not looked at again. A scan without its events takes the steps of one that
publishes nothing, so two runs that differ in their diagnostics alone differ in their events alone.
-/

namespace FileSearch

namespace Diagnostics

/-- Publishes nothing. -/
def off : Diagnostics := { enabled := false, detail := .hidden }

end Diagnostics

/-- The job without diagnostics. -/
def ScanJob.quiet (job : ScanJob) : ScanJob := { job with diagnostics := .off }

def ScanPlan.quiet (p : ScanPlan) : ScanPlan := { p with diagnostics := .off }

namespace Scan

/-- The scan without its events. -/
def quiet (s : Scan) : Scan := { s with events := [] }

variable (p : ScanPlan) (s : Scan)


-- ---------------------------------------------------------------------------
-- Log entries
-- ---------------------------------------------------------------------------

theorem record_quiet (e : LogEntry) :
    s.quiet.record p.quiet e = ((s.record p e).1.quiet, (s.record p e).2) := by
  simp only [record_eq]
  rfl

theorem recordAll_quiet (entries : List LogEntry) :
    s.quiet.recordAll p.quiet entries
      = ((s.recordAll p entries).1.quiet, (s.recordAll p entries).2) := by
  induction entries generalizing s with
  | nil => rfl
  | cons e rest ih =>
    simp only [recordAll, record_quiet]
    rcases s.record p e with ⟨s', fault⟩
    cases fault with
    | some thrown => rfl
    | none => exact ih s'


-- ---------------------------------------------------------------------------
-- The end of a run
-- ---------------------------------------------------------------------------

theorem conclude_quiet (outcome : Except Thrown (List TaskFailure)) :
    s.quiet.conclude p.quiet outcome = (s.conclude p outcome).quiet := by
  match outcome with
  | .error thrown => rfl
  | .ok (first :: rest) => rfl
  | .ok [] =>
    have hrecord := record_quiet p s (ScanPlan.summaryEntry (s.tally.summary p.policy))
    simp only [conclude]
    rw [show s.quiet.tally = s.tally from rfl, show p.quiet.policy = p.policy from rfl, hrecord]
    rcases s.record p (ScanPlan.summaryEntry (s.tally.summary p.policy)) with ⟨s', fault⟩
    cases fault <;> rfl

theorem sinkClosed_quiet (answer : Except Failure Unit) :
    s.quiet.sinkClosed p.quiet answer = (s.sinkClosed p answer).quiet := by
  have hphase : s.quiet.phase = s.phase := rfl
  unfold sinkClosed
  rw [hphase]
  cases s.phase with
  | running => rfl
  | settled result => rfl
  | closing outcome =>
    cases answer with
    | ok _ => exact conclude_quiet p s outcome
    | error failure =>
      simp only [record_quiet]
      rcases s.record p (ScanPlan.flushEntry failure) with ⟨s', fault⟩
      cases fault with
      | some thrown => rfl
      | none => exact conclude_quiet p s' outcome


-- ---------------------------------------------------------------------------
-- Tasks
-- ---------------------------------------------------------------------------

theorem takeUp_quiet (next : Pool ScanTask × List (Nat × ScanTask)) :
    s.quiet.takeUp p.quiet next = (s.takeUp p next).quiet := by
  have hnone : (next.2.flatMap fun t => p.quiet.diagnostics.started t.2.path) = [] :=
    List.flatMap_eq_nil_iff.mpr fun _ _ => rfl
  simp only [takeUp, hnone]
  rfl

theorem release_quiet (index : Nat) (failure : Option Thrown) :
    s.quiet.release p.quiet index failure = (s.release p index failure).quiet :=
  takeUp_quiet p s _

theorem finishTask_quiet (index : Nat) (path : String) (outcome : Except Thrown FileResult) :
    s.quiet.finishTask p.quiet index path outcome = (s.finishTask p index path outcome).quiet := by
  let s₁ : Scan := { s with events := s.events ++ p.diagnostics.finished path outcome }
  have hpublished : { s.quiet with
      events := s.quiet.events ++ p.quiet.diagnostics.finished path outcome } = s₁.quiet := rfl
  cases outcome with
  | error thrown => exact release_quiet p s₁ index (some thrown)
  | ok result =>
    let s₂ : Scan := { s₁ with tally := s.tally.record result }
    cases result with
    | scanned path' report => exact release_quiet p s₂ index none
    | failed path' failure =>
      have hrecord := record_quiet p s₂ (ScanPlan.failureEntry failure)
      simp only [finishTask, FileResult.failure?]
      exact (congrArg (fun r : Scan × Option Thrown => r.1.release p.quiet index r.2) hrecord).trans
        (release_quiet p _ index _)

theorem receive_quiet (a : SinkAnswer ScanCaller) :
    s.quiet.receive p.quiet a = (s.receive p a).quiet := by
  have htask (index : Nat) : s.quiet.task? index = s.task? index := rfl
  unfold receive
  cases a.call.caller with
  | run => exact sinkClosed_quiet p s a.outcome
  | task index =>
    simp only [htask]
    cases s.task? index with
    | none => rfl
    | some task =>
      obtain ⟨path, report?⟩ := task
      cases report? with
      | none => rfl
      | some report => exact finishTask_quiet p s index path _

theorem receiveAll_quiet (answers : List (SinkAnswer ScanCaller)) :
    answers.foldl (receive p.quiet) s.quiet = (answers.foldl (receive p) s).quiet := by
  induction answers generalizing s with
  | nil => rfl
  | cons a rest ih => rw [List.foldl_cons, List.foldl_cons, receive_quiet, ih]

theorem absorb_quiet (next : Sink ScanCaller × SinkOutput ScanCaller) :
    s.quiet.absorb p.quiet next = (s.absorb p next).quiet :=
  receiveAll_quiet p { s with sink := next.1, delivered := s.delivered ++ next.2.delivered } _

theorem fileScanned_quiet (index : Nat) (path : String) :
    s.quiet.fileScanned p.quiet index path = (s.fileScanned p index path).quiet := by
  have hscan : p.quiet.scan path = p.scan path := rfl
  simp only [fileScanned, hscan, recordAll_quiet]
  rcases s.recordAll p (p.scan path).warnings with ⟨s', fault⟩
  cases fault with
  | some thrown => exact finishTask_quiet p s' index path _
  | none =>
    cases hresult : (p.scan path).result with
    | failed path' failure => exact finishTask_quiet p s' index path _
    | scanned path' report =>
      exact absorb_quiet p
        { s' with pool := s'.pool.update index fun t => { t with report := some report } } _


-- ---------------------------------------------------------------------------
-- Steps
-- ---------------------------------------------------------------------------

theorem failSource_quiet (reason : Reason) :
    s.quiet.failSource p.quiet reason = (s.failSource p reason).quiet :=
  takeUp_quiet p s _

theorem takeLine_quiet (line : PathLine) :
    s.quiet.takeLine p.quiet line = (s.takeLine p line).quiet := by
  cases line with
  | path path => exact takeUp_quiet p s _
  | blank =>
    have hasks : s.quiet.pool.asks = s.pool.asks := rfl
    simp only [takeLine, hasks, record_quiet]
    cases s.pool.asks with
    | false => rfl
    | true =>
      rcases s.record p PathLine.skipped with ⟨s', fault⟩
      cases fault with
      | some thrown => exact failSource_quiet p s' thrown
      | none => rfl

theorem advance_quiet (e : ScanEvent) : s.quiet.advance p.quiet e = (s.advance p e).quiet := by
  cases e with
  | line line => exact takeLine_quiet p s line
  | linesEnded => exact takeUp_quiet p s _
  | linesFailed reason => exact failSource_quiet p s reason
  | stream e => exact absorb_quiet p s _
  | scanned index =>
    have htask : s.quiet.task? index = s.task? index := rfl
    simp only [advance, htask]
    cases s.task? index with
    | none => rfl
    | some task =>
      obtain ⟨path, report?⟩ := task
      cases report? with
      | some report => rfl
      | none => exact fileScanned_quiet p s index path

theorem close_quiet (outcome : Except Thrown (List TaskFailure)) :
    s.quiet.close p.quiet outcome = (s.close p outcome).quiet :=
  absorb_quiet p { s with phase := .closing outcome } _

theorem closeIfDone_quiet : s.quiet.closeIfDone p.quiet = (s.closeIfDone p).quiet := by
  have hphase : s.quiet.phase = s.phase := rfl
  have hpool : s.quiet.pool = s.pool := rfl
  unfold closeIfDone
  rw [hphase, hpool]
  cases s.phase with
  | closing outcome => rfl
  | settled result => rfl
  | running =>
    cases s.pool.settled with
    | false => rfl
    | true =>
      cases s.pool.outcome with
      | error thrown => exact close_quiet p s _
      | ok outcome =>
        simp only [record_quiet, if_true]
        rcases s.record p (ScanPlan.dispatchedEntry outcome.dispatched) with ⟨s', fault⟩
        cases fault <;> exact close_quiet p s' _

/-- A scan without its events takes the same step, except that nothing is published. -/
theorem step_quiet (e : ScanEvent) : s.quiet.step p.quiet e = (s.step p e).quiet := by
  have hphase : s.quiet.phase = s.phase := rfl
  unfold step
  rw [hphase]
  cases s.phase with
  | settled result => rfl
  | running => rw [advance_quiet, closeIfDone_quiet]
  | closing outcome => rw [advance_quiet, closeIfDone_quiet]

/-- A run without its events is a run that publishes nothing. -/
theorem play_quiet (job : ScanJob) (moments : List ScanMoment) :
    s.quiet.play job.quiet moments = (s.play job moments).quiet := by
  induction moments generalizing s with
  | nil => rfl
  | cons m rest ih =>
    have hstep := step_quiet { job with files := m.files } s m.event
    rw [play, play, ← ih, ← hstep]
    rfl

theorem start_quiet (stream : OutputStream) :
    start p.quiet stream = (start p stream).map quiet := by
  have hentry : ScanPlan.startEntry p.quiet.toScanJob = ScanPlan.startEntry p.toScanJob := rfl
  unfold start
  rw [hentry, show p.quiet.log = p.log from rfl, show p.quiet.concurrency = p.concurrency from rfl]
  cases p.log.write (ScanPlan.startEntry p.toScanJob) with
  | error thrown => rfl
  | ok logLines =>
    cases (Pool.ofConcurrency p.concurrency : Except Fault (Pool ScanTask)) with
    | ok pool => rfl
    | error fault =>
      let s : Scan := { pool := { limit := 0 }, sink := { stream }, logLines }
      exact congrArg Except.ok (close_quiet p s _)


-- ---------------------------------------------------------------------------
-- What is told of a run
-- ---------------------------------------------------------------------------

theorem foundBy_quiet (e : ScanEvent) : s.quiet.foundBy p.quiet e = s.foundBy p e := by
  have htask (index : Nat) : s.quiet.task? index = s.task? index := rfl
  have hscan (path : String) : p.quiet.scan path = p.scan path := rfl
  unfold foundBy
  simp only [htask, hscan, recordAll_quiet]

theorem doneBy_quiet (e : ScanEvent) : s.quiet.doneBy p.quiet e = s.doneBy p e := by
  have htask (index : Nat) : s.quiet.task? index = s.task? index := rfl
  have hscan (path : String) : p.quiet.scan path = p.scan path := rfl
  unfold doneBy fileOutcome
  simp only [htask, hscan, recordAll_quiet]

theorem told_quiet (e : ScanEvent) : s.quiet.told p.quiet e = s.told p e := by
  have hpulled : s.quiet.pulledBy e = s.pulledBy e := rfl
  have hclosing : (s.advance p e).quiet.closing = (s.advance p e).closing := rfl
  unfold told passedOn
  rw [hpulled, foundBy_quiet, advance_quiet, hclosing]

theorem history_quiet (job : ScanJob) (moments : List ScanMoment) :
    s.quiet.history job.quiet moments = s.history job moments := by
  induction moments generalizing s with
  | nil => rfl
  | cons m rest ih =>
    let p : ScanPlan := { job with files := m.files }
    have hresult : s.quiet.result? = s.result? := rfl
    have hnext : (s.quiet.step p.quiet m.event).history job.quiet rest
        = (s.step p m.event).history job rest := by rw [step_quiet, ih]
    have htold : s.quiet.told p.quiet m.event = s.told p m.event := told_quiet p s m.event
    rw [history, history, hresult]
    exact congrArg (if s.result?.isSome then {} else ·) (congrArg₂ ScanHistory.append htold hnext)

theorem findings_quiet (job : ScanJob) (moments : List ScanMoment) :
    s.quiet.findings job.quiet moments = s.findings job moments := by
  induction moments generalizing s with
  | nil => rfl
  | cons m rest ih =>
    let p : ScanPlan := { job with files := m.files }
    have hresult : s.quiet.result? = s.result? := rfl
    have hnext : (s.quiet.step p.quiet m.event).findings job.quiet rest
        = (s.step p m.event).findings job rest := by rw [step_quiet, ih]
    have hdone : s.quiet.doneBy p.quiet m.event = s.doneBy p m.event := doneBy_quiet p s m.event
    rw [findings, findings, hresult]
    exact congrArg (if s.result?.isSome then [] else ·)
      (congrArg₂ (fun found rest => found.toList ++ rest) hdone hnext)

end Scan

end FileSearch
