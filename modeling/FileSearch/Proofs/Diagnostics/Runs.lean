import FileSearch.Proofs.Diagnostics.Account
import FileSearch.Proofs.Diagnostics.Secrecy
import FileSearch.Proofs.Diagnostics.Transparency
import FileSearch.Proofs.Scan.Backpressure
import FileSearch.Proofs.Scan.Fold
import FileSearch.Proofs.Scan.Settlement

/-!
# Diagnosed runs

What diagnostics tell of a run from its start to its end, for all that it may meet. They change
nothing else of it; every task that is dispatched starts once and ends once, with what came of it, and
no more are open at a time than there are slots; and with paths hidden they tell the ends of the files
alone.
-/

namespace FileSearch

/-- What can be told of a run. -/
structure DiagnosedRun where
  result : Option (Except Thrown Summary)
  /-- The blocks handed to the stream. -/
  delivered : List Bytes := []
  logLines : List String := []
  events : List DiagnosticsEvent := []
  /-- The paths taken from the list. -/
  pulled : List String := []
  /-- How many of them have been started. -/
  dispatched : Nat := 0
  findings : List TaskFinding := []
  /-- What the sink answered. -/
  answers : List (SinkAnswer ScanCaller) := []
  /-- What the pool noted of tasks that failed. -/
  failures : List TaskFailure := []

/-- The number of slots of a configuration, none if it is no positive integer. -/
def Config.slots (c : Config) : Nat := (c.concurrency.toInt?.getD 0).toNat


-- ---------------------------------------------------------------------------
-- The start of a run
-- ---------------------------------------------------------------------------

theorem ScanJob.ofConfig_off (c : Config) (maxFileSize : Number) (policy : FileErrorPolicy)
    (d : Diagnostics) (log : Log) :
    ofConfig c maxFileSize policy .off log = (ofConfig c maxFileSize policy d log).map quiet := by
  unfold ofConfig
  cases Matcher.compile c.pattern c.matchOptions <;> rfl

theorem ScanJob.diagnostics_of_ofConfig {c : Config} {maxFileSize : Number}
    {policy : FileErrorPolicy} {d : Diagnostics} {log : Log} {job : ScanJob}
    (h : ofConfig c maxFileSize policy d log = .ok job) : job.diagnostics = d := by
  unfold ofConfig at h
  split at h
  · cases h
  · cases h
    rfl

namespace Scan

variable {job : ScanJob} {p : ScanPlan} {s : Scan} {b : ScanBooks}

/-- A run begins with nothing done, or it has ended with nothing done. -/
theorem start_nothing {ended destroyed : Bool} (hstart : start p { ended, destroyed } = .ok s) :
    s.events = [] ∧ s.pool.started = 0 ∧ s.pool.failures = [] ∧
      ((∃ thrown, s.phase = .settled (.error thrown)) ∨
        ∃ logLines, let limit := (p.concurrency.toInt?.getD 0).toNat
          0 < limit ∧ s = { pool := { limit }, sink := .fresh ended destroyed, logLines }) := by
  unfold start at hstart
  cases hwrite : p.log.write (ScanPlan.startEntry p.toScanJob) with
  | error thrown => simp [hwrite] at hstart
  | ok logLines =>
    cases hpool : (Pool.ofConcurrency p.concurrency : Except Fault (Pool ScanTask)) with
    | error fault =>
      simp only [hwrite, hpool, Except.ok.injEq] at hstart
      rw [← hstart]
      simp [close, absorb, Sink.close, Sink.awaitLast, Sink.reply, Sink.standing, receive,
        sinkClosed, conclude, settle]
    | ok pool =>
      simp only [hwrite, hpool, Except.ok.injEq] at hstart
      unfold Pool.ofConcurrency at hpool
      cases hn : p.concurrency.toInt? with
      | none => simp [hn] at hpool
      | some n =>
        simp only [hn] at hpool
        split at hpool
        · cases hpool
        · cases hpool
          rw [← hstart]
          refine ⟨rfl, rfl, rfl, .inr ⟨logLines, ?_, rfl⟩⟩
          show 0 < n.toNat
          omega

theorem isOk_doneBy (hlog : p.log.Reliable) {e : ScanEvent} {f : TaskFinding}
    (hf : s.doneBy p e = some f) : f.outcome.isOk := by
  match e with
  | .scanned index =>
    cases htask : s.task? index with
    | none => simp [doneBy, htask] at hf
    | some task =>
      obtain ⟨path, report?⟩ := task
      cases report? with
      | some report => simp [doneBy, htask] at hf
      | none =>
        obtain rfl : (⟨index, path, s.fileOutcome p path⟩ : TaskFinding) = f := by
          simpa [doneBy, htask] using hf
        simp only [fileOutcome_reliable hlog]
        rfl
  | .line _ | .linesEnded | .linesFailed _ | .stream _ => cases hf

/-- With every entry logged nothing is lost of the files. -/
theorem isOk_findings (hlog : job.log.Reliable) (s : Scan) (moments : List ScanMoment) :
    ∀ f ∈ s.findings job moments, f.outcome.isOk := by
  induction moments generalizing s with
  | nil => simp [findings]
  | cons m rest ih =>
    let p : ScanPlan := { job with files := m.files }
    intro f hf
    unfold findings at hf
    split at hf
    · cases hf
    · rcases List.mem_append.mp hf with hf | hf
      · exact isOk_doneBy (p := p) hlog (Option.mem_toList.mp hf)
      · exact ih _ f hf

end Scan


-- ---------------------------------------------------------------------------
-- Runs from outside
-- ---------------------------------------------------------------------------

namespace DiagnosedRun

/-- The run of a job from a scan on. -/
def ofPlay (job : ScanJob) (s₀ : Scan) (moments : List ScanMoment) : DiagnosedRun :=
  let s := s₀.play job moments
  let history := s₀.history job moments
  { result := s.result?
    delivered := s.delivered
    logLines := s.logLines
    events := s.events
    pulled := history.pulled
    dispatched := s.pool.started
    findings := s₀.findings job moments
    answers := (s₀.sink.history history.sinkEvents).filterMap SinkMoment.answer?
    failures := s.pool.failures }

/-- The run of a configuration that meets some moments. -/
def observe (c : Config) (maxFileSize : Number) (policy : FileErrorPolicy)
    (diagnostics : Diagnostics) (log : Log) (stream : OutputStream) (moments : List ScanMoment) :
    DiagnosedRun :=
  match ScanJob.ofConfig c maxFileSize policy diagnostics log with
  | .error failure => { result := some (.error (.failure failure)) }
  | .ok job =>
    match Scan.start { job with files := fun _ => .error (.value .absent) } stream with
    | .error thrown => { result := some (.error thrown) }
    | .ok s₀ => ofPlay job s₀ moments

/-- What the events of a run tell, with the index of each task, which they leave out. -/
structure Tells (seen : DiagnosedRun) (detail : PathDetail) (slots : Nat) (log : Log)
    (marks : List TaskMark) : Prop where
  events_eq : seen.events = marks.map (TaskMark.event detail)
  /-- A task that is dispatched has one start and then one end; only while the run goes on may it have
  none yet. -/
  paired : ∀ index path, index < seen.dispatched → seen.pulled[index]? = some path →
    (∃ outcome, marks.filter (·.index = index)
      = [.started index path, .ended index path outcome]) ∨
    marks.filter (·.index = index) = [.started index path] ∧ seen.result = none
  /-- No other task is told of. -/
  dispatched : ∀ m ∈ marks, m.index < seen.dispatched
  dispatched_le : seen.dispatched ≤ seen.pulled.length
  /-- At no moment are more starts without their ends than slots. -/
  open_le : ∀ n, (seen.events.take n).countP (·.isStart)
    ≤ (seen.events.take n).countP (!·.isStart) + slots
  /-- A task ends with an outcome exactly if that is what came of it. -/
  ended_iff : ∀ index path outcome, .ended index path outcome ∈ marks ↔
    CameTo seen.findings seen.answers index path outcome
  /-- A rejection by the sink reaches the pool. -/
  failures_eq : seen.failures = marks.filterMap (TaskMark.noted? log)

variable (c : Config) (maxFileSize : Number) (policy : FileErrorPolicy) (log : Log)

/-- A run has failed before it begins, or plays from a start. -/
theorem observe_cases (d : Diagnostics) (stream : OutputStream) :
    (∃ thrown, ∀ moments, observe c maxFileSize policy d log stream moments
      = { result := some (.error thrown) }) ∨
    ∃ job s₀, (job.concurrency = c.concurrency ∧ job.diagnostics = d ∧ job.log = log) ∧
      Scan.start { job with files := fun _ => .error (.value .absent) } stream = .ok s₀ ∧
      ∀ moments, observe c maxFileSize policy d log stream moments = ofPlay job s₀ moments := by
  unfold observe
  cases hjob : ScanJob.ofConfig c maxFileSize policy d log with
  | error failure => exact .inl ⟨_, fun _ => rfl⟩
  | ok job =>
    obtain ⟨hconcurrency, -, hlog⟩ := Scan.ofConfig_ok hjob
    cases hstart : Scan.start { job with files := fun _ => .error (.value .absent) } stream with
    | error thrown => exact .inl ⟨thrown, fun _ => by simp only [hstart]⟩
    | ok s₀ =>
      exact .inr ⟨job, s₀, ⟨hconcurrency, ScanJob.diagnostics_of_ofConfig hjob, hlog⟩, hstart,
        fun _ => by simp only [hstart]⟩

/-- Nothing but the events is lost without diagnostics. -/
theorem observe_off (d : Diagnostics) (stream : OutputStream) (moments : List ScanMoment) :
    observe c maxFileSize policy .off log stream moments
      = { observe c maxFileSize policy d log stream moments with events := [] } := by
  unfold observe
  rw [ScanJob.ofConfig_off c maxFileSize policy d log]
  cases ScanJob.ofConfig c maxFileSize policy d log with
  | error failure => rfl
  | ok job =>
    let p : ScanPlan := { job with files := fun _ => .error (.value .absent) }
    have hstart : Scan.start { job.quiet with files := fun _ => .error (.value .absent) } stream
        = (Scan.start p stream).map Scan.quiet := Scan.start_quiet p stream
    simp only [Except.map, hstart]
    cases Scan.start p stream with
    | error thrown => rfl
    | ok s₀ =>
      simp only [ofPlay, Scan.play_quiet, Scan.history_quiet, Scan.findings_quiet]
      rfl

theorem tells_nothing {seen : DiagnosedRun} (hevents : seen.events = [])
    (hdispatched : seen.dispatched = 0) (hfindings : seen.findings = [])
    (hfailures : seen.failures = []) (detail : PathDetail) (slots : Nat) (log : Log) :
    seen.Tells detail slots log [] where
  events_eq := hevents
  paired index path hindex := by simp [hdispatched] at hindex
  dispatched := by simp
  dispatched_le := by simp [hdispatched]
  open_le := by simp [hevents]
  ended_iff index path outcome := by
    refine ⟨by simp, fun hcame => ?_⟩
    cases hcame <;> simp_all
  failures_eq := hfailures

/-- A running scan, or one that has ended, tells what the account of its tasks tells. -/
theorem tells_marks {job : ScanJob} {s₀ : Scan} {moments : List ScanMoment} {slots : Nat}
    {marks : List TaskMark}
    (hbooked : Booked job marks (s₀.history job moments).pulled (s₀.play job moments))
    (hjustified : Justified marks (ofPlay job s₀ moments).findings (ofPlay job s₀ moments).answers)
    (hnodup : ((ofPlay job s₀ moments).findings.map (·.index)).Nodup)
    (hslots : (s₀.play job moments).pool.limit = slots)
    (hended : (s₀.play job moments).phase = .running ∨
      ∃ result, (s₀.play job moments).Ended job result) :
    (ofPlay job s₀ moments).Tells job.diagnostics.detail slots job.log marks where
  events_eq := hbooked.events_eq
  paired index path hindex hpath := by
    have hlength : index < (marks.filterMap TaskMark.startedPath?).length := by
      rw [hbooked.balanced.length_startedPaths]
      exact hindex
    have hstarted : (marks.filterMap TaskMark.startedPath?)[index]? = some path := by
      rw [← List.getElem?_append_left hlength, hbooked.pulled_eq]
      exact hpath
    cases hbooked.balanced.told hstarted with
    | ended hmarks => exact .inl ⟨_, hmarks⟩
    | live hmarks hlive =>
      refine .inr ⟨hmarks, ?_⟩
      rcases hended with hrunning | ⟨result, -, hsettled, -⟩
      · exact Scan.result?_of_running hrunning
      · simp [Pool.live_of_settled hsettled] at hlive
  dispatched m hm := by
    by_contra hindex
    have hnone := hbooked.balanced.unmarked (Nat.le_of_not_lt hindex)
    rw [List.filter_eq_nil_iff] at hnone
    exact hnone m hm (by simp)
  dispatched_le := by
    show (s₀.play job moments).pool.started ≤ (s₀.history job moments).pulled.length
    rw [← hbooked.pulled_eq, List.length_append, hbooked.balanced.length_startedPaths]
    exact Nat.le_add_right ..
  open_le n := by
    have hbalanced := hbooked.balanced.countP_take_le job.diagnostics.detail n
    rw [← hbooked.events_eq, hslots] at hbalanced
    exact hbalanced
  ended_iff := hjustified.ended_iff hnodup
  failures_eq := hbooked.failures_eq

/-- The tasks of every run are told of. -/
theorem exists_tells (detail : PathDetail) (ended destroyed : Bool) (moments : List ScanMoment) :
    ∃ marks, (observe c maxFileSize policy { enabled := true, detail } log { ended, destroyed }
      moments).Tells detail c.slots log marks := by
  rcases observe_cases c maxFileSize policy log { enabled := true, detail } { ended, destroyed } with
    ⟨thrown, hrefused⟩ | ⟨job, s₀, ⟨hconcurrency, hdiagnostics, hlog⟩, hstart, hrun⟩
  · rw [hrefused]
    exact ⟨[], tells_nothing rfl rfl rfl rfl ..⟩
  · rw [hrun]
    obtain ⟨hevents, hstarted, hfailures, ⟨thrown, hsettled⟩ | ⟨logLines, hlimit, hnew⟩⟩ :=
      Scan.start_nothing hstart
    · obtain ⟨hplay, -⟩ := Scan.play_of_settled job hsettled moments
      refine ⟨[], tells_nothing ?_ ?_ (Scan.findings_of_settled job hsettled moments) ?_ ..⟩
      · exact (congrArg Scan.events hplay).trans hevents
      · exact (congrArg (·.pool.started) hplay).trans hstarted
      · exact (congrArg (·.pool.failures) hplay).trans hfailures
    · subst hnew
      have hslots : (job.concurrency.toInt?.getD 0).toNat = c.slots := by
        rw [hconcurrency]
        rfl
      have hpublishes : job.diagnostics.publishes := by
        rw [hdiagnostics]
        rfl
      have haccounts := Scan.new_accounts job hlimit ended destroyed logLines
      have hcounted := (Scan.play_reachable haccounts.sound rfl moments).counted haccounts ⟨rfl, rfl⟩
      obtain ⟨-, hended⟩ := Scan.play_accounts haccounts rfl moments
      obtain ⟨marks, hbooked, hjustified, hfindings⟩ := Scan.play_marked hpublishes
        haccounts.sound rfl (Scan.new_marked job _ ended destroyed logLines) moments
      have htells := tells_marks hbooked hjustified hfindings.nodup
        (hcounted.limit_eq.trans hslots) hended
      rw [hdiagnostics, hlog] at htells
      exact ⟨marks, htells⟩

/-- With paths hidden a run publishes the same as another, if both meet the same events except for
the paths that are listed and the work on the files comes to the same ends. -/
theorem events_hidden (ended destroyed : Bool) {moments moments' : List ScanMoment}
    (hmoments : moments.map (·.event.unnamed) = moments'.map (·.event.unnamed)) :
    let run := observe c maxFileSize policy { enabled := true, detail := .hidden } log
      { ended, destroyed }
    (run moments).findings.map (·.ending) = (run moments').findings.map (·.ending) →
      (run moments).events = (run moments').events := by
  intro run
  rcases observe_cases c maxFileSize policy log { enabled := true, detail := .hidden }
    { ended, destroyed } with ⟨thrown, hrefused⟩ | ⟨job, s₀, ⟨-, hdiagnostics, -⟩, hstart, hrun⟩
  · simp [run, hrefused]
  · simp only [run, hrun]
    obtain ⟨-, -, -, ⟨thrown, hsettled⟩ | ⟨logLines, hlimit, hnew⟩⟩ := Scan.start_nothing hstart
    · intro _
      exact congrArg Scan.events ((Scan.play_of_settled job hsettled moments).1.trans
        (Scan.play_of_settled job hsettled moments').1.symm)
    · subst hnew
      have hsound := (Scan.new_accounts job hlimit ended destroyed logLines).sound
      have hhidden : job.diagnostics.detail = .hidden := by rw [hdiagnostics]
      exact (Scan.Alike.refl rfl).events_play hhidden hsound hsound hmoments

/-- Whatever a run meets, diagnostics change nothing of it but the events. These tell of every task
that was dispatched one start and one end, with what came of it, and are never more tasks ahead than
there are slots. With paths hidden they depend on how the work on the files ended, not on paths or
contents. -/
theorem transparent_balanced_secret (c : Config) (maxFileSize : Number) (policy : FileErrorPolicy)
    (log : Log) (ended destroyed : Bool) (moments : List ScanMoment) :
    let run (d : Diagnostics) := observe c maxFileSize policy d log { ended, destroyed }
    let on (detail : PathDetail) : Diagnostics := { enabled := true, detail }
    (∀ d d', { run d moments with events := [] } = { run d' moments with events := [] }) ∧
    (∀ detail, ∃ marks, (run (on detail) moments).Tells detail c.slots log marks) ∧
    (log.Reliable → ∀ d, ∀ f ∈ (run d moments).findings, f.outcome.isOk) ∧
    ∀ moments', moments.map (·.event.unnamed) = moments'.map (·.event.unnamed) →
      (run (on .hidden) moments).findings.map (·.ending)
        = (run (on .hidden) moments').findings.map (·.ending) →
      (run (on .hidden) moments).events = (run (on .hidden) moments').events := by
  intro run on
  refine ⟨fun d d' => ?_, fun detail => ?_, fun hlog d => ?_, fun moments' hmoments => ?_⟩
  · rw [← observe_off, ← observe_off]
  · exact exists_tells c maxFileSize policy log detail ended destroyed moments
  · rcases observe_cases c maxFileSize policy log d { ended, destroyed } with
      ⟨thrown, hrefused⟩ | ⟨job, s₀, ⟨-, -, rfl⟩, -, hrun⟩
    · simp [run, hrefused]
    · simp only [run, hrun]
      exact Scan.isOk_findings hlog s₀ moments
  · exact events_hidden c maxFileSize policy log ended destroyed hmoments

/-- The only file is scanned, and the stream takes its report. -/
def oneFile (path : String) (contents : Bytes) : List ScanMoment :=
  [.line (.path path), .scanned 0, .stream .acknowledged, .linesEnded].map fun event =>
    { files := fun _ =>
        .ok { stat := .error (.value .absent), chunks := [contents], contents := .ok contents }
      event }

theorem transparent_balanced_secret_two_names :
    let run (d : Diagnostics) := observe RunRecord.everyLine (.real 1) .fail d {} {}
    let hidden : Diagnostics := { enabled := true, detail := .hidden }
    let named : Diagnostics := { enabled := true, detail := .full }
    (run hidden (oneFile "f" [0x61])).events = [.start none, .finish none (.scanned true)] ∧
      (run hidden (oneFile "f" [0x61])).events = (run hidden (oneFile "g" [0x62])).events ∧
      (run named (oneFile "g" [0x62])).events
        = [.start (some "g"), .finish (some "g") (.scanned true)] ∧
      (run named (oneFile "g" [0x62])).delivered = (run hidden (oneFile "g" [0x62])).delivered ∧
      (∃ marks, (run hidden (oneFile "f" [0x61])).Tells .hidden 1 {} marks) ∧
      ∀ f ∈ (run hidden (oneFile "f" [0x61])).findings, f.outcome.isOk := by
  intro run hidden named
  obtain ⟨-, htells, hfound, hsecret⟩ := transparent_balanced_secret RunRecord.everyLine (.real 1)
    .fail {} false false (oneFile "f" [0x61])
  obtain ⟨hsame, -⟩ := transparent_balanced_secret RunRecord.everyLine (.real 1)
    .fail {} false false (oneFile "g" [0x62])
  have hdelivered := congrArg delivered (hsame named hidden)
  have hslots : RunRecord.everyLine.slots = 1 := by decide +kernel
  exact ⟨by decide +kernel, hsecret _ rfl (by decide +kernel), by decide +kernel, hdelivered,
    hslots ▸ htells .hidden, hfound (Log.reliable_of_threshold _) hidden⟩

end DiagnosedRun

end FileSearch
