import FileSearch.Command
import FileSearch.Proofs.Scan.Accounts

/-!
# No output is lost

A run that ends with a summary has delivered every report in full, and the stream has acknowledged
each of them. A run whose sink refused a report ends with an error, whenever the refusal came and
whatever else went on (`Scan.no_output_lost`).
-/

namespace FileSearch

namespace Scan

variable {job : ScanJob} {s : Scan} {b : ScanBooks} {result : Except Thrown Summary}

/-- A sink that is broken has made a task fail, once all answers are passed on. -/
theorem failures_ne_nil (h : (s.stage b).Accounts job) {failure : Failure}
    (hbroken : s.sink.core.broken = some failure) : s.pool.failures ≠ [] := by
  have hsome : s.sink.core.broken.isSome := by rw [hbroken]; rfl
  refine (h.blamed.broken_told hsome).resolve_right ?_
  rintro ⟨a, ha, -⟩
  cases ha

/-- When no task has failed and none is left, what was counted is what was found. -/
theorem tally_of_settled (h : (s.stage b).Accounts job) (hfailures : s.pool.failures = [])
    (hsettled : s.pool.settled) : ∃ recorded, s.tally = .of recorded ∧ recorded.Perm b.found := by
  obtain ⟨recorded, htally, hperm⟩ := h.recorded hfailures
  have hnone : ScanStage.unrecorded s.pool = [] := by
    rw [ScanStage.unrecorded, Pool.held_of_settled hsettled]
    rfl
  change (recorded ++ ScanStage.unrecorded s.pool).Perm b.found at hperm
  rw [hnone, List.append_nil] at hperm
  exact ⟨recorded, htally, hperm⟩

theorem summary_accounts (h : (s.stage b).Accounts job) {summary : Summary}
    (hended : s.Ended job (.ok summary)) :
    summary = (Tally.of b.found).summary job.policy ∧
      s.delivered = (b.found.filter (·.isMatched)).map (·.block) ∧
      b.ledger.passed = s.delivered ∧ b.ledger.acknowledged = s.delivered := by
  obtain ⟨-, hsettled, hverdict⟩ := hended
  cases hverdict with
  | summed hsource hfailures =>
    have hbroken : s.sink.core.broken = none := by
      cases hcore : s.sink.core.broken with
      | none => rfl
      | some failure => exact absurd hfailures (failures_ne_nil h hcore)
    have hqueue := queue_eq_nil h.sound (Pool.live_of_settled hsettled)
    have hopen : b.ledger.unanswered = [] := by
      rw [unanswered_eq h.ledgered, hqueue]
      rfl
    have hpassed : b.ledger.passed = b.ledger.acknowledged := by
      rw [passed_eq h.ledgered hbroken, hopen, List.append_nil]
    have hoffered : b.ledger.offered = b.ledger.acknowledged := by
      rw [offered_eq h.ledgered hbroken, hqueue]
      exact List.append_nil _
    have hdelivered : s.delivered = b.ledger.passed := h.ledgered.delivered_eq
    have hreports : b.ledger.offered = (b.found.filter (·.isMatched)).map (·.block) := by
      rw [offered_found h.ledgered]
      exact FileResult.filter_block h.ledgered.honest
    refine ⟨?_, ?_, hdelivered.symm, ?_⟩
    · obtain ⟨recorded, htally, hperm⟩ := tally_of_settled h hfailures hsettled
      rw [htally]
      exact Tally.summary_of_perm hperm job.policy
    · rw [hdelivered, hpassed, ← hoffered, hreports]
    · rw [hdelivered, hpassed]

/-- What a run ends with in which some task was refused by the sink. -/
theorem error_of_broken (h : (s.stage b).Accounts job) (hended : s.Ended job result)
    {failure : Failure} (hbroken : s.sink.core.broken = some failure) :
    ∃ thrown, result = .error thrown ∧
      (job.log.Reliable →
        ((∀ cause, s.pool.source ≠ .failed cause) →
          ∃ f, thrown = .failure f ∧ f.code = .outputFailed) ∧
        ExitCode.ofThrown thrown = .internalError) := by
  have hne := failures_ne_nil h hbroken
  obtain ⟨-, -, hverdict⟩ := hended
  cases hverdict with
  | @unlogged line fault thrown hfault =>
    refine ⟨thrown, rfl, fun hlog => ?_⟩
    rw [hlog] at hfault
    cases hfault
  | sourceFailed hsource =>
    obtain ⟨reason, rfl⟩ := h.blamed.source_eq _ hsource
    exact ⟨_, rfl, fun _ =>
      ⟨fun hsound => absurd hsource (hsound _), ScanPlan.exitCode_pathsError reason⟩⟩
  | @taskFailed first rest hsource hfailures =>
    refine ⟨_, rfl, fun hlog => ?_⟩
    obtain ⟨f, herror, hcode⟩ := h.blamed.code_eq hlog first (by
      change first ∈ s.pool.failures
      rw [hfailures]
      exact List.mem_cons_self)
    rw [herror]
    refine ⟨fun _ => ⟨f, rfl, hcode⟩, ?_⟩
    simp [ScanPlan.taskFailure, ExitCode.ofThrown, hcode]
  | summed hsource hfailures => exact absurd hfailures hne

/-- Whatever the files are and whenever they are done, in whatever order the events come, and whatever
the stream does. If the run ends with a summary, it counts what was found, and the reports of the
files that matched, each in one piece, are what was written and acknowledged, and nothing else was
written. If the sink refused a report and the run has ended, it has ended with an error; with a
log that can be written, the error is that of the output unless the list of paths failed, and the
exit code is that of a run that was not carried through. -/
theorem no_output_lost {files : String → Opening} {ended destroyed : Bool} {s₀ : Scan}
    (hstart : start { job with files } { ended, destroyed } = .ok s₀) (moments : List ScanMoment) :
    let s := s₀.play job moments
    let history := s₀.history job moments
    let exchange := s₀.sink.history history.sinkEvents
    (∀ summary, s.result? = some (.ok summary) →
      summary = (Tally.of history.found).summary job.policy ∧
      s.delivered = (history.found.filter (·.isMatched)).map (·.block) ∧
      (SinkLedger.of exchange).passed = s.delivered ∧
      (SinkLedger.of exchange).acknowledged = s.delivered) ∧
    (∀ result index failure, s.result? = some result →
      .answered { call := ScanTask.call index, outcome := .error failure } ∈ exchange →
      ∃ thrown, result = .error thrown ∧
        (job.log.Reliable →
          ((∀ cause, s.pool.source ≠ .failed cause) →
            ∃ f, thrown = .failure f ∧ f.code = .outputFailed) ∧
          ∀ logLines,
            (Command.conclude { job, logLines } s.trace).exitCode = .internalError)) := by
  intro s history exchange
  rcases start_cases hstart with ⟨limit, logLines, hlimit, rfl⟩ | ⟨thrown, hphase⟩
  · let s₀ : Scan := { pool := { limit }, sink := .fresh ended destroyed, logLines }
    obtain ⟨haccounts, hphase⟩ := play_accounts (b := {})
      (new_accounts job hlimit ended destroyed logLines) rfl moments
    have hledger : (({} : ScanBooks).enter s₀.sink history).ledger = SinkLedger.of exchange := rfl
    have hfound : (({} : ScanBooks).enter s₀.sink history).found = history.found := List.nil_append _
    have hended : ∀ result, s.result? = some result → s.Ended job result := by
      intro result hresult
      have hsettled := result?_eq_some.mp hresult
      rcases hphase with hrunning | ⟨result', hended⟩
      · cases hrunning.symm.trans hsettled
      · cases hended.1.symm.trans hsettled
        exact hended
    refine ⟨?_, ?_⟩
    · intro summary hresult
      have hsummary := summary_accounts haccounts (hended _ hresult)
      rw [hledger, hfound] at hsummary
      exact hsummary
    · intro result index failure hresult hrefused
      have hanswer : { call := ScanTask.call index, outcome := .error failure }
          ∈ (({} : ScanBooks).enter s₀.sink history).ledger.answers := by
        rw [hledger, SinkLedger.of, SinkLedger.answers_enterAll]
        exact List.mem_append_right _ (List.mem_filterMap.mpr ⟨_, hrefused, rfl⟩)
      have hbroken := haccounts.ledgered.fits.broken_of_error _ hanswer failure rfl
      obtain ⟨thrown, rfl, hcode⟩ := error_of_broken haccounts (hended _ hresult) hbroken
      refine ⟨thrown, rfl, fun hlog => ⟨(hcode hlog).1, fun logLines => ?_⟩⟩
      have htrace : s.trace.result = .error thrown := by simp [trace, hresult]
      simp only [Command.conclude, htrace, Command.fatal]
      exact (hcode hlog).2
  · obtain ⟨hplay, hnone⟩ := play_of_settled job hphase moments
    have hresult : s.result? = some (.error thrown) := by
      rw [show s = s₀ from hplay]
      exact result?_eq_some.mpr hphase
    refine ⟨?_, ?_⟩
    · intro summary hok
      rw [hresult] at hok
      cases hok
    · intro result index failure _ hrefused
      simp [exchange, history, hnone] at hrefused

/-- Reports every line, one file at a time. -/
def reportAll : ScanJob where
  concurrency := .real 1
  options :=
    { matcher := { source := "", flags := "", search := fun _ => none, test := fun _ => true }
      mode := .byLine
      maxFileSize := .real 1 }
  policy := .fail
  diagnostics := { enabled := false, detail := .hidden }
  log := {}

/-- Every file holds the one line `a`. -/
def oneLine : String → Opening :=
  fun _ => .ok { stat := .error (.value .absent), chunks := [[0x61]], contents := .ok [0x61] }

/-- The report of the only file is handed to the stream, which fails it. -/
def failedWrite : List ScanMoment :=
  [.line (.path "f"), .scanned 0, .stream (.failed "full"), .linesEnded].map
    fun event => { files := oneLine, event }

theorem no_output_lost_failed_write :
    ∃ s₀, start { reportAll with files := oneLine } {} = .ok s₀ ∧
      ∃ thrown, (s₀.play reportAll failedWrite).result? = some (.error thrown) ∧
        (∃ f, thrown = .failure f ∧ f.code = .outputFailed) ∧
        (Command.conclude { job := reportAll, logLines := [] }
          (s₀.play reportAll failedWrite).trace).exitCode = .internalError := by
  let s₀ : Scan := { pool := { limit := 1 }, sink := {} }
  have hstart : start { reportAll with files := oneLine } {} = .ok s₀ := rfl
  obtain ⟨result, hresult⟩ : ∃ result, (s₀.play reportAll failedWrite).result? = some result :=
    Option.isSome_iff_exists.mp (by decide +kernel)
  have hany : (s₀.sink.history (s₀.history reportAll failedWrite).sinkEvents).any (fun
      | .answered { call := { caller := .task 0, kind := .write }, outcome := .error _ } => true
      | _ => false) = true := by decide +kernel
  obtain ⟨m, hm, htest⟩ := List.any_eq_true.mp hany
  match m, hm, htest with
  | .answered { call := { caller := .task 0, kind := .write }, outcome := .error failure }, hm, _ =>
    obtain ⟨thrown, rfl, hcode⟩ := (no_output_lost hstart failedWrite).2 result 0 failure hresult hm
    obtain ⟨houtput, hexit⟩ := hcode (Log.reliable_of_threshold _)
    refine ⟨s₀, hstart, thrown, hresult, houtput ?_, hexit []⟩
    intro cause hsource
    have hended : (s₀.play reportAll failedWrite).pool.source matches .ended := by decide +kernel
    rw [hsource] at hended
    cases hended

end Scan

end FileSearch
