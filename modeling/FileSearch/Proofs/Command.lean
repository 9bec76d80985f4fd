import FileSearch.Proofs.Arguments
import FileSearch.Proofs.Negation
import FileSearch.Proofs.Output.Demands
import FileSearch.Proofs.Scan.Fold

/-!
# Exit codes of the command

How a command ends, told from what is seen of it. It ends with 2 exactly if its arguments or its
pattern are refused, and then nothing has been read or written. Otherwise it ends with 3 exactly if
reading the list of paths failed or the output stream did not take some report, and otherwise the
results of the files decide between 1 and 0 (`Command.exitCode_classifies`). What codes the errors
carry that come from the files, the list or the stream makes no difference.
-/

namespace FileSearch


-- ---------------------------------------------------------------------------
-- Failures of the list
-- ---------------------------------------------------------------------------

def SourceState.hasFailed : SourceState → Bool
  | .failed _ => true
  | .open | .ended => false

namespace Scan

variable {p : ScanPlan} {job : ScanJob} {s : Scan} {b : ScanBooks} {result : Except Thrown Summary}

/-- Whether an event is met with which reading the list fails. That can be only where the run waits
for the next line. -/
def listFailsNow (s : Scan) : ScanEvent → Bool
  | .linesFailed _ => s.result?.isNone && s.pool.asks
  | .line _ | .linesEnded | .scanned _ | .stream _ => false

def listFails (job : ScanJob) (s : Scan) : List ScanMoment → Bool
  | [] => false
  | m :: rest =>
    s.listFailsNow m.event || (s.step { job with files := m.files } m.event).listFails job rest

theorem listFails_of_settled (h : s.phase = .settled result) (moments : List ScanMoment) :
    s.listFails job moments = false := by
  induction moments with
  | nil => rfl
  | cons m rest ih =>
    have hstep : s.step { job with files := m.files } m.event = s := by
      unfold step
      rw [h]
    have hresult : s.result?.isNone = false := by simp [result?_eq_some.mpr h]
    have hnow : s.listFailsNow m.event = false := by
      cases hevent : m.event <;> simp [listFailsNow, hresult]
    rw [listFails, hstep, hnow, ih]
    rfl

theorem hasFailed_step (hs : (s.stage b).Sound) (hrunning : s.phase = .running)
    (hlog : p.log.Reliable) (e : ScanEvent) :
    (s.step p e).pool.source.hasFailed = (s.pool.source.hasFailed || s.listFailsNow e) := by
  have hresult : s.result?.isNone := by simp [result?_of_running hrunning]
  have hopen (hasks : s.pool.asks) : s.pool.source.hasFailed = false := by
    have hsource := (Pool.asks_iff.mp hasks).1
    cases hstate : s.pool.source with
    | «open» => rfl
    | ended => rfl
    | failed thrown => simp [hstate, SourceState.isOpen] at hsource
  rw [source_of_step hs hrunning hlog]
  cases e with
  | line line => simp [sourceMet, listFailsNow]
  | scanned index => simp [sourceMet, listFailsNow]
  | stream e => simp [sourceMet, listFailsNow]
  | linesEnded =>
    by_cases hasks : s.pool.asks
    · rw [hopen hasks]
      simp [sourceMet, listFailsNow, hasks, SourceState.hasFailed]
    · simp [sourceMet, listFailsNow, hasks]
  | linesFailed reason =>
    by_cases hasks : s.pool.asks
    · simp [sourceMet, listFailsNow, hasks, hresult, SourceState.hasFailed]
    · simp [sourceMet, listFailsNow, hasks]

/-- The source of the pool has failed exactly if reading the list has. -/
theorem hasFailed_play (hs : (s.stage b).Sound) (hrunning : s.phase = .running)
    (hlog : job.log.Reliable) (moments : List ScanMoment) :
    (s.play job moments).pool.source.hasFailed
      = (s.pool.source.hasFailed || s.listFails job moments) := by
  induction moments generalizing s b with
  | nil => simp [play, listFails]
  | cons m rest ih =>
    let p : ScanPlan := { job with files := m.files }
    obtain ⟨hchain, -, hnext⟩ := step_moves (p := p) hs hrunning m.event
    have hstep := hasFailed_step (p := p) hs hrunning hlog m.event
    have hlater : ((s.step p m.event).play job rest).pool.source.hasFailed
        = ((s.step p m.event).pool.source.hasFailed || (s.step p m.event).listFails job rest) := by
      rcases hnext with ⟨hphase, -⟩ | ⟨result, hphase, -⟩
      · exact ih (ScanStage.sound_of_moves hchain hs) hphase
      · rw [(play_of_settled job hphase rest).1, listFails_of_settled hphase, Bool.or_false]
    rw [play, hlater, hstep, listFails, Bool.or_assoc]


-- ---------------------------------------------------------------------------
-- Runs of a scan
-- ---------------------------------------------------------------------------

/-- What holds of a run at the end of every event: each path taken is that of one result found or of a
file that is not done, and a stream that lets a write fail lacks a report. -/
structure Tracked (job : ScanJob) (s : Scan) (b : ScanBooks) : Prop where
  accounts : (s.stage b).Accounts job
  traces : (s.stage b).Traces id (·.path)
  settles : ∃ demands met lost failure, b.ledger.Settles demands met lost failure s.sink.core

theorem Tracked.step (h : Tracked p.toScanJob s b) (hrunning : s.phase = .running)
    (hlog : p.log.Reliable) (e : ScanEvent) :
    Tracked p.toScanJob (s.step p e) (b.enter s.sink (s.told p e)) := by
  obtain ⟨hchain, hsink, -⟩ := step_moves (p := p) h.accounts.sound hrunning e
  refine ⟨ScanStage.accounts_of_moves hchain h.accounts, ?_, ?_⟩
  · exact ScanStage.traces_of_moves hlog (fun path => p.options.path_scan path _) hchain
      h.accounts.sound h.traces
  · obtain ⟨demands, met, lost, failure, hsettles⟩ := h.settles
    obtain ⟨met', lost', failure', hnext⟩ := Sink.run_settles h.accounts.sound.core
      h.accounts.ledgered.fits hsettles (s.told p e).sinkEvents
    rw [hsink]
    exact ⟨_, met', lost', failure', hnext⟩

theorem tracked_new (job : ScanJob) {limit : Nat} (hlimit : 0 < limit) (ended destroyed : Bool)
    (logLines : List String) :
    Tracked job { pool := { limit }, sink := .fresh ended destroyed, logLines } {} where
  accounts := new_accounts job hlimit ended destroyed logLines
  traces := List.Perm.refl _
  settles := ⟨[], [], [], Sink.streamClosed, Sink.fresh_settles ended destroyed _⟩

theorem play_tracked (h : Tracked job s b) (hrunning : s.phase = .running)
    (hlog : job.log.Reliable) (moments : List ScanMoment) :
    Tracked job (s.play job moments) (b.enter s.sink (s.history job moments)) := by
  refine play_induction ?_ h.accounts.sound hrunning h moments
  rintro s b p e rfl - hrunning h
  exact h.step hrunning hlog e

/-- When nothing is left to do, the paths of the results are those that were taken. -/
theorem Tracked.found_perm (h : Tracked job s b) (hsettled : s.pool.settled) :
    (b.found.map (·.path)).Perm b.pulled := by
  have htraces := h.traces
  have hnone := ScanStage.unread_of_settled hsettled
  change (b.pulled.map id).Perm (b.found.map (·.path) ++ (ScanStage.unread s.pool).map id) at htraces
  rw [hnone, List.map_id, List.map_nil, List.append_nil] at htraces
  exact htraces.symm


-- ---------------------------------------------------------------------------
-- Exit codes of a scan
-- ---------------------------------------------------------------------------

/-- The exit code of a run with its result. -/
def exitCodeOf : Except Thrown Summary → ExitCode
  | .ok summary => summary.exitCode
  | .error thrown => .ofThrown thrown

/-- The reports that hold anything. -/
def reports (found : List FileResult) : List Bytes := (found.map (·.block)).filter (!·.isEmpty)

/-- A run that has ended was broken off, by the list or by the stream, or its results decide. -/
theorem Tracked.exitCode_cases (h : Tracked job s b) (hlog : job.log.Reliable)
    (hended : s.Ended job result) :
    ((s.pool.source.hasFailed ∨ b.ledger.acknowledged ≠ reports b.found) ∧
        exitCodeOf result = .internalError) ∨
      ((s.pool.source.hasFailed = false ∧ b.ledger.acknowledged = reports b.found) ∧
        (exitCodeOf result).toNat
          = if b.found.any (·.isMatched) || (b.found.any (!·.isScanned) && job.policy = .fail) then 1
            else 0) := by
  have hoffered := offered_found h.accounts.ledgered
  obtain ⟨hphase, hsettled, hverdict⟩ := id hended
  cases hverdict with
  | unlogged hfault =>
    rw [hlog] at hfault
    cases hfault
  | sourceFailed hsource =>
    left
    obtain ⟨reason, rfl⟩ := h.accounts.blamed.source_eq _ hsource
    exact ⟨.inl (by simp [hsource, SourceState.hasFailed]), ScanPlan.exitCode_pathsError reason⟩
  | @taskFailed first rest hsource hfailures =>
    left
    obtain ⟨failure, hbroken⟩ : ∃ failure, s.sink.core.broken = some failure := by
      refine Option.ne_none_iff_exists'.mp fun hnone => ?_
      cases hfailures.symm.trans (h.accounts.blamed.unbroken hlog hnone)
    obtain ⟨thrown, hresult, hcode⟩ := error_of_broken h.accounts hended hbroken
    obtain ⟨demands, met, lost, failure', hsettles⟩ := h.settles
    have hshort := hsettles.length_lt (by simp [hbroken])
    refine ⟨.inr fun hall => ?_, ?_⟩
    · rw [hall, reports, ← hoffered] at hshort
      exact Nat.lt_irrefl _ hshort
    · rw [hresult]
      exact (hcode hlog).2
  | summed hsource hfailures =>
    right
    obtain ⟨hsummary, hdelivered, -, hacknowledged⟩ := summary_accounts h.accounts hended
    refine ⟨⟨by simp [hsource, SourceState.hasFailed], ?_⟩, ?_⟩
    · rw [hacknowledged, hdelivered, reports]
      exact (FileResult.filter_block h.accounts.ledgered.honest).symm
    · rw [exitCodeOf, hsummary]
      exact Tally.exitCode_summary_of b.found job.policy

/-- A run that was followed from its beginning and has a result looked at one file for each path, and
was broken off, or its results decide. -/
theorem exitCode_play (h : Tracked job s {}) (hrunning : s.phase = .running)
    (hopen : s.pool.source = .open) (hlog : job.log.Reliable) (moments : List ScanMoment)
    (hresult : (s.play job moments).result? = some result) :
    let history := s.history job moments
    let acknowledged := (SinkLedger.of (s.sink.history history.sinkEvents)).acknowledged
    let broken := s.listFails job moments ∨ acknowledged ≠ reports history.found
    (history.found.map (·.path)).Perm history.pulled ∧
      ((broken ∧ exitCodeOf result = .internalError) ∨
        (¬ broken ∧ (exitCodeOf result).toNat
          = if history.found.any (·.isMatched)
              || (history.found.any (!·.isScanned) && job.policy = .fail) then 1
            else 0)) := by
  intro history acknowledged broken
  have htracked := play_tracked h hrunning hlog moments
  have hended : (s.play job moments).Ended job result := by
    have hsettled := result?_eq_some.mp hresult
    obtain ⟨-, hphase | ⟨result', hended⟩⟩ := play_accounts h.accounts hrunning moments
    · cases hphase.symm.trans hsettled
    · cases hended.1.symm.trans hsettled
      exact hended
  have hfailed := hasFailed_play h.accounts.sound hrunning hlog moments
  rw [hopen, SourceState.hasFailed, Bool.false_or] at hfailed
  have hfound : (({} : ScanBooks).enter s.sink history).found = history.found := List.nil_append _
  have hpulled : (({} : ScanBooks).enter s.sink history).pulled = history.pulled := List.nil_append _
  have hperm := htracked.found_perm hended.2.1
  have hcases := htracked.exitCode_cases hlog hended
  rw [hfound, hpulled] at hperm
  rw [hfound, hfailed] at hcases
  refine ⟨hperm, hcases.imp_right fun ⟨⟨hlist, hall⟩, hcode⟩ => ⟨?_, hcode⟩⟩
  rintro (hbroken | hbroken)
  · exact Bool.false_ne_true (hlist.symm.trans hbroken)
  · exact hbroken hall

end Scan


-- ---------------------------------------------------------------------------
-- Commands
-- ---------------------------------------------------------------------------

/-- What is seen of a command from outside. -/
structure CommandRecord where
  trace : CommandTrace
  settled : Bool
  /-- Whether reading the list of paths has failed. -/
  listFailed : Bool := false
  history : ScanHistory := {}
  exchange : List (SinkMoment ScanCaller) := []

namespace Command

variable {i : Invocation} {c : Command}

/-- The command as it meets these moments, in any order. -/
def observe (i : Invocation) (stream : OutputStream) (moments : List ScanMoment) : CommandRecord :=
  match ofInvocation i with
  | .error trace => { trace, settled := true }
  | .ok c =>
    match Scan.start { c.job with files := fun _ => .error (.value .absent) } stream with
    | .error thrown => { trace := c.conclude { result := .error thrown }, settled := true }
    | .ok s =>
      let history := s.history c.job moments
      { trace := c.conclude (s.play c.job moments).trace
        settled := (s.play c.job moments).result?.isSome
        listFailed := s.listFails c.job moments
        history
        exchange := s.sink.history history.sinkEvents }

def settings (i : Invocation) : RuntimeSettings :=
  (RuntimeSettings.load i.environment i.processors).1

/-- The arguments are refused, or the pattern does not compile. -/
def Refused (i : Invocation) : Prop :=
  (∃ failure, Config.ofArguments i.arguments (settings i).defaultConcurrency = .error failure) ∨
    ∃ config failure, Config.ofArguments i.arguments (settings i).defaultConcurrency = .ok config ∧
      Matcher.compile config.pattern config.matchOptions = .error failure

theorem ofConfig_error {config : Config} {maxFileSize : Number} {policy : FileErrorPolicy}
    {diagnostics : Diagnostics} {log : Log} {failure : Failure}
    (h : ScanJob.ofConfig config maxFileSize policy diagnostics log = .error failure) :
    Matcher.compile config.pattern config.matchOptions = .error failure := by
  unfold ScanJob.ofConfig at h
  split at h
  case h_1 hcompile =>
    cases h
    exact hcompile
  · cases h

theorem code_of_compile {pattern : String} {o : MatchOptions} {failure : Failure}
    (h : Matcher.compile pattern o = .error failure) : failure.code = .invalidPattern := by
  unfold Matcher.compile at h
  split at h
  · cases h
    rfl
  · cases h

/-- A command that does not begin was refused, and says so. -/
theorem ofInvocation_error {trace : CommandTrace} (h : ofInvocation i = .error trace) :
    Refused i ∧ trace.exitCode = .invalidInput ∧ trace.delivered = [] := by
  simp only [ofInvocation] at h
  split at h
  case h_1 failure hrefused =>
    cases h
    refine ⟨.inl ⟨failure, hrefused⟩, ?_, rfl⟩
    simp [fatal, ExitCode.ofThrown, Config.ofArguments_error hrefused]
  case h_2 config haccepted =>
    split at h
    case h_1 failure hjob =>
      cases h
      have hcompile := ofConfig_error hjob
      refine ⟨.inr ⟨config, failure, haccepted, hcompile⟩, ?_, rfl⟩
      simp [fatal, ExitCode.ofThrown, code_of_compile hcompile]
    · cases h

/-- A command that begins was not refused; it has slots and a log that can be written. -/
theorem ofInvocation_ok (h : ofInvocation i = .ok c) :
    ¬ Refused i ∧ c.job.log.Reliable ∧ c.job.policy = (settings i).fileErrorPolicy ∧
      ∃ n, c.job.concurrency.toInt? = some n ∧ 1 ≤ n := by
  simp only [ofInvocation] at h
  split at h
  · cases h
  case h_2 config haccepted =>
    split at h
    · cases h
    case h_2 job hjob =>
      cases h
      obtain ⟨hconcurrency, hpolicy, hlog⟩ := Scan.ofConfig_ok hjob
      obtain ⟨m, hm, -⟩ := ScanJob.options_of_ofConfig hjob
      refine ⟨?_, ?_, hpolicy, ?_⟩
      · rintro (⟨failure, hrefused⟩ | ⟨config', failure, haccepted', hcompile⟩)
        · cases haccepted.symm.trans hrefused
        · cases haccepted.symm.trans haccepted'
          cases hm.symm.trans hcompile
      · rw [hlog]
        exact Log.reliable_of_threshold _
      · obtain ⟨n, hn, hpos, -⟩ := Config.ofArguments_ok haccepted
        exact ⟨n, hconcurrency ▸ hn, hpos⟩

theorem exitCode_conclude (c : Command) {t : ScanTrace} :
    (c.conclude t).exitCode = Scan.exitCodeOf t.result := by
  unfold conclude
  cases t.result <;> rfl

/-- A command that is refused leaves nothing else behind. -/
theorem observe_refused {trace : CommandTrace} (h : ofInvocation i = .error trace)
    (stream : OutputStream) (moments : List ScanMoment) :
    observe i stream moments = { trace, settled := true } := by
  rw [observe, h]

/-- The run of a command before its first event. -/
def begin (c : Command) (limit : Nat) (ended destroyed : Bool) : Scan where
  pool := { limit }
  sink := .fresh ended destroyed
  logLines := c.job.log.written (ScanPlan.startEntry c.job)

theorem start_begin (h : ofInvocation i = .ok c) (ended destroyed : Bool) :
    ∃ limit, 0 < limit ∧ ∀ files : String → Opening,
      Scan.start { c.job with files } { ended, destroyed } = .ok (c.begin limit ended destroyed) := by
  obtain ⟨-, hlog, -, n, hn, hpos⟩ := ofInvocation_ok h
  refine ⟨n.toNat, by omega, fun files => ?_⟩
  exact Scan.start_new (p := { c.job with files }) hlog hn hpos ended destroyed

theorem observe_of_start (h : ofInvocation i = .ok c) {stream : OutputStream} {s : Scan}
    (hstart : ∀ files : String → Opening, Scan.start { c.job with files } stream = .ok s)
    (moments : List ScanMoment) :
    observe i stream moments =
      { trace := c.conclude (s.play c.job moments).trace
        settled := (s.play c.job moments).result?.isSome
        listFailed := s.listFails c.job moments
        history := s.history c.job moments
        exchange := s.sink.history (s.history c.job moments).sinkEvents } := by
  simp only [observe, h, hstart]

/-- The order in which a run takes its events is one that can be met. -/
theorem runFor_eq_play (p : ScanPlan) (around : Surroundings) (fuel : Nat) (lines : List PathLine)
    (s : Scan) : ∃ moments, s.runFor p around fuel lines = s.play p.toScanJob moments := by
  induction fuel generalizing lines s with
  | zero => exact ⟨[], rfl⟩
  | succ fuel ih =>
    simp only [Scan.runFor]
    cases s.next? around lines with
    | none => exact ⟨[], rfl⟩
    | some next =>
      obtain ⟨e, rest⟩ := next
      obtain ⟨moments, hmoments⟩ := ih rest (s.step p e)
      exact ⟨{ files := p.files, event := e } :: moments, hmoments⟩

theorem exists_observe_run (i : Invocation) (input : List Bytes) (files : String → Opening)
    (ended destroyed : Bool) (answer : Nat → StreamEvent) :
    ∃ moments, run i input files { ended, destroyed } answer
      = (observe i { ended, destroyed } moments).trace := by
  cases hinvocation : ofInvocation i with
  | error trace =>
    refine ⟨[], ?_⟩
    rw [observe_refused hinvocation, run, hinvocation]
  | ok c =>
    obtain ⟨limit, -, hstart⟩ := start_begin hinvocation ended destroyed
    let around : Surroundings := { lines := readPathLines input, answer }
    obtain ⟨moments, hmoments⟩ := runFor_eq_play { c.job with files } around
      (Scan.maxEvents around.lines) around.lines (c.begin limit ended destroyed)
    refine ⟨moments, ?_⟩
    rw [observe_of_start hinvocation hstart, run, hinvocation]
    simp only [Scan.run, hstart files, around] at hmoments ⊢
    rw [hmoments]

/-- Whatever the arguments, the environment, the lines of the list or its failure, the files and the
stream are, and in whatever order everything happens. A command that has ended has the exit code 2
exactly if it was refused; it has then looked at nothing of its surroundings and written nothing.
Otherwise it has looked at one file for each path it was given. Its exit code is 3 exactly if reading
the list failed or the stream did not acknowledge all reports; and if neither is the case, it is 1 if
some file matched, or if one could not be read and that counts, and else 0. -/
theorem exitCode_classifies (i : Invocation) (ended destroyed : Bool) (moments : List ScanMoment)
    (hsettled : (observe i { ended, destroyed } moments).settled) :
    let seen := observe i { ended, destroyed } moments
    let found := seen.history.found
    let broken := seen.listFailed ∨ (SinkLedger.of seen.exchange).acknowledged ≠ Scan.reports found
    (seen.trace.exitCode.toNat = 2 ↔ Refused i) ∧
    (Refused i →
      seen.trace.delivered = [] ∧ seen.history = {} ∧ seen.exchange = [] ∧
      ∀ input files stream answer, run i input files stream answer = seen.trace) ∧
    (¬ Refused i →
      (found.map (·.path)).Perm seen.history.pulled ∧
      (seen.trace.exitCode.toNat = 3 ↔ broken) ∧
      (¬ broken →
        seen.trace.exitCode.toNat =
          if found.any (·.isMatched) ||
            (found.any (!·.isScanned) && (settings i).fileErrorPolicy = .fail) then 1
          else 0)) := by
  intro seen found broken
  cases hinvocation : ofInvocation i with
  | error trace =>
    obtain ⟨hrefused, hcode, hdelivered⟩ := ofInvocation_error hinvocation
    have hseen : seen = { trace, settled := true } := observe_refused hinvocation ..
    rw [hseen]
    refine ⟨by simp [hcode, hrefused, ExitCode.toNat], fun _ => ⟨hdelivered, rfl, rfl, ?_⟩,
      fun hnot => absurd hrefused hnot⟩
    intro input files stream answer
    rw [run, hinvocation]
  | ok c =>
    obtain ⟨hnot, hlog, hpolicy, -⟩ := ofInvocation_ok hinvocation
    obtain ⟨limit, hlimit, hstart⟩ := start_begin hinvocation ended destroyed
    have hseen := observe_of_start hinvocation hstart moments
    rw [hseen] at hsettled
    obtain ⟨result, hresult⟩ := Option.isSome_iff_exists.mp hsettled
    obtain ⟨hperm, hcases⟩ := Scan.exitCode_play (s := c.begin limit ended destroyed)
      (Scan.tracked_new c.job hlimit ended destroyed _) rfl rfl hlog moments hresult
    have hcode : (c.conclude ((c.begin limit ended destroyed).play c.job moments).trace).exitCode
        = Scan.exitCodeOf result := by
      rw [exitCode_conclude, Scan.trace, hresult]
      rfl
    simp only [found, broken, seen, hseen]
    rw [hcode, ← hpolicy]
    refine ⟨⟨fun htwo => ?_, fun hrefused => absurd hrefused hnot⟩,
      fun hrefused => absurd hrefused hnot, fun _ => ⟨hperm, ?_⟩⟩
    · rcases hcases with ⟨-, hinternal⟩ | ⟨-, hdecided⟩
      · rw [hinternal] at htwo
        cases htwo
      · rw [hdecided] at htwo
        split at htwo <;> cases htwo
    · rcases hcases with ⟨hbroken, hinternal⟩ | ⟨hwhole, hdecided⟩
      · rw [hinternal]
        exact ⟨⟨fun _ => hbroken, fun _ => rfl⟩, fun hwhole => absurd hbroken hwhole⟩
      · rw [hdecided]
        refine ⟨⟨fun hthree => ?_, fun hbroken => absurd hbroken hwhole⟩, fun _ => rfl⟩
        split at hthree <;> cases hthree

/-- Looks for an `a` with all settings left as they are. -/
def bare : Invocation where
  arguments := ["a"]
  environment := fun _ => none
  processors := .real 1

/-- The only path on the list is too long for the system to open. -/
def longName : List ScanMoment :=
  [.line (.path "f"), .scanned 0, .linesEnded].map fun event =>
    { files := fun path => .error (.fault (SystemError.nameTooLong.openFault path)), event }

theorem exitCode_classifies_long_name :
    let seen := observe bare {} longName
    seen.settled ∧ ¬ Refused bare ∧ seen.trace.exitCode.toNat = 1 ∧
    (seen.history.found.filterMap (·.failure?)).map (·.code) = [.invalidInput] := by
  have hsettled : (observe bare {} longName).settled := by decide +kernel
  have hone : (observe bare {} longName).trace.exitCode.toNat = 1 := by decide +kernel
  refine ⟨hsettled, fun hrefused => ?_, hone, by decide +kernel⟩
  have htwo := (exitCode_classifies bare false false longName hsettled).1.mpr hrefused
  cases hone.symm.trans htwo

end Command

end FileSearch
