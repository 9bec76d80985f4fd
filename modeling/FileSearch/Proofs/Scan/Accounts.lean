import FileSearch.Proofs.Scan.Steps

/-!
# Accounts of a run

What holds of every run at every stage, whatever the order of events. What was delivered is what was
passed to the stream, and what was offered is the reports of the files found; every result found is
recorded or held by a task that waits; and a sink that breaks is always told of by a task that
failed, unless the answer that tells it is still due.
-/

namespace FileSearch

/-- What a task will be counted as when the sink has taken its report. -/
def ScanTask.result? (t : ScanTask) : Option FileResult := t.report.map (.scanned t.path)

/-- A run whose list of paths fails has not been carried through. -/
theorem ScanPlan.exitCode_pathsError (reason : Reason) :
    ExitCode.ofThrown (.failure (poolFailure (pathsError reason))) = .internalError := by
  cases reason <;> rfl

namespace ScanStage

variable {p : ScanPlan} {st st' : ScanStage}

theorem isLive_of_lookup {index : Nat} {task : ScanTask}
    (htask : st.pool.live.lookup index = some task) : st.pool.isLive index :=
  Pool.isLive_of_lookup htask


-- ---------------------------------------------------------------------------
-- The sink
-- ---------------------------------------------------------------------------

/-- The books agree with the sink, and the stream got what the books say. -/
structure Ledgered (st : ScanStage) : Prop where
  fits : st.ledger.Fits st.core
  due_answered : ∀ a ∈ st.due, a ∈ st.ledger.answers
  delivered_eq : st.delivered = st.ledger.passed
  offered_eq : st.ledger.offered = (st.found.map (·.block)).filter (!·.isEmpty)
  honest : ∀ r ∈ st.found, r.isMatched = !r.block.isEmpty

theorem Ledgered.turned (h : st.Ledgered) (hs : st.Sound) {moments : List (SinkMoment ScanCaller)}
    {core : SinkCore ScanCaller} (hturn : st.core.Turn moments core) :
    (st.ledger.enterAll moments).Fits core ∧
      (∀ a ∈ st.due ++ moments.filterMap SinkMoment.answer?,
        a ∈ (st.ledger.enterAll moments).answers) ∧
      st.delivered ++ moments.filterMap SinkMoment.passed? = (st.ledger.enterAll moments).passed := by
  refine ⟨hturn.fits hs.core h.fits, ?_, ?_⟩
  · intro a ha
    rw [SinkLedger.answers_enterAll]
    exact (List.mem_append.mp ha).elim
      (fun hdue => List.mem_append_left _ (h.due_answered a hdue)) (List.mem_append_right _)
  · rw [SinkLedger.passed_enterAll, h.delivered_eq]

theorem Move.ledgered (hmove : st.Move p st') (hs : st.Sound) (h : st.Ledgered) : st'.Ledgered := by
  cases hmove with
  | noted => exact ⟨h.fits, h.due_answered, h.delivered_eq, h.offered_eq, h.honest⟩
  | pulled => exact ⟨h.fits, h.due_answered, h.delivered_eq, h.offered_eq, h.honest⟩
  | sourceEnded => exact ⟨h.fits, h.due_answered, h.delivered_eq, h.offered_eq, h.honest⟩
  | sourceFailed => exact ⟨h.fits, h.due_answered, h.delivered_eq, h.offered_eq, h.honest⟩
  | lost => exact ⟨h.fits, h.due_answered, h.delivered_eq, h.offered_eq, h.honest⟩
  | unreadable =>
    refine ⟨h.fits, h.due_answered, h.delivered_eq, ?_, ?_⟩
    · simpa [FileResult.block] using h.offered_eq
    · intro r hr
      rcases List.mem_append.mp hr with hr | hr
      · exact h.honest r hr
      · obtain rfl := List.mem_singleton.mp hr
        rfl
  | @handed index path report moments core htask hresult hturn hcalls hoffered =>
    obtain ⟨hfits, hdue, hdelivered⟩ := h.turned hs hturn
    refine ⟨hfits, hdue, hdelivered, ?_, ?_⟩
    · simp only [SinkLedger.offered_enterAll, h.offered_eq, hoffered, List.map_append,
        List.filter_append]
      rfl
    · intro r hr
      rcases List.mem_append.mp hr with hr | hr
      · exact h.honest r hr
      · obtain rfl := List.mem_singleton.mp hr
        rw [← hresult]
        exact p.options.isMatched_scan path _
  | streamed hturn hcalls hoffered =>
    obtain ⟨hfits, hdue, hdelivered⟩ := h.turned hs hturn
    refine ⟨hfits, hdue, hdelivered, ?_, h.honest⟩
    simp only [SinkLedger.offered_enterAll, hoffered, List.append_nil, h.offered_eq]
  | accepted hdue =>
    refine ⟨h.fits, ?_, h.delivered_eq, h.offered_eq, h.honest⟩
    exact fun a ha => h.due_answered a (by rw [hdue]; exact List.mem_cons_of_mem _ ha)
  | rejected hdue =>
    refine ⟨h.fits, ?_, h.delivered_eq, h.offered_eq, h.honest⟩
    exact fun a ha => h.due_answered a (by rw [hdue]; exact List.mem_cons_of_mem _ ha)
  | @closed call hcall hqueue =>
    have hturn : st.core.Turn [.called call [], .answered { call, outcome := st.core.standing }]
        st.core := .answered hqueue (.inl rfl)
    refine ⟨hturn.fits hs.core h.fits, ?_, h.delivered_eq, h.offered_eq, h.honest⟩
    exact fun a ha => List.mem_append_left _ (h.due_answered a ha)


-- ---------------------------------------------------------------------------
-- Results
-- ---------------------------------------------------------------------------

/-- The results of the tasks that wait for the sink. -/
def unrecorded (pool : Pool ScanTask) : List FileResult := pool.held.filterMap ScanTask.result?

/-- As long as no task has failed, whatever was found is counted or held. -/
def Recorded (st : ScanStage) : Prop :=
  st.pool.failures = [] →
    ∃ recorded, st.tally = .of recorded ∧ (recorded ++ unrecorded st.pool).Perm st.found

theorem unrecorded_delivered {pool : Pool ScanTask} (hasks : pool.asks) (path : String) :
    unrecorded (pool.step (.delivered { path })).1 = unrecorded pool := by
  unfold unrecorded
  rw [Pool.held_delivered hasks, List.filterMap_append]
  exact List.append_nil _

theorem unrecorded_update {pool : Pool ScanTask} (hpool : pool.WellFormed) {index : Nat}
    {path : String} (htask : pool.live.lookup index = some { path }) (report : Report) :
    (unrecorded (pool.update index fun t => { t with report := some report })).Perm
      (.scanned path report :: unrecorded pool) := by
  obtain ⟨others, hbefore, hafter⟩ := Pool.filterMap_held_update hpool htask
    (fun t => { t with report := some report }) ScanTask.result?
  exact hafter.trans (hbefore.symm.cons _)

/-- A result that is both found and recorded. -/
theorem perm_record {recorded held found : List FileResult} (h : (recorded ++ held).Perm found)
    (r : FileResult) : (recorded ++ [r] ++ held).Perm (found ++ [r]) := by
  have hswap : (recorded ++ ([r] ++ held)).Perm (recorded ++ (held ++ [r])) :=
    List.perm_append_comm.append_left recorded
  rw [← List.append_assoc, ← List.append_assoc] at hswap
  exact hswap.trans (h.append_right _)

theorem Move.recorded (hmove : st.Move p st') (hs : st.Sound) (h : st.Recorded) :
    st'.Recorded := by
  cases hmove with
  | noted => exact h
  | pulled hasks =>
    intro hfailures
    rw [Pool.failures_delivered hasks] at hfailures
    rw [unrecorded_delivered hasks]
    exact h hfailures
  | sourceEnded => exact h
  | sourceFailed => exact h
  | lost htask =>
    intro hfailures
    exact absurd hfailures (Pool.failures_finished_ne_nil hs.pool (isLive_of_lookup htask) _)
  | @unreadable index path failure htask =>
    intro hfailures
    rw [Pool.failures_finished hs.pool (isLive_of_lookup htask)] at hfailures
    obtain ⟨recorded, htally, hperm⟩ := h (List.append_eq_nil_iff.mp hfailures).1
    have hheld := Pool.filterMap_held_finished hs.pool htask
      (p.log.refused (ScanPlan.failureEntry failure)) ScanTask.result?
    refine ⟨recorded ++ [.failed path failure], ?_, ?_⟩
    · rw [Tally.of_concat, htally]
    · exact perm_record ((hheld.symm.append_left recorded).trans hperm) _
  | @handed index path report moments core htask =>
    intro hfailures
    obtain ⟨recorded, htally, hperm⟩ := h hfailures
    refine ⟨recorded, htally, ?_⟩
    have hheld := (unrecorded_update hs.pool htask report).append_left recorded
    rw [List.append_cons] at hheld
    exact hheld.trans (perm_record hperm _)
  | streamed => exact h
  | @accepted index path report rest hdue htask =>
    intro hfailures
    rw [Pool.failures_finished hs.pool (isLive_of_lookup htask)] at hfailures
    obtain ⟨recorded, htally, hperm⟩ := h (List.append_eq_nil_iff.mp hfailures).1
    refine ⟨recorded ++ [.scanned path report], ?_, ?_⟩
    · rw [Tally.of_concat, htally]
    · have hheld := Pool.filterMap_held_finished hs.pool htask none ScanTask.result?
      rw [List.append_assoc]
      exact (hheld.symm.append_left recorded).trans hperm
  | rejected hdue htask =>
    intro hfailures
    exact absurd hfailures (Pool.failures_finished_ne_nil hs.pool (isLive_of_lookup htask) _)
  | closed => exact h


-- ---------------------------------------------------------------------------
-- Failures
-- ---------------------------------------------------------------------------

/-- A sink that breaks makes a task fail, and with a log that can be written nothing else does. -/
structure Blamed (job : ScanJob) (st : ScanStage) : Prop where
  broken_told : st.core.broken.isSome →
    st.pool.failures ≠ [] ∨ ∃ a ∈ st.due, ∃ failure, a.outcome = .error failure
  unbroken : job.log.Reliable → st.core.broken = none → st.pool.failures = []
  code_eq : job.log.Reliable →
    ∀ f ∈ st.pool.failures, ∃ failure, f.error = .failure failure ∧ failure.code = .outputFailed
  source_eq : ∀ thrown, st.pool.source = .failed thrown →
    ∃ reason, thrown = ScanPlan.pathsError reason

theorem Blamed.turned {job : ScanJob} (h : st.Blamed job) (hs : st.Sound)
    {moments : List (SinkMoment ScanCaller)} {core : SinkCore ScanCaller}
    (hturn : st.core.Turn moments core) :
    (core.broken.isSome → st.pool.failures ≠ [] ∨
        ∃ a ∈ st.due ++ moments.filterMap SinkMoment.answer?, ∃ failure,
          a.outcome = .error failure) ∧
      (job.log.Reliable → core.broken = none → st.pool.failures = []) := by
  constructor
  · intro hbroken
    obtain ⟨failure, hfailure⟩ := Option.isSome_iff_exists.mp hbroken
    cases hbefore : st.core.broken with
    | some cause =>
      refine (h.broken_told (by simp [hbefore])).imp_right ?_
      rintro ⟨a, ha, herror⟩
      exact ⟨a, List.mem_append_left _ ha, herror⟩
    | none =>
      obtain ⟨a, ha, herror⟩ := hturn.error_of_broken hs.core hbefore hfailure
      exact .inr ⟨a, List.mem_append_right _ ha, failure, herror⟩
  · intro hlog hnone
    refine h.unbroken hlog ?_
    cases hbefore : st.core.broken with
    | none => rfl
    | some cause =>
      rw [hturn.broken_mono hs.core hbefore] at hnone
      cases hnone

/-- A task that finishes well leaves everything as it was but an answer without error. -/
theorem Blamed.finished {job : ScanJob} (h : st.Blamed job)
    (hfailures : st'.pool.failures = st.pool.failures) (hsource : st'.pool.source = st.pool.source)
    (hcore : st'.core = st.core)
    (hdue : ∀ a ∈ st.due, a ∈ st'.due ∨ a.outcome = .ok ()) : st'.Blamed job where
  broken_told hbroken := by
    rw [hcore] at hbroken
    rw [hfailures]
    refine (h.broken_told hbroken).imp_right ?_
    rintro ⟨a, ha, failure, herror⟩
    refine ⟨a, (hdue a ha).resolve_right ?_, failure, herror⟩
    rw [herror]
    simp
  unbroken := by
    rw [hcore, hfailures]
    exact h.unbroken
  code_eq := by
    rw [hfailures]
    exact h.code_eq
  source_eq := by
    rw [hsource]
    exact h.source_eq

theorem Move.blamed (hmove : st.Move p st') (hs : st.Sound) (hl : st.Ledgered)
    (h : st.Blamed p.toScanJob) : st'.Blamed p.toScanJob := by
  cases hmove with
  | noted => exact ⟨h.broken_told, h.unbroken, h.code_eq, h.source_eq⟩
  | pulled hasks =>
    exact h.finished (Pool.failures_delivered hasks _) (Pool.source_delivered hasks _) rfl
      fun a ha => .inl ha
  | sourceEnded => exact ⟨h.broken_told, h.unbroken, h.code_eq, by simp⟩
  | @sourceFailed reason =>
    refine ⟨h.broken_told, h.unbroken, h.code_eq, ?_⟩
    rintro _ ⟨⟩
    exact ⟨reason, rfl⟩
  | lost htask hfault =>
    have hlive := isLive_of_lookup htask
    refine ⟨fun _ => .inl (Pool.failures_finished_ne_nil hs.pool hlive _), ?_, ?_, ?_⟩
    · intro hlog
      rw [hlog] at hfault
      cases hfault
    · intro hlog
      rw [hlog] at hfault
      cases hfault
    · rw [Pool.source_finished]
      exact h.source_eq
  | @unreadable index path failure htask =>
    have hlive := isLive_of_lookup htask
    cases hrefused : p.log.refused (ScanPlan.failureEntry failure) with
    | none =>
      refine h.finished ?_ (Pool.source_finished ..) rfl fun a ha => .inl ha
      rw [Pool.failures_finished hs.pool hlive]
      exact List.append_nil _
    | some thrown =>
      have hfault : ¬ p.log.Reliable := by
        intro hlog
        rw [hlog.refused_eq] at hrefused
        cases hrefused
      refine ⟨fun _ => .inl (Pool.failures_finished_ne_nil hs.pool hlive _),
        fun hlog => absurd hlog hfault, fun hlog => absurd hlog hfault, ?_⟩
      rw [Pool.source_finished]
      exact h.source_eq
  | handed htask hresult hturn =>
    obtain ⟨htold, hunbroken⟩ := h.turned hs hturn
    exact ⟨htold, hunbroken, h.code_eq, h.source_eq⟩
  | streamed hturn =>
    obtain ⟨htold, hunbroken⟩ := h.turned hs hturn
    exact ⟨htold, hunbroken, h.code_eq, h.source_eq⟩
  | accepted hdue htask =>
    have hlive := isLive_of_lookup htask
    refine h.finished ?_ (Pool.source_finished ..) rfl ?_
    · rw [Pool.failures_finished hs.pool hlive]
      exact List.append_nil _
    · intro a ha
      rw [hdue] at ha
      rcases List.mem_cons.mp ha with rfl | ha
      · exact .inr rfl
      · exact .inl ha
  | @rejected index path report failure rest hdue htask =>
    have hlive := isLive_of_lookup htask
    have hbroken : st.core.broken = some failure := by
      have hmem : { call := ScanTask.call index, outcome := .error failure } ∈ st.due := by
        rw [hdue]
        exact List.mem_cons_self
      exact hl.fits.broken_of_error _ (hl.due_answered _ hmem) failure rfl
    refine ⟨fun _ => .inl (Pool.failures_finished_ne_nil hs.pool hlive _), ?_, ?_, ?_⟩
    · intro _ hnone
      rw [hbroken] at hnone
      cases hnone
    · intro hlog f hf
      rw [Pool.failures_finished hs.pool hlive] at hf
      rcases List.mem_append.mp hf with hf | hf
      · exact h.code_eq hlog f hf
      · obtain rfl : f = { index, error := .failure failure } := by simpa [Thrown.asError] using hf
        exact ⟨failure, rfl, hs.core.code_eq failure hbroken⟩
    · rw [Pool.source_finished]
      exact h.source_eq
  | closed => exact ⟨h.broken_told, h.unbroken, h.code_eq, h.source_eq⟩


-- ---------------------------------------------------------------------------
-- Runs
-- ---------------------------------------------------------------------------

structure Accounts (job : ScanJob) (st : ScanStage) : Prop where
  sound : st.Sound
  ledgered : st.Ledgered
  recorded : st.Recorded
  blamed : st.Blamed job

theorem Move.accounts (hmove : st.Move p st') (h : st.Accounts p.toScanJob) :
    st'.Accounts p.toScanJob :=
  ⟨hmove.sound h.sound, hmove.ledgered h.sound h.ledgered, hmove.recorded h.sound h.recorded,
    hmove.blamed h.sound h.ledgered h.blamed⟩

theorem accounts_of_moves (hmoves : Relation.ReflTransGen (Move p) st st')
    (h : st.Accounts p.toScanJob) : st'.Accounts p.toScanJob :=
  preserved_of_moves (·.Accounts p.toScanJob) (fun hmove _ h => hmove.accounts h) hmoves h.sound h

end ScanStage

namespace Scan

variable {job : ScanJob} {s : Scan} {b : ScanBooks}

/-- The block with the stream is the first in the queue. -/
theorem unanswered_eq (h : (s.stage b).Ledgered) :
    b.ledger.unanswered = (s.sink.core.queue.map (·.bytes)).take 1 := h.fits.unanswered_eq

theorem passed_eq (h : (s.stage b).Ledgered) (hbroken : s.sink.core.broken = none) :
    b.ledger.passed = b.ledger.acknowledged ++ b.ledger.unanswered := h.fits.passed_eq hbroken

theorem offered_eq (h : (s.stage b).Ledgered) (hbroken : s.sink.core.broken = none) :
    b.ledger.offered = b.ledger.acknowledged ++ s.sink.core.queue.map (·.bytes) :=
  h.fits.offered_eq hbroken

/-- The reports found are what was offered. -/
theorem offered_found (h : (s.stage b).Ledgered) :
    b.ledger.offered = (b.found.map (·.block)).filter (!·.isEmpty) := h.offered_eq

/-- The stream has a write to answer as long as a block is queued. -/
theorem outstanding_iff (hs : (s.stage b).Sound) :
    s.sink.stream.outstanding ↔ s.sink.core.queue ≠ [] := by
  have houtstanding : s.sink.stream.outstanding = !s.sink.core.queue.isEmpty :=
    hs.core.outstanding_eq
  rw [houtstanding]
  simp

/-- A scan has ended with what the state of its pool and its tally call for. -/
def Ended (job : ScanJob) (s : Scan) (result : Except Thrown Summary) : Prop :=
  s.phase = .settled result ∧ s.pool.settled ∧ Verdict job s.pool s.tally result

theorem play_of_settled (job : ScanJob) {result : Except Thrown Summary}
    (h : s.phase = .settled result) (moments : List ScanMoment) :
    s.play job moments = s ∧ s.history job moments = {} := by
  induction moments with
  | nil => exact ⟨rfl, rfl⟩
  | cons m rest ih =>
    have hstep : s.step { job with files := m.files } m.event = s := by
      unfold step
      rw [h]
    have hresult : s.result?.isSome := by simp [result?_eq_some.mpr h]
    refine ⟨?_, by simp [history, hresult]⟩
    rw [play, hstep]
    exact ih.1

theorem findings_of_settled (job : ScanJob) {result : Except Thrown Summary}
    (h : s.phase = .settled result) (moments : List ScanMoment) : s.findings job moments = [] := by
  cases moments with
  | nil => rfl
  | cons m rest => simp [findings, result?_eq_some.mpr h]

/-- The induction over a run. What every step of a running scan preserves holds at the end of it, for
nothing happens to a scan that has ended. -/
theorem play_induction {motive : Scan → ScanBooks → Prop}
    (hstep : ∀ {s : Scan} {b : ScanBooks} (p : ScanPlan) (e : ScanEvent), p.toScanJob = job →
      (s.stage b).Sound → s.phase = .running → motive s b →
        motive (s.step p e) (b.enter s.sink (s.told p e)))
    (hs : (s.stage b).Sound) (hrunning : s.phase = .running) (hstart : motive s b)
    (moments : List ScanMoment) :
    motive (s.play job moments) (b.enter s.sink (s.history job moments)) := by
  induction moments generalizing s b with
  | nil =>
    rw [play, history, enter_nothing]
    exact hstart
  | cons m rest ih =>
    let p : ScanPlan := { job with files := m.files }
    have hresult : s.result?.isSome = false := by simp [result?_of_running hrunning]
    have hhistory : s.history job (m :: rest)
        = (s.told p m.event).append ((s.step p m.event).history job rest) := by
      simp [history, hresult, p]
    obtain ⟨hchain, hsink, hnext⟩ := step_moves (p := p) hs hrunning m.event
    have hmotive := hstep p m.event rfl hs hrunning hstart
    rw [hhistory, ← enter_enter, ← hsink]
    rcases hnext with ⟨hphase, -⟩ | ⟨result, hphase, -⟩
    · exact ih (ScanStage.sound_of_moves hchain hs) hphase hmotive
    · obtain ⟨hplay, hnone⟩ := play_of_settled job hphase rest
      rw [play, hplay, hnone, enter_nothing]
      exact hmotive

/-- The accounts hold at the end of every run, and it is still going on or has ended. -/
theorem play_accounts (h : (s.stage b).Accounts job) (hrunning : s.phase = .running)
    (moments : List ScanMoment) :
    ((s.play job moments).stage (b.enter s.sink (s.history job moments))).Accounts job ∧
      ((s.play job moments).phase = .running ∨ ∃ result, (s.play job moments).Ended job result) := by
  refine play_induction
    (motive := fun s b => (s.stage b).Accounts job ∧
      (s.phase = .running ∨ ∃ result, s.Ended job result))
    ?_ h.sound hrunning ⟨h, .inl hrunning⟩ moments
  rintro s b p e rfl hs hrunning ⟨haccounts, -⟩
  obtain ⟨hchain, -, hnext⟩ := step_moves (p := p) hs hrunning e
  exact ⟨ScanStage.accounts_of_moves hchain haccounts, hnext.imp_left And.left⟩

/-- A run begins with an empty pool and a new sink, or it has failed already. -/
theorem start_cases {p : ScanPlan} {ended destroyed : Bool}
    (hstart : start p { ended, destroyed } = .ok s) :
    (∃ limit logLines, 0 < limit ∧
        s = { pool := { limit }, sink := .fresh ended destroyed, logLines }) ∨
      ∃ thrown, s.phase = .settled (.error thrown) := by
  unfold start at hstart
  cases hwrite : p.log.write (ScanPlan.startEntry p.toScanJob) with
  | error thrown => simp [hwrite] at hstart
  | ok logLines =>
    cases hpool : (Pool.ofConcurrency p.concurrency : Except Fault (Pool ScanTask)) with
    | ok pool =>
      simp only [hwrite, hpool, Except.ok.injEq] at hstart
      obtain ⟨limit, hlimit, rfl⟩ := Pool.ofConcurrency_ok hpool
      exact .inl ⟨limit, logLines, hlimit, hstart.symm⟩
    | error fault =>
      simp only [hwrite, hpool, Except.ok.injEq] at hstart
      refine .inr ⟨.failure (ScanPlan.poolFailure (.fault fault)), ?_⟩
      rw [← hstart]
      simp [close, absorb, Sink.close, Sink.awaitLast, Sink.reply, Sink.standing, receive,
        sinkClosed, conclude, settle]

/-- With a log that can be written and a positive number of slots every run begins. -/
theorem start_new {p : ScanPlan} (hlog : p.log.Reliable) {n : Int}
    (hn : p.concurrency.toInt? = some n) (hpos : 1 ≤ n) (ended destroyed : Bool) :
    start p { ended, destroyed } =
      .ok
        { pool := { limit := n.toNat }
          sink := .fresh ended destroyed
          logLines := p.log.written (ScanPlan.startEntry p.toScanJob) } := by
  have hwrite : p.log.write (ScanPlan.startEntry p.toScanJob)
      = .ok (p.log.written (ScanPlan.startEntry p.toScanJob)) := by
    rw [Log.write_eq, hlog.refused_eq]
  have hpool : (Pool.ofConcurrency p.concurrency : Except Fault (Pool ScanTask))
      = .ok { limit := n.toNat } := by
    simp only [Pool.ofConcurrency, hn]
    rw [if_neg (by omega)]
  unfold start
  rw [hwrite, hpool]
  rfl

theorem new_accounts (job : ScanJob) {limit : Nat} (hlimit : 0 < limit) (ended destroyed : Bool)
    (logLines : List String) :
    (({ pool := { limit }, sink := .fresh ended destroyed, logLines } : Scan).stage {}).Accounts
      job where
  sound :=
    ⟨Pool.wellFormed_new hlimit, Sink.fresh_sound ended destroyed, by simp [stage], List.Perm.refl _⟩
  ledgered := ⟨Sink.fresh_fits ended destroyed, by simp [stage], rfl, rfl, by simp [stage]⟩
  recorded _ := ⟨[], rfl, List.Perm.refl _⟩
  blamed := ⟨by simp [stage, Sink.core, Sink.fresh], fun _ _ => rfl, by simp [stage], by simp [stage]⟩

end Scan

end FileSearch
