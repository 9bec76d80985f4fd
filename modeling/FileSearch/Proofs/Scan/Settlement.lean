import FileSearch.Proofs.Scan.Delivery

/-!
# What a run leaves under way

A run that has ended has nothing under way: no task is live, the stream has answered every write, and
nothing is queued. As long as it goes on the sink listens for errors of the stream, and it stops with
the run, in whatever way that ends. Only a closing that is answered ends the listening, and no task
closes the sink.
-/

namespace FileSearch


-- ---------------------------------------------------------------------------
-- Listening
-- ---------------------------------------------------------------------------

namespace Sink

variable {κ : Type}

/-- A sink that listened listens after a step unless a closing is among the answers. -/
def Attends (s : Sink κ) (next : Sink κ × SinkOutput κ) : Prop :=
  next.1.listening = (s.listening && next.2.answers.all (·.call.kind != .close))

theorem attends_quiet (s : Sink κ) {s' : Sink κ} (h : s'.listening = s.listening) :
    s.Attends (s', {}) :=
  h.trans (Bool.and_true _).symm

theorem attends_reply (s : Sink κ) {s' : Sink κ} (h : s'.listening = s.listening)
    (delivered : List Bytes) (answers : List (Nat × SinkAnswer κ)) :
    s.Attends (s'.reply delivered answers) := by
  unfold Attends
  rw [← h]
  rfl

theorem listening_handOver (s : Sink κ) (round : Nat) :
    (s.handOver round).1.listening = s.listening := by
  unfold handOver
  split
  · rfl
  · split <;> rfl

theorem listening_hear (s : Sink κ) (error : Option Fault) :
    (s.hear error).listening = s.listening := by
  unfold hear
  split <;> rfl

theorem attends_awaitLast (s : Sink κ) (call : SinkCall κ) : s.Attends (s.awaitLast call) := by
  unfold awaitLast
  split
  · exact s.attends_reply rfl _ _
  · exact s.attends_quiet rfl

theorem attends_write (s : Sink κ) (caller : κ) (block : Bytes) :
    s.Attends (s.write caller block) := by
  simp only [write]
  split
  · exact s.attends_awaitLast _
  · split
    · refine s.attends_reply ?_ _ _
      exact listening_handOver _ _
    · exact s.attends_quiet rfl

theorem attends_answered (s : Sink κ) (answer : Except Fault Unit) :
    s.Attends (s.answered answer) := by
  simp only [answered]
  split
  · split
    · exact s.attends_quiet rfl
    · refine s.attends_reply ?_ _ _
      exact listening_handOver _ _
  · exact s.attends_reply rfl _ _

theorem attends_onStream (s : Sink κ) (e : StreamEvent) : s.Attends (s.onStream e) := by
  have hlistening := listening_hear { s with stream := (s.stream.step e).1 } (s.stream.step e).2.error
  simp only [onStream]
  generalize { s with stream := (s.stream.step e).1 }.hear (s.stream.step e).2.error = heard
    at hlistening ⊢
  split
  · exact s.attends_quiet hlistening
  · have hanswered := heard.attends_answered
    unfold Attends at hanswered ⊢
    rw [← show heard.listening = s.listening from hlistening]
    exact hanswered _

theorem attends_step (s : Sink κ) (e : SinkEvent κ) : s.Attends (s.step e) := by
  cases e with
  | write caller block => exact s.attends_write caller block
  | flush caller => exact s.attends_awaitLast _
  | close caller => exact s.attends_awaitLast _
  | stream e => exact s.attends_onStream e

/-- With nothing queued a closing is answered at once. -/
theorem listening_close (s : Sink κ) (caller : κ) (hqueue : s.queue = []) :
    (s.run [.close caller]).listening = false := by
  simp [Sink.step, Sink.close, awaitLast, hqueue, reply, run]

end Sink


-- ---------------------------------------------------------------------------
-- Runs
-- ---------------------------------------------------------------------------

namespace Scan

variable {job : ScanJob} {p : ScanPlan} {s : Scan} {b : ScanBooks}

theorem kind_of_mem_awaited {live : List (Nat × ScanTask)} {call : SinkCall ScanCaller}
    (h : call ∈ ScanTask.awaited live) : call.kind = .write := by
  obtain ⟨index, path, report, rfl, -⟩ := ScanTask.exists_of_mem_awaited h
  rfl

/-- What an event does to the sink is a write or an event of the stream. -/
theorem passedOn_cases (p : ScanPlan) (s : Scan) (e : ScanEvent) :
    s.passedOn p e = [] ∨ (∃ index block, s.passedOn p e = [.write (.task index) block]) ∨
      ∃ event, s.passedOn p e = [.stream event] := by
  unfold passedOn
  split
  · exact .inr (.inl ⟨_, _, rfl⟩)
  · exact .inr (.inr ⟨_, rfl⟩)
  · exact .inl rfl

/-- The calls that an event makes or that wait already are writes, and no others are answered. -/
theorem listening_passedOn (hs : (s.stage b).Sound) (hlistening : s.sink.listening) (e : ScanEvent) :
    (s.sink.run (s.passedOn p e)).listening := by
  have hwaiting : ∀ call ∈ s.sink.core.waiting, call.kind = .write :=
    fun call hcall => kind_of_mem_awaited (hs.calls_perm.mem_iff.mp hcall)
  have hstep (event : SinkEvent ScanCaller)
      (hcalls : ∀ call ∈ (s.sink.opening event).filterMap SinkMoment.call?, call.kind = .write) :
      (s.sink.step event).1.listening := by
    have hperm := (Sink.step_turn hs.core event).calls_perm
    rw [Sink.calls_moments, Sink.answers_moments] at hperm
    rw [s.sink.attends_step event, hlistening, Bool.true_and, List.all_eq_true]
    intro a ha
    have hmem := hperm.mem_iff.mp (List.mem_append_left _ (List.mem_map_of_mem ha))
    have hkind : a.call.kind = .write := (List.mem_append.mp hmem).elim (hwaiting _) (hcalls _)
    rw [hkind]
    rfl
  rcases passedOn_cases p s e with hpassed | ⟨index, block, hpassed⟩ | ⟨event, hpassed⟩
  · rw [hpassed]
    exact hlistening
  · rw [hpassed]
    exact hstep _ (by simp [Sink.opening])
  · rw [hpassed]
    refine hstep _ fun call hcall => ?_
    rw [Sink.calls_opening_stream] at hcall
    cases hcall

/-- A step that does not end a run leaves the sink listening, one that ends it does not. -/
theorem listening_step (hs : (s.stage b).Sound) (hrunning : s.phase = .running)
    (hlistening : s.sink.listening) (e : ScanEvent) :
    (s.step p e).sink.listening = (s.step p e).result?.isNone := by
  obtain ⟨hchain, hsink, hphase⟩ := advance_moves (p := p) hs e
  rw [hrunning] at hphase
  have hadvanced : (s.advance p e).sink.listening := hsink ▸ listening_passedOn hs hlistening e
  rw [step_of_running hrunning]
  cases hsettled : (s.advance p e).pool.settled with
  | false =>
    rw [closeIfDone_of_not_settled hphase hsettled, hadvanced, result?_of_running hphase]
    rfl
  | true =>
    have hsound := ScanStage.sound_of_moves hchain hs
    obtain ⟨lines, result, heq, -, -⟩ := closeIfDone_moves hsound hphase hsettled
    have hqueue : (s.advance p e).sink.queue = [] :=
      queue_eq_nil hsound (Pool.live_of_settled hsettled)
    rw [heq]
    exact Sink.listening_close _ _ hqueue

theorem listening_play (hs : (s.stage b).Sound) (hrunning : s.phase = .running)
    (hlistening : s.sink.listening) (moments : List ScanMoment) :
    (s.play job moments).sink.listening = (s.play job moments).result?.isNone := by
  refine play_induction
    (motive := fun s _ => s.sink.listening = s.result?.isNone) ?_ hs hrunning ?_ moments
  · intro s b p e _ hs hrunning hlistening
    refine listening_step hs hrunning ?_ e
    rw [hlistening, result?_of_running hrunning]
    rfl
  · rw [hlistening, result?_of_running hrunning]
    rfl

/-- Nothing is under way. -/
structure Idle (s : Scan) : Prop where
  held_eq_nil : s.pool.held = []
  queue_eq_nil : s.sink.queue = []

theorem idle_of_ended (hs : (s.stage b).Sound) {result : Except Thrown Summary}
    (hended : s.Ended job result) : s.Idle where
  held_eq_nil := Pool.held_of_settled hended.2.1
  queue_eq_nil := queue_eq_nil hs (Pool.live_of_settled hended.2.1)

/-- A run that ends as it starts, for its number of slots is none, has closed its sink. -/
theorem start_idle {ended destroyed : Bool} (hstart : start p { ended, destroyed } = .ok s)
    (hended : s.phase ≠ .running) : s.Idle ∧ s.sink.listening = false := by
  unfold start at hstart
  cases hwrite : p.log.write (ScanPlan.startEntry p.toScanJob) with
  | error thrown => simp [hwrite] at hstart
  | ok logLines =>
    cases hpool : (Pool.ofConcurrency p.concurrency : Except Fault (Pool ScanTask)) with
    | ok pool =>
      simp only [hwrite, hpool, Except.ok.injEq] at hstart
      exact absurd (hstart ▸ rfl) hended
    | error fault =>
      simp only [hwrite, hpool, Except.ok.injEq] at hstart
      rw [← hstart]
      refine ⟨⟨?_, ?_⟩, ?_⟩ <;>
        simp [close, absorb, Sink.close, Sink.awaitLast, Sink.reply, Sink.standing, receive,
          sinkClosed, conclude, settle, Pool.held]

theorem idle_of_played (h : (s.stage b).Accounts job)
    (hended : s.phase = .running ∨ ∃ result, s.Ended job result) (hresult : s.result?.isSome) :
    s.Idle ∧ b.ledger.unanswered = [] ∧ (b.ledger.answers.map (·.call)).Perm b.ledger.calls := by
  rcases hended with hrunning | ⟨result, hended⟩
  · rw [result?_of_running hrunning] at hresult
    cases hresult
  · have hidle := idle_of_ended h.sound hended
    have hqueue : s.sink.core.queue = [] := hidle.queue_eq_nil
    refine ⟨hidle, ?_, ?_⟩
    · rw [unanswered_eq h.ledgered, hqueue]
      rfl
    · have hcalls : (b.ledger.answers.map (·.call) ++ s.sink.core.waiting).Perm b.ledger.calls :=
        h.ledgered.fits.calls_perm
      rw [SinkCore.waiting, hqueue, List.flatMap_nil, List.append_nil] at hcalls
      exact hcalls

/-- A run from its start on: the sink listens until there is a result, and then nothing is under
way. -/
theorem settlement_play {ended destroyed : Bool} (hstart : start p { ended, destroyed } = .ok s)
    (moments : List ScanMoment) :
    let s' := s.play p.toScanJob moments
    let ledger := SinkLedger.of (s.sink.history (s.history p.toScanJob moments).sinkEvents)
    s'.sink.listening = s'.result?.isNone ∧
      (s'.result?.isSome →
        s'.Idle ∧ ledger.unanswered = [] ∧ (ledger.answers.map (·.call)).Perm ledger.calls) := by
  intro s' ledger
  rcases start_cases hstart with ⟨limit, logLines, hlimit, rfl⟩ | ⟨thrown, hphase⟩
  · have haccounts := new_accounts p.toScanJob hlimit ended destroyed logLines
    obtain ⟨hplayed, hended⟩ := play_accounts haccounts rfl moments
    exact ⟨listening_play haccounts.sound rfl rfl moments, idle_of_played hplayed hended⟩
  · obtain ⟨hplay, hhistory⟩ := play_of_settled p.toScanJob hphase moments
    obtain ⟨hidle, hlistening⟩ := start_idle hstart (by simp [hphase])
    have hresult : s.result? = some (.error thrown) := result?_eq_some.mpr hphase
    simp only [s', ledger, hplay, hhistory, hresult]
    exact ⟨hlistening, fun _ => ⟨hidle, rfl, .refl _⟩⟩

end Scan


-- ---------------------------------------------------------------------------
-- Runs from outside
-- ---------------------------------------------------------------------------

/-- What can be told of a run while it goes on and when it has ended. -/
structure RunRecord (ι : Type) where
  result : Option (Except Thrown Summary)
  /-- The tasks that were dispatched, or wait for a slot, and have not finished. -/
  held : List ScanTask := []
  /-- All that came to pass between the sink, its callers and the stream. -/
  exchange : List (SinkMoment ScanCaller) := []
  /-- The blocks that the sink holds, the one with the stream included. -/
  queued : List Bytes := []
  /-- Who listens for errors of the stream. -/
  listeners : List ι

namespace RunRecord

variable {ι : Type}

/-- The run of a configuration that meets some moments. A sink listens to the stream in addition to
those who did before; there is none if the pattern does not compile or the first log entry cannot be
written. -/
def observe (c : Config) (maxFileSize : Number) (policy : FileErrorPolicy)
    (diagnostics : Diagnostics) (log : Log) (stream : OutputStream) (before : List ι) (own : ι)
    (moments : List ScanMoment) : RunRecord ι :=
  match ScanJob.ofConfig c maxFileSize policy diagnostics log with
  | .error failure => { result := some (.error (.failure failure)), listeners := before }
  | .ok job =>
    match Scan.start { job with files := fun _ => .error (.value .absent) } stream with
    | .error thrown => { result := some (.error thrown), listeners := before }
    | .ok s₀ =>
      let s := s₀.play job moments
      { result := s.result?
        held := s.pool.held
        exchange := s₀.sink.history (s₀.history job moments).sinkEvents
        queued := s.sink.queue.map (·.bytes)
        listeners := if s.sink.listening then before ++ [own] else before }

/-- Whatever a run ends with, it then has nothing under way: every task has finished, the stream has
answered every write, no block is queued, no caller of the sink waits, and those listen to the stream
who did before. Until then its sink listens too. -/
theorem settles_with_nothing_left (c : Config) (maxFileSize : Number) (policy : FileErrorPolicy)
    (diagnostics : Diagnostics) (log : Log) (ended destroyed : Bool) (before : List ι) (own : ι)
    (moments : List ScanMoment) :
    let seen := observe c maxFileSize policy diagnostics log { ended, destroyed } before own moments
    let ledger := SinkLedger.of seen.exchange
    (seen.result.isSome →
      seen.held = [] ∧ ledger.unanswered = [] ∧ seen.queued = [] ∧
        (ledger.answers.map (·.call)).Perm ledger.calls ∧ seen.listeners = before) ∧
    (seen.result = none → seen.listeners = before ++ [own]) := by
  intro seen ledger
  cases hjob : ScanJob.ofConfig c maxFileSize policy diagnostics log with
  | error failure =>
    have hseen : seen = { result := some (.error (.failure failure)), listeners := before } := by
      simp only [seen, observe, hjob]
    simp [ledger, hseen, SinkLedger.of]
  | ok job =>
    cases hstart : Scan.start { job with files := fun _ => .error (.value .absent) }
        { ended, destroyed } with
    | error thrown =>
      have hseen : seen = { result := some (.error thrown), listeners := before } := by
        simp only [seen, observe, hjob, hstart]
      simp [ledger, hseen, SinkLedger.of]
    | ok s₀ =>
      let s := s₀.play job moments
      have hseen : seen =
          { result := s.result?
            held := s.pool.held
            exchange := s₀.sink.history (s₀.history job moments).sinkEvents
            queued := s.sink.queue.map (·.bytes)
            listeners := if s.sink.listening then before ++ [own] else before } := by
        simp only [seen, observe, hjob, hstart, s]
      obtain ⟨hlistening, hidle⟩ := Scan.settlement_play hstart moments
      simp only [ledger, hseen]
      refine ⟨fun hresult => ?_, fun hresult => ?_⟩
      · obtain ⟨hs, hunanswered, hcalls⟩ := hidle hresult
        refine ⟨hs.held_eq_nil, hunanswered, ?_, hcalls, ?_⟩
        · rw [hs.queue_eq_nil]
          rfl
        · rw [hlistening, ← Option.not_isSome, hresult]
          rfl
      · rw [hlistening, hresult]
        rfl

/-- The empty pattern finds every line. -/
def everyLine : Config where
  caseInsensitive := false
  multiline := false
  negate := false
  concurrency := .real 1
  pattern := ""

/-- The stream holds the report of the only file when reading the list fails, and then fails it. -/
def failingTwice : List ScanMoment :=
  [.line (.path "f"), .scanned 0, .linesFailed (.value .absent), .stream (.failed "full")].map
    fun event => { files := Scan.oneLine, event }

theorem settles_with_nothing_left_failing_twice :
    let seen (count : Nat) :=
      observe everyLine (.real 1) .fail { enabled := false, detail := .hidden } {} {} ["other"]
        "sink" (failingTwice.take count)
    (seen 3).result = none ∧ (seen 3).listeners = ["other", "sink"] ∧
      (seen 4).result.isSome ∧ (seen 4).held = [] ∧ (seen 4).queued = [] ∧
      (SinkLedger.of (seen 4).exchange).unanswered = [] ∧ (seen 4).listeners = ["other"] := by
  intro seen
  have hleft (count : Nat) := settles_with_nothing_left everyLine (.real 1) .fail
    { enabled := false, detail := .hidden } {} false false ["other"] "sink" (failingTwice.take count)
  have hopen : (seen 3).result = none := Option.isNone_iff_eq_none.mp (by decide +kernel)
  have hsettled : (seen 4).result.isSome := by decide +kernel
  obtain ⟨hheld, hunanswered, hqueued, -, hlisteners⟩ := (hleft 4).1 hsettled
  exact ⟨hopen, (hleft 3).2 hopen, hsettled, hheld, hqueued, hunanswered, hlisteners⟩

end RunRecord

end FileSearch
