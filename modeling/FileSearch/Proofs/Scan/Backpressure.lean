import FileSearch.Proofs.Scan.Delivery

/-!
# Backpressure

What a run holds back is bounded by its slots. A task keeps its slot until the sink has answered it,
so however slow the stream is, the sink never holds more blocks than there are live tasks; and when
all of them wait for the stream, one path at most is taken from the list before it answers.
-/

namespace FileSearch

/-- How many calls of a sink have not been answered. -/
def SinkLedger.pending {κ : Type} (l : SinkLedger κ) : Nat := l.calls.length - l.answers.length

/-- Every block has a caller that waits for it. -/
theorem QueuedBlock.length_le_waiting {κ : Type} {queue : List (QueuedBlock κ)}
    (h : ∀ b ∈ queue, b.waiting ≠ []) : queue.length ≤ (queue.flatMap (·.waiting)).length := by
  induction queue with
  | nil => exact Nat.le_refl _
  | cons b rest ih =>
    rw [List.forall_mem_cons] at h
    have hfirst := List.length_pos_iff.mpr h.1
    have hrest := ih h.2
    rw [List.flatMap_cons, List.length_append, List.length_cons]
    omega

namespace ScanStage

variable {job : ScanJob} {p : ScanPlan} {st st' : ScanStage}

/-- The tasks that have handed in their report and wait for the answer. -/
def blocked (st : ScanStage) : List (Nat × ScanTask) := st.pool.live.filter (·.2.report.isSome)

/-- The blocks that the sink holds: the one with the stream, and those queued behind it. -/
def backlog (st : ScanStage) : List Bytes := st.core.queue.map (·.bytes)

theorem length_awaited (st : ScanStage) :
    (ScanTask.awaited st.pool.live).length = st.blocked.length := by
  simp [ScanTask.awaited, blocked, List.length_filterMap_eq_countP, List.countP_eq_length_filter]


-- ---------------------------------------------------------------------------
-- Slots and paths
-- ---------------------------------------------------------------------------

/-- The number of slots does not change, and every path taken is started or waits for a slot. -/
structure Counted (slots : Nat) (st : ScanStage) : Prop where
  limit_eq : st.pool.limit = slots
  pulled_eq : st.pulled.length = st.pool.started + st.pool.waiting.toList.length

theorem Counted.finished {slots : Nat} (h : st.Counted slots) (hs : st.Sound) {index : Nat}
    {task : ScanTask} (htask : st.pool.live.lookup index = some task) {failure : Option Thrown}
    (hpool : st'.pool = (st.pool.step (.finished index failure)).1)
    (hpulled : st'.pulled = st.pulled) : st'.Counted slots := by
  rw [Pool.step_finished hs.pool (isLive_of_lookup htask)] at hpool
  refine ⟨?_, ?_⟩
  · rw [hpool]
    exact h.limit_eq
  · rw [hpulled, hpool, h.pulled_eq]
    rfl

theorem Move.counted {slots : Nat} (hmove : st.Move p st') (hs : st.Sound) (h : st.Counted slots) :
    st'.Counted slots := by
  cases hmove with
  | noted => exact ⟨h.limit_eq, h.pulled_eq⟩
  | @pulled path hasks =>
    have hnone := (Pool.asks_iff.mp hasks).2
    have hpulled := h.pulled_eq
    rw [hnone] at hpulled
    rw [Pool.step_delivered hasks]
    split
    · refine ⟨h.limit_eq, ?_⟩
      simpa [Pool.start] using hpulled
    · refine ⟨h.limit_eq, ?_⟩
      simpa using hpulled
  | sourceEnded => exact ⟨h.limit_eq, h.pulled_eq⟩
  | sourceFailed => exact ⟨h.limit_eq, h.pulled_eq⟩
  | lost htask => exact h.finished hs htask rfl rfl
  | unreadable htask => exact h.finished hs htask rfl rfl
  | handed => exact ⟨h.limit_eq, h.pulled_eq⟩
  | streamed => exact ⟨h.limit_eq, h.pulled_eq⟩
  | accepted hdue htask => exact h.finished hs htask rfl rfl
  | rejected hdue htask => exact h.finished hs htask rfl rfl
  | closed => exact ⟨h.limit_eq, h.pulled_eq⟩


-- ---------------------------------------------------------------------------
-- Bounds
-- ---------------------------------------------------------------------------

/-- The first block in the sink is with the stream. The blocks in it are no more than the calls it has
not answered, these no more than the tasks that wait for an answer, and these are live, in one slot
each. At most one path is taken that has no task yet. -/
structure Backpressured (slots : Nat) (st : ScanStage) : Prop where
  unanswered_eq : st.ledger.unanswered = st.backlog.take 1
  backlog_le : st.backlog.length ≤ st.ledger.pending
  pending_le : st.ledger.pending ≤ st.blocked.length
  blocked_le : st.blocked.length ≤ st.pool.live.length
  live_le : st.pool.live.length ≤ slots
  pulled_le : st.pulled.length ≤ st.pool.started + 1

theorem backpressured {slots : Nat} (h : st.Accounts job) (hcounted : st.Counted slots) :
    st.Backpressured slots := by
  have hpending : st.ledger.pending = st.core.waiting.length := by
    have hcalls := h.ledgered.fits.calls_perm.length_eq
    rw [List.length_append, List.length_map] at hcalls
    unfold SinkLedger.pending
    omega
  have hwaiting : st.core.waiting.length ≤ st.blocked.length := by
    have hcalls := h.sound.calls_perm.length_eq
    rw [List.length_append, length_awaited] at hcalls
    omega
  refine ⟨h.ledgered.fits.unanswered_eq, ?_, ?_, List.length_filter_le _ _, ?_, ?_⟩
  · rw [backlog, List.length_map, hpending]
    exact QueuedBlock.length_le_waiting h.sound.core.waiting_ne_nil
  · exact hpending ▸ hwaiting
  · exact hcounted.limit_eq ▸ h.sound.pool.length_le
  · have hone : st.pool.waiting.toList.length ≤ 1 := by
      cases st.pool.waiting <;> simp
    rw [hcounted.pulled_eq]
    omega

/-- The stages that a run may come to from a first one, whatever the files are from move to move. -/
def Reachable (job : ScanJob) : ScanStage → ScanStage → Prop :=
  Relation.ReflTransGen fun st st' => ∃ files : String → Opening, st.Move { job with files } st'

theorem reachable_of_moves (hmoves : Relation.ReflTransGen (Move p) st st') :
    st.Reachable p.toScanJob st' := by
  induction hmoves with
  | refl => exact .refl
  | tail _ hmove ih => exact ih.tail ⟨p.files, hmove⟩

theorem Reachable.accounts (hreachable : st.Reachable job st') (h : st.Accounts job) :
    st'.Accounts job := by
  induction hreachable with
  | refl => exact h
  | tail _ hmove ih =>
    obtain ⟨files, hmove⟩ := hmove
    exact hmove.accounts ih

theorem Reachable.counted {slots : Nat} (hreachable : st.Reachable job st') (h : st.Accounts job)
    (hcounted : st.Counted slots) : st'.Counted slots := by
  induction hreachable with
  | refl => exact hcounted
  | tail hbefore hmove ih =>
    obtain ⟨files, hmove⟩ := hmove
    exact hmove.counted (Reachable.accounts hbefore h).sound ih

end ScanStage

/-- Whether an event may answer the write that is with the stream. -/
def ScanEvent.answersWrite : ScanEvent → Bool
  | .stream .acknowledged | .stream (.failed _) => true
  | _ => false

/-- No call is answered by an event that leaves the write with the stream. -/
theorem Sink.answers_onStream {κ : Type} (s : Sink κ) {event : StreamEvent}
    (he : (ScanEvent.stream event).answersWrite = false) : (s.onStream event).2.answers = [] := by
  cases event with
  | acknowledged => cases he
  | failed message => cases he
  | ended => simp [onStream, OutputStream.step]
  | destroyed message =>
    have hnone : (s.stream.step (.destroyed message)).2.answer = none := by
      simp only [OutputStream.step, OutputStream.destroy]
      split <;> rfl
    simp [onStream, hnone]

namespace Scan

variable {job : ScanJob} {p : ScanPlan} {s : Scan} {b : ScanBooks}

/-- What a run comes to with one event after the other is among the stages it may come to. -/
theorem play_reachable (hs : (s.stage b).Sound) (hrunning : s.phase = .running)
    (moments : List ScanMoment) :
    (s.stage b).Reachable job
      ((s.play job moments).stage (b.enter s.sink (s.history job moments))) := by
  refine play_induction
    (motive := fun s' b' => (s.stage b).Reachable job (s'.stage b')) ?_ hs hrunning .refl moments
  rintro s' b' p e rfl hs' hrunning' hreachable
  obtain ⟨hchain, -⟩ := step_moves (p := p) hs' hrunning' e
  exact hreachable.trans (ScanStage.reachable_of_moves hchain)


-- ---------------------------------------------------------------------------
-- A stream that does not answer
-- ---------------------------------------------------------------------------

/-- Every slot is taken by a task that waits for the stream. -/
structure Stalled (s : Scan) : Prop where
  running : s.phase = .running
  full : s.pool.live.length = s.pool.limit
  limit_pos : 0 < s.pool.limit
  reported : ∀ t ∈ s.pool.live, t.2.report.isSome

/-- What leaves the tasks and the path that waits as they are. -/
structure Holds (s s' : Scan) : Prop where
  phase_eq : s'.phase = s.phase
  live_eq : s'.pool.live = s.pool.live
  limit_eq : s'.pool.limit = s.pool.limit

/-- A path that is taken has to wait, since there is no slot, and is the only one that does. -/
structure Defers (s : Scan) (e : ScanEvent) (s' : Scan) : Prop extends s.Holds s' where
  waiting_eq : s'.pool.waiting.toList.length
    = (s.pulledBy e).toList.length + s.pool.waiting.toList.length

theorem Stalled.holds {s' : Scan} (h : s.Stalled) (hholds : s.Holds s') : s'.Stalled where
  running := hholds.phase_eq.trans h.running
  full := by rw [hholds.live_eq, hholds.limit_eq, h.full]
  limit_pos := hholds.limit_eq ▸ h.limit_pos
  reported := hholds.live_eq ▸ h.reported

theorem Stalled.settled_eq (h : s.Stalled) : s.pool.settled = false := by
  have hlive : s.pool.live.isEmpty = false := by
    rw [List.isEmpty_eq_false_iff, ← List.length_pos_iff, h.full]
    exact h.limit_pos
  simp [Pool.settled, hlive]

theorem defers_failSource (s : Scan) (logLines : List String) {e : ScanEvent}
    (he : s.pulledBy e = none) (reason : Reason) :
    s.Defers e ({ s with logLines }.failSource p reason) := by
  simp only [failSource, takeUp, Pool.step]
  split <;> exact ⟨⟨rfl, rfl, rfl⟩, by simp [he]⟩

theorem Stalled.defers_advance (h : s.Stalled) {e : ScanEvent} (he : e.answersWrite = false) :
    s.Defers e (s.advance p e) := by
  have hslot : s.pool.hasSlot = false := by simp [Pool.hasSlot, h.full]
  cases e with
  | line line =>
    cases line with
    | path path =>
      simp only [Scan.advance, takeLine, takeUp]
      cases hasks : s.pool.asks with
      | false =>
        have hstep : s.pool.step (.delivered { path }) = (s.pool, []) := by
          simp [Pool.step, hasks]
        rw [hstep]
        exact ⟨⟨rfl, rfl, rfl⟩, by simp [pulledBy, hasks]⟩
      | true =>
        rw [Pool.step_delivered hasks, hslot]
        have hnone := (Pool.asks_iff.mp hasks).2
        exact ⟨⟨rfl, rfl, rfl⟩, by simp [pulledBy, hasks, hnone]⟩
    | blank =>
      simp only [Scan.advance, takeLine, record_eq]
      split
      · cases p.log.refused PathLine.skipped with
        | none => exact ⟨⟨rfl, rfl, rfl⟩, by simp [pulledBy]⟩
        | some thrown => exact s.defers_failSource _ rfl thrown
      · exact ⟨⟨rfl, rfl, rfl⟩, by simp [pulledBy]⟩
  | linesEnded =>
    simp only [Scan.advance, takeUp, Pool.step]
    split <;> exact ⟨⟨rfl, rfl, rfl⟩, by simp [pulledBy]⟩
  | linesFailed reason => exact s.defers_failSource s.logLines rfl reason
  | scanned index =>
    have hsame : s.advance p (.scanned index) = s := by
      simp only [Scan.advance]
      split
      · next path htask =>
        have hreported := h.reported _ (Pool.mem_of_lookup htask)
        cases hreported
      · rfl
    rw [hsame]
    exact ⟨⟨rfl, rfl, rfl⟩, by simp [pulledBy]⟩
  | stream event =>
    simp only [Scan.advance, absorb, s.sink.answers_onStream he]
    exact ⟨⟨rfl, rfl, rfl⟩, by simp [pulledBy]⟩

theorem Stalled.step (h : s.Stalled) {e : ScanEvent} (he : e.answersWrite = false) :
    s.Defers e (s.step p e) := by
  have hdefers := h.defers_advance (p := p) he
  have hnext := h.holds hdefers.toHolds
  rw [step_of_running h.running, closeIfDone_of_not_settled hnext.running hnext.settled_eq]
  exact hdefers

/-- As long as the stream does not answer, no task gets on. -/
theorem Stalled.play (job : ScanJob) (h : s.Stalled) {moments : List ScanMoment}
    (hmoments : ∀ m ∈ moments, m.event.answersWrite = false) :
    s.Holds (s.play job moments) ∧
      (s.play job moments).pool.waiting.toList.length
        = (s.history job moments).pulled.length + s.pool.waiting.toList.length := by
  induction moments generalizing s with
  | nil => exact ⟨⟨rfl, rfl, rfl⟩, by simp [Scan.play, history]⟩
  | cons m rest ih =>
    rw [List.forall_mem_cons] at hmoments
    let p : ScanPlan := { job with files := m.files }
    have hdefers := h.step (p := p) hmoments.1
    obtain ⟨hholds, hwaiting⟩ := ih (h.holds hdefers.toHolds) hmoments.2
    have hhistory : s.history job (m :: rest)
        = (s.told p m.event).append ((s.step p m.event).history job rest) := by
      simp [history, result?_of_running h.running, p]
    refine ⟨⟨?_, ?_, ?_⟩, ?_⟩
    · exact hholds.phase_eq.trans hdefers.phase_eq
    · exact hholds.live_eq.trans hdefers.live_eq
    · exact hholds.limit_eq.trans hdefers.limit_eq
    · have htold : (s.told p m.event).pulled = (s.pulledBy m.event).toList := rfl
      rw [hhistory, Scan.play, hwaiting, hdefers.waiting_eq, ScanHistory.append, List.length_append,
        htold]
      omega

/-- Tasks that wait for the stream in all slots. -/
theorem stalled_of_blocked {slots : Nat} (h : (s.stage b).Accounts job)
    (hended : s.phase = .running ∨ ∃ result, s.Ended job result)
    (hcounted : (s.stage b).Counted slots) (hpositive : 1 ≤ slots)
    (hblocked : (s.stage b).blocked.length = slots) : s.Stalled := by
  have hlimit : s.pool.limit = slots := hcounted.limit_eq
  have hlive : s.pool.live.length = slots := by
    have hle : s.pool.live.length ≤ s.pool.limit := h.sound.pool.length_le
    have hge := List.length_filter_le (fun t : Nat × ScanTask => t.2.report.isSome) s.pool.live
    have hfilter : (s.pool.live.filter (·.2.report.isSome)).length = slots := hblocked
    omega
  refine ⟨?_, by omega, by omega, ?_⟩
  · rcases hended with hrunning | ⟨result, hended⟩
    · exact hrunning
    · rw [Pool.live_of_settled hended.2.1, List.length_nil] at hlive
      omega
  · exact List.length_filter_eq_length_iff.mp (hblocked.trans hlive.symm)

/-- A run that starts with a number of slots has that many. -/
theorem start_slots {slots : Nat} (hslots : p.concurrency.toInt? = some (slots : Int))
    (hpositive : 1 ≤ slots) {ended destroyed : Bool}
    (hstart : start p { ended, destroyed } = .ok s) :
    ∃ logLines, s = { pool := { limit := slots }, sink := .fresh ended destroyed, logLines } := by
  have hpool : (Pool.ofConcurrency p.concurrency : Except Fault (Pool ScanTask))
      = .ok { limit := slots } := by
    simp only [Pool.ofConcurrency, hslots]
    rw [if_neg (by omega)]
    rfl
  unfold start at hstart
  cases hwrite : p.log.write (ScanPlan.startEntry p.toScanJob) with
  | error thrown => simp [hwrite] at hstart
  | ok logLines =>
    simp only [hwrite, hpool, Except.ok.injEq] at hstart
    exact ⟨logLines, hstart.symm⟩

/-- At every stage that a run may come to, in whatever order everything happens and however the
stream answers, the blocks that the sink has been handed and has not answered for are no more than
the live tasks, these no more than the slots, and at most one path is taken for which no task is
started. Once the tasks in all slots wait for the stream, none of them gets on before it answers, and
in all that time at most one more path is taken. -/
theorem backpressure {job : ScanJob} {slots : Nat}
    (hslots : job.concurrency.toInt? = some (slots : Int)) (hpositive : 1 ≤ slots)
    {files : String → Opening} {ended destroyed : Bool} {s₀ : Scan}
    (hstart : start { job with files } { ended, destroyed } = .ok s₀) :
    (∀ st, (s₀.stage {}).Reachable job st → st.Backpressured slots) ∧
      ∀ moments,
        let s := s₀.play job moments
        let st := s.stage (({} : ScanBooks).enter s₀.sink (s₀.history job moments))
        (s₀.stage {}).Reachable job st ∧
          (st.blocked.length = slots →
            ∀ later : List ScanMoment, (∀ m ∈ later, m.event.answersWrite = false) →
              (s.play job later).pool.live = s.pool.live ∧
                (s.history job later).pulled.length ≤ 1) := by
  obtain ⟨logLines, rfl⟩ := start_slots hslots hpositive hstart
  have haccounts := new_accounts job hpositive ended destroyed logLines
  have hcounted : (({ pool := { limit := slots }, sink := .fresh ended destroyed, logLines } :
      Scan).stage {}).Counted slots := ⟨rfl, rfl⟩
  refine ⟨fun st hreachable => ?_, ?_⟩
  · exact ScanStage.backpressured (hreachable.accounts haccounts)
      (hreachable.counted haccounts hcounted)
  intro moments s st
  have hreachable : (Scan.stage _ {}).Reachable job st :=
    play_reachable haccounts.sound rfl moments
  refine ⟨hreachable, fun hblocked later hlater => ?_⟩
  obtain ⟨hplayed, hended⟩ := play_accounts haccounts rfl moments
  have hstalled : s.Stalled := stalled_of_blocked hplayed hended
    (hreachable.counted haccounts hcounted) hpositive hblocked
  obtain ⟨hholds, hwaiting⟩ := hstalled.play job hlater
  have hone : (s.play job later).pool.waiting.toList.length ≤ 1 := by
    cases (s.play job later).pool.waiting <;> simp
  exact ⟨hholds.live_eq, by omega⟩

def twoSlots : ScanJob := { reportAll with concurrency := .real (2 : Nat) }

/-- Two files are scanned, and the stream is silent. -/
def twoReports : List ScanMoment :=
  [.line (.path "f"), .line (.path "g"), .scanned 0, .scanned 1].map
    fun event => { files := oneLine, event }

/-- The list goes on. -/
def twoMorePaths : List ScanMoment :=
  [.line (.path "h"), .line (.path "i")].map fun event => { files := oneLine, event }

theorem backpressure_two_reports :
    ∃ s₀, start { twoSlots with files := oneLine } {} = .ok s₀ ∧
      let s := s₀.play twoSlots twoReports
      let st := s.stage (({} : ScanBooks).enter s₀.sink (s₀.history twoSlots twoReports))
      st.blocked.length = 2 ∧ st.backlog.length = 2 ∧ st.Backpressured 2 ∧
        (s.play twoSlots twoMorePaths).pool.live = s.pool.live ∧
        (s.history twoSlots twoMorePaths).pulled.length ≤ 1 := by
  let s₀ : Scan := { pool := { limit := 2 }, sink := {} }
  have hstart : start { twoSlots with files := oneLine } {} = .ok s₀ := rfl
  have hslots : twoSlots.concurrency.toInt? = some ((2 : Nat) : Int) := by decide
  obtain ⟨hstages, hplayed⟩ := backpressure hslots (by decide) hstart
  obtain ⟨hreachable, hstalled⟩ := hplayed twoReports
  have hblocked : ((s₀.play twoSlots twoReports).stage
      (({} : ScanBooks).enter s₀.sink (s₀.history twoSlots twoReports))).blocked.length = 2 := by
    decide +kernel
  have hsilent : ∀ m ∈ twoMorePaths, m.event.answersWrite = false := by
    simp [twoMorePaths, ScanEvent.answersWrite]
  obtain ⟨hlive, hpulled⟩ := hstalled hblocked twoMorePaths hsilent
  exact ⟨s₀, hstart, hblocked, by decide +kernel, hstages _ hreachable, hlive, hpulled⟩

end Scan

end FileSearch
