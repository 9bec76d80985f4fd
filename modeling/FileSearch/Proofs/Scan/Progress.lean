import FileSearch.Proofs.Scan.Accounts

/-!
# Progress

Runs whose surroundings do their part: the list of paths gives its lines and then its end, started
tasks are done with their files, and the stream acknowledges what is written. As long as such a run
has no result some event can come next (`Scan.exists_occurs`), in whatever order they came before.
-/

namespace FileSearch

namespace Sink

variable {κ : Type} {s : Sink κ}

/-- Nothing has gone wrong with the stream. -/
structure Healthy (s : Sink κ) : Prop where
  broken : s.broken = none
  heard : s.heard = none
  ended : s.stream.ended = false
  destroyed : s.stream.destroyed = false

theorem Healthy.refusal? (h : s.Healthy) : s.refusal? = none := by
  simp [Sink.refusal?, h.heard, OutputStream.closed, h.ended, h.destroyed]

theorem Healthy.handOver (h : s.Healthy) (round : Nat) : (s.handOver round).1.Healthy := by
  unfold Sink.handOver
  rw [h.refusal?]
  cases s.queue with
  | nil => exact h
  | cons b rest => exact ⟨h.broken, h.heard, h.ended, h.destroyed⟩

theorem Healthy.reply (h : s.Healthy) (delivered : List Bytes) (answers : List (Nat × SinkAnswer κ)) :
    (s.reply delivered answers).1.Healthy :=
  ⟨h.broken, h.heard, h.ended, h.destroyed⟩

theorem Healthy.awaitLast (h : s.Healthy) (call : SinkCall κ) : (s.awaitLast call).1.Healthy := by
  unfold Sink.awaitLast
  split
  · exact h.reply ..
  · exact ⟨h.broken, h.heard, h.ended, h.destroyed⟩

theorem Healthy.write (h : s.Healthy) (caller : κ) (block : Bytes) :
    (s.write caller block).1.Healthy := by
  unfold Sink.write
  split
  · exact h.awaitLast _
  · have hqueued (queue : List (QueuedBlock κ)) : { s with queue }.Healthy :=
      ⟨h.broken, h.heard, h.ended, h.destroyed⟩
    dsimp only
    split
    · exact ((hqueued _).handOver 0).reply ..
    · exact hqueued _

theorem Healthy.acknowledged (h : s.Healthy) : (s.onStream .acknowledged).1.Healthy := by
  have hheard {s : Sink κ} (h : s.Healthy) : (s.hear none).Healthy := by
    unfold hear
    split
    · exact ⟨h.broken, by simp [h.heard], h.ended, h.destroyed⟩
    · exact h
  have hanswered {s : Sink κ} (h : s.Healthy) : (s.answered (.ok ())).1.Healthy := by
    unfold answered
    cases s.queue with
    | nil => exact h
    | cons b rest =>
      have hcounted : { s with
          queue := rest
          bytesWritten := s.bytesWritten + b.bytes.length
          blocksWritten := s.blocksWritten + 1 }.Healthy :=
        ⟨h.broken, h.heard, h.ended, h.destroyed⟩
      exact (hcounted.handOver 3).reply ..
  unfold onStream
  cases hbusy : s.stream.outstanding with
  | false =>
    simp only [OutputStream.step, hbusy, Bool.false_eq_true, if_false]
    exact hheard h
  | true =>
    have hstream : ({ s.stream with outstanding := false } : OutputStream).settle
        = { s.stream with outstanding := false } := by
      simp [OutputStream.settle, h.ended]
    simp only [OutputStream.step, hbusy, if_true, hstream]
    exact hanswered (hheard ⟨h.broken, h.heard, h.ended, h.destroyed⟩)

/-- Calls and acknowledgements do no harm. -/
theorem Healthy.run (h : s.Healthy) {events : List (SinkEvent κ)}
    (hstream : ∀ e, .stream e ∈ events → e = .acknowledged) : (s.run events).Healthy := by
  induction events generalizing s with
  | nil => exact h
  | cons e rest ih =>
    refine ih ?_ fun e he => hstream e (List.mem_cons_of_mem _ he)
    cases e with
    | write caller block => exact h.write caller block
    | flush caller => exact h.awaitLast _
    | close caller => exact h.awaitLast _
    | stream e =>
      rw [hstream e List.mem_cons_self]
      exact h.acknowledged

end Sink

namespace Scan

variable {p : ScanPlan} {s : Scan} {b : ScanBooks} {lines rest : List PathLine} {e : ScanEvent}

/-- The events that can come next, with the lines that are left after them. -/
inductive Occurs (s : Scan) : List PathLine → ScanEvent → List PathLine → Prop
  | line {line : PathLine} {rest : List PathLine} (hasks : s.pool.asks) :
      Occurs s (line :: rest) (.line line) rest
  | linesEnded (hasks : s.pool.asks) : Occurs s [] .linesEnded []
  | scanned {lines : List PathLine} {index : Nat} {path : String}
      (htask : s.task? index = some { path }) : Occurs s lines (.scanned index) lines
  | acknowledged {lines : List PathLine} (hbusy : s.sink.stream.outstanding) :
      Occurs s lines (.stream .acknowledged) lines

/-- One order of events, from a scan that has the first lines still before it to one that has the
last. Nothing comes after the result. -/
inductive Reaches (p : ScanPlan) :
    Scan → List PathLine → List ScanEvent → Scan → List PathLine → Prop
  | here {s : Scan} {lines : List PathLine} : Reaches p s lines [] s lines
  | next {s s' : Scan} {lines rest left : List PathLine} {e : ScanEvent} {events : List ScanEvent}
      (hopen : s.result? = none) (hnext : Occurs s lines e rest)
      (hlater : Reaches p (s.step p e) rest events s' left) :
      Reaches p s lines (e :: events) s' left

/-- A pool that is not done asks for an item or has a live task. -/
theorem live_ne_nil (hpool : s.pool.WellFormed) (hsettled : s.pool.settled = false)
    (hasks : s.pool.asks = false) : s.pool.live ≠ [] := by
  intro hlive
  cases hwaiting : s.pool.waiting with
  | none => simp_all [Pool.settled, Pool.asks]
  | some item =>
    have hlength := hpool.length_eq (by simp [hwaiting])
    have hpos := hpool.limit_pos
    rw [hlive] at hlength
    simp only [List.length_nil] at hlength
    omega

theorem exists_occurs (hs : (s.stage b).Sound) (hsettled : s.pool.settled = false)
    (lines : List PathLine) : ∃ e rest, Occurs s lines e rest := by
  cases hasks : s.pool.asks with
  | true =>
    cases lines with
    | nil => exact ⟨_, _, .linesEnded hasks⟩
    | cons line rest => exact ⟨_, _, .line hasks⟩
  | false =>
    have hlive := live_ne_nil hs.pool hsettled hasks
    by_cases hunread : ∃ t ∈ s.pool.live, t.2.report = none
    · obtain ⟨⟨index, path, report?⟩, ht, hnone⟩ := hunread
      obtain rfl : report? = none := hnone
      exact ⟨_, _, .scanned (Pool.lookup_of_mem hs.pool.nodup ht)⟩
    -- Every live task waits for the sink, so a block is with the stream.
    · obtain ⟨⟨index, path, report?⟩, ht⟩ := List.exists_mem_of_ne_nil _ hlive
      obtain ⟨report, rfl⟩ : ∃ report, report? = some report := by
        refine Option.ne_none_iff_exists'.mp fun hnone => hunread ⟨_, ht, hnone⟩
      have hcall : ScanTask.call index ∈ ScanTask.awaited s.pool.live :=
        List.mem_filterMap.mpr ⟨_, ht, rfl⟩
      have hwaiting : ScanTask.call index ∈ s.sink.core.waiting :=
        hs.calls_perm.mem_iff.mpr hcall
      have hqueue : s.sink.core.queue ≠ [] := by
        intro hnil
        simp [SinkCore.waiting, hnil] at hwaiting
      exact ⟨_, _, .acknowledged ((outstanding_iff hs).mpr hqueue)⟩


-- ---------------------------------------------------------------------------
-- The source of a pool
-- ---------------------------------------------------------------------------

theorem source_finishTask (s : Scan) (index : Nat) (path : String)
    (outcome : Except Thrown FileResult) :
    (s.finishTask p index path outcome).pool.source = s.pool.source := by
  cases outcome with
  | error thrown => exact Pool.source_finished ..
  | ok result =>
    cases result with
    | scanned path report => exact Pool.source_finished ..
    | failed path failure =>
      simp only [finishTask, FileResult.failure?, record_eq]
      exact Pool.source_finished ..

theorem pool_conclude (s : Scan) (outcome : Except Thrown (List TaskFailure)) :
    (s.conclude p outcome).pool = s.pool := by
  match outcome with
  | .error thrown => rfl
  | .ok (first :: rest) => rfl
  | .ok [] =>
    simp only [conclude, record_eq]
    cases p.log.refused (ScanPlan.summaryEntry (s.tally.summary p.policy)) <;> rfl

theorem pool_sinkClosed (s : Scan) (answer : Except Failure Unit) :
    (s.sinkClosed p answer).pool = s.pool := by
  unfold sinkClosed
  cases s.phase with
  | running => rfl
  | settled result => rfl
  | closing outcome =>
    cases answer with
    | ok _ => exact pool_conclude ..
    | error failure =>
      simp only [record_eq]
      cases p.log.refused (ScanPlan.flushEntry failure) with
      | some thrown => rfl
      | none => exact pool_conclude ..

theorem source_receive (s : Scan) (a : SinkAnswer ScanCaller) :
    (s.receive p a).pool.source = s.pool.source := by
  unfold receive
  cases a.call.caller with
  | run => exact congrArg Pool.source (pool_sinkClosed ..)
  | task index =>
    dsimp only
    split
    · exact source_finishTask ..
    · rfl

theorem source_absorb (s : Scan) (next : Sink ScanCaller × SinkOutput ScanCaller) :
    (s.absorb p next).pool.source = s.pool.source := by
  have hfold (answers : List (SinkAnswer ScanCaller)) (s : Scan) :
      (answers.foldl (receive p) s).pool.source = s.pool.source := by
    induction answers generalizing s with
    | nil => rfl
    | cons a rest ih => exact (ih _).trans (source_receive s a)
  exact hfold ..

theorem source_fileScanned (s : Scan) (index : Nat) (path : String) :
    (s.fileScanned p index path).pool.source = s.pool.source := by
  obtain ⟨lines, fault, hrecord, -, -⟩ :=
    recordAll_moves (p := p) (s := s) (b := {}) [] (warnings_level (p.scan path))
  simp only [fileScanned, hrecord]
  cases fault with
  | some thrown => exact source_finishTask ..
  | none =>
    cases hresult : (p.scan path).result with
    | failed path' failure => exact source_finishTask ..
    | scanned path' report => exact source_absorb ..

/-- What an event makes of the source of the pool, if entries can be logged: only the end of the list
of paths changes it, and only when it is asked for. -/
def sourceMet (s : Scan) : ScanEvent → SourceState
  | .linesEnded => if s.pool.asks then .ended else s.pool.source
  | .linesFailed reason =>
    if s.pool.asks then .failed (ScanPlan.pathsError reason) else s.pool.source
  | .line _ | .scanned _ | .stream _ => s.pool.source

theorem source_advance (hlog : p.log.Reliable) (s : Scan) (e : ScanEvent) :
    (s.advance p e).pool.source = s.sourceMet e := by
  cases e with
  | line line =>
    cases line with
    | path path =>
      simp only [advance, takeLine, takeUp, sourceMet]
      by_cases hasks : s.pool.asks
      · exact Pool.source_delivered hasks _
      · simp [Pool.step, hasks]
    | blank =>
      simp only [advance, takeLine, record_eq, hlog.refused_eq, sourceMet]
      split <;> rfl
  | linesEnded =>
    simp only [advance, takeUp, sourceMet, Pool.step]
    split <;> rfl
  | linesFailed reason =>
    simp only [advance, failSource, takeUp, sourceMet, Pool.step]
    split <;> rfl
  | scanned index =>
    simp only [advance, sourceMet]
    split
    · exact source_fileScanned ..
    · rfl
  | stream e => exact source_absorb ..

theorem source_of_step (hs : (s.stage b).Sound) (hrunning : s.phase = .running)
    (hlog : p.log.Reliable) (e : ScanEvent) : (s.step p e).pool.source = s.sourceMet e := by
  obtain ⟨hchain, -, hphase⟩ := advance_moves (p := p) hs e
  rw [hrunning] at hphase
  have hclose : ((s.advance p e).closeIfDone p).pool = (s.advance p e).pool := by
    cases hsettled : (s.advance p e).pool.settled with
    | true =>
      obtain ⟨logLines, result, heq, -, -⟩ :=
        closeIfDone_moves (ScanStage.sound_of_moves hchain hs) hphase hsettled
      rw [heq]
    | false => rw [closeIfDone_of_not_settled hphase hsettled]
  rw [step_of_running hrunning, hclose]
  exact source_advance hlog s e

/-- What an event makes of the source of the pool. -/
def sourceAfter (s : Scan) : ScanEvent → SourceState
  | .linesEnded => .ended
  | _ => s.pool.source

/-- If nothing goes wrong, only the end of the list of paths changes the source. -/
theorem source_step (hs : (s.stage b).Sound) (hrunning : s.phase = .running)
    (hlog : p.log.Reliable) (hnext : Occurs s lines e rest) :
    (s.step p e).pool.source = s.sourceAfter e := by
  rw [source_of_step hs hrunning hlog]
  cases hnext with
  | line => rfl
  | linesEnded hasks => exact if_pos hasks
  | scanned => rfl
  | acknowledged => rfl

end Scan

end FileSearch
