import FileSearch.Output.Loop
import FileSearch.Proofs.Output.Order
import FileSearch.Proofs.Output.View

/-!
# Turns in between

A sink as it is seen at rest against the same sink turn by turn, where calls and stream events may
come before a block that is due is handed over. Nothing new comes of that: every run of turns, once it
is left alone, has come to what a sink at rest comes to with the same events, where some of those that
end or destroy the stream come a little earlier (`SinkLoop.run_eq_earlier`). So what is told of all
runs of a sink, whatever the stream does, holds turn by turn as well (`SinkLoop.delivered_prefix`).
-/

namespace FileSearch

variable {κ : Type}


-- ---------------------------------------------------------------------------
-- The view of a sink
-- ---------------------------------------------------------------------------

/-- What the answers tell when reasons are left out. -/
def SinkAnswer.told (answers : List (SinkAnswer κ)) : Multiset (SinkCall κ × Bool) :=
  answers.map fun a => (a.call, a.outcome.isOk)

def SinkOutput.told (output : SinkOutput κ) : SinkTold κ where
  delivered := output.delivered
  answers := SinkAnswer.told output.answers
  errors := output.errors

def Sink.view (s : Sink κ) : SinkView κ where
  stream := s.stream
  broken := s.broken.isSome
  queue := s.queue
  bytesWritten := s.bytesWritten
  blocksWritten := s.blocksWritten

def SinkReport.of (next : Sink κ × SinkOutput κ) : SinkReport κ := (next.1.view, next.2.told)

namespace SinkAnswer

theorem told_append (answers more : List (SinkAnswer κ)) :
    told (answers ++ more) = told answers + told more := by
  simp [told]

theorem told_perm {answers more : List (SinkAnswer κ)} (h : answers.Perm more) :
    told answers = told more :=
  Multiset.coe_eq_coe.mpr (h.map _)

theorem told_answerAll (calls : List (SinkCall κ)) (outcome : Except Failure Unit) :
    told (SinkCall.answerAll calls outcome) = SinkCall.told calls outcome.isOk := by
  simp [told, SinkCall.answerAll, SinkCall.told, Function.comp_def]

end SinkAnswer

namespace Sink

/-- An error that was heard has destroyed the stream. -/
def Hears (s : Sink κ) : Prop := s.heard.isSome → s.stream.destroyed

theorem of_reply (s : Sink κ) (delivered : List Bytes) (answers : List (Nat × SinkAnswer κ)) :
    SinkReport.of (s.reply delivered answers)
      = (s.view, { delivered, answers := SinkAnswer.told (answers.map (·.2)) }) := by
  refine Prod.ext rfl (SinkTold.ext rfl ?_ rfl)
  exact SinkAnswer.told_perm (reply_answers_perm s delivered answers)

theorem of_awaitLast (s : Sink κ) (call : SinkCall κ) :
    SinkReport.of (s.awaitLast call) = s.view.wait call := by
  cases hqueue : s.queue with
  | nil =>
    have hview : s.view.queue = [] := hqueue
    have hgood : s.standing.isOk = !s.view.broken := by
      cases hbroken : s.broken <;> simp [standing, view, hbroken, Except.isOk, Except.toBool]
    simp only [awaitLast, hqueue, List.isEmpty_nil, if_true, of_reply, SinkView.wait, hview]
    simp [SinkAnswer.told, SinkCall.told, hgood]
  | cons b rest =>
    have hview : s.view.queue = b :: rest := hqueue
    simp only [awaitLast, hqueue, SinkView.wait, hview, List.isEmpty_cons]
    rfl

theorem refusal?_isSome {s : Sink κ} (hheard : s.Hears) : s.refusal?.isSome = s.stream.closed := by
  unfold refusal?
  cases herror : s.heard with
  | some fault =>
    have hdestroyed : s.stream.destroyed := hheard (by simp [herror])
    simp [OutputStream.closed, hdestroyed]
  | none => cases hclosed : s.stream.closed <;> simp

theorem of_handOver {s : Sink κ} (hheard : s.Hears) (hfree : s.stream.outstanding = false)
    (round : Nat) :
    ((s.handOver round).1.view, ({
      delivered := (s.handOver round).2.1
      answers := SinkAnswer.told ((s.handOver round).2.2.map (·.2)) } : SinkTold κ))
      = s.view.settle := by
  cases hqueue : s.queue with
  | nil =>
    rw [SinkView.settle_of_queue hqueue]
    simp [handOver, hqueue, SinkAnswer.told]
  | cons b rest =>
    have hview : s.view.queue = b :: rest := hqueue
    have hdue : s.view.due := SinkView.due_iff.mpr ⟨by simp [hview], hfree⟩
    have hrefused : s.refusal?.isSome = s.view.stream.closed := refusal?_isSome hheard
    cases hrefusal : s.refusal? with
    | none =>
      have hopen : s.view.stream.closed = false := by simpa [hrefusal] using hrefused.symm
      rw [SinkView.settle_of_open hdue hopen]
      simp [handOver, hqueue, hrefusal, SinkAnswer.told, view, SinkView.busy]
    | some failure =>
      have hclosed : s.view.stream.closed := by simpa [hrefusal] using hrefused.symm
      rw [SinkView.settle_of_closed hdue hclosed]
      simp only [handOver, hqueue, hrefusal, QueuedBlock.map_rejections, SinkAnswer.told_answerAll]
      simp [SinkView.breakOff, view, breakWith, hqueue, Except.isOk, Except.toBool]

theorem of_answered_error (s : Sink κ) (fault : Fault) :
    SinkReport.of (s.answered (.error fault)) = s.view.breakOff := by
  rw [answered, of_reply, QueuedBlock.map_rejections, SinkAnswer.told_answerAll]
  rfl

/-- The answer of the stream, and the hand-over of the next block. -/
theorem of_answered {s : Sink κ} (hheard : s.Hears) (hfree : s.stream.outstanding = false)
    (answer : Except Fault Unit) :
    SinkReport.of (s.answered answer) = (s.view.answered answer).andThen SinkView.settle := by
  cases answer with
  | error fault =>
    have hnone : s.view.breakOff.1.settle = (s.view.breakOff.1, {}) :=
      SinkView.settle_of_queue rfl
    rw [of_answered_error, SinkView.answered, SinkReport.andThen_eq hnone, SinkTold.append_nothing]
  | ok _ =>
    cases hqueue : s.queue with
    | nil =>
      have hview : s.view.queue = [] := hqueue
      have hseen : s.view.answered (.ok ()) = (s.view, {}) := by simp [SinkView.answered, hview]
      rw [hseen, SinkReport.andThen_eq (SinkView.settle_of_queue hview)]
      simp [answered, hqueue, SinkReport.of, SinkOutput.told, SinkAnswer.told]
    | cons b rest =>
      let s₁ : Sink κ := { s with
        queue := rest
        bytesWritten := s.bytesWritten + b.bytes.length
        blocksWritten := s.blocksWritten + 1 }
      have hsink : s.answered (.ok ()) = (s₁.handOver 3).1.reply (s₁.handOver 3).2.1
          (b.answers 0 (.ok ()) ++ (s₁.handOver 3).2.2) := by
        simp [answered, hqueue, s₁]
      have hseen : s.view.answered (.ok ())
          = (s₁.view, { answers := SinkCall.told b.waiting true }) := by
        simp [SinkView.answered, view, hqueue, s₁]
      have hnext := of_handOver (s := s₁) hheard hfree 3
      rw [hsink, of_reply, hseen, List.map_append, SinkAnswer.told_append, QueuedBlock.map_answers,
        SinkAnswer.told_answerAll, SinkReport.andThen_eq hnext.symm]
      exact Prod.ext rfl (SinkTold.ext (by simp) rfl rfl)

theorem view_hear (s : Sink κ) (error : Option Fault) : (s.hear error).view = s.view := by
  unfold hear
  split <;> rfl

theorem errors_answered (s : Sink κ) (answer : Except Fault Unit) :
    (s.answered answer).2.errors = [] := by
  cases answer with
  | error fault => rfl
  | ok _ =>
    simp only [answered]
    split <;> rfl

theorem hears_reply {s : Sink κ} (h : s.Hears) (delivered : List Bytes)
    (answers : List (Nat × SinkAnswer κ)) : (s.reply delivered answers).1.Hears := h

theorem hears_handOver {s : Sink κ} (h : s.Hears) (round : Nat) : (s.handOver round).1.Hears := by
  unfold handOver
  split
  · exact h
  · split <;> exact h

theorem hears_awaitLast {s : Sink κ} (h : s.Hears) (call : SinkCall κ) :
    (s.awaitLast call).1.Hears := by
  unfold awaitLast
  split <;> exact h

theorem hears_write {s : Sink κ} (h : s.Hears) (caller : κ) (block : Bytes) :
    (s.write caller block).1.Hears := by
  simp only [write]
  split
  · exact hears_awaitLast h _
  · split
    · refine hears_reply (hears_handOver ?_ 0) _ _
      exact h
    · exact h

theorem hears_answered {s : Sink κ} (h : s.Hears) (answer : Except Fault Unit) :
    (s.answered answer).1.Hears := by
  cases answer with
  | error fault => exact h
  | ok _ =>
    simp only [answered]
    split
    · exact h
    · refine hears_reply (hears_handOver ?_ 3) _ _
      exact h

theorem hears_hear {s : Sink κ} (h : s.Hears) {error : Option Fault}
    (herror : error.isSome → s.stream.destroyed) : (s.hear error).Hears := by
  unfold hear
  split
  · intro hsome
    cases hheard : s.heard with
    | some fault => exact h (by simp [hheard])
    | none => exact herror (by simpa [hheard] using hsome)
  · exact h

theorem hears_met {s : Sink κ} (h : s.Hears) (e : StreamEvent) :
    ({ s with stream := (s.stream.step e).1 } : Sink κ).Hears :=
  fun hsome => OutputStream.destroyed_step (h hsome) e

theorem due_of_sound {s : Sink κ} (hs : s.core.Sound) : s.view.due = false := by
  have hbusy : s.stream.outstanding = !s.queue.isEmpty := hs.outstanding_eq
  simp [SinkView.due, view, hbusy]

theorem of_onStream {s : Sink κ} (hs : s.core.Sound) (hheard : s.Hears) (e : StreamEvent) :
    SinkReport.of (s.onStream e) = s.view.step (.stream e) := by
  let s₁ : Sink κ := { s with stream := (s.stream.step e).1 }.hear (s.stream.step e).2.error
  have hview : s₁.view = (s.view.meet e).1 := view_hear _ _
  have hheard₁ : s₁.Hears := hears_hear (hears_met hheard e) OutputStream.destroyed_of_error
  cases hanswer : (s.stream.step e).2.answer with
  | none =>
    have hsink : s.onStream e = (s₁, { errors := (s.stream.step e).2.error.toList }) := by
      simp [onStream, hanswer, s₁]
    have hnote : s.view.note (.stream e) = s.view.meet e := SinkView.onStream_of_none hanswer
    have hidle : (s.view.meet e).1.due = false :=
      (SinkView.due_meet hanswer).trans (due_of_sound hs)
    rw [SinkView.step_of_not_due (by rw [hnote, hidle]), hnote, hsink]
    exact Prod.ext hview rfl
  | some answer =>
    have hsink : s.onStream e = ((s₁.answered answer).1,
        { (s₁.answered answer).2 with errors := (s.stream.step e).2.error.toList }) := by
      simp [onStream, hanswer, s₁]
    have hnote : s.view.note (.stream e) = (s.view.meet e).andThen (·.answered answer) :=
      SinkView.onStream_of_some hanswer
    have hfree : s₁.stream.outstanding = false := by
      have hstream : s₁.stream = (s.stream.step e).1 := congrArg SinkView.stream hview
      rw [hstream]
      exact (OutputStream.outstanding_of_some hanswer).2
    have hnext : SinkReport.of (s₁.answered answer)
        = ((s.view.meet e).1.answered answer).andThen SinkView.settle := by
      rw [of_answered hheard₁ hfree, hview]
    rw [SinkView.step, hnote, SinkReport.andThen_assoc, SinkReport.andThen_eq hnext.symm, hsink]
    refine Prod.ext rfl (SinkTold.ext rfl ?_ ?_)
    · simp [SinkReport.of, SinkOutput.told, SinkView.meet]
    · simp [SinkReport.of, SinkOutput.told, SinkView.meet, errors_answered, view]

/-- A call that is only waited for. -/
theorem of_wait {s : Sink κ} (hs : s.core.Sound) {e : SinkEvent κ} {call : SinkCall κ}
    (he : s.view.note e = s.view.wait call) :
    SinkReport.of (s.awaitLast call) = s.view.step e := by
  rw [of_awaitLast, ← he]
  refine (SinkView.step_of_not_due ?_).symm
  rw [he, SinkView.due_wait, due_of_sound hs]

theorem of_write {s : Sink κ} (hs : s.core.Sound) (hheard : s.Hears) (caller : κ)
    (block : Bytes) : SinkReport.of (s.write caller block) = s.view.step (.write caller block) := by
  let call : SinkCall κ := { caller, kind := .write }
  cases hlate : block.isEmpty || s.broken.isSome with
  | true =>
    have hwrite : s.write caller block = s.awaitLast call := by
      simp only [write, hlate, if_true, call]
    have hnote : s.view.note (.write caller block) = s.view.wait call := by
      simp only [SinkView.note, view, hlate, if_true, call]
    rw [hwrite]
    exact of_wait hs hnote
  | false =>
    let s₁ : Sink κ := { s with queue := s.queue ++ [{ bytes := block, waiting := [call] }] }
    have hnote : s.view.note (.write caller block) = (s₁.view, {}) := by
      simp only [SinkView.note, view, hlate, s₁, call]
      rfl
    have hbusy : s.stream.outstanding = !s.queue.isEmpty := hs.outstanding_eq
    cases hidle : s.queue.isEmpty with
    | true =>
      have hwrite : s.write caller block
          = (s₁.handOver 0).1.reply (s₁.handOver 0).2.1 (s₁.handOver 0).2.2 := by
        simp [write, hlate, hidle, s₁, call]
      have hfree : s.stream.outstanding = false := by simp [hbusy, hidle]
      rw [hwrite, of_reply, of_handOver (s := s₁) hheard hfree, SinkView.step, hnote,
        SinkReport.andThen, SinkTold.nothing_append]
    | false =>
      have hwrite : s.write caller block = (s₁, {}) := by
        simp [write, hlate, hidle, s₁, call]
      have hdue : s₁.view.due = false := by
        simp [SinkView.due, view, s₁, hbusy, hidle]
      rw [hwrite, SinkView.step_of_not_due (by rw [hnote, hdue]), hnote]
      rfl

/-- What a sink at rest does is seen in its view. -/
theorem of_step {s : Sink κ} (hs : s.core.Sound) (hheard : s.Hears) (e : SinkEvent κ) :
    SinkReport.of (s.step e) = s.view.step e := by
  cases e with
  | stream e => exact of_onStream hs hheard e
  | flush caller => exact of_wait hs rfl
  | close caller => exact of_wait hs rfl
  | write caller block => exact of_write hs hheard caller block

theorem hears_step {s : Sink κ} (h : s.Hears) (e : SinkEvent κ) : (s.step e).1.Hears := by
  cases e with
  | write caller block => exact hears_write h caller block
  | flush caller => exact hears_awaitLast h _
  | close caller => exact hears_awaitLast h _
  | stream e =>
    have hheard := hears_hear (hears_met h e) OutputStream.destroyed_of_error
    simp only [step, onStream]
    split
    · exact hheard
    · exact hears_answered hheard _

/-- All that a run of a sink tells. -/
def told (s : Sink κ) : List (SinkEvent κ) → SinkTold κ
  | [] => {}
  | e :: rest => (s.step e).2.told ++ (s.step e).1.told rest

theorem run_view {s : Sink κ} (hs : s.core.Sound) (hheard : s.Hears) (es : List (SinkEvent κ)) :
    ((s.run es).view, s.told es) = s.view.run es := by
  induction es generalizing s with
  | nil => rfl
  | cons e rest ih =>
    have hnext := ih ((step_turn hs e).sound hs) (hears_step hheard e)
    rw [SinkView.run, ← of_step hs hheard e, SinkReport.andThen_eq hnext.symm]
    rfl

end Sink


-- ---------------------------------------------------------------------------
-- The view of the turns
-- ---------------------------------------------------------------------------

namespace SinkLoop

/-- An error that is still to be reported. -/
def pending (l : SinkLoop κ) : SinkTold κ := { errors := l.unreported.toList }

/-- What the turns have come to. An error counts as told. -/
def view (l : SinkLoop κ) : SinkReport κ := (l.sink.view, l.pending)

def viewAfter (next : SinkLoop κ × SinkOutput κ) : SinkReport κ :=
  (next.1.sink.view, next.2.told ++ next.1.pending)

structure Sound (l : SinkLoop κ) : Prop where
  hears : l.sink.Hears
  destroyed : l.unreported.isSome → l.sink.stream.destroyed

theorem Sound.awaitLast {l : SinkLoop κ} (hl : l.Sound) (call : SinkCall κ) :
    (l.put (l.sink.awaitLast call)).1.Sound := by
  refine ⟨Sink.hears_awaitLast hl.hears call, fun hsome => ?_⟩
  have hkept : (l.sink.awaitLast call).1.stream = l.sink.stream := by
    unfold Sink.awaitLast
    split <;> rfl
  exact hkept ▸ hl.destroyed hsome

theorem viewAfter_put (l : SinkLoop κ) {next : Sink κ × SinkOutput κ}
    (herrors : next.2.errors = []) :
    viewAfter (l.put next) = l.view.andThen fun _ => SinkReport.of next := by
  refine Prod.ext rfl (SinkTold.ext (List.append_nil _) (add_comm _ _) ?_)
  simp [viewAfter, put, view, pending, SinkReport.andThen, SinkReport.of, SinkOutput.told, herrors]

theorem viewAfter_awaitLast (l : SinkLoop κ) (call : SinkCall κ) :
    viewAfter (l.put (l.sink.awaitLast call)) = l.view.andThen (·.wait call) := by
  have herrors : (l.sink.awaitLast call).2.errors = [] := by
    unfold Sink.awaitLast
    split <;> rfl
  rw [viewAfter_put l herrors, Sink.of_awaitLast]
  rfl

theorem viewAfter_write (l : SinkLoop κ) (caller : κ) (block : Bytes) :
    viewAfter (l.write caller block) = l.view.andThen (·.note (.write caller block)) := by
  let call : SinkCall κ := { caller, kind := .write }
  cases hlate : block.isEmpty || l.sink.broken.isSome with
  | true =>
    have hwrite : l.write caller block = l.put (l.sink.awaitLast call) := by
      simp only [write, hlate, if_true, call]
    have hnote : l.sink.view.note (.write caller block) = l.sink.view.wait call := by
      simp only [SinkView.note, Sink.view, hlate, if_true, call]
    rw [hwrite, viewAfter_awaitLast]
    exact SinkReport.andThen_congr hnote.symm
  | false =>
    let s : Sink κ :=
      { l.sink with queue := l.sink.queue ++ [{ bytes := block, waiting := [call] }] }
    have hwrite : l.write caller block = l.put (s, {}) := by
      simp [write, hlate, s, call]
    have hnote : l.sink.view.note (.write caller block) = (s.view, {}) := by
      simp only [SinkView.note, Sink.view, hlate, s, call]
      rfl
    rw [hwrite, viewAfter_put l rfl]
    exact SinkReport.andThen_congr hnote.symm

theorem viewAfter_nothing (l : SinkLoop κ) : viewAfter (l, {}) = l.view :=
  Prod.ext rfl (SinkTold.nothing_append _)

theorem viewAfter_answered (l : SinkLoop κ) (answer : Except Fault Unit) :
    viewAfter (l.answered answer) = l.view.andThen (·.answered answer) := by
  cases answer with
  | error fault =>
    rw [answered, viewAfter_put l rfl, Sink.of_answered_error]
    rfl
  | ok _ =>
    cases hqueue : l.sink.queue with
    | nil =>
      have hview : l.sink.view.queue = [] := hqueue
      have hseen : l.sink.view.answered (.ok ()) = (l.sink.view, {}) := by
        simp [SinkView.answered, hview]
      have hloop : l.answered (.ok ()) = (l, {}) := by simp [answered, hqueue]
      rw [hloop, viewAfter_nothing, SinkReport.andThen_eq hseen, SinkTold.append_nothing]
      rfl
    | cons b rest =>
      let s : Sink κ := { l.sink with
        queue := rest
        bytesWritten := l.sink.bytesWritten + b.bytes.length
        blocksWritten := l.sink.blocksWritten + 1 }
      have hloop : l.answered (.ok ()) = l.put (s.reply [] (b.answers 0 (.ok ()))) := by
        simp [answered, hqueue, s]
      have hseen : l.sink.view.answered (.ok ())
          = (s.view, { answers := SinkCall.told b.waiting true }) := by
        simp [SinkView.answered, Sink.view, hqueue, s]
      rw [hloop, viewAfter_put l rfl, Sink.of_reply, QueuedBlock.map_answers,
        SinkAnswer.told_answerAll]
      exact SinkReport.andThen_congr hseen.symm

theorem viewAfter_onStream {l : SinkLoop κ} (hl : l.Sound) (e : StreamEvent) :
    viewAfter (l.onStream e) = l.view.andThen (·.note (.stream e)) := by
  let l₁ : SinkLoop κ :=
    { sink := { l.sink with stream := (l.sink.stream.step e).1 }
      unreported := l.unreported <|> (l.sink.stream.step e).2.error }
  have hmet : l₁.view = l.view.andThen (·.meet e) := by
    refine Prod.ext rfl (SinkTold.ext rfl rfl ?_)
    cases hunreported : l.unreported with
    | none => simp [view, pending, l₁, hunreported, SinkReport.andThen, SinkView.meet, Sink.view]
    | some fault =>
      -- the stream is destroyed, and reports no second error
      have hnone := OutputStream.error_of_destroyed (hl.destroyed (by simp [hunreported])) e
      simp [view, pending, l₁, hunreported, SinkReport.andThen, SinkView.meet, Sink.view, hnone]
  cases hanswer : (l.sink.stream.step e).2.answer with
  | none =>
    have hnote : l.sink.view.note (.stream e) = l.sink.view.meet e :=
      SinkView.onStream_of_none hanswer
    have hloop : l.onStream e = (l₁, {}) := by simp [onStream, hanswer, l₁]
    rw [hloop, viewAfter_nothing, hmet]
    exact SinkReport.andThen_congr hnote.symm
  | some answer =>
    have hnote : l.sink.view.note (.stream e) = (l.sink.view.meet e).andThen (·.answered answer) :=
      SinkView.onStream_of_some hanswer
    have hloop : l.onStream e = l₁.answered answer := by simp [onStream, hanswer, l₁]
    rw [hloop, viewAfter_answered, hmet, SinkReport.andThen_assoc]
    exact SinkReport.andThen_congr hnote.symm

theorem viewAfter_handOver {l : SinkLoop κ} (hl : l.Sound) (hdue : l.due) :
    viewAfter l.handOver = l.view.andThen SinkView.settle := by
  have hfree : l.sink.stream.outstanding = false := by
    simp only [due, Bool.and_eq_true, Bool.not_eq_true'] at hdue
    exact hdue.2
  rw [handOver, viewAfter_put l rfl, Sink.of_reply]
  exact SinkReport.andThen_congr (Sink.of_handOver hl.hears hfree 0)

theorem viewAfter_report (l : SinkLoop κ) : viewAfter l.report = l.view.andThen (·, {}) :=
  Prod.ext (Sink.view_hear ..) rfl

/-- What the turns come to with an event that can come: it is noted, or the block that is due is
handed over, or nothing can be seen. -/
def settled (v : SinkView κ) : SinkLoopEvent κ → SinkReport κ
  | .outside e => v.note e
  | .handedOver => v.settle
  | .reported => (v, {})

theorem viewAfter_advance {l : SinkLoop κ} (hl : l.Sound) {e : SinkLoopEvent κ}
    (he : l.admits e) : viewAfter (l.advance e) = l.view.andThen (settled · e) := by
  cases e with
  | handedOver => exact viewAfter_handOver hl he
  | reported => exact viewAfter_report l
  | outside e =>
    cases e with
    | write caller block => exact viewAfter_write l caller block
    | flush caller => exact viewAfter_awaitLast l _
    | close caller => exact viewAfter_awaitLast l _
    | stream e => exact viewAfter_onStream hl e

theorem sound_write {l : SinkLoop κ} (hl : l.Sound) (caller : κ) (block : Bytes) :
    (l.write caller block).1.Sound := by
  simp only [write]
  split
  · exact hl.awaitLast _
  · exact ⟨hl.hears, hl.destroyed⟩

theorem sound_answered {l : SinkLoop κ} (hl : l.Sound) (answer : Except Fault Unit) :
    (l.answered answer).1.Sound := by
  cases answer with
  | error fault => exact ⟨hl.hears, hl.destroyed⟩
  | ok _ =>
    simp only [answered]
    split
    · exact hl
    · exact ⟨hl.hears, hl.destroyed⟩

theorem sound_onStream {l : SinkLoop κ} (hl : l.Sound) (e : StreamEvent) :
    (l.onStream e).1.Sound := by
  have hmet : ({
      sink := { l.sink with stream := (l.sink.stream.step e).1 }
      unreported := l.unreported <|> (l.sink.stream.step e).2.error } : SinkLoop κ).Sound := by
    refine ⟨Sink.hears_met hl.hears e, fun hsome => ?_⟩
    cases hunreported : l.unreported with
    | none => exact OutputStream.destroyed_of_error (by simpa [hunreported] using hsome)
    | some fault => exact OutputStream.destroyed_step (hl.destroyed (by simp [hunreported])) e
  simp only [onStream]
  split
  · exact hmet
  · exact sound_answered hmet _

theorem sound_handOver {l : SinkLoop κ} (hl : l.Sound) : l.handOver.1.Sound := by
  refine ⟨Sink.hears_handOver hl.hears 0, fun hsome => ?_⟩
  have hkept : (l.sink.handOver 0).1.stream.destroyed = l.sink.stream.destroyed := by
    unfold Sink.handOver
    split
    · rfl
    · split <;> rfl
  exact hkept.trans (hl.destroyed hsome)

theorem sound_step {l : SinkLoop κ} (hl : l.Sound) (e : SinkLoopEvent κ) :
    (l.step e).1.Sound := by
  unfold step
  split
  · cases e with
    | handedOver => exact sound_handOver hl
    | reported =>
      refine ⟨Sink.hears_hear hl.hears hl.destroyed, fun hsome => ?_⟩
      simp [advance, report] at hsome
    | outside e =>
      cases e with
      | write caller block => exact sound_write hl caller block
      | flush caller => exact hl.awaitLast _
      | close caller => exact hl.awaitLast _
      | stream e => exact sound_onStream hl e
  · exact hl


-- ---------------------------------------------------------------------------
-- Runs of turns
-- ---------------------------------------------------------------------------

/-- What an event that can come brings from outside. -/
def entered (l : SinkLoop κ) : SinkLoopEvent κ → List (SinkEvent κ)
  | .outside e => if l.admits (.outside e) then [e] else []
  | .handedOver | .reported => []

/-- The sink after a list of turns. -/
def run (l : SinkLoop κ) : List (SinkLoopEvent κ) → SinkLoop κ
  | [] => l
  | e :: rest => (l.step e).1.run rest

/-- What has come from outside in a run. -/
def met (l : SinkLoop κ) : List (SinkLoopEvent κ) → List (SinkEvent κ)
  | [] => []
  | e :: rest => l.entered e ++ (l.step e).1.met rest

def told (l : SinkLoop κ) : List (SinkLoopEvent κ) → SinkTold κ
  | [] => {}
  | e :: rest => (l.step e).2.told ++ (l.step e).1.told rest

theorem due_view (l : SinkLoop κ) : l.sink.view.due = l.due := rfl

/-- While a block is due, the stream has nothing to answer. -/
theorem closes_of_admits {l : SinkLoop κ} (hdue : l.due) {e : StreamEvent}
    (he : l.admits (.outside (.stream e))) : e.closes := by
  have hfree : l.sink.stream.outstanding = false := (SinkView.due_iff.mp (l.due_view.trans hdue)).2
  cases e with
  | acknowledged => simp [admits, hfree] at he
  | failed message => simp [admits, hfree] at he
  | ended => rfl
  | destroyed message => rfl

/-- What a turn does to what the turns have come to. -/
theorem tracks_step {l : SinkLoop κ} (hl : l.Sound) {start : SinkView κ} {past : SinkTold κ}
    {met : List (SinkEvent κ)} (h : start.Tracks (l.sink.view, past ++ l.pending) met)
    (e : SinkLoopEvent κ) :
    start.Tracks ((l.step e).1.sink.view, past ++ (l.step e).2.told ++ (l.step e).1.pending)
      (met ++ l.entered e) := by
  cases hadmits : l.admits e with
  | false =>
    have hstep : l.step e = (l, {}) := by simp [step, hadmits]
    have hentered : l.entered e = [] := by cases e <;> simp [entered, hadmits]
    rw [hstep, hentered, List.append_nil]
    simpa [SinkOutput.told, SinkAnswer.told] using h
  | true =>
    have hstep : l.step e = l.advance e := by simp [step, hadmits]
    have hseen := viewAfter_advance hl hadmits
    have hreport : ((l.step e).1.sink.view, past ++ (l.step e).2.told ++ (l.step e).1.pending)
        = SinkReport.andThen (l.sink.view, past ++ l.pending) (settled · e) := by
      rw [hstep, SinkTold.append_assoc]
      have hview := congrArg Prod.fst hseen
      have htold := congrArg (past ++ ·.2) hseen
      exact Prod.ext hview (htold.trans (SinkTold.append_assoc ..).symm)
    rw [hreport]
    cases e with
    | handedOver => simpa [entered, settled] using h.settle
    | reported => simpa [entered, settled, SinkReport.andThen] using h
    | outside e =>
      have hentered : l.entered (.outside e) = [e] := by simp [entered, hadmits]
      rw [hentered]
      cases hdue : l.due with
      | false => exact h.note_idle hdue e
      | true =>
        cases e with
        | write caller block => exact h.note_call hdue rfl
        | flush caller => exact h.note_call hdue rfl
        | close caller => exact h.note_call hdue rfl
        | stream e => exact h.note_close hdue (closes_of_admits hdue hadmits)

/-- The induction over a run of turns. -/
theorem tracks_run {l : SinkLoop κ} (hl : l.Sound) {start : SinkView κ} {past : SinkTold κ}
    {met : List (SinkEvent κ)} (h : start.Tracks (l.sink.view, past ++ l.pending) met)
    (turns : List (SinkLoopEvent κ)) :
    (l.run turns).Sound ∧ start.Tracks
      ((l.run turns).sink.view, past ++ l.told turns ++ (l.run turns).pending)
      (met ++ l.met turns) := by
  induction turns generalizing l past met with
  | nil => simpa [run, told, SinkLoop.met] using ⟨hl, h⟩
  | cons e rest ih =>
    have hnext := ih (sound_step hl e) (tracks_step hl h e)
    simpa [run, told, SinkLoop.met, SinkTold.append_assoc] using hnext

/-- Left alone, the turns hand over what is due and report what is not reported. -/
theorem of_rest {l : SinkLoop κ} (hl : l.Sound) :
    SinkReport.of l.rest = l.view.andThen SinkView.settle := by
  have hhanded : viewAfter (l.step .handedOver) = l.view.andThen SinkView.settle := by
    cases hdue : l.due with
    | true =>
      have hstep : l.step .handedOver = l.handOver := by simp [step, admits, advance, hdue]
      rw [hstep, viewAfter_handOver hl hdue]
    | false =>
      have hstep : l.step .handedOver = (l, {}) := by simp [step, admits, hdue]
      have hnone : l.sink.view.settle = (l.sink.view, {}) := SinkView.settle_of_not_due hdue
      rw [hstep, viewAfter_nothing, view, SinkReport.andThen_eq hnone, SinkTold.append_nothing]
  have herrors : (l.step .handedOver).2.errors = [] := by
    unfold step
    split <;> rfl
  have hreported (l₁ : SinkLoop κ) : (l₁.step .reported).1.sink.view = l₁.sink.view ∧
      (l₁.step .reported).2.errors = l₁.unreported.toList := by
    cases hunreported : l₁.unreported with
    | none => simp [step, admits, hunreported]
    | some fault => simp [step, admits, hunreported, advance, report, Sink.view_hear]
  rw [← hhanded]
  refine Prod.ext (hreported _).1 (SinkTold.ext ?_ ?_ ?_)
  · simp [SinkReport.of, rest, SinkOutput.told, viewAfter, pending]
  · simp [SinkReport.of, rest, SinkOutput.told, viewAfter, pending]
  · simp [SinkReport.of, rest, SinkOutput.told, viewAfter, pending, herrors, hreported]

theorem tracks_fresh (ended destroyed : Bool) :
    (Sink.fresh ended destroyed : Sink κ).view.Tracks
      ((Sink.fresh ended destroyed).view, {}) [] where
  sound := ⟨by simp [Sink.view, Sink.fresh], by simp [Sink.view, Sink.fresh]⟩
  settled := ⟨[], .nil, by
    rw [SinkReport.andThen_eq (SinkView.settle_of_queue rfl), SinkTold.append_nothing]
    rfl⟩
  closed hdue := by simp [SinkView.due, Sink.view, Sink.fresh] at hdue

/-- Whatever turns a new sink takes, once it is left alone it has come to what it comes to at rest
with the same events, where some that close the stream come a little earlier: the blocks passed to the
stream, who was answered well and who was not, the errors reported and the counters are the same. -/
theorem run_eq_earlier (ended destroyed : Bool) (turns : List (SinkLoopEvent κ)) :
    let l : SinkLoop κ := { sink := Sink.fresh ended destroyed }
    let s : Sink κ := Sink.fresh ended destroyed
    ∃ es, SinkEvent.Hastened es (l.met turns) ∧
      (l.run turns).rest.1.view = (s.run es).view ∧
      l.told turns ++ (l.run turns).rest.2.told = s.told es := by
  intro l s
  have hl : l.Sound := ⟨by simp [Sink.Hears, l, Sink.fresh], by simp [l]⟩
  have hstart : s.view.Tracks (l.sink.view, {} ++ l.pending) [] := tracks_fresh ended destroyed
  obtain ⟨hsound, htracks⟩ := tracks_run hl hstart turns
  obtain ⟨es, hes, hrun⟩ := htracks.settled
  have hrest := of_rest hsound
  have hsink := Sink.run_view (Sink.fresh_sound ended destroyed) hl.hears es
  rw [← hsink, SinkTold.nothing_append] at hrun
  refine ⟨es, hes, (congrArg Prod.fst hrest).trans (congrArg Prod.fst hrun), ?_⟩
  have htold := congrArg (l.told turns ++ ·.2) hrest
  exact htold.trans ((SinkTold.append_assoc ..).symm.trans (congrArg Prod.snd hrun))

/-- A stream that is destroyed between a call and its turn gets nothing. -/
example :
    let l : SinkLoop Nat := { sink := Sink.fresh false false }
    let turns : List (SinkLoopEvent Nat) :=
      [.outside (.write 0 [0x61]), .outside (.stream (.destroyed none)), .handedOver]
    (l.told turns).delivered = [] ∧ (l.run turns).sink.broken.isSome :=
  ⟨rfl, rfl⟩

end SinkLoop


-- ---------------------------------------------------------------------------
-- The order of blocks
-- ---------------------------------------------------------------------------

/-- The block an event brings, if it holds anything. -/
def SinkEvent.offered? : SinkEvent κ → Option Bytes
  | .write _ block => if block.isEmpty then none else some block
  | .flush _ | .close _ | .stream _ => none

theorem SinkEvent.Hastened.offered_eq {es met : List (SinkEvent κ)} (h : Hastened es met) :
    es.filterMap offered? = met.filterMap offered? := by
  have hopen (events : List (SinkEvent κ)) :
      (events.filter (!·.closes)).filterMap offered? = events.filterMap offered? := by
    rw [List.filterMap_filter]
    refine List.filterMap_congr fun e _ => ?_
    cases hclose : e.closes with
    | false => simp
    | true =>
      obtain ⟨event, rfl, -⟩ := SinkView.exists_of_closes hclose
      simp [offered?]
  rw [← hopen es, h.filter_eq, hopen met]

namespace Sink

theorem offered_history (s : Sink κ) (es : List (SinkEvent κ)) :
    (s.history es).filterMap SinkMoment.offered? = es.filterMap SinkEvent.offered? := by
  induction es generalizing s with
  | nil => rfl
  | cons e rest ih =>
    rw [history_cons, List.filterMap_append, ih, offered_moments, List.filterMap_cons]
    cases e with
    | write caller block => cases block <;> simp [opening, SinkEvent.offered?]
    | flush caller => simp [opening, SinkEvent.offered?]
    | close caller => simp [opening, SinkEvent.offered?]
    | stream e => simp [offered_opening_stream, SinkEvent.offered?]

theorem passed_history (s : Sink κ) (es : List (SinkEvent κ)) :
    (s.history es).filterMap SinkMoment.passed? = (s.told es).delivered := by
  induction es generalizing s with
  | nil => rfl
  | cons e rest ih =>
    rw [history_cons, List.filterMap_append, ih, passed_moments]
    rfl

end Sink

/-- Turn by turn, too, the stream gets the first of the blocks offered, each whole and in order. -/
theorem SinkLoop.delivered_prefix (ended destroyed : Bool) (turns : List (SinkLoopEvent κ)) :
    let l : SinkLoop κ := { sink := Sink.fresh ended destroyed }
    (l.told turns).delivered <+: (l.met turns).filterMap SinkEvent.offered? := by
  intro l
  obtain ⟨es, hes, -, htold⟩ := run_eq_earlier ended destroyed turns
  obtain ⟨-, -, hadmits⟩ := Sink.run_fits (κ := κ) (Sink.fresh_sound ended destroyed)
    (Sink.fresh_fits ended destroyed) es
  have horder := (SinkLedger.steady_empty.enterAll hadmits).in_order
  rw [SinkLedger.passed_enterAll, SinkLedger.offered_enterAll, Sink.passed_history,
    Sink.offered_history, hes.offered_eq] at horder
  refine List.IsPrefix.trans ?_ horder
  rw [← htold]
  exact List.prefix_append ..

end FileSearch
