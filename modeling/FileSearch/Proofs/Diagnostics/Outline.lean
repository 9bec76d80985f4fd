import FileSearch.Output.Sink
import FileSearch.Pool

/-!
# Outlines

A pool does not look at its items, and a sink looks at a block only to see whether it is empty. So
both take the same steps when less is known of items and blocks, and of what tasks failed with.
-/

namespace FileSearch


-- ---------------------------------------------------------------------------
-- Pools
-- ---------------------------------------------------------------------------

namespace Pool

variable {α β : Type} (f : α → β) (p : Pool α)

/-- The pool with less known of its items, and nothing of their failures. -/
def outline : Pool β where
  limit := p.limit
  source := p.source
  started := p.started
  live := p.live.map fun t => (t.1, f t.2)
  waiting := p.waiting.map f

theorem asks_outline : (p.outline f).asks = p.asks := by
  simp [asks, outline]

theorem settled_outline : (p.outline f).settled = p.settled := by
  simp [settled, outline]

theorem lookup_outline (index : Nat) :
    (p.outline f).live.lookup index = (p.live.lookup index).map f := by
  simp only [outline]
  induction p.live with
  | nil => rfl
  | cons t rest ih =>
    rw [List.map_cons, List.lookup_cons, List.lookup_cons, ih]
    cases index == t.1 <;> rfl

theorem update_outline (index : Nat) {g : α → α} {h : β → β} (hg : ∀ a, f (g a) = h (f a)) :
    (p.update index g).outline f = (p.outline f).update index h := by
  simp only [outline, update, List.map_map, Pool.mk.injEq, true_and, and_true]
  refine List.map_congr_left fun t _ => ?_
  by_cases hindex : t.1 = index <;> simp [hindex, hg]

theorem startWaiting_outline :
    (p.outline f).startWaiting
      = (p.startWaiting.1.outline f, p.startWaiting.2.map fun t => (t.1, f t.2)) := by
  have hslot : (p.outline f).hasSlot = p.hasSlot := by simp [hasSlot, outline]
  have hwaiting : (p.outline f).waiting = p.waiting.map f := rfl
  unfold startWaiting
  rw [hwaiting, hslot]
  cases p.waiting with
  | none => rfl
  | some item =>
    cases p.hasSlot with
    | false => rfl
    | true => simp [start, outline]

end Pool

/-- The event with less known of its item, and nothing of a failure. -/
def PoolEvent.outline {α β : Type} (f : α → β) : PoolEvent α → PoolEvent β
  | .delivered item => .delivered (f item)
  | .sourceEnded => .sourceEnded
  | .sourceFailed thrown => .sourceFailed thrown
  | .finished index _ => .finished index none

namespace Pool

variable {α β : Type} (f : α → β) (p : Pool α)

/-- A pool steps the same way when less is known of it. -/
theorem step_outline (e : PoolEvent α) :
    (p.outline f).step (e.outline f)
      = ((p.step e).1.outline f, (p.step e).2.map fun t => (t.1, f t.2)) := by
  cases e with
  | delivered item =>
    simp only [PoolEvent.outline, step, asks_outline]
    cases p.asks with
    | false => rfl
    | true => exact startWaiting_outline f { p with waiting := some item }
  | sourceEnded =>
    simp only [PoolEvent.outline, step, asks_outline]
    cases p.asks <;> rfl
  | sourceFailed thrown =>
    simp only [PoolEvent.outline, step, asks_outline]
    cases p.asks <;> rfl
  | finished index failure =>
    have hlive : (p.outline f).isLive index = p.isLive index := by
      simp [isLive, outline, Function.comp_def]
    have hfinish : (p.outline f).finish index none = (p.finish index failure).outline f := by
      simp [finish, outline, List.filter_map, Function.comp_def]
    simp only [PoolEvent.outline, step, hlive, hfinish]
    cases p.isLive index with
    | false => rfl
    | true => exact startWaiting_outline f (p.finish index failure)

/-- Pools that look alike step alike, and start as many items. -/
theorem step_congr {p q : Pool α} {f : α → β} (hpool : p.outline f = q.outline f)
    {e e' : PoolEvent α} (he : e.outline f = e'.outline f) :
    (p.step e).1.outline f = (q.step e').1.outline f ∧
      (p.step e).2.length = (q.step e').2.length := by
  have hstep : ((p.step e).1.outline f, (p.step e).2.map fun t => (t.1, f t.2))
      = ((q.step e').1.outline f, (q.step e').2.map fun t => (t.1, f t.2)) := by
    rw [← step_outline, ← step_outline, hpool, he]
  obtain ⟨hnext, hstarted⟩ := Prod.mk.inj hstep
  exact ⟨hnext, by simpa using congrArg List.length hstarted⟩

end Pool


-- ---------------------------------------------------------------------------
-- Sinks
-- ---------------------------------------------------------------------------

section Sinks

variable {κ : Type}

namespace QueuedBlock

/-- The block with nothing known of its bytes. -/
def hollow (b : QueuedBlock κ) : QueuedBlock κ := { b with bytes := [] }

theorem rejections_hollow (failure : Failure) (round : Nat) (queue : List (QueuedBlock κ)) :
    rejections failure round (queue.map hollow) = rejections failure round queue := by
  induction queue generalizing round with
  | nil => rfl
  | cons b rest ih =>
    rw [List.map_cons, rejections, rejections, ih]
    rfl

theorem await_hollow (call : SinkCall κ) (queue : List (QueuedBlock κ)) :
    await call (queue.map hollow) = (await call queue).map hollow := by
  match queue with
  | [] => rfl
  | [b] => rfl
  | b :: c :: rest =>
    have ih := await_hollow call (c :: rest)
    simp only [List.map_cons, await] at ih ⊢
    rw [ih]

end QueuedBlock

namespace Sink

/-- The sink with nothing known of the bytes of its blocks. -/
def hollow (s : Sink κ) : Sink κ :=
  { s with queue := s.queue.map QueuedBlock.hollow, bytesWritten := 0 }

/-- What can be told of a step of the sink without the bytes of the blocks. -/
def gist (next : Sink κ × SinkOutput κ) : Sink κ × List (SinkAnswer κ) :=
  (next.1.hollow, next.2.answers)

variable {s t : Sink κ}

theorem isEmpty_queue_congr (h : s.hollow = t.hollow) : s.queue.isEmpty = t.queue.isEmpty := by
  have hqueue : s.hollow.queue.isEmpty = t.hollow.queue.isEmpty := by rw [h]
  simpa [hollow] using hqueue

theorem reply_congr (h : s.hollow = t.hollow) {delivered delivered' : List Bytes}
    {answers answers' : List (Nat × SinkAnswer κ)} (hanswers : answers = answers') :
    gist (s.reply delivered answers) = gist (t.reply delivered' answers') := by
  have hreply (u : Sink κ) (delivered : List Bytes) : gist (u.reply delivered answers)
      = ((u.hollow.reply [] answers).1, (u.hollow.reply [] answers).2.answers) := rfl
  rw [← hanswers, hreply, hreply, h]

theorem handOver_hollow (s : Sink κ) (round : Nat) :
    (s.hollow.handOver round).1 = (s.handOver round).1.hollow ∧
      (s.hollow.handOver round).2.2 = (s.handOver round).2.2 := by
  have hrefusal : s.hollow.refusal? = s.refusal? := rfl
  have hqueue : s.hollow.queue = s.queue.map QueuedBlock.hollow := rfl
  unfold handOver
  rw [hrefusal, hqueue]
  cases hblocks : s.queue with
  | nil => exact ⟨rfl, rfl⟩
  | cons b rest =>
    cases s.refusal? with
    | some failure => exact ⟨rfl, QueuedBlock.rejections_hollow failure round (b :: rest)⟩
    | none =>
      refine ⟨?_, rfl⟩
      simp only [hollow, List.map_cons, hblocks]

theorem handOver_congr (h : s.hollow = t.hollow) (round : Nat) :
    (s.handOver round).1.hollow = (t.handOver round).1.hollow ∧
      (s.handOver round).2.2 = (t.handOver round).2.2 := by
  obtain ⟨hs, hanswers⟩ := s.handOver_hollow round
  obtain ⟨ht, hanswers'⟩ := t.handOver_hollow round
  rw [← hs, ← ht, ← hanswers, ← hanswers', h]
  exact ⟨rfl, rfl⟩

theorem awaitLast_congr (h : s.hollow = t.hollow) (call : SinkCall κ) :
    gist (s.awaitLast call) = gist (t.awaitLast call) := by
  have hstanding : s.standing = t.standing := by
    show s.hollow.standing = t.hollow.standing
    rw [h]
  have hawait (u : Sink κ) : { u with queue := QueuedBlock.await call u.queue }.hollow
      = { u.hollow with queue := QueuedBlock.await call u.hollow.queue } := by
    simp only [hollow, QueuedBlock.await_hollow]
  simp only [awaitLast, isEmpty_queue_congr h, hstanding]
  cases t.queue.isEmpty with
  | true => exact reply_congr h rfl
  | false => exact congrArg (fun u => (u, [])) ((hawait s).trans (h ▸ (hawait t).symm))

/-- What is done with a block depends on whether it is empty. -/
theorem write_congr (h : s.hollow = t.hollow) (caller : κ) {block block' : Bytes}
    (hblock : block.isEmpty = block'.isEmpty) :
    gist (s.write caller block) = gist (t.write caller block') := by
  have hbroken : s.broken = t.broken := by
    show s.hollow.broken = t.hollow.broken
    rw [h]
  have hrefused : (block.isEmpty || s.broken.isSome) = (block'.isEmpty || t.broken.isSome) := by
    rw [hblock, hbroken]
  let call : SinkCall κ := { caller, kind := .write }
  let queued (u : Sink κ) (bytes : Bytes) : Sink κ := { u with queue := u.queue ++ [⟨bytes, [call]⟩] }
  have hqueued : (queued s block).hollow = (queued t block').hollow := by
    have hqueue (u : Sink κ) (bytes : Bytes) : (queued u bytes).hollow = queued u.hollow [] := by
      simp [queued, hollow, QueuedBlock.hollow]
    rw [hqueue, hqueue, h]
  simp only [write, hrefused, isEmpty_queue_congr h]
  cases block'.isEmpty || t.broken.isSome with
  | true => exact awaitLast_congr h call
  | false =>
    cases t.queue.isEmpty with
    | false => exact congrArg (fun u => (u, [])) hqueued
    | true =>
      obtain ⟨hsink, hanswers⟩ := handOver_congr hqueued 0
      exact reply_congr hsink hanswers

theorem answered_congr (h : s.hollow = t.hollow) (answer : Except Fault Unit) :
    gist (s.answered answer) = gist (t.answered answer) := by
  have hqueue : s.queue.map QueuedBlock.hollow = t.queue.map QueuedBlock.hollow := by
    show s.hollow.queue = t.hollow.queue
    rw [h]
  cases answer with
  | error fault =>
    have hbreak (u : Sink κ) (failure : Failure) :
        (u.breakWith failure).hollow = (u.hollow.breakWith failure) := rfl
    refine reply_congr ?_ ?_
    · rw [hbreak, hbreak, h]
    · rw [← QueuedBlock.rejections_hollow, hqueue, QueuedBlock.rejections_hollow]
  | ok _ =>
    have hpassed (u : Sink κ) (b : QueuedBlock κ) (rest : List (QueuedBlock κ)) :
        { u with
          queue := rest
          bytesWritten := u.bytesWritten + b.bytes.length
          blocksWritten := u.blocksWritten + 1 }.hollow
          = { u.hollow with
              queue := rest.map QueuedBlock.hollow
              blocksWritten := u.hollow.blocksWritten + 1 } := rfl
    cases hs : s.queue with
    | nil =>
      have ht : t.queue = [] := by simpa [hs] using hqueue.symm
      simp only [answered, hs, ht]
      exact congrArg (fun u => (u, [])) h
    | cons b rest =>
      cases ht : t.queue with
      | nil => simp [hs, ht] at hqueue
      | cons b' rest' =>
        rw [hs, ht, List.map_cons, List.map_cons, List.cons.injEq] at hqueue
        have hanswers : b.answers 0 (.ok ()) = b'.answers 0 (.ok ()) := by
          show b.hollow.answers 0 _ = b'.hollow.answers 0 _
          rw [hqueue.1]
        have hnext : { s with
            queue := rest
            bytesWritten := s.bytesWritten + b.bytes.length
            blocksWritten := s.blocksWritten + 1 }.hollow
            = { t with
              queue := rest'
              bytesWritten := t.bytesWritten + b'.bytes.length
              blocksWritten := t.blocksWritten + 1 }.hollow := by
          rw [hpassed, hpassed, h, hqueue.2]
        obtain ⟨hsink, hmore⟩ := handOver_congr hnext 3
        simp only [answered, hs, ht]
        exact reply_congr hsink (by rw [hanswers, hmore])

theorem onStream_congr (h : s.hollow = t.hollow) (e : StreamEvent) :
    gist (s.onStream e) = gist (t.onStream e) := by
  have hstream : s.stream = t.stream := by
    show s.hollow.stream = t.hollow.stream
    rw [h]
  have hheard : ({ s with stream := (t.stream.step e).1 }.hear (t.stream.step e).2.error).hollow
      = ({ t with stream := (t.stream.step e).1 }.hear (t.stream.step e).2.error).hollow := by
    have hhear (u : Sink κ) :
        ({ u with stream := (t.stream.step e).1 }.hear (t.stream.step e).2.error).hollow
          = { u.hollow with stream := (t.stream.step e).1 }.hear (t.stream.step e).2.error := by
      unfold hear
      cases hlistening : u.listening <;> simp [hollow, hlistening]
    rw [hhear, hhear, h]
  simp only [onStream, hstream]
  cases (t.stream.step e).2.answer with
  | none => exact congrArg (fun u => (u, [])) hheard
  | some answer => exact answered_congr hheard answer

end Sink

end Sinks

end FileSearch
