import FileSearch.Proofs.Output.History

/-!
# Turns of a sink

What a sink can do in one step. The rounds in which answers come and the reasons why the stream
refuses a block are left out; what remains is the queue, the failure that broke it and the counters.
Every step is one of the ten turns below (`Sink.step_turn`), and whatever holds of all runs of a sink
is proved from these.
-/

namespace FileSearch

structure SinkCore (κ : Type) where
  queue : List (QueuedBlock κ)
  broken : Option Failure
  /-- Whether a block is with the stream. -/
  outstanding : Bool
  bytesWritten : Nat
  blocksWritten : Nat

variable {κ : Type}

namespace SinkCore

/-- The calls that wait for a block. -/
def waiting (c : SinkCore κ) : List (SinkCall κ) := c.queue.flatMap (·.waiting)

/-- The outcome of the blocks queued so far, where none is left. -/
def standing (c : SinkCore κ) : Except Failure Unit :=
  match c.broken with
  | some failure => .error failure
  | none => .ok ()

/-- The first block of the queue is acknowledged. -/
def count (c : SinkCore κ) (b : QueuedBlock κ) : SinkCore κ :=
  { c with
    bytesWritten := c.bytesWritten + b.bytes.length
    blocksWritten := c.blocksWritten + 1 }

def breakWith (c : SinkCore κ) (failure : Failure) : SinkCore κ :=
  { c with queue := [], broken := some failure, outstanding := false }

/-- A block is with the stream exactly if there is one in the queue, and every block has a caller
that waits for it. -/
structure Sound (c : SinkCore κ) : Prop where
  outstanding_eq : c.outstanding = !c.queue.isEmpty
  queue_eq_nil : c.broken.isSome → c.queue = []
  code_eq : ∀ f, c.broken = some f → f.code = .outputFailed
  waiting_ne_nil : ∀ b ∈ c.queue, b.waiting ≠ []

end SinkCore

/-- The answers to calls that all end in one way. -/
def SinkCall.answerAll (calls : List (SinkCall κ)) (outcome : Except Failure Unit) :
    List (SinkAnswer κ) :=
  calls.map fun call => { call, outcome }

/-- One step of a sink, told by what comes to pass in it. -/
inductive SinkCore.Turn (c : SinkCore κ) : List (SinkMoment κ) → SinkCore κ → Prop
  | quiet : Turn c [] c
  /-- Nothing is queued; a call that brings no block, or comes too late, is answered at once. -/
  | answered {call : SinkCall κ} {block : Bytes} (hqueue : c.queue = [])
      (hblock : block = [] ∨ c.broken.isSome) :
      Turn c [.called call block, .answered { call, outcome := c.standing }] c
  | joined {call : SinkCall κ} (hqueue : c.queue ≠ []) :
      Turn c [.called call []] { c with queue := QueuedBlock.await call c.queue }
  | queued {call : SinkCall κ} {block : Bytes} (hblock : block ≠ []) (hbroken : c.broken = none)
      (hqueue : c.queue ≠ []) :
      Turn c [.called call block] { c with queue := c.queue ++ [{ bytes := block, waiting := [call] }] }
  | passed {call : SinkCall κ} {block : Bytes} (hblock : block ≠ []) (hbroken : c.broken = none)
      (hqueue : c.queue = []) :
      Turn c [.called call block, .passed block]
        { c with queue := [{ bytes := block, waiting := [call] }], outstanding := true }
  | refused {call : SinkCall κ} {block : Bytes} {failure : Failure} (hblock : block ≠ [])
      (hbroken : c.broken = none) (hqueue : c.queue = []) (hcode : failure.code = .outputFailed) :
      Turn c [.called call block, .answered { call, outcome := .error failure }]
        (c.breakWith failure)
  /-- The only block of the queue is acknowledged. -/
  | drained {b : QueuedBlock κ} {answers : List (SinkAnswer κ)} (hqueue : c.queue = [b])
      (hanswers : answers.Perm (SinkCall.answerAll b.waiting (.ok ()))) :
      Turn c (.acknowledged :: answers.map .answered)
        { c.count b with queue := [], outstanding := false }
  /-- The first block is acknowledged, and the next is passed on. -/
  | advanced {b next : QueuedBlock κ} {rest : List (QueuedBlock κ)} {answers : List (SinkAnswer κ)}
      (hqueue : c.queue = b :: next :: rest)
      (hanswers : answers.Perm (SinkCall.answerAll b.waiting (.ok ()))) :
      Turn c (.acknowledged :: .passed next.bytes :: answers.map .answered)
        { c.count b with queue := next :: rest, outstanding := true }
  /-- The first block is acknowledged, and the next is refused. -/
  | cutOff {b next : QueuedBlock κ} {rest : List (QueuedBlock κ)} {answers : List (SinkAnswer κ)}
      {failure : Failure} (hqueue : c.queue = b :: next :: rest)
      (hcode : failure.code = .outputFailed)
      (hanswers : answers.Perm (SinkCall.answerAll b.waiting (.ok ())
        ++ SinkCall.answerAll ((next :: rest).flatMap (·.waiting)) (.error failure))) :
      Turn c (.acknowledged :: answers.map .answered) ((c.count b).breakWith failure)
  | failed {answers : List (SinkAnswer κ)} {failure : Failure} (hqueue : c.queue ≠ [])
      (hcode : failure.code = .outputFailed)
      (hanswers : answers.Perm (SinkCall.answerAll c.waiting (.error failure))) :
      Turn c (.failed :: answers.map .answered) (c.breakWith failure)


-- ---------------------------------------------------------------------------
-- What a turn preserves
-- ---------------------------------------------------------------------------

namespace QueuedBlock

theorem await_ne_nil (call : SinkCall κ) {queue : List (QueuedBlock κ)} (h : queue ≠ []) :
    await call queue ≠ [] := by
  match queue with
  | [b] => simp [await]
  | b :: next :: rest => simp [await]

@[simp] theorem map_bytes_await (call : SinkCall κ) (queue : List (QueuedBlock κ)) :
    (await call queue).map (·.bytes) = queue.map (·.bytes) := by
  fun_induction await call queue with
  | case1 => rfl
  | case2 b => rfl
  | case3 b rest hrest ih => simp [ih]

theorem waiting_await (call : SinkCall κ) {queue : List (QueuedBlock κ)} (h : queue ≠ []) :
    (await call queue).flatMap (·.waiting) = queue.flatMap (·.waiting) ++ [call] := by
  fun_induction await call queue with
  | case1 => exact absurd rfl h
  | case2 b => simp
  | case3 b rest hrest ih =>
    have hne : rest ≠ [] := fun hnil => hrest hnil
    simp [ih hne]

theorem waiting_ne_nil_of_mem_await {call : SinkCall κ} {queue : List (QueuedBlock κ)}
    (h : ∀ b ∈ queue, b.waiting ≠ []) {b : QueuedBlock κ} (hb : b ∈ await call queue) :
    b.waiting ≠ [] := by
  fun_induction await call queue with
  | case1 => simp at hb
  | case2 last =>
    simp only [List.mem_singleton] at hb
    subst hb
    simp
  | case3 first rest hrest ih =>
    rcases List.mem_cons.mp hb with rfl | hb
    · exact h _ List.mem_cons_self
    · exact ih (fun b hb => h b (List.mem_cons_of_mem _ hb)) hb

end QueuedBlock

namespace SinkCore

variable {c c' : SinkCore κ} {moments : List (SinkMoment κ)}

theorem Sound.broken_eq_none (hc : c.Sound) (hqueue : c.queue ≠ []) : c.broken = none := by
  cases hbroken : c.broken with
  | none => rfl
  | some failure => exact absurd (hc.queue_eq_nil (by simp [hbroken])) hqueue

theorem Sound.queue_eq_nil_of_waiting (hc : c.Sound) (hwaiting : c.waiting = []) :
    c.queue = [] := by
  cases hqueue : c.queue with
  | nil => rfl
  | cons b rest =>
    have hnone : b.waiting = [] :=
      List.flatMap_eq_nil_iff.mp hwaiting b (by rw [hqueue]; exact List.mem_cons_self)
    exact absurd hnone (hc.waiting_ne_nil b (by rw [hqueue]; exact List.mem_cons_self))

theorem sound_breakWith {failure : Failure} (hcode : failure.code = .outputFailed) :
    (c.breakWith failure).Sound where
  outstanding_eq := rfl
  queue_eq_nil _ := rfl
  code_eq f hf := by
    obtain rfl : failure = f := by simpa [breakWith] using hf
    exact hcode
  waiting_ne_nil b hb := absurd hb (by simp [breakWith])

theorem Turn.sound (h : c.Turn moments c') (hc : c.Sound) : c'.Sound := by
  cases h with
  | quiet => exact hc
  | answered => exact hc
  | joined hqueue =>
    have hbroken := hc.broken_eq_none hqueue
    refine ⟨?_, by simp [hbroken], by simp [hbroken], ?_⟩
    · have hbusy := hc.outstanding_eq
      have hawait := QueuedBlock.await_ne_nil ‹_› hqueue
      rw [List.isEmpty_eq_false_iff.mpr hqueue] at hbusy
      rw [List.isEmpty_eq_false_iff.mpr hawait]
      exact hbusy
    · exact fun b hb => QueuedBlock.waiting_ne_nil_of_mem_await hc.waiting_ne_nil hb
  | queued hblock hbroken hqueue =>
    refine ⟨?_, by simp [hbroken], by simp [hbroken], ?_⟩
    · have hbusy := hc.outstanding_eq
      rw [List.isEmpty_eq_false_iff.mpr hqueue] at hbusy
      rw [List.isEmpty_eq_false_iff.mpr (List.append_ne_nil_of_left_ne_nil hqueue _)]
      exact hbusy
    · intro b hb
      rcases List.mem_append.mp hb with hb | hb
      · exact hc.waiting_ne_nil b hb
      · obtain rfl := List.mem_singleton.mp hb
        simp
  | passed hblock hbroken hqueue => exact ⟨rfl, by simp [hbroken], by simp [hbroken], by simp⟩
  | refused hblock hbroken hqueue hcode => exact sound_breakWith hcode
  | drained hqueue =>
    have hbroken := hc.broken_eq_none (by simp [hqueue])
    exact ⟨rfl, by simp, by simp [count, hbroken], by simp⟩
  | advanced hqueue =>
    have hbroken := hc.broken_eq_none (by simp [hqueue])
    refine ⟨rfl, by simp [count, hbroken], by simp [count, hbroken], ?_⟩
    exact fun b hb => hc.waiting_ne_nil b (by simp [hqueue, List.mem_cons.mp hb])
  | cutOff hqueue hcode => exact sound_breakWith hcode
  | failed hqueue hcode => exact sound_breakWith hcode

@[simp] theorem map_call_answerAll (calls : List (SinkCall κ)) (outcome : Except Failure Unit) :
    (SinkCall.answerAll calls outcome).map (·.call) = calls := by
  simp [SinkCall.answerAll, Function.comp_def]

/-- A call that is made is answered or waits, and a call that waits is not lost. -/
theorem Turn.calls_perm (h : c.Turn moments c') :
    ((moments.filterMap SinkMoment.answer?).map (·.call) ++ c'.waiting).Perm
      (c.waiting ++ moments.filterMap SinkMoment.call?) := by
  cases h with
  | quiet => simp
  | answered hqueue => simp [waiting, hqueue, List.filterMap_cons]
  | joined hqueue =>
    simp [waiting, QueuedBlock.waiting_await _ hqueue, List.filterMap_cons]
  | queued => simp [waiting, List.filterMap_cons]
  | passed _ _ hqueue => simp [waiting, hqueue, List.filterMap_cons]
  | refused _ _ hqueue => simp [waiting, breakWith, hqueue, List.filterMap_cons]
  | drained hqueue hanswers =>
    have hcalls := hanswers.map (·.call)
    simpa [waiting, hqueue, List.filterMap_cons] using hcalls
  | @advanced b next rest answers hqueue hanswers =>
    have hcalls := (hanswers.map (·.call)).append_right ((next.waiting) ++ rest.flatMap (·.waiting))
    simpa [waiting, hqueue, List.filterMap_cons] using hcalls
  | cutOff hqueue hcode hanswers =>
    have hcalls := hanswers.map (·.call)
    simpa [waiting, breakWith, hqueue, List.filterMap_cons] using hcalls
  | failed hqueue hcode hanswers =>
    have hcalls := hanswers.map (·.call)
    simpa [waiting, breakWith, List.filterMap_cons] using hcalls

theorem mem_answerAll {calls : List (SinkCall κ)} {outcome : Except Failure Unit}
    {a : SinkAnswer κ} (h : a ∈ SinkCall.answerAll calls outcome) : a.outcome = outcome := by
  obtain ⟨call, -, rfl⟩ := List.mem_map.mp h
  rfl

theorem Turn.broken_mono (h : c.Turn moments c') (hc : c.Sound) {failure : Failure}
    (hbroken : c.broken = some failure) : c'.broken = some failure := by
  have hqueue : c.queue = [] := hc.queue_eq_nil (by simp [hbroken])
  cases h with
  | quiet => exact hbroken
  | answered => exact hbroken
  | joined => exact hbroken
  | queued => exact hbroken
  | passed => exact hbroken
  | refused _ hnone => simp [hnone] at hbroken
  | drained h => simp [hqueue] at h
  | advanced h => simp [hqueue] at h
  | cutOff h => simp [hqueue] at h
  | failed h => exact absurd hqueue h

/-- A call that fails finds the sink broken, or its block breaks it. -/
theorem Turn.broken_of_error (h : c.Turn moments c') {a : SinkAnswer κ}
    (ha : a ∈ moments.filterMap SinkMoment.answer?) {failure : Failure}
    (hfailure : a.outcome = .error failure) : c'.broken = some failure := by
  cases h with
  | quiet => simp at ha
  | answered =>
    obtain rfl : a = _ := by simpa [List.filterMap_cons] using ha
    cases hbroken : c.broken <;> simp_all [standing]
  | joined => simp [List.filterMap_cons] at ha
  | queued => simp [List.filterMap_cons] at ha
  | passed => simp [List.filterMap_cons] at ha
  | refused =>
    obtain rfl : a = _ := by simpa [List.filterMap_cons] using ha
    simp_all [breakWith]
  | drained _ hanswers =>
    have hmem := hanswers.mem_iff.mp (by simpa [List.filterMap_cons] using ha)
    simp [mem_answerAll hmem] at hfailure
  | advanced _ hanswers =>
    have hmem := hanswers.mem_iff.mp (by simpa [List.filterMap_cons] using ha)
    simp [mem_answerAll hmem] at hfailure
  | cutOff _ _ hanswers =>
    have hmem := hanswers.mem_iff.mp (by simpa [List.filterMap_cons] using ha)
    rcases List.mem_append.mp hmem with hmem | hmem
    · simp [mem_answerAll hmem] at hfailure
    · rw [mem_answerAll hmem] at hfailure
      simp_all [breakWith]
  | failed _ _ hanswers =>
    have hmem := hanswers.mem_iff.mp (by simpa [List.filterMap_cons] using ha)
    rw [mem_answerAll hmem] at hfailure
    simp_all [breakWith]

/-- The step that breaks a sink tells at least one caller. -/
theorem Turn.error_of_broken (h : c.Turn moments c') (hc : c.Sound) (hnone : c.broken = none)
    {failure : Failure} (hbroken : c'.broken = some failure) :
    ∃ a ∈ moments.filterMap SinkMoment.answer?, a.outcome = .error failure := by
  cases h with
  | quiet => simp [hnone] at hbroken
  | answered => simp [hnone] at hbroken
  | joined => simp [hnone] at hbroken
  | queued => simp [hnone] at hbroken
  | passed => simp [hnone] at hbroken
  | @refused call block f =>
    exact ⟨{ call, outcome := .error f }, by simp [List.filterMap_cons], by simp_all [breakWith]⟩
  | drained => simp [count, hnone] at hbroken
  | advanced => simp [count, hnone] at hbroken
  | @cutOff b next rest answers f hqueue _ hanswers =>
    obtain ⟨call, hcall⟩ := List.exists_mem_of_ne_nil _ (hc.waiting_ne_nil next (by simp [hqueue]))
    refine ⟨{ call, outcome := .error f }, ?_, by simp_all [breakWith]⟩
    have hmem := hanswers.mem_iff.mpr (List.mem_append_right _
      (List.mem_map.mpr ⟨call, List.mem_flatMap.mpr ⟨next, by simp, hcall⟩, rfl⟩))
    simpa [List.filterMap_cons] using hmem
  | @failed answers f hqueue _ hanswers =>
    obtain ⟨b, hb⟩ := List.exists_mem_of_ne_nil _ hqueue
    obtain ⟨call, hcall⟩ := List.exists_mem_of_ne_nil _ (hc.waiting_ne_nil b hb)
    refine ⟨{ call, outcome := .error f }, ?_, by simp_all [breakWith]⟩
    have hmem := hanswers.mem_iff.mpr
      (List.mem_map.mpr ⟨call, List.mem_flatMap.mpr ⟨b, hb, hcall⟩, rfl⟩)
    simpa [List.filterMap_cons] using hmem

end SinkCore


-- ---------------------------------------------------------------------------
-- The parts of a step
-- ---------------------------------------------------------------------------

namespace OutputStream

theorem outstanding_of_none {s : OutputStream} {e : StreamEvent}
    (h : (s.step e).2.answer = none) : (s.step e).1.outstanding = s.outstanding := by
  cases e with
  | acknowledged => by_cases hs : s.outstanding <;> simp_all [step]
  | failed message => by_cases hs : s.outstanding <;> simp_all [step]
  | ended => by_cases hs : s.outstanding <;> simp_all [step, settle]
  | destroyed message => by_cases hs : s.destroyed <;> simp_all [step, destroy]

/-- Only a write that is outstanding is answered, and then none is. -/
theorem outstanding_of_some {s : OutputStream} {e : StreamEvent} {answer : Except Fault Unit}
    (h : (s.step e).2.answer = some answer) :
    s.outstanding = true ∧ (s.step e).1.outstanding = false := by
  cases e with
  | acknowledged =>
    by_cases hs : s.outstanding
    · refine ⟨hs, ?_⟩
      simp only [step, hs, if_true, settle]
      split <;> rfl
    · simp [step, hs] at h
  | failed message =>
    by_cases hs : s.outstanding
    · refine ⟨hs, ?_⟩
      simp only [step, hs, if_true, destroy]
      split <;> rfl
    · simp [step, hs] at h
  | ended => simp [step] at h
  | destroyed message =>
    by_cases hs : s.destroyed <;> simp [step, destroy, hs] at h

end OutputStream


namespace QueuedBlock

theorem map_answers (b : QueuedBlock κ) (round : Nat) (outcome : Except Failure Unit) :
    (b.answers round outcome).map (·.2) = SinkCall.answerAll b.waiting outcome := by
  simp [answers, SinkCall.answerAll, Function.comp_def]

theorem map_rejections (failure : Failure) (round : Nat) (queue : List (QueuedBlock κ)) :
    (rejections failure round queue).map (·.2)
      = SinkCall.answerAll (queue.flatMap (·.waiting)) (.error failure) := by
  induction queue generalizing round with
  | nil => rfl
  | cons b rest ih =>
    simp only [rejections, List.map_append, map_answers, ih]
    simp [SinkCall.answerAll]

end QueuedBlock

namespace Sink

def core (s : Sink κ) : SinkCore κ where
  queue := s.queue
  broken := s.broken
  outstanding := s.stream.outstanding
  bytesWritten := s.bytesWritten
  blocksWritten := s.blocksWritten

@[simp] theorem reply_core (s : Sink κ) (delivered : List Bytes)
    (answers : List (Nat × SinkAnswer κ)) : (s.reply delivered answers).1.core = s.core := rfl

@[simp] theorem reply_delivered (s : Sink κ) (delivered : List Bytes)
    (answers : List (Nat × SinkAnswer κ)) : (s.reply delivered answers).2.delivered = delivered := rfl

@[simp] theorem reply_answers_nil (s : Sink κ) (delivered : List Bytes) :
    (s.reply delivered []).2.answers = [] := by
  simp [reply]

theorem reply_answers_perm (s : Sink κ) (delivered : List Bytes)
    (answers : List (Nat × SinkAnswer κ)) :
    (s.reply delivered answers).2.answers.Perm (answers.map (·.2)) :=
  (List.mergeSort_perm _ _).map _

theorem refusal?_code {s : Sink κ} {failure : Failure} (h : s.refusal? = some failure) :
    failure.code = .outputFailed := by
  unfold refusal? at h
  cases hheard : s.heard with
  | some fault =>
    simp only [hheard, Option.some.injEq] at h
    subst h
    rfl
  | none =>
    simp only [hheard] at h
    split at h
    · cases h
      rfl
    · cases h

/-- With a block in the queue, the stream takes the first or the whole queue fails. -/
theorem handOver_cases {s : Sink κ} {b : QueuedBlock κ} {rest : List (QueuedBlock κ)}
    (hqueue : s.queue = b :: rest) (round : Nat) :
    s.handOver round = ({ s with stream := { s.stream with outstanding := true } }, [b.bytes], []) ∨
    ∃ failure : Failure, failure.code = .outputFailed ∧
      s.handOver round
        = (s.breakWith failure, [], QueuedBlock.rejections failure round (b :: rest)) := by
  unfold handOver
  rw [hqueue]
  cases hrefusal : s.refusal? with
  | none => exact .inl rfl
  | some failure => exact .inr ⟨failure, refusal?_code hrefusal, rfl⟩


-- ---------------------------------------------------------------------------
-- Steps
-- ---------------------------------------------------------------------------

/-- A call that is only waited for. -/
theorem awaitLast_turn {s : Sink κ} (hs : s.core.Sound) (call : SinkCall κ) (block : Bytes)
    (hblock : block = [] ∨ s.broken.isSome) :
    s.core.Turn
      (.called call block :: ((s.awaitLast call).2.delivered.map .passed
        ++ (s.awaitLast call).2.answers.map .answered))
      (s.awaitLast call).1.core := by
  by_cases hqueue : s.queue = []
  · have hanswers : (s.awaitLast call).2.answers = [{ call, outcome := s.standing }] := by
      simp [awaitLast, hqueue, reply]
    have hdelivered : (s.awaitLast call).2.delivered = [] := by simp [awaitLast, hqueue, reply]
    have hcore : (s.awaitLast call).1.core = s.core := by simp [awaitLast, hqueue]
    rw [hanswers, hdelivered, hcore]
    exact .answered hqueue hblock
  · have hempty : s.queue.isEmpty = false := by simpa using hqueue
    have hnil : block = [] := by
      rcases hblock with hblock | hbroken
      · exact hblock
      · exact absurd (hs.queue_eq_nil hbroken) hqueue
    subst hnil
    simp only [awaitLast, hempty]
    exact .joined hqueue

theorem write_turn {s : Sink κ} (hs : s.core.Sound) (caller : κ) (block : Bytes) :
    s.core.Turn
      (.called { caller, kind := .write } block :: ((s.write caller block).2.delivered.map .passed
        ++ (s.write caller block).2.answers.map .answered))
      (s.write caller block).1.core := by
  by_cases hlate : block = [] ∨ s.broken.isSome
  · have hcond : (block.isEmpty || s.broken.isSome) = true := by simpa using hlate
    simp only [write, hcond, if_true]
    exact awaitLast_turn hs _ block hlate
  · obtain ⟨hblock, hbroken⟩ := not_or.mp hlate
    have hnone : s.broken = none := by simpa using hbroken
    have hcond : (block.isEmpty || s.broken.isSome) = false := by simp [hblock, hnone]
    by_cases hqueue : s.queue = []
    · let call : SinkCall κ := { caller, kind := .write }
      let s₁ : Sink κ := { s with queue := [{ bytes := block, waiting := [call] }] }
      have hwrite : s.write caller block
          = (s₁.handOver 0).1.reply (s₁.handOver 0).2.1 (s₁.handOver 0).2.2 := by
        simp [write, hcond, hqueue, s₁, call]
      have hfree : s.stream.outstanding = false := by
        simpa [core, hqueue] using hs.outstanding_eq
      rw [hwrite]
      rcases handOver_cases (s := s₁) rfl 0 with htaken | ⟨failure, hcode, hrefused⟩
      · rw [htaken, reply_core, reply_delivered, reply_answers_nil]
        exact .passed hblock hnone hqueue
      · rw [hrefused]
        have hanswers : ((s₁.breakWith failure).reply [] (QueuedBlock.rejections failure 0
            [{ bytes := block, waiting := [call] }])).2.answers
            = [{ call, outcome := .error failure }] := by
          simp [reply, QueuedBlock.rejections, QueuedBlock.answers]
        have hcore : (s₁.breakWith failure).core = s.core.breakWith failure := by
          simp [core, breakWith, SinkCore.breakWith, s₁, hfree]
        rw [reply_core, hanswers, hcore]
        exact .refused hblock hnone hqueue hcode
    · have hempty : s.queue.isEmpty = false := by simpa using hqueue
      simp only [write, hcond, hempty]
      exact .queued hblock hnone hqueue

/-- The stream acknowledges the first block. -/
theorem answered_ok_turn {s : Sink κ} (hfree : s.stream.outstanding = false) {c : SinkCore κ}
    (hcore : { s.core with outstanding := true } = c) (hqueue : s.queue ≠ []) :
    c.Turn
      (.acknowledged :: ((s.answered (.ok ())).2.delivered.map .passed
        ++ (s.answered (.ok ())).2.answers.map .answered))
      (s.answered (.ok ())).1.core := by
  subst hcore
  cases hq : s.queue with
  | nil => exact absurd hq hqueue
  | cons b rest =>
    let s₁ : Sink κ := { s with
      queue := rest
      bytesWritten := s.bytesWritten + b.bytes.length
      blocksWritten := s.blocksWritten + 1 }
    have hanswered : s.answered (.ok ()) = (s₁.handOver 3).1.reply (s₁.handOver 3).2.1
        (b.answers 0 (.ok ()) ++ (s₁.handOver 3).2.2) := by
      simp [answered, hq, s₁]
    rw [hanswered]
    cases rest with
    | nil =>
      have hidle : s₁.handOver 3 = (s₁, [], []) := rfl
      have hperm := reply_answers_perm s₁ [] (b.answers 0 (.ok ()))
      rw [QueuedBlock.map_answers] at hperm
      rw [hidle, List.append_nil]
      have hend : s₁.core = { ({ s.core with outstanding := true } : SinkCore κ).count b with
          queue := [], outstanding := false } := by
        simp [core, SinkCore.count, s₁, hfree]
      rw [reply_core, hend]
      exact .drained (by simp [core, hq]) hperm
    | cons next rest =>
      rcases handOver_cases (s := s₁) rfl 3 with htaken | ⟨failure, hcode, hrefused⟩
      · rw [htaken, List.append_nil]
        have hperm := reply_answers_perm ({ s₁ with stream := { s₁.stream with outstanding := true } })
          [next.bytes] (b.answers 0 (.ok ()))
        rw [QueuedBlock.map_answers] at hperm
        exact .advanced (by simp [core, hq]) hperm
      · rw [hrefused]
        have hperm := reply_answers_perm (s₁.breakWith failure) []
          (b.answers 0 (.ok ()) ++ QueuedBlock.rejections failure 3 (next :: rest))
        rw [List.map_append, QueuedBlock.map_answers, QueuedBlock.map_rejections] at hperm
        have hend : (s₁.breakWith failure).core
            = (({ s.core with outstanding := true } : SinkCore κ).count b).breakWith failure := by
          simp [core, breakWith, SinkCore.breakWith, SinkCore.count, s₁, hfree]
        rw [reply_core, hend]
        exact .cutOff (by simp [core, hq]) hcode hperm

/-- The stream fails the first block. -/
theorem answered_error_turn {s : Sink κ} (hfree : s.stream.outstanding = false) {c : SinkCore κ}
    (hcore : { s.core with outstanding := true } = c) (hqueue : s.queue ≠ []) (fault : Fault) :
    c.Turn
      (.failed :: ((s.answered (.error fault)).2.delivered.map .passed
        ++ (s.answered (.error fault)).2.answers.map .answered))
      (s.answered (.error fault)).1.core := by
  subst hcore
  have hperm := reply_answers_perm (s.breakWith (writeFailed fault)) []
    (QueuedBlock.rejections (writeFailed fault) 0 s.queue)
  rw [QueuedBlock.map_rejections] at hperm
  have hend : (s.breakWith (writeFailed fault)).core
      = ({ s.core with outstanding := true } : SinkCore κ).breakWith (writeFailed fault) := by
    simp [core, breakWith, SinkCore.breakWith, hfree]
  simp only [answered, reply_core, reply_delivered, hend]
  exact .failed hqueue rfl hperm

theorem hear_core (s : Sink κ) (error : Option Fault) : (s.hear error).core = s.core := by
  unfold hear
  split <;> rfl

theorem onStream_turn {s : Sink κ} (hs : s.core.Sound) (e : StreamEvent) :
    s.core.Turn
      (s.opening (.stream e) ++ (s.onStream e).2.delivered.map .passed
        ++ (s.onStream e).2.answers.map .answered)
      (s.onStream e).1.core := by
  let s₁ : Sink κ := { s with stream := (s.stream.step e).1 }.hear (s.stream.step e).2.error
  have hcore : s₁.core = { s.core with outstanding := (s.stream.step e).1.outstanding } :=
    hear_core _ _
  cases hanswer : (s.stream.step e).2.answer with
  | none =>
    have hsame : s₁.core = s.core := by
      rw [hcore, OutputStream.outstanding_of_none hanswer]
      rfl
    have hstep : s.onStream e = (s₁, { errors := (s.stream.step e).2.error.toList }) := by
      simp [onStream, hanswer, s₁]
    rw [hstep, hsame]
    simp only [opening, hanswer]
    exact .quiet
  | some answer =>
    obtain ⟨hbusy, hfree⟩ := OutputStream.outstanding_of_some hanswer
    have hfree₁ : s₁.stream.outstanding = false := by
      have h := congrArg SinkCore.outstanding hcore
      rw [hfree] at h
      exact h
    have hcore₁ : { s₁.core with outstanding := true } = s.core := by
      rw [hcore, ← hbusy]
      rfl
    have hqueue : s₁.queue ≠ [] := by
      have h := congrArg SinkCore.queue hcore
      have hne := hs.outstanding_eq
      simp only [core, hbusy] at hne h
      rw [h]
      intro hnil
      simp [hnil] at hne
    have hstep : (s.onStream e).1 = (s₁.answered answer).1
        ∧ (s.onStream e).2.delivered = (s₁.answered answer).2.delivered
        ∧ (s.onStream e).2.answers = (s₁.answered answer).2.answers := by
      simp [onStream, hanswer, s₁]
    obtain ⟨hstate, hdelivered, hanswers⟩ := hstep
    rw [hstate, hdelivered, hanswers]
    simp only [opening, hanswer]
    cases answer with
    | ok _ => exact answered_ok_turn hfree₁ hcore₁ hqueue
    | error fault => exact answered_error_turn hfree₁ hcore₁ hqueue fault

/-- Every step of a sink is one of the turns. -/
theorem step_turn {s : Sink κ} (hs : s.core.Sound) (e : SinkEvent κ) :
    s.core.Turn (s.moments e) (s.step e).1.core := by
  cases e with
  | write caller block => exact write_turn hs caller block
  | flush caller => exact awaitLast_turn hs _ [] (.inl rfl)
  | close caller => exact awaitLast_turn hs _ [] (.inl rfl)
  | stream e => exact onStream_turn hs e

end Sink

end FileSearch
