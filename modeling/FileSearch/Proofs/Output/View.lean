import FileSearch.Proofs.Output.Turn
import Mathlib.Algebra.Order.Group.Multiset

/-!
# Sinks without reasons

A view is what is left of a sink when the rounds in which answers come and the reasons of failures are
left out. Its steps are made of two parts, taking an event and handing over the block that is due.
These are a sink's single turns, and in between other events may come. A call that comes there changes
nothing about the hand-over (`SinkView.step_of_call`). If the stream is ended or destroyed there, it
is as if that had come before the block was due (`SinkView.note_andThen_close`).
-/

namespace FileSearch

variable {κ : Type}

/-- What a sink tells: who is answered well and who is not, in whatever order. -/
@[ext] structure SinkTold (κ : Type) where
  delivered : List Bytes := []
  answers : Multiset (SinkCall κ × Bool) := 0
  errors : List Fault := []

namespace SinkTold

instance : Append (SinkTold κ) where
  append t more :=
    { delivered := t.delivered ++ more.delivered
      answers := t.answers + more.answers
      errors := t.errors ++ more.errors }

@[simp] theorem delivered_append (t more : SinkTold κ) :
    (t ++ more).delivered = t.delivered ++ more.delivered := rfl

@[simp] theorem answers_append (t more : SinkTold κ) :
    (t ++ more).answers = t.answers + more.answers := rfl

@[simp] theorem errors_append (t more : SinkTold κ) :
    (t ++ more).errors = t.errors ++ more.errors := rfl

@[simp] theorem append_nothing (t : SinkTold κ) : t ++ {} = t := by
  ext1 <;> simp

@[simp] theorem nothing_append (t : SinkTold κ) : {} ++ t = t := by
  ext1 <;> simp

theorem append_assoc (t₁ t₂ t₃ : SinkTold κ) : t₁ ++ t₂ ++ t₃ = t₁ ++ (t₂ ++ t₃) := by
  ext1 <;> simp [add_assoc]

end SinkTold

/-- All of some calls are answered in one way. -/
def SinkCall.told (calls : List (SinkCall κ)) (good : Bool) : Multiset (SinkCall κ × Bool) :=
  calls.map fun call => (call, good)

theorem SinkCall.told_append (calls more : List (SinkCall κ)) (good : Bool) :
    told (calls ++ more) good = told calls good + told more good := by
  simp [told]

structure SinkView (κ : Type) where
  stream : OutputStream
  broken : Bool
  queue : List (QueuedBlock κ)
  bytesWritten : Nat
  blocksWritten : Nat

/-- An event that ends or destroys the stream. -/
def StreamEvent.closes : StreamEvent → Bool
  | ended | destroyed _ => true
  | acknowledged | failed _ => false

def SinkEvent.closes : SinkEvent κ → Bool
  | .stream e => e.closes
  | .write _ _ | .flush _ | .close _ => false

def SinkEvent.isCall : SinkEvent κ → Bool
  | .write _ _ | .flush _ | .close _ => true
  | .stream _ => false

/-- The same events, where some that close the stream come earlier than others do. -/
inductive SinkEvent.Hastened : List (SinkEvent κ) → List (SinkEvent κ) → Prop
  | nil : Hastened [] []
  | concat {es met : List (SinkEvent κ)} (e : SinkEvent κ) (h : Hastened es met) :
      Hastened (es ++ [e]) (met ++ [e])
  /-- The last event closes the stream, and comes before the one it was behind. -/
  | before {es met : List (SinkEvent κ)} {e close : SinkEvent κ} (hclose : close.closes)
      (he : e.closes = false) (h : Hastened es (met ++ [close])) :
      Hastened (es ++ [e]) (met ++ [e] ++ [close])

/-- What does not close the stream keeps its order. -/
theorem SinkEvent.Hastened.filter_eq {es met : List (SinkEvent κ)} (h : Hastened es met) :
    es.filter (!·.closes) = met.filter (!·.closes) := by
  induction h with
  | nil => rfl
  | concat e h ih => simp [List.filter_append, ih]
  | before hclose he h ih => simp_all [List.filter_append]

namespace OutputStream

theorem closed_settle (s : OutputStream) : s.settle.closed = s.closed := by
  unfold settle closed
  split
  · simp_all
  · rfl

theorem closed_destroy (s : OutputStream) (error : Option Fault) : (s.destroy error).1.closed := by
  unfold destroy
  split <;> simp_all [closed]

theorem closed_of_closes (s : OutputStream) {e : StreamEvent} (h : e.closes) :
    (s.step e).1.closed := by
  cases e with
  | acknowledged => cases h
  | failed message => cases h
  | ended =>
    simp only [step, closed_settle]
    rfl
  | destroyed message => exact closed_destroy ..

theorem closed_step {s : OutputStream} (h : s.closed) (e : StreamEvent) : (s.step e).1.closed := by
  cases e with
  | acknowledged =>
    simp only [step]
    split
    · rw [closed_settle]
      exact h
    · exact h
  | failed message =>
    simp only [step]
    split
    · exact closed_destroy ..
    · exact h
  | ended => exact closed_of_closes s rfl
  | destroyed message => exact closed_of_closes s rfl

theorem answer_of_closes (s : OutputStream) {e : StreamEvent} (h : e.closes) :
    (s.step e).2.answer = none := by
  cases e with
  | acknowledged => cases h
  | failed message => cases h
  | ended => rfl
  | destroyed message =>
    simp only [step, destroy]
    split <;> rfl

theorem destroyed_destroy (s : OutputStream) (error : Option Fault) :
    (s.destroy error).1.destroyed := by
  unfold destroy
  split <;> simp_all

theorem destroyed_settle {s : OutputStream} (h : s.destroyed) : s.settle.destroyed := by
  unfold settle
  split
  · rfl
  · exact h

theorem destroy_of_destroyed {s : OutputStream} (h : s.destroyed) (error : Option Fault) :
    s.destroy error = (s, {}) := by
  simp [destroy, h]

theorem destroyed_step {s : OutputStream} (h : s.destroyed) (e : StreamEvent) :
    (s.step e).1.destroyed := by
  cases e with
  | acknowledged =>
    simp only [step]
    split
    · exact destroyed_settle h
    · exact h
  | failed message =>
    simp only [step]
    split
    · exact destroyed_destroy ..
    · exact h
  | ended => exact destroyed_settle h
  | destroyed message => exact destroyed_destroy ..

/-- A stream reports an error once, and is destroyed then. -/
theorem error_of_destroyed {s : OutputStream} (h : s.destroyed) (e : StreamEvent) :
    (s.step e).2.error = none := by
  cases e with
  | acknowledged =>
    simp only [step]
    split <;> rfl
  | failed message =>
    simp only [step]
    split
    · rw [destroy_of_destroyed (s := { s with outstanding := false }) h]
    · rfl
  | ended => rfl
  | destroyed message => rw [step, destroy_of_destroyed h]

theorem destroyed_of_error {s : OutputStream} {e : StreamEvent} (h : (s.step e).2.error.isSome) :
    (s.step e).1.destroyed := by
  cases e with
  | acknowledged =>
    simp only [step] at h
    split at h <;> cases h
  | failed message =>
    simp only [step] at h ⊢
    split at h
    · rename_i hbusy
      simp only [hbusy, if_true]
      exact destroyed_destroy ..
    · cases h
  | ended => cases h
  | destroyed message => exact destroyed_destroy ..

end OutputStream

/-- A view that has told something. -/
abbrev SinkReport (κ : Type) := SinkView κ × SinkTold κ

/-- Goes on from a view, and tells what is told then too. -/
def SinkReport.andThen (r : SinkReport κ) (f : SinkView κ → SinkReport κ) : SinkReport κ :=
  ((f r.1).1, r.2 ++ (f r.1).2)

theorem SinkReport.andThen_eq {r next : SinkReport κ} {f : SinkView κ → SinkReport κ}
    (h : f r.1 = next) : r.andThen f = (next.1, r.2 ++ next.2) := by
  rw [andThen, h]

theorem SinkReport.andThen_congr {r : SinkReport κ} {f g : SinkView κ → SinkReport κ}
    (h : f r.1 = g r.1) : r.andThen f = r.andThen g := by
  rw [andThen, h, andThen]

theorem SinkReport.andThen_assoc (r : SinkReport κ) (f g : SinkView κ → SinkReport κ) :
    (r.andThen f).andThen g = r.andThen fun v => (f v).andThen g := by
  simp [andThen, SinkTold.append_assoc]

namespace SinkView

/-- A call waits for the last block. -/
def wait (v : SinkView κ) (call : SinkCall κ) : SinkReport κ :=
  if v.queue.isEmpty then (v, { answers := SinkCall.told [call] (!v.broken) })
  else ({ v with queue := QueuedBlock.await call v.queue }, {})

/-- All that waits fails. -/
def breakOff (v : SinkView κ) : SinkReport κ :=
  ({ v with broken := true, queue := [] },
    { answers := SinkCall.told (v.queue.flatMap (·.waiting)) false })

/-- The stream answers the first block. -/
def answered (v : SinkView κ) : Except Fault Unit → SinkReport κ
  | .ok _ =>
    match v.queue with
    | [] => (v, {})
    | b :: rest =>
      ({ v with
          queue := rest
          bytesWritten := v.bytesWritten + b.bytes.length
          blocksWritten := v.blocksWritten + 1 },
        { answers := SinkCall.told b.waiting true })
  | .error _ => v.breakOff

/-- Something happens to the stream. -/
def meet (v : SinkView κ) (e : StreamEvent) : SinkReport κ :=
  ({ v with stream := (v.stream.step e).1 }, { errors := (v.stream.step e).2.error.toList })

def onStream (v : SinkView κ) (e : StreamEvent) : SinkReport κ :=
  match (v.stream.step e).2.answer with
  | none => v.meet e
  | some answer => (v.meet e).andThen (·.answered answer)

/-- Takes an event, and hands nothing over. -/
def note (v : SinkView κ) : SinkEvent κ → SinkReport κ
  | .write caller block =>
    let call : SinkCall κ := { caller, kind := .write }
    if block.isEmpty || v.broken then v.wait call
    else ({ v with queue := v.queue ++ [{ bytes := block, waiting := [call] }] }, {})
  | .flush caller => v.wait { caller, kind := .flush }
  | .close caller => v.wait { caller, kind := .close }
  | .stream e => v.onStream e

/-- Whether the first block of the queue is still to be handed over. -/
def due (v : SinkView κ) : Bool := !v.queue.isEmpty && !v.stream.outstanding

/-- The first block is with the stream. -/
def busy (v : SinkView κ) : SinkView κ :=
  { v with stream := { v.stream with outstanding := true } }

/-- Hands over the block that is due, if the stream takes it. -/
def settle (v : SinkView κ) : SinkReport κ :=
  if v.due then
    if v.stream.closed then v.breakOff
    else (v.busy, { delivered := (v.queue.head?.map (·.bytes)).toList })
  else (v, {})

/-- An event with all that it brings about. -/
def step (v : SinkView κ) (e : SinkEvent κ) : SinkReport κ := (v.note e).andThen settle

def run (v : SinkView κ) : List (SinkEvent κ) → SinkReport κ
  | [] => (v, {})
  | e :: rest => (v.step e).andThen (·.run rest)

theorem run_append (v : SinkView κ) (xs ys : List (SinkEvent κ)) :
    v.run (xs ++ ys) = (v.run xs).andThen (·.run ys) := by
  induction xs generalizing v with
  | nil => simp [run, SinkReport.andThen]
  | cons e rest ih => simp only [List.cons_append, run, ih, SinkReport.andThen_assoc]

theorem run_concat (v : SinkView κ) (es : List (SinkEvent κ)) (e : SinkEvent κ) :
    v.run (es ++ [e]) = (v.run es).andThen (·.step e) := by
  rw [run_append]
  simp [run, SinkReport.andThen]


-- ---------------------------------------------------------------------------
-- Views that can be met
-- ---------------------------------------------------------------------------

structure Sound (v : SinkView κ) : Prop where
  queue_eq_nil : v.broken → v.queue = []
  queue_ne_nil : v.stream.outstanding → v.queue ≠ []

variable {v : SinkView κ}

theorem due_iff : v.due ↔ v.queue ≠ [] ∧ v.stream.outstanding = false := by
  simp [due]

theorem Sound.broken_of_due (h : v.Sound) (hdue : v.due) : v.broken = false := by
  by_contra hbroken
  exact (due_iff.mp hdue).1 (h.queue_eq_nil (by simpa using hbroken))

theorem sound_wait (h : v.Sound) (call : SinkCall κ) : (v.wait call).1.Sound := by
  unfold wait
  cases hqueue : v.queue with
  | nil => exact h
  | cons b rest =>
    have hbroken : v.broken = false := by
      by_contra hbroken
      simp [h.queue_eq_nil (by simpa using hbroken)] at hqueue
    exact ⟨fun hb => by simp [hbroken] at hb, fun _ => QueuedBlock.await_ne_nil call (by simp)⟩

theorem due_wait (v : SinkView κ) (call : SinkCall κ) : (v.wait call).1.due = v.due := by
  unfold wait
  cases hqueue : v.queue with
  | nil => rfl
  | cons b rest =>
    have hne : QueuedBlock.await call (b :: rest) ≠ [] := QueuedBlock.await_ne_nil call (by simp)
    simp [due, hqueue, hne]

theorem sound_breakOff (hfree : v.stream.outstanding = false) : v.breakOff.1.Sound :=
  ⟨fun _ => rfl, fun hbusy => absurd (hfree.symm.trans hbusy) (by simp)⟩

theorem onStream_of_none {e : StreamEvent} (h : (v.stream.step e).2.answer = none) :
    v.onStream e = v.meet e := by
  simp only [onStream, h]

theorem onStream_of_some {e : StreamEvent} {answer : Except Fault Unit}
    (h : (v.stream.step e).2.answer = some answer) :
    v.onStream e = (v.meet e).andThen (·.answered answer) := by
  simp only [onStream, h]

theorem stream_answered (v : SinkView κ) (answer : Except Fault Unit) :
    (v.answered answer).1.stream = v.stream := by
  cases answer with
  | error fault => rfl
  | ok _ => cases hqueue : v.queue <;> simp [answered, hqueue]

theorem stream_onStream (v : SinkView κ) (e : StreamEvent) :
    (v.onStream e).1.stream = (v.stream.step e).1 := by
  cases hanswer : (v.stream.step e).2.answer with
  | none => rw [onStream_of_none hanswer, meet]
  | some answer =>
    rw [onStream_of_some hanswer]
    exact stream_answered ..

theorem sound_answered (h : v.broken → v.queue = []) (hfree : v.stream.outstanding = false)
    (answer : Except Fault Unit) : (v.answered answer).1.Sound := by
  have hbusy (hbusy : v.stream.outstanding) : False := by simp [hfree] at hbusy
  cases answer with
  | error fault => exact sound_breakOff hfree
  | ok _ =>
    cases hqueue : v.queue with
    | nil =>
      simp only [answered, hqueue]
      exact ⟨h, fun hb => (hbusy hb).elim⟩
    | cons b rest =>
      simp only [answered, hqueue]
      exact ⟨fun hbroken => by simp [h hbroken] at hqueue, fun hb => (hbusy hb).elim⟩

theorem sound_onStream (h : v.Sound) (e : StreamEvent) : (v.onStream e).1.Sound := by
  cases hanswer : (v.stream.step e).2.answer with
  | none =>
    rw [onStream_of_none hanswer]
    refine ⟨h.queue_eq_nil, fun hbusy => h.queue_ne_nil ?_⟩
    exact (OutputStream.outstanding_of_none hanswer).symm.trans hbusy
  | some answer =>
    rw [onStream_of_some hanswer]
    exact sound_answered (v := (v.meet e).1) h.queue_eq_nil
      (OutputStream.outstanding_of_some hanswer).2 answer

theorem sound_note (h : v.Sound) (e : SinkEvent κ) : (v.note e).1.Sound := by
  cases e with
  | write caller block =>
    cases hlate : block.isEmpty || v.broken with
    | true =>
      simp only [note, hlate, if_true]
      exact sound_wait h _
    | false =>
      have hbroken : v.broken = false := (Bool.or_eq_false_iff.mp hlate).2
      simp only [note, hlate, Bool.false_eq_true, if_false]
      exact ⟨fun hb => by simp [hbroken] at hb, fun _ => by simp⟩
  | flush caller => exact sound_wait h _
  | close caller => exact sound_wait h _
  | stream e => exact sound_onStream h e

theorem sound_settle (h : v.Sound) : v.settle.1.Sound := by
  unfold settle
  cases hdue : v.due with
  | false => exact h
  | true =>
    obtain ⟨hqueue, hfree⟩ := due_iff.mp hdue
    cases v.stream.closed with
    | true => exact sound_breakOff hfree
    | false => exact ⟨h.queue_eq_nil, fun _ => hqueue⟩

/-- After the hand-over nothing is due. -/
theorem due_settle (v : SinkView κ) : v.settle.1.due = false := by
  unfold settle
  cases hdue : v.due with
  | false => exact hdue
  | true => cases v.stream.closed <;> simp [due, breakOff, busy]

theorem settle_of_not_due (h : v.due = false) : v.settle = (v, {}) := by
  simp [settle, h]

theorem settle_settle (v : SinkView κ) : v.settle.andThen settle = v.settle := by
  simp [SinkReport.andThen, settle_of_not_due v.due_settle]


-- ---------------------------------------------------------------------------
-- Turns that can be exchanged
-- ---------------------------------------------------------------------------

theorem settle_of_closed (hdue : v.due) (hclosed : v.stream.closed) : v.settle = v.breakOff := by
  simp [settle, hdue, hclosed]

theorem settle_of_open (hdue : v.due) (hopen : v.stream.closed = false) :
    v.settle = (v.busy, { delivered := (v.queue.head?.map (·.bytes)).toList }) := by
  simp [settle, hdue, hopen]

theorem exists_of_closes {e : SinkEvent κ} (h : e.closes) :
    ∃ event : StreamEvent, e = .stream event ∧ event.closes := by
  cases e with
  | stream event => exact ⟨event, rfl, h⟩
  | write caller block => cases h
  | flush caller => cases h
  | close caller => cases h

theorem settle_of_queue (h : v.queue = []) : v.settle = (v, {}) :=
  settle_of_not_due (by simp [due, h])

theorem step_of_not_due {e : SinkEvent κ} (h : (v.note e).1.due = false) : v.step e = v.note e := by
  rw [step, SinkReport.andThen_eq (settle_of_not_due h), SinkTold.append_nothing]

/-- While nothing is with the stream, an event of the stream is an answer to nothing. -/
theorem answer_of_free (hfree : v.stream.outstanding = false) (e : StreamEvent) :
    (v.stream.step e).2.answer = none := by
  cases hanswer : (v.stream.step e).2.answer with
  | none => rfl
  | some answer =>
    have hbusy := (OutputStream.outstanding_of_some hanswer).1
    simp [hfree] at hbusy

theorem note_stream_of_free (hfree : v.stream.outstanding = false) (e : StreamEvent) :
    v.note (.stream e) = v.meet e :=
  onStream_of_none (answer_of_free hfree e)

theorem note_stream_of_closes (v : SinkView κ) {e : StreamEvent} (he : e.closes) :
    v.note (.stream e) = v.meet e :=
  onStream_of_none (v.stream.answer_of_closes he)

theorem due_meet {e : StreamEvent} (h : (v.stream.step e).2.answer = none) :
    (v.meet e).1.due = v.due := by
  simp only [due, meet, OutputStream.outstanding_of_none h]

theorem meet_andThen_breakOff (v : SinkView κ) (e : StreamEvent) :
    (v.meet e).andThen breakOff = v.breakOff.andThen (·.meet e) :=
  Prod.ext rfl (SinkTold.ext rfl (add_comm _ _) (List.append_nil _))

/-- What a call does that finds a queue, and what it does that comes too late. -/
structure Joins (e : SinkEvent κ) (queue : List (QueuedBlock κ)) (call : SinkCall κ)
    (longer : List (QueuedBlock κ)) : Prop where
  head?_eq : longer.head?.map (·.bytes) = queue.head?.map (·.bytes)
  waiting_eq : longer.flatMap (·.waiting) = queue.flatMap (·.waiting) ++ [call]
  note_eq : ∀ v : SinkView κ, v.queue = queue → v.broken = false →
    v.note e = ({ v with queue := longer }, {})
  late_eq : ∀ v : SinkView κ, v.queue = [] → v.broken = true →
    v.note e = (v, { answers := SinkCall.told [call] false })

theorem Joins.ne_nil {e : SinkEvent κ} {queue longer : List (QueuedBlock κ)} {call : SinkCall κ}
    (h : Joins e queue call longer) : longer ≠ [] := by
  rintro rfl
  simpa using h.waiting_eq

theorem head?_await (call : SinkCall κ) (queue : List (QueuedBlock κ)) :
    (QueuedBlock.await call queue).head?.map (·.bytes) = queue.head?.map (·.bytes) := by
  rw [← List.head?_map, QueuedBlock.map_bytes_await, List.head?_map]

theorem joins_wait {e : SinkEvent κ} {call : SinkCall κ} {queue : List (QueuedBlock κ)}
    (hqueue : queue ≠ []) (he : ∀ v : SinkView κ, v.note e = v.wait call) :
    Joins e queue call (QueuedBlock.await call queue) where
  head?_eq := head?_await call queue
  waiting_eq := QueuedBlock.waiting_await call hqueue
  note_eq v hv _ := by
    subst hv
    simp [he, wait, hqueue]
  late_eq v hnil hbroken := by simp [he, wait, hnil, hbroken]

theorem exists_joins {e : SinkEvent κ} (he : e.isCall) {queue : List (QueuedBlock κ)}
    (hqueue : queue ≠ []) : ∃ call longer, Joins e queue call longer := by
  cases e with
  | stream e => cases he
  | flush caller => exact ⟨_, _, joins_wait hqueue fun _ => rfl⟩
  | close caller => exact ⟨_, _, joins_wait hqueue fun _ => rfl⟩
  | write caller block =>
    let call : SinkCall κ := { caller, kind := .write }
    cases hblock : block.isEmpty with
    | true => exact ⟨call, _, joins_wait hqueue fun v => by simp [note, hblock, call]⟩
    | false =>
      refine ⟨call, queue ++ [{ bytes := block, waiting := [call] }], ?_, by simp, ?_, ?_⟩
      · cases queue with
        | nil => exact absurd rfl hqueue
        | cons b rest => rfl
      · rintro v rfl hbroken
        simp [note, hblock, hbroken, call]
      · intro v hnil hbroken
        simp [note, hbroken, wait, hnil, call]

/-- A call that comes before the hand-over of a block might as well come behind it. -/
theorem step_of_call (h : v.Sound) {e : SinkEvent κ} (he : e.isCall) :
    v.step e = v.settle.andThen (·.step e) := by
  rw [step]
  cases hdue : v.due with
  | false => simp [settle_of_not_due hdue, SinkReport.andThen, step]
  | true =>
    obtain ⟨hqueue, hfree⟩ := due_iff.mp hdue
    have hbroken := h.broken_of_due hdue
    obtain ⟨call, longer, hjoins⟩ := exists_joins he hqueue
    let joined : SinkView κ := { v with queue := longer }
    have hnote : v.note e = (joined, {}) := hjoins.note_eq v rfl hbroken
    have hdue' : joined.due := due_iff.mpr ⟨hjoins.ne_nil, hfree⟩
    cases hclosed : v.stream.closed with
    | true =>
      -- the call comes too late, and is answered with all that fails
      have hlate : v.breakOff.1.step e
          = (v.breakOff.1, { answers := SinkCall.told [call] false }) := by
        have hlate := hjoins.late_eq v.breakOff.1 rfl rfl
        rw [step_of_not_due (by rw [hlate]; rfl), hlate]
      rw [hnote, SinkReport.andThen_eq (settle_of_closed hdue' hclosed),
        settle_of_closed hdue hclosed, SinkReport.andThen_eq hlate]
      refine Prod.ext rfl (SinkTold.ext rfl ?_ rfl)
      simp [breakOff, joined, hjoins.waiting_eq, SinkCall.told_append]
    | false =>
      have hbusy : v.busy.step e = (joined.busy, {}) := by
        have hjoin : v.busy.note e = (joined.busy, {}) := hjoins.note_eq v.busy rfl hbroken
        rw [step_of_not_due (by rw [hjoin]; simp [due, busy]), hjoin]
      rw [hnote, SinkReport.andThen_eq (settle_of_open hdue' hclosed),
        settle_of_open hdue hclosed, SinkReport.andThen_eq hbusy]
      simp [joined, hjoins.head?_eq]

/-- So might a stream event, if the stream takes nothing any more. -/
theorem step_of_closed (hdue : v.due) (hclosed : v.stream.closed) (e : StreamEvent) :
    v.step (.stream e) = v.settle.andThen (·.step (.stream e)) := by
  have hfree := (due_iff.mp hdue).2
  have hstep : v.breakOff.1.step (.stream e) = v.breakOff.1.meet e := by
    rw [step, note_stream_of_free (v := v.breakOff.1) hfree,
      SinkReport.andThen_eq (settle_of_queue rfl), SinkTold.append_nothing]
  have hdue' : (v.meet e).1.due := (due_meet (answer_of_free hfree e)).trans hdue
  have hrefused : (v.meet e).1.settle = (v.meet e).1.breakOff :=
    settle_of_closed hdue' (OutputStream.closed_step hclosed e)
  calc v.step (.stream e)
      = (v.meet e).andThen breakOff := by
        rw [step, note_stream_of_free hfree, SinkReport.andThen_congr hrefused]
    _ = v.breakOff.andThen (·.meet e) := meet_andThen_breakOff v e
    _ = v.settle.andThen (·.step (.stream e)) := by
        rw [settle_of_closed hdue hclosed]
        exact SinkReport.andThen_congr hstep.symm

theorem wait_andThen_meet (v : SinkView κ) (call : SinkCall κ) (e : StreamEvent) :
    (v.wait call).andThen (·.meet e) = (v.meet e).andThen (·.wait call) := by
  cases hqueue : v.queue with
  | nil => simp [wait, SinkReport.andThen, meet, hqueue, SinkTold.ext_iff]
  | cons b rest => simp [wait, SinkReport.andThen, meet, hqueue]

theorem stream_note_of_call (v : SinkView κ) {call : SinkEvent κ} (hcall : call.isCall) :
    (v.note call).1.stream = v.stream := by
  have hwait (waiting : SinkCall κ) : (v.wait waiting).1.stream = v.stream := by
    unfold wait
    split <;> rfl
  cases call with
  | stream e => cases hcall
  | flush caller => exact hwait _
  | close caller => exact hwait _
  | write caller block =>
    simp only [note]
    split
    · exact hwait _
    · rfl

/-- A call and the stream do not look at each other. -/
theorem note_call_andThen_meet (v : SinkView κ) {call : SinkEvent κ} (hcall : call.isCall)
    (e : StreamEvent) :
    (v.note call).andThen (·.meet e) = (v.meet e).andThen (·.note call) := by
  cases call with
  | stream event => cases hcall
  | flush caller => exact wait_andThen_meet v _ e
  | close caller => exact wait_andThen_meet v _ e
  | write caller block =>
    cases hlate : block.isEmpty || v.broken with
    | true =>
      have hwait (w : SinkView κ) (hw : w.broken = v.broken) :
          w.note (.write caller block) = w.wait { caller, kind := .write } := by
        simp only [note, hw, hlate, if_true]
      rw [hwait v rfl, wait_andThen_meet]
      exact (SinkReport.andThen_congr (hwait (v.meet e).1 rfl)).symm
    | false => simp [note, SinkReport.andThen, meet, hlate]

/-- Nor do the acknowledgement of a block and what closes the stream. -/
theorem note_acknowledged_andThen_meet (hbusy : v.stream.outstanding)
    (hopen : v.stream.closed = false) {e : StreamEvent} (he : e.closes) :
    (v.note (.stream .acknowledged)).andThen (·.meet e)
      = (v.meet e).andThen (·.note (.stream .acknowledged)) := by
  obtain ⟨⟨ended, destroyed, outstanding⟩, broken, queue, bytesWritten, blocksWritten⟩ := v
  obtain ⟨rfl, rfl⟩ : ended = false ∧ destroyed = false := Bool.or_eq_false_iff.mp hopen
  obtain rfl : outstanding = true := hbusy
  cases e with
  | acknowledged => cases he
  | failed message => cases he
  | ended =>
    cases queue <;> simp [note, onStream, SinkReport.andThen, meet, answered, OutputStream.step,
      OutputStream.settle]
  | destroyed message =>
    cases queue <;> simp [note, onStream, SinkReport.andThen, meet, answered, OutputStream.step,
      OutputStream.settle, OutputStream.destroy, SinkTold.ext_iff]

/-- What a stream event does that leaves a block due: it acknowledges the one before. -/
theorem eq_acknowledged_of_due {e : StreamEvent} (hidle : v.due = false)
    (hdue : (v.note (.stream e)).1.due) (hopen : (v.note (.stream e)).1.stream.closed = false) :
    e = .acknowledged ∧ v.stream.outstanding ∧ v.stream.closed = false := by
  have hbusy : v.stream.outstanding := by
    by_contra hfree
    have hfree : v.stream.outstanding = false := by simpa using hfree
    rw [note_stream_of_free hfree, due_meet (answer_of_free hfree e), hidle] at hdue
    cases hdue
  have hopen : (v.stream.step e).1.closed = false := by
    rw [← stream_onStream]
    exact hopen
  cases e with
  | acknowledged =>
    refine ⟨rfl, hbusy, ?_⟩
    simp only [OutputStream.step, hbusy, if_true, OutputStream.closed_settle] at hopen
    exact hopen
  | failed message =>
    simp [OutputStream.step, hbusy, OutputStream.closed_destroy] at hopen
  | ended => simp [OutputStream.closed_of_closes v.stream (e := .ended) rfl] at hopen
  | destroyed message =>
    simp [OutputStream.closed_of_closes v.stream (e := .destroyed message) rfl] at hopen

/-- What begins the turn of a block and what closes the stream before the hand-over. -/
theorem note_andThen_note {begin close : SinkEvent κ} (hidle : v.due = false)
    (hdue : (v.note begin).1.due) (hopen : (v.note begin).1.stream.closed = false)
    (hclose : close.closes) :
    (v.note begin).andThen (·.note close) = (v.note close).andThen (·.note begin) := by
  obtain ⟨e, rfl, he⟩ := exists_of_closes hclose
  simp only [note_stream_of_closes _ he]
  cases begin with
  | write caller block => exact note_call_andThen_meet v rfl e
  | flush caller => exact note_call_andThen_meet v rfl e
  | close caller => exact note_call_andThen_meet v rfl e
  | stream first =>
    obtain ⟨rfl, hbusy, hopen⟩ := eq_acknowledged_of_due hidle hdue hopen
    exact note_acknowledged_andThen_meet hbusy hopen he

/-- A block is due, and then the stream is closed: the block is refused as if the stream had been
closed before. -/
theorem note_andThen_close {begin close : SinkEvent κ} (hidle : v.due = false)
    (hdue : (v.note begin).1.due) (hopen : (v.note begin).1.stream.closed = false)
    (hclose : close.closes) :
    (v.note begin).andThen (·.step close) = (v.step close).andThen (·.step begin) := by
  have hstep : v.step close = v.note close := by
    obtain ⟨e, rfl, he⟩ := exists_of_closes hclose
    refine step_of_not_due ?_
    rw [note_stream_of_closes v he, due_meet (v.stream.answer_of_closes he), hidle]
  calc (v.note begin).andThen (·.step close)
      = ((v.note begin).andThen (·.note close)).andThen settle :=
        (SinkReport.andThen_assoc ..).symm
    _ = ((v.note close).andThen (·.note begin)).andThen settle := by
        rw [note_andThen_note hidle hdue hopen hclose]
    _ = (v.step close).andThen (·.step begin) := by
        rw [SinkReport.andThen_assoc, hstep]
        rfl

/-- A call that comes while a block is due, and then the stream is closed. -/
theorem call_andThen_close (h : v.Sound) {call close : SinkEvent κ} (hcall : call.isCall)
    (hclose : close.closes) :
    (v.note call).andThen (·.step close) = (v.step close).andThen (·.step call) := by
  have hswap : (v.note call).andThen (·.note close) = (v.note close).andThen (·.note call) := by
    obtain ⟨e, rfl, he⟩ := exists_of_closes hclose
    simp only [note_stream_of_closes _ he]
    exact note_call_andThen_meet v hcall e
  calc (v.note call).andThen (·.step close)
      = ((v.note call).andThen (·.note close)).andThen settle :=
        (SinkReport.andThen_assoc ..).symm
    _ = (v.note close).andThen (·.step call) := by
        rw [hswap, SinkReport.andThen_assoc]
        rfl
    _ = (v.note close).andThen fun w => w.settle.andThen (·.step call) :=
        SinkReport.andThen_congr (step_of_call (sound_note h close) hcall)
    _ = (v.step close).andThen (·.step call) := (SinkReport.andThen_assoc ..).symm

theorem closes_eq_false_of_open {e : SinkEvent κ} (hopen : (v.note e).1.stream.closed = false) :
    e.closes = false := by
  by_contra hclose
  obtain ⟨event, rfl, hevent⟩ := exists_of_closes (by simpa using hclose)
  rw [note_stream_of_closes v hevent] at hopen
  simp [meet, OutputStream.closed_of_closes v.stream hevent] at hopen


-- ---------------------------------------------------------------------------
-- Runs of turns
-- ---------------------------------------------------------------------------

/-- What a run of turns has come to: once the block that is due is handed over, it is a run from the
start with the events met so far. As long as that block could be handed over, the stream may still
be closed before it, and that is a run too. -/
structure Tracks (start : SinkView κ) (r : SinkReport κ) (met : List (SinkEvent κ)) : Prop where
  sound : r.1.Sound
  settled : ∃ es, SinkEvent.Hastened es met ∧ r.andThen settle = start.run es
  closed : r.1.due → r.1.stream.closed = false → ∀ close : SinkEvent κ, close.closes →
    ∃ es, SinkEvent.Hastened es (met ++ [close]) ∧ r.andThen (·.step close) = start.run es

namespace Tracks

variable {start : SinkView κ} {r : SinkReport κ} {met : List (SinkEvent κ)}

theorem settle (h : Tracks start r met) : Tracks start (r.andThen SinkView.settle) met where
  sound := sound_settle h.sound
  settled := by
    obtain ⟨es, hes, hrun⟩ := h.settled
    refine ⟨es, hes, ?_⟩
    rw [SinkReport.andThen_assoc, ← hrun]
    exact SinkReport.andThen_congr (settle_settle r.1)
  closed hdue := by
    have hnone : (r.andThen SinkView.settle).1.due = false := due_settle r.1
    simp [hnone] at hdue

/-- While no block is due, an event is a step. -/
theorem note_idle (h : Tracks start r met) (hidle : r.1.due = false) (e : SinkEvent κ) :
    Tracks start (r.andThen (·.note e)) (met ++ [e]) := by
  obtain ⟨es, hes, hrun⟩ := h.settled
  rw [SinkReport.andThen_eq (settle_of_not_due hidle), SinkTold.append_nothing] at hrun
  refine ⟨sound_note h.sound e, ⟨es ++ [e], hes.concat e, ?_⟩, ?_⟩
  · rw [run_concat, ← hrun, SinkReport.andThen_assoc]
    rfl
  · -- the turn of a block has begun with this event; what closes the stream now comes before it
    intro hdue hopen close hclose
    refine ⟨es ++ [close] ++ [e], ?_, ?_⟩
    · exact (hes.concat close).before hclose (closes_eq_false_of_open hopen)
    · rw [run_concat, run_concat, ← hrun, SinkReport.andThen_assoc, SinkReport.andThen_assoc]
      exact SinkReport.andThen_congr (note_andThen_close hidle hdue hopen hclose)

theorem note_call (h : Tracks start r met) (hdue : r.1.due) {call : SinkEvent κ}
    (hcall : call.isCall) : Tracks start (r.andThen (·.note call)) (met ++ [call]) := by
  obtain ⟨es, hes, hrun⟩ := h.settled
  refine ⟨sound_note h.sound call, ⟨es ++ [call], hes.concat call, ?_⟩, ?_⟩
  · rw [SinkReport.andThen_assoc, run_concat, ← hrun, SinkReport.andThen_assoc]
    exact SinkReport.andThen_congr (step_of_call h.sound hcall)
  · intro _ hopen close hclose
    have hstays := closes_eq_false_of_open hopen
    change (r.1.note call).1.stream.closed = false at hopen
    rw [stream_note_of_call r.1 hcall] at hopen
    obtain ⟨es, hes, hrun⟩ := h.closed hdue hopen close hclose
    refine ⟨es ++ [call], hes.before hclose hstays, ?_⟩
    rw [run_concat, ← hrun, SinkReport.andThen_assoc, SinkReport.andThen_assoc]
    exact SinkReport.andThen_congr (call_andThen_close h.sound hcall hclose)

/-- The stream is closed while a block is due that it has not been handed. -/
theorem note_close (h : Tracks start r met) (hdue : r.1.due) {close : SinkEvent κ}
    (hclose : close.closes) : Tracks start (r.andThen (·.note close)) (met ++ [close]) := by
  refine ⟨sound_note h.sound close, ?_, ?_⟩
  · rw [SinkReport.andThen_assoc]
    cases hclosed : r.1.stream.closed with
    | false => exact h.closed hdue hclosed close hclose
    | true =>
      -- closed before, the stream refuses the block in any case
      obtain ⟨es, hes, hrun⟩ := h.settled
      obtain ⟨e, rfl, -⟩ := exists_of_closes hclose
      refine ⟨es ++ [.stream e], hes.concat _, ?_⟩
      rw [run_concat, ← hrun, SinkReport.andThen_assoc]
      exact SinkReport.andThen_congr (step_of_closed hdue hclosed e)
  · intro _ hopen
    simp [closes_eq_false_of_open hopen] at hclose

end Tracks

end SinkView

end FileSearch
