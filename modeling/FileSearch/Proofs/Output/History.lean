import FileSearch.Output.Sink

/-!
# Histories of a sink

What comes to pass between a sink, its callers and its stream, one thing after the other. A ledger
is kept from these moments alone and knows nothing of the queue: it holds the blocks offered in the
order of the calls, the writes passed to the stream, and which of these the stream has answered.
-/

namespace FileSearch

/-- A single thing that comes to pass. The stream acknowledges or fails the oldest write that it has
not answered. -/
inductive SinkMoment (κ : Type) where
  | called (call : SinkCall κ) (block : Bytes)
  | passed (block : Bytes)
  | acknowledged
  | failed
  | answered (answer : SinkAnswer κ)

@[simp] def SinkMoment.call? {κ : Type} : SinkMoment κ → Option (SinkCall κ)
  | .called call _ => some call
  | .passed _ | .acknowledged | .failed | .answered _ => none

@[simp] def SinkMoment.answer? {κ : Type} : SinkMoment κ → Option (SinkAnswer κ)
  | .answered answer => some answer
  | .called _ _ | .passed _ | .acknowledged | .failed => none

/-- The block a call brings, if it holds anything. -/
@[simp] def SinkMoment.offered? {κ : Type} : SinkMoment κ → Option Bytes
  | .called _ block => if block.isEmpty then none else some block
  | .passed _ | .acknowledged | .failed | .answered _ => none

@[simp] def SinkMoment.passed? {κ : Type} : SinkMoment κ → Option Bytes
  | .passed block => some block
  | .called _ _ | .acknowledged | .failed | .answered _ => none

@[simp] theorem SinkMoment.filterMap_answer? {κ : Type} (answers : List (SinkAnswer κ)) :
    answers.filterMap (SinkMoment.answer? ∘ SinkMoment.answered) = answers :=
  List.filterMap_some

@[simp] theorem SinkMoment.filterMap_call? {κ : Type} (answers : List (SinkAnswer κ)) :
    answers.filterMap (SinkMoment.call? ∘ SinkMoment.answered) = [] :=
  List.filterMap_eq_nil_iff.mpr fun _ _ => rfl

@[simp] theorem SinkMoment.filterMap_passed? {κ : Type} (blocks : List Bytes) :
    blocks.filterMap (SinkMoment.passed? ∘ (SinkMoment.passed : Bytes → SinkMoment κ)) = blocks :=
  List.filterMap_some

structure SinkLedger (κ : Type) where
  /-- The blocks that hold anything, in the order of the calls. -/
  offered : List Bytes := []
  /-- The blocks passed to the stream, one for each write. -/
  passed : List Bytes := []
  acknowledged : List Bytes := []
  /-- The blocks with the stream, the oldest first. -/
  unanswered : List Bytes := []
  calls : List (SinkCall κ) := []
  answers : List (SinkAnswer κ) := []

variable {κ : Type}


-- ---------------------------------------------------------------------------
-- Ledgers
-- ---------------------------------------------------------------------------

namespace SinkLedger

def enter (l : SinkLedger κ) : SinkMoment κ → SinkLedger κ
  | .called call block =>
    { l with
      calls := l.calls ++ [call]
      offered := if block.isEmpty then l.offered else l.offered ++ [block] }
  | .passed block =>
    { l with passed := l.passed ++ [block], unanswered := l.unanswered ++ [block] }
  | .acknowledged =>
    { l with
      acknowledged := l.acknowledged ++ l.unanswered.take 1
      unanswered := l.unanswered.drop 1 }
  | .failed => { l with unanswered := l.unanswered.drop 1 }
  | .answered answer => { l with answers := l.answers ++ [answer] }

def enterAll (l : SinkLedger κ) (moments : List (SinkMoment κ)) : SinkLedger κ :=
  moments.foldl enter l

/-- The ledger of all that has come to pass so far. -/
def of (past : List (SinkMoment κ)) : SinkLedger κ := enterAll {} past

@[simp] theorem enterAll_nil (l : SinkLedger κ) : l.enterAll [] = l := rfl

@[simp] theorem enterAll_cons (l : SinkLedger κ) (m : SinkMoment κ) (rest : List (SinkMoment κ)) :
    l.enterAll (m :: rest) = (l.enter m).enterAll rest := rfl

theorem enterAll_append (l : SinkLedger κ) (xs ys : List (SinkMoment κ)) :
    l.enterAll (xs ++ ys) = (l.enterAll xs).enterAll ys :=
  List.foldl_append ..

theorem calls_enterAll (l : SinkLedger κ) (moments : List (SinkMoment κ)) :
    (l.enterAll moments).calls = l.calls ++ moments.filterMap SinkMoment.call? := by
  induction moments generalizing l with
  | nil => simp
  | cons m rest ih => cases m <;> simp [ih, enter, List.filterMap_cons]

theorem answers_enterAll (l : SinkLedger κ) (moments : List (SinkMoment κ)) :
    (l.enterAll moments).answers = l.answers ++ moments.filterMap SinkMoment.answer? := by
  induction moments generalizing l with
  | nil => simp
  | cons m rest ih => cases m <;> simp [ih, enter, List.filterMap_cons]

theorem offered_enterAll (l : SinkLedger κ) (moments : List (SinkMoment κ)) :
    (l.enterAll moments).offered = l.offered ++ moments.filterMap SinkMoment.offered? := by
  induction moments generalizing l with
  | nil => simp
  | cons m rest ih =>
    cases m with
    | called call block => cases block <;> simp [ih, enter]
    | _ => simp [ih, enter, List.filterMap_cons]

theorem passed_enterAll (l : SinkLedger κ) (moments : List (SinkMoment κ)) :
    (l.enterAll moments).passed = l.passed ++ moments.filterMap SinkMoment.passed? := by
  induction moments generalizing l with
  | nil => simp
  | cons m rest ih => cases m <;> simp [ih, enter, List.filterMap_cons]

/-- What was acknowledged stays so. -/
theorem acknowledged_prefix (l : SinkLedger κ) (moments : List (SinkMoment κ)) :
    l.acknowledged <+: (l.enterAll moments).acknowledged := by
  induction moments generalizing l with
  | nil => exact List.prefix_rfl
  | cons m rest ih =>
    refine List.IsPrefix.trans ?_ (ih (l.enter m))
    cases m with
    | acknowledged => exact List.prefix_append ..
    | _ => exact List.prefix_rfl

theorem enterAll_answered (l : SinkLedger κ) (answers : List (SinkAnswer κ)) :
    l.enterAll (answers.map .answered) = { l with answers := l.answers ++ answers } := by
  induction answers generalizing l with
  | nil => simp
  | cons a rest ih => simp [ih, enter]

end SinkLedger


-- ---------------------------------------------------------------------------
-- Runs
-- ---------------------------------------------------------------------------

namespace Sink

/-- What an event is to the outside: a call, or the stream's answer to a write. -/
def opening (s : Sink κ) : SinkEvent κ → List (SinkMoment κ)
  | .write caller block => [.called { caller, kind := .write } block]
  | .flush caller => [.called { caller, kind := .flush } []]
  | .close caller => [.called { caller, kind := .close } []]
  | .stream e =>
    match (s.stream.step e).2.answer with
    | none => []
    | some (.ok _) => [.acknowledged]
    | some (.error _) => [.failed]

/-- All that an event brings about, once everything has run that can. -/
def moments (s : Sink κ) (e : SinkEvent κ) : List (SinkMoment κ) :=
  let output := (s.step e).2
  s.opening e ++ output.delivered.map .passed ++ output.answers.map .answered

theorem answers_moments (s : Sink κ) (e : SinkEvent κ) :
    (s.moments e).filterMap SinkMoment.answer? = (s.step e).2.answers := by
  have hopening : (s.opening e).filterMap SinkMoment.answer? = [] := by
    cases e with
    | stream e =>
      simp only [opening]
      split <;> rfl
    | _ => rfl
  simp [moments, hopening]

theorem passed_moments (s : Sink κ) (e : SinkEvent κ) :
    (s.moments e).filterMap SinkMoment.passed? = (s.step e).2.delivered := by
  have hopening : (s.opening e).filterMap SinkMoment.passed? = [] := by
    cases e with
    | stream e =>
      simp only [opening]
      split <;> rfl
    | _ => rfl
  simp [moments, hopening]

theorem calls_moments (s : Sink κ) (e : SinkEvent κ) :
    (s.moments e).filterMap SinkMoment.call? = (s.opening e).filterMap SinkMoment.call? := by
  simp [moments]

theorem offered_moments (s : Sink κ) (e : SinkEvent κ) :
    (s.moments e).filterMap SinkMoment.offered? = (s.opening e).filterMap SinkMoment.offered? := by
  simp [moments]

theorem calls_opening_stream (s : Sink κ) (e : StreamEvent) :
    (s.opening (.stream e)).filterMap SinkMoment.call? = [] := by
  simp only [opening]
  split <;> rfl

theorem offered_opening_stream (s : Sink κ) (e : StreamEvent) :
    (s.opening (.stream e)).filterMap SinkMoment.offered? = [] := by
  simp only [opening]
  split <;> rfl

/-- The sink after a list of events. -/
def run (s : Sink κ) : List (SinkEvent κ) → Sink κ
  | [] => s
  | e :: rest => (s.step e).1.run rest

def history (s : Sink κ) : List (SinkEvent κ) → List (SinkMoment κ)
  | [] => []
  | e :: rest => s.moments e ++ (s.step e).1.history rest

@[simp] theorem run_cons (s : Sink κ) (e : SinkEvent κ) (rest : List (SinkEvent κ)) :
    s.run (e :: rest) = (s.step e).1.run rest := rfl

@[simp] theorem history_nil (s : Sink κ) : s.history [] = [] := rfl

@[simp] theorem history_cons (s : Sink κ) (e : SinkEvent κ) (rest : List (SinkEvent κ)) :
    s.history (e :: rest) = s.moments e ++ (s.step e).1.history rest := rfl

theorem run_append (s : Sink κ) (xs ys : List (SinkEvent κ)) :
    s.run (xs ++ ys) = (s.run xs).run ys := by
  induction xs generalizing s with
  | nil => rfl
  | cons e rest ih => exact ih _

theorem history_append (s : Sink κ) (xs ys : List (SinkEvent κ)) :
    s.history (xs ++ ys) = s.history xs ++ (s.run xs).history ys := by
  induction xs generalizing s with
  | nil => rfl
  | cons e rest ih => simp [ih]

end Sink

end FileSearch
