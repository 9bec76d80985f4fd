import FileSearch.Pool.Loop
import Mathlib.Data.List.Basic

/-!
# Histories of a pool

What comes to pass between a pull loop, its source and its tasks, one thing after the other: what the
source delivers, which items are started, and how the tasks finish. Clean-ups and wake-ups cannot be
seen from outside, so they leave no trace. A loop that is fed at once takes its turns in one of the
orders that are left open (`FedPool.finish_reaches`), so what holds of all runs holds of it.
-/

namespace FileSearch

variable {α : Type}

inductive PoolMoment (α : Type) where
  | met (e : PoolEvent α Reason)
  | started (index : Nat) (item : α)

namespace PoolEvent

/-- The source is at its end, or has failed. -/
def closing : Option Reason → PoolEvent α Reason
  | none => .sourceEnded
  | some reason => .sourceFailed reason

/-- The event as it is told to a pool at rest. -/
def told : PoolEvent α Reason → PoolEvent α
  | .delivered item => .delivered item
  | .sourceEnded => .sourceEnded
  | .sourceFailed reason => .sourceFailed reason.told
  | .finished index failure => .finished index (failure.map Reason.told)

end PoolEvent

theorem Reason.read_eq_ok {reason : Reason} (h : reason.hasText) : reason.read = .ok reason.told := by
  cases reason with
  | thrown t => rfl
  | textless v hnone => cases h

theorem Reason.read_eq_error {reason : Reason} (h : reason.hasText = false) :
    reason.read = .error Reason.noText := by
  cases reason with
  | thrown t => cases h
  | textless v hnone => rfl

namespace PoolMoment

/-- What a pool at rest is told of. -/
@[simp] def event? : PoolMoment α → Option (PoolEvent α)
  | .met e => some e.told
  | .started _ _ => none

@[simp] def pulled? : PoolMoment α → Option α
  | .met (.delivered item) => some item
  | .met (.finished _ _) | .met .sourceEnded | .met (.sourceFailed _) | .started _ _ => none

@[simp] def started? : PoolMoment α → Option (Nat × α)
  | .started index item => some (index, item)
  | .met _ => none

@[simp] def finished? : PoolMoment α → Option (Nat × Option Reason)
  | .met (.finished index failure) => some (index, failure)
  | .met (.delivered _) | .met .sourceEnded | .met (.sourceFailed _) | .started _ _ => none

/-- How the source came to its end, with what it failed if it did. -/
@[simp] def closed? : PoolMoment α → Option (Option Reason)
  | .met .sourceEnded => some none
  | .met (.sourceFailed reason) => some (some reason)
  | .met (.delivered _) | .met (.finished _ _) | .started _ _ => none

end PoolMoment


-- ---------------------------------------------------------------------------
-- Ledgers
-- ---------------------------------------------------------------------------

/-- What is noted of a history. -/
structure PoolLedger (α : Type) where
  /-- The items taken from the source. -/
  pulled : List α := []
  /-- The calls of the processor, with the index of each. -/
  started : List (Nat × α) := []
  /-- The calls that have settled, each with what it failed with if it did. -/
  finished : List (Nat × Option Reason) := []
  closed : List (Option Reason) := []

namespace PoolLedger

instance : Append (PoolLedger α) where
  append g later :=
    { pulled := g.pulled ++ later.pulled
      started := g.started ++ later.started
      finished := g.finished ++ later.finished
      closed := g.closed ++ later.closed }

@[simp] theorem pulled_append (g later : PoolLedger α) :
    (g ++ later).pulled = g.pulled ++ later.pulled := rfl

@[simp] theorem started_append (g later : PoolLedger α) :
    (g ++ later).started = g.started ++ later.started := rfl

@[simp] theorem finished_append (g later : PoolLedger α) :
    (g ++ later).finished = g.finished ++ later.finished := rfl

@[simp] theorem closed_append (g later : PoolLedger α) :
    (g ++ later).closed = g.closed ++ later.closed := rfl

theorem append_assoc (g₁ g₂ g₃ : PoolLedger α) : g₁ ++ g₂ ++ g₃ = g₁ ++ (g₂ ++ g₃) := by
  change PoolLedger.mk .. = PoolLedger.mk ..
  simp

def of (past : List (PoolMoment α)) : PoolLedger α where
  pulled := past.filterMap PoolMoment.pulled?
  started := past.filterMap PoolMoment.started?
  finished := past.filterMap PoolMoment.finished?
  closed := past.filterMap PoolMoment.closed?

theorem of_append (past later : List (PoolMoment α)) : of (past ++ later) = of past ++ of later := by
  change PoolLedger.mk .. = PoolLedger.mk ..
  simp [of]

/-- The calls that have not settled. -/
def live (g : PoolLedger α) : List (Nat × α) :=
  g.started.filter fun t => !g.finished.any (·.1 = t.1)

/-- One entry for each call that failed with what has a text, in the order in which they did. -/
def failures (g : PoolLedger α) : List TaskFailure := g.finished.filterMap TaskFailure.of?

/-- The calls that failed, in the order in which they did. -/
def failed (g : PoolLedger α) : List Nat :=
  (g.finished.filter (·.2.isSome)).map (·.1)

/-- Whatever a call has failed with has a text. -/
def Told (g : PoolLedger α) : Prop := ∀ t ∈ g.finished, ∀ reason, t.2 = some reason → reason.hasText

/-- Each call that failed has its entry then. -/
theorem Told.failures_eq {g : PoolLedger α} (h : g.Told) :
    g.failures.map (·.index) = g.failed := by
  rw [failures, failed, List.map_filterMap, ← List.filterMap_eq_map, ← List.filterMap_eq_filter,
    List.filterMap_filterMap]
  apply List.filterMap_congr
  rintro ⟨index, failure⟩ ht
  cases failure with
  | none => rfl
  | some reason =>
    have hread := reason.read_eq_ok (h _ ht reason rfl)
    simp [TaskFailure.of?, hread]

/-- A call that settles is live no longer. -/
theorem live_finished (g : PoolLedger α) (index : Nat) (failure : Option Reason) :
    ({ g with finished := g.finished ++ [(index, failure)] } : PoolLedger α).live
      = g.live.filter (·.1 != index) := by
  rw [live, live, List.filter_filter]
  apply List.filter_congr
  intro t _
  by_cases ht : index = t.1
  · simp [ht]
  · have hne : (t.1 != index) = true := bne_iff_ne.mpr (Ne.symm ht)
    simp [ht, hne]

theorem live_started (g : PoolLedger α) {index : Nat} (item : α)
    (hnew : ∀ t ∈ g.finished, t.1 ≠ index) :
    ({ g with started := g.started ++ [(index, item)] } : PoolLedger α).live
      = g.live ++ [(index, item)] := by
  have hnone : g.finished.any (·.1 = index) = false := by simpa using hnew
  simp [live, List.filter_append, hnone]

theorem not_finished_of_live {g : PoolLedger α} {t : Nat × α} (ht : t ∈ g.live) :
    ∀ f ∈ g.finished, f.1 ≠ t.1 := by
  simpa using (List.mem_filter.mp ht).2

end PoolLedger


-- ---------------------------------------------------------------------------
-- Runs
-- ---------------------------------------------------------------------------

/-- The pool after a list of events. -/
def Pool.run (p : Pool α) : List (PoolEvent α) → Pool α
  | [] => p
  | e :: rest => (p.step e).1.run rest

theorem Pool.run_append (p : Pool α) (xs ys : List (PoolEvent α)) :
    p.run (xs ++ ys) = (p.run xs).run ys := by
  induction xs generalizing p with
  | nil => rfl
  | cons e rest ih => exact ih _

namespace PoolLoop

/-- What of an event can be seen from outside. -/
def opening : LoopEvent α → List (PoolMoment α)
  | .outside e => [.met e]
  | .cleared _ | .woken => []

/-- What an event brings about, if it can come. -/
def moments (l : PoolLoop α) (e : LoopEvent α) : List (PoolMoment α) :=
  if l.admits e then opening e ++ (l.step e).2.map fun t => .started t.1 t.2 else []

/-- The loop after a list of events. -/
def run (l : PoolLoop α) : List (LoopEvent α) → PoolLoop α
  | [] => l
  | e :: rest => (l.step e).1.run rest

def history (l : PoolLoop α) : List (LoopEvent α) → List (PoolMoment α)
  | [] => []
  | e :: rest => l.moments e ++ (l.step e).1.history rest

@[simp] theorem run_cons (l : PoolLoop α) (e : LoopEvent α) (rest : List (LoopEvent α)) :
    l.run (e :: rest) = (l.step e).1.run rest := rfl

@[simp] theorem history_nil (l : PoolLoop α) : l.history [] = [] := rfl

@[simp] theorem history_cons (l : PoolLoop α) (e : LoopEvent α) (rest : List (LoopEvent α)) :
    l.history (e :: rest) = l.moments e ++ (l.step e).1.history rest := rfl

theorem run_append (l : PoolLoop α) (xs ys : List (LoopEvent α)) :
    l.run (xs ++ ys) = (l.run xs).run ys := by
  induction xs generalizing l with
  | nil => rfl
  | cons e rest ih => exact ih _

/-- Whether a loop can come to another. -/
def Reaches (l l' : PoolLoop α) : Prop := ∃ events, l.run events = l'

theorem Reaches.refl (l : PoolLoop α) : l.Reaches l := ⟨[], rfl⟩

theorem Reaches.trans {l₁ l₂ l₃ : PoolLoop α} (h : l₁.Reaches l₂) (h' : l₂.Reaches l₃) :
    l₁.Reaches l₃ := by
  obtain ⟨xs, rfl⟩ := h
  obtain ⟨ys, rfl⟩ := h'
  exact ⟨xs ++ ys, run_append ..⟩

theorem reaches_step (l : PoolLoop α) (e : LoopEvent α) : l.Reaches (l.step e).1 := ⟨[e], rfl⟩

end PoolLoop


-- ---------------------------------------------------------------------------
-- Prompt sources
-- ---------------------------------------------------------------------------

namespace FedPool

open PoolLoop

theorem reaches_goOn (l : PoolLoop α) : l.Reaches (goOn l).1 :=
  (reaches_step l _).trans (reaches_step ..)

theorem reaches_leave (l : PoolLoop α) (index : Nat) (failure : Option Reason) :
    l.Reaches (leave l index failure) :=
  (reaches_step l _).trans (reaches_step ..)

theorem reaches_begin (immediate : Nat → Option Reason) (l : PoolLoop α)
    (started : List (Nat × α)) : l.Reaches (begin immediate l started).1 := by
  induction started generalizing l with
  | nil => exact .refl l
  | cons t rest ih =>
    cases himmediate : immediate t.1 with
    | none =>
      simp only [begin, himmediate]
      exact ih l
    | some reason =>
      simp only [begin, himmediate]
      exact (reaches_leave l t.1 _).trans (ih _)

theorem reaches_pull (immediate : Nat → Option Reason) (sourceFailure : Option Reason)
    (l : PoolLoop α) (pulled : Nat) (items : List α) :
    l.Reaches (pull immediate sourceFailure l pulled items).1 := by
  induction items generalizing l pulled with
  | nil =>
    cases hasks : l.asks with
    | false => simpa [pull, hasks] using Reaches.refl l
    | true =>
      cases sourceFailure with
      | none =>
        simp only [pull, hasks]
        exact (reaches_step l _).trans (reaches_goOn _)
      | some reason =>
        simp only [pull, hasks]
        exact (reaches_step l _).trans (reaches_goOn _)
  | cons item rest ih =>
    cases hasks : l.asks with
    | false => simpa [pull, hasks] using Reaches.refl l
    | true =>
      simp only [pull, hasks]
      exact ((reaches_step l _).trans (reaches_begin ..)).trans (ih ..)

/-- A loop that is fed takes its turns in one of the orders that are left open. -/
theorem finish_reaches (f : FedPool α) (index : Nat) (failure : Option Reason) :
    f.loop.Reaches f.settle.1.loop ∧ f.loop.Reaches (f.finish index failure).1.loop := by
  have hsettle (f : FedPool α) : f.loop.Reaches f.settle.1.loop := reaches_pull ..
  refine ⟨hsettle f, ?_⟩
  exact (((reaches_leave f.loop index failure).trans (reaches_goOn _)).trans
    (reaches_begin ..)).trans (hsettle { f with loop := _ })

end FedPool

end FileSearch
