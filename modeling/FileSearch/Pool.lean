import FileSearch.Failure

/-!
# Pool

Runs tasks over the items of a source, at most so many at once. The source is asked for an item as
soon as the one before it has been started, so while all slots are taken one item waits. A failing
task is noted and stops nothing; a failing source is asked no more. The pool settles when its source
is at its end and no task is live.

This is a pool at rest, whose tasks fail with what has a text. `PoolLoop` has its single turns, and
tasks that fail with anything.
-/

namespace FileSearch

inductive SourceState where
  | open
  | ended
  | failed (thrown : Thrown)

namespace SourceState

def isOpen : SourceState → Bool
  | .open => true
  | _ => false

end SourceState

/-- A task that failed. -/
structure TaskFailure where
  index : Nat
  error : Thrown

structure Pool (α : Type) where
  limit : Nat
  source : SourceState := .open
  /-- How many items have been started; the next one gets this index. -/
  started : Nat := 0
  /-- The tasks that have not finished, in the order they were started. -/
  live : List (Nat × α) := []
  /-- An item that has no slot yet. -/
  waiting : Option α := none
  /-- In the order the tasks failed. -/
  failures : List TaskFailure := []

/-- What a pool meets; `ρ` is what may be thrown. -/
inductive PoolEvent (α : Type) (ρ : Type := Thrown) where
  | delivered (item : α)
  | sourceEnded
  | sourceFailed (reason : ρ)
  | finished (index : Nat) (failure : Option ρ)

/-- What a settled pool reports. -/
structure PoolOutcome where
  dispatched : Nat
  failures : List TaskFailure

/-- What a bare value becomes where an error is wanted. -/
def Thrown.asError : Thrown → Thrown
  | .value v hasText => .fault { message := (Thrown.value v hasText).message }
  | thrown => thrown

namespace Pool

variable {α : Type}

def limitFault (concurrency : Number) : Fault where
  kind := .range
  message := "concurrency must be a positive integer, got " ++ concurrency.text

/-- A pool with as many slots as a number says, which has to be a positive integer. -/
def ofConcurrency (concurrency : Number) : Except Fault (Pool α) :=
  match concurrency.toInt? with
  | none => .error (limitFault concurrency)
  | some n => if n < 1 then .error (limitFault concurrency) else .ok { limit := n.toNat }

/-- Whether the pool waits for the source. -/
def asks (p : Pool α) : Bool := p.source.isOpen && p.waiting.isNone

def hasSlot (p : Pool α) : Bool := p.live.length < p.limit

def isLive (p : Pool α) (index : Nat) : Bool := p.live.any (·.1 = index)

def settled (p : Pool α) : Bool := !p.source.isOpen && p.waiting.isNone && p.live.isEmpty

/-- What came of a settled pool: the error of the source if it failed, whatever the tasks did. -/
def outcome (p : Pool α) : Except Thrown PoolOutcome :=
  match p.source with
  | .failed thrown => .error thrown
  | _ => .ok { dispatched := p.started, failures := p.failures }

/-- Starts an item, and tells its index. -/
def start (p : Pool α) (item : α) : Pool α × List (Nat × α) :=
  ({ p with
      started := p.started + 1
      live := p.live ++ [(p.started, item)]
      waiting := none },
    [(p.started, item)])

/-- Starts the waiting item if there is a slot. -/
def startWaiting (p : Pool α) : Pool α × List (Nat × α) :=
  match p.waiting with
  | some item => if p.hasSlot then p.start item else (p, [])
  | none => (p, [])

/-- Takes a task out of the live ones. -/
def finish (p : Pool α) (index : Nat) (failure : Option Thrown) : Pool α :=
  { p with
    live := p.live.filter (·.1 != index)
    failures := p.failures ++ failure.toList.map fun t => { index, error := t.asError } }

/-- Takes an event and tells which items were started. Only a pool that asks takes anything from its
source, and only live tasks finish. -/
def step (p : Pool α) : PoolEvent α → Pool α × List (Nat × α)
  | .delivered item => if p.asks then { p with waiting := some item }.startWaiting else (p, [])
  | .sourceEnded => if p.asks then ({ p with source := .ended }, []) else (p, [])
  | .sourceFailed thrown => if p.asks then ({ p with source := .failed thrown }, []) else (p, [])
  | .finished index failure =>
    if p.isLive index then (p.finish index failure).startWaiting else (p, [])

/-- Changes the state a live task has reached. -/
def update (p : Pool α) (index : Nat) (f : α → α) : Pool α :=
  { p with live := p.live.map fun t => if t.1 = index then (t.1, f t.2) else t }

end Pool

end FileSearch
