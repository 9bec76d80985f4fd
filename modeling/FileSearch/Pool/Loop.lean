import FileSearch.Pool

/-!
# Pull loop

A pool at the grain of single turns. A task that has settled keeps its slot until its clean-up has
run. The loop that pulls the items sleeps, when it finds no slot free, on the tasks that have one;
it can go on once one of these has settled, and then looks again. At the end of the source it waits
until every task that has a slot at that moment has settled. In which order all this comes is left
open: a clean-up may run long after its task has settled, and several tasks may settle before the
loop goes on.

What a task fails with is made an error, and a task breaks if that throws in turn, for what it failed
with has no text. Then nothing is noted of it. A sleeping loop learns how the first of the tasks
settled that it sleeps on, and if that one broke it gives up: it drops the item that has no slot, asks
for no more, and fails with what was thrown.

What clean-ups and wake-ups still have to do is taken as done in a `Pool`, which is what a loop comes
to when it is left alone (`PoolLoop.rest`).
-/

namespace FileSearch

/-- How far a task has come. -/
inductive TaskState where
  | running
  | done
  /-- Noting what it failed with has thrown. -/
  | broken (fault : Fault)

namespace TaskState

def isSettled : TaskState → Bool
  | running => false
  | done | broken _ => true

/-- The state of a task that has settled. -/
def ofFailure (failure : Option Reason) : TaskState :=
  match failure.map Reason.read with
  | none | some (.ok _) => done
  | some (.error fault) => broken fault

end TaskState

/-- The entry for a task that has settled, if it failed with what can be noted. -/
def TaskFailure.of? (finished : Nat × Option Reason) : Option TaskFailure :=
  match finished.2.map Reason.read with
  | some (.ok thrown) => some { index := finished.1, error := thrown.asError }
  | none | some (.error _) => none

/-- A task that has a slot. -/
structure LoopTask (α : Type) where
  index : Nat
  item : α
  state : TaskState := .running

def LoopTask.settled {α : Type} (t : LoopTask α) : Bool := t.state.isSettled

/-- Why a loop takes no more items. -/
inductive LoopEnding (α : Type) where
  | sourceEnded
  | sourceFailed (reason : Reason)
  /-- A task broke while an item had no slot. -/
  | gaveUp (item : α) (fault : Fault)
  /-- Its number of slots is none. -/
  | refused (fault : Fault)

inductive LoopPhase (α : Type) where
  /-- The source has been asked for an item. -/
  | asking
  /-- An item has no slot. As soon as one of the tasks that have one has settled, `first` is how. -/
  | asleep (item : α) (first : TaskState)
  /-- No more items are taken, and all of the watched tasks have to settle. -/
  | draining (ending : LoopEnding α) (watched : List Nat)
  | settled (ending : LoopEnding α)

namespace LoopPhase

variable {α : Type}

/-- What a phase learns of a task that settles. -/
def learn (state : TaskState) : LoopPhase α → LoopPhase α
  | .asleep item .running => .asleep item state
  | phase => phase

/-- Why no more items are taken, once that is so. -/
def ending? : LoopPhase α → Option (LoopEnding α)
  | .draining ending _ | .settled ending => some ending
  | .asking | .asleep _ _ => none

end LoopPhase

structure PoolLoop (α : Type) where
  limit : Nat
  phase : LoopPhase α := .asking
  /-- How many items have been started; the next one gets this index. -/
  started : Nat := 0
  /-- In the order they were started. -/
  inFlight : List (LoopTask α) := []
  /-- In the order the tasks failed. -/
  failures : List TaskFailure := []

inductive LoopEvent (α : Type) where
  | outside (e : PoolEvent α Reason)
  /-- The clean-up of a task that has settled. -/
  | cleared (index : Nat)
  /-- The loop goes on after a sleep. -/
  | woken

namespace PoolLoop

variable {α : Type}

/-- The loop for a number of slots. If that is no positive integer it has failed before it begins. -/
def ofConcurrency (concurrency : Number) : PoolLoop α :=
  match (Pool.ofConcurrency concurrency : Except Fault (Pool α)) with
  | .ok p => { limit := p.limit }
  | .error fault => { limit := 0, phase := .settled (.refused fault) }

/-- The tasks that have not settled. -/
def running (l : PoolLoop α) : List (Nat × α) :=
  (l.inFlight.filter (!·.settled)).map fun t => (t.index, t.item)

def isRunning (l : PoolLoop α) (index : Nat) : Bool := l.running.any (·.1 = index)

def hasSlot (l : PoolLoop α) : Bool := l.inFlight.length < l.limit

/-- Who has a slot. -/
def slots (l : PoolLoop α) : List Nat := l.inFlight.map (·.index)

/-- How the first of the tasks that have a slot has settled. -/
def firstSettled (l : PoolLoop α) : TaskState :=
  match l.inFlight.find? (·.settled) with
  | some t => t.state
  | none => .running

/-- Whether the loop waits for the source. -/
def asks (l : PoolLoop α) : Bool :=
  match l.phase with
  | .asking => true
  | .asleep _ _ | .draining _ _ | .settled _ => false

/-- Starts an item, and tells its index. -/
def start (l : PoolLoop α) (item : α) : PoolLoop α × List (Nat × α) :=
  ({ l with
      phase := .asking
      started := l.started + 1
      inFlight := l.inFlight ++ [{ index := l.started, item }] },
    [(l.started, item)])

/-- Goes to sleep on the tasks that have a slot. One of them may have settled already. -/
def sleep (l : PoolLoop α) (item : α) : PoolLoop α :=
  { l with phase := .asleep item l.firstSettled }

/-- Starts an item if a slot is free, and sleeps if none is. -/
def offer (l : PoolLoop α) (item : α) : PoolLoop α × List (Nat × α) :=
  if l.hasSlot then l.start item else (l.sleep item, [])

/-- Takes no more items and waits for the tasks that are left. -/
def drain (l : PoolLoop α) (ending : LoopEnding α) : PoolLoop α :=
  { l with phase := .draining ending l.slots }

/-- A task settles, and keeps its slot. -/
def settle (l : PoolLoop α) (index : Nat) (failure : Option Reason) : PoolLoop α :=
  let state := TaskState.ofFailure failure
  { l with
    phase := l.phase.learn state
    inFlight := l.inFlight.map fun t => if t.index = index then { t with state } else t
    failures := l.failures ++ (TaskFailure.of? (index, failure)).toList }

/-- A task loses its slot. -/
def clear (l : PoolLoop α) (index : Nat) : PoolLoop α :=
  { l with inFlight := l.inFlight.filter (·.index != index) }

/-- What comes of a loop that has ended so: the error of the source if it failed, whatever the tasks
did, and its own error if it gave up. -/
def report (l : PoolLoop α) : LoopEnding α → Except Reason PoolOutcome
  | .sourceEnded => .ok { dispatched := l.started, failures := l.failures }
  | .sourceFailed reason => .error reason
  | .gaveUp _ fault | .refused fault => .error (.thrown (.fault fault))

/-- The outcome, once there is one. -/
def outcome? (l : PoolLoop α) : Option (Except Reason PoolOutcome) :=
  match l.phase with
  | .settled ending => some (l.report ending)
  | .asking | .asleep _ _ | .draining _ _ => none

/-- Whether a sleep is over. -/
def wakes (l : PoolLoop α) : Bool :=
  match l.phase with
  | .asleep _ first => first.isSettled
  | .draining _ watched => watched.all (!l.isRunning ·)
  | .asking | .settled _ => false

def wake (l : PoolLoop α) : PoolLoop α × List (Nat × α) :=
  match l.phase with
  | .asleep item .done => l.offer item
  | .asleep item (.broken fault) => (l.drain (.gaveUp item fault), [])
  | .draining ending _ => ({ l with phase := .settled ending }, [])
  | .asking | .asleep _ .running | .settled _ => (l, [])

/-- Whether an event can come. The source answers only when it is asked, and a task settles once. -/
def admits (l : PoolLoop α) : LoopEvent α → Bool
  | .outside (.delivered _) | .outside .sourceEnded | .outside (.sourceFailed _) => l.asks
  | .outside (.finished index _) => l.isRunning index
  | .cleared index => l.inFlight.any fun t => t.settled && t.index = index
  | .woken => l.wakes

/-- What an event does that can come. -/
def advance (l : PoolLoop α) : LoopEvent α → PoolLoop α × List (Nat × α)
  | .outside (.delivered item) => l.offer item
  | .outside .sourceEnded => (l.drain .sourceEnded, [])
  | .outside (.sourceFailed reason) => (l.drain (.sourceFailed reason), [])
  | .outside (.finished index failure) => (l.settle index failure, [])
  | .cleared index => (l.clear index, [])
  | .woken => l.wake

/-- Takes an event if it can come, and tells which items were started. -/
def step (l : PoolLoop α) (e : LoopEvent α) : PoolLoop α × List (Nat × α) :=
  if l.admits e then l.advance e else (l, [])

end PoolLoop


-- ---------------------------------------------------------------------------
-- Prompt sources
-- ---------------------------------------------------------------------------

/-- What can be seen of a loop that is fed as soon as it asks. -/
inductive PoolMove where
  | pulled (index : Nat)
  | started (index : Nat)
  | sourceEnded
  | sourceFailed (index : Nat)
  deriving DecidableEq, Repr

/-- A loop together with a source that answers at once: with its items, and then with its end or an
error. `immediate` tells which tasks fail as they are started. Clean-ups and wake-ups come at once
too. -/
structure FedPool (α : Type) where
  loop : PoolLoop α
  items : List α
  pulled : Nat := 0
  sourceFailure : Option Reason := none
  immediate : Nat → Option Reason := fun _ => none

namespace FedPool

variable {α : Type}

/-- Goes on after a sleep. A loop that gives up with no task left settles as well. -/
def goOn (l : PoolLoop α) : PoolLoop α × List (Nat × α) :=
  let (l, started) := l.step .woken
  ((l.step .woken).1, started)

/-- A task settles and loses its slot. -/
def leave (l : PoolLoop α) (index : Nat) (failure : Option Reason) : PoolLoop α :=
  ((l.step (.outside (.finished index failure))).1.step (.cleared index)).1

/-- What starting items leads to: those that fail at once are left behind. -/
def begin (immediate : Nat → Option Reason) (l : PoolLoop α) :
    List (Nat × α) → PoolLoop α × List PoolMove
  | [] => (l, [])
  | (index, _) :: rest =>
    let l := match immediate index with
      | some reason => leave l index (some reason)
      | none => l
    let (l, moves) := begin immediate l rest
    (l, .started index :: moves)

/-- Pulls items as long as the loop asks. -/
def pull (immediate : Nat → Option Reason) (sourceFailure : Option Reason) (l : PoolLoop α)
    (pulled : Nat) : List α → PoolLoop α × List α × Nat × List PoolMove
  | [] =>
    if !l.asks then (l, [], pulled, [])
    else match sourceFailure with
      | some reason =>
        ((goOn (l.step (.outside (.sourceFailed reason))).1).1, [], pulled, [.sourceFailed pulled])
      | none => ((goOn (l.step (.outside .sourceEnded)).1).1, [], pulled, [.sourceEnded])
  | item :: rest =>
    if !l.asks then (l, item :: rest, pulled, [])
    else
      let (l, started) := l.step (.outside (.delivered item))
      let (l, moves) := begin immediate l started
      let (l, left, count, more) := pull immediate sourceFailure l (pulled + 1) rest
      (l, left, count, .pulled pulled :: (moves ++ more))

/-- Lets everything run that can. -/
def settle (f : FedPool α) : FedPool α × List PoolMove :=
  let (loop, items, pulled, moves) := pull f.immediate f.sourceFailure f.loop f.pulled f.items
  ({ f with loop, items, pulled }, moves)

/-- Finishes a live task and lets everything run that can. -/
def finish (f : FedPool α) (index : Nat) (failure : Option Reason) : FedPool α × List PoolMove :=
  let (loop, started) := goOn (leave f.loop index failure)
  let (loop, moves) := begin f.immediate loop started
  let (f, more) := { f with loop }.settle
  (f, moves ++ more)

end FedPool


-- ---------------------------------------------------------------------------
-- The loop left alone
-- ---------------------------------------------------------------------------

def LoopEnding.source {α : Type} : LoopEnding α → SourceState
  | .sourceEnded => .ended
  | .sourceFailed reason => .failed reason.told
  | .gaveUp _ fault | .refused fault => .failed (.fault fault)

namespace PoolLoop

variable {α : Type}

/-- What is known of the source. -/
def source (l : PoolLoop α) : SourceState :=
  match l.phase.ending? with
  | some ending => ending.source
  | none => .open

/-- The item that has no slot. -/
def waiting (l : PoolLoop α) : Option α :=
  match l.phase with
  | .asleep item _ => some item
  | .asking | .draining _ _ | .settled _ => none

/-- The tasks that have not settled and the item that waits, as a pool. -/
def pool (l : PoolLoop α) : Pool α where
  limit := l.limit
  source := l.source
  started := l.started
  live := l.running
  waiting := l.waiting
  failures := l.failures

/-- The pool that a loop comes to when all clean-ups and wake-ups have run. -/
def rest (l : PoolLoop α) : Pool α := l.pool.startWaiting.1

end PoolLoop

end FileSearch
