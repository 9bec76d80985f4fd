import FileSearch.Output.Stream
import FileSearch.Bytes

/-!
# Sink

The one destination of all report blocks. Blocks are queued; the first of the queue is with the
stream, and the next is handed over when that one is acknowledged, so no two blocks mix. With the
first block that fails the sink breaks: what is queued behind it and whatever is asked for later
fails in the same way.

Calls are answered when the last block queued before them is. Answers that an event brings about
come in rounds: a flush is answered one round after the block, a close two; a block that fails
behind a failed one comes a round later, and one that is refused behind an acknowledged one three.
-/

namespace FileSearch

inductive CallKind where
  | write
  | flush
  | close
  deriving DecidableEq, Repr

/-- How many rounds after its block a call is answered. -/
def CallKind.delay : CallKind → Nat
  | write => 0
  | flush => 1
  | close => 2

structure SinkCall (κ : Type) where
  caller : κ
  kind : CallKind

/-- A block and the calls that wait for it. -/
structure QueuedBlock (κ : Type) where
  bytes : Bytes
  waiting : List (SinkCall κ)

structure SinkAnswer (κ : Type) where
  call : SinkCall κ
  outcome : Except Failure Unit

structure Sink (κ : Type) where
  stream : OutputStream := {}
  listening : Bool := true
  /-- The first error of the stream that was heard. -/
  heard : Option Fault := none
  /-- What the first failed block failed with. -/
  broken : Option Failure := none
  queue : List (QueuedBlock κ) := []
  bytesWritten : Nat := 0
  blocksWritten : Nat := 0

/-- What a step of the sink does to the outside: blocks for the stream, answers to calls in order,
and errors the stream reports. -/
structure SinkOutput (κ : Type) where
  delivered : List Bytes := []
  answers : List (SinkAnswer κ) := []
  errors : List Fault := []

namespace QueuedBlock

variable {κ : Type}

/-- The answers to the calls that wait for a block, with their rounds. -/
def answers (b : QueuedBlock κ) (round : Nat) (outcome : Except Failure Unit) :
    List (Nat × SinkAnswer κ) :=
  b.waiting.map fun call => (round + call.kind.delay, { call, outcome })

/-- The answers when a queue of blocks fails from the first on. -/
def rejections (failure : Failure) (round : Nat) :
    List (QueuedBlock κ) → List (Nat × SinkAnswer κ)
  | [] => []
  | b :: rest => b.answers round (.error failure) ++ rejections failure (round + 1) rest

/-- Lets a call wait for the last block of a queue. -/
def await (call : SinkCall κ) : List (QueuedBlock κ) → List (QueuedBlock κ)
  | [] => []
  | [b] => [{ b with waiting := b.waiting ++ [call] }]
  | b :: rest => b :: await call rest

end QueuedBlock

namespace Sink

variable {κ : Type}

def writeFailed (fault : Fault) : Failure :=
  Failure.causedBy .outputFailed ("Failed to write report output: " ++ fault.message) (.fault fault)

def streamClosed : Failure := { code := .outputFailed, message := "Output stream is closed" }

/-- Why a block cannot be handed to the stream. -/
def refusal? (s : Sink κ) : Option Failure :=
  match s.heard with
  | some fault => some (writeFailed fault)
  | none => if s.stream.closed then some streamClosed else none

/-- Answers come in the order of their rounds, and within a round in that of the calls. A sink whose
closing was answered listens no longer. -/
def reply (s : Sink κ) (delivered : List Bytes) (answers : List (Nat × SinkAnswer κ)) :
    Sink κ × SinkOutput κ :=
  let ordered := (answers.mergeSort fun a b => a.1 ≤ b.1).map (·.2)
  ({ s with listening := s.listening && ordered.all (·.call.kind != .close) },
    { delivered, answers := ordered })

/-- The sink after its queue failed from the first block on. -/
def breakWith (s : Sink κ) (failure : Failure) : Sink κ :=
  { s with broken := some failure, queue := [] }

/-- Hands the first block of the queue to the stream, or breaks if the stream takes none. -/
def handOver (s : Sink κ) (round : Nat) : Sink κ × List Bytes × List (Nat × SinkAnswer κ) :=
  match s.queue with
  | [] => (s, [], [])
  | b :: _ =>
    match s.refusal? with
    | some failure => (s.breakWith failure, [], QueuedBlock.rejections failure round s.queue)
    | none => ({ s with stream := { s.stream with outstanding := true } }, [b.bytes], [])


-- ---------------------------------------------------------------------------
-- Calls
-- ---------------------------------------------------------------------------

/-- The outcome of all blocks queued so far, where none is waiting. -/
def standing (s : Sink κ) : Except Failure Unit :=
  match s.broken with
  | some failure => .error failure
  | none => .ok ()

/-- Takes a call that is answered with the last block. -/
def awaitLast (s : Sink κ) (call : SinkCall κ) : Sink κ × SinkOutput κ :=
  if s.queue.isEmpty then s.reply [] [(0, { call, outcome := s.standing })]
  else ({ s with queue := QueuedBlock.await call s.queue }, {})

/-- Takes a block. An empty one is only waited for. -/
def write (s : Sink κ) (caller : κ) (bytes : Bytes) : Sink κ × SinkOutput κ :=
  let call : SinkCall κ := { caller, kind := .write }
  if bytes.isEmpty || s.broken.isSome then s.awaitLast call
  else
    let idle := s.queue.isEmpty
    let s := { s with queue := s.queue ++ [{ bytes, waiting := [call] }] }
    if idle then
      let (s, delivered, answers) := s.handOver 0
      s.reply delivered answers
    else (s, {})

def flush (s : Sink κ) (caller : κ) : Sink κ × SinkOutput κ :=
  s.awaitLast { caller, kind := .flush }

/-- Waits for the blocks queued so far and then stops listening to the stream. -/
def close (s : Sink κ) (caller : κ) : Sink κ × SinkOutput κ :=
  s.awaitLast { caller, kind := .close }


-- ---------------------------------------------------------------------------
-- Events of the stream
-- ---------------------------------------------------------------------------

/-- Remembers the first error it hears. -/
def hear (s : Sink κ) (error : Option Fault) : Sink κ :=
  if s.listening then { s with heard := s.heard <|> error } else s

/-- Goes on when the stream has answered the first block. -/
def answered (s : Sink κ) : Except Fault Unit → Sink κ × SinkOutput κ
  | .ok () =>
    match s.queue with
    | [] => (s, {})
    | b :: rest =>
      let s := { s with
        queue := rest
        bytesWritten := s.bytesWritten + b.bytes.length
        blocksWritten := s.blocksWritten + 1 }
      let (s, delivered, answers) := s.handOver 3
      s.reply delivered (b.answers 0 (.ok ()) ++ answers)
  | .error fault =>
    let failure := writeFailed fault
    (s.breakWith failure).reply [] (QueuedBlock.rejections failure 0 s.queue)

def onStream (s : Sink κ) (e : StreamEvent) : Sink κ × SinkOutput κ :=
  let (stream, signal) := s.stream.step e
  let s := { s with stream }.hear signal.error
  let (s, output) : Sink κ × SinkOutput κ := match signal.answer with
    | none => (s, {})
    | some answer => s.answered answer
  (s, { output with errors := signal.error.toList })

end Sink

/-- What is done to a sink from outside. -/
inductive SinkEvent (κ : Type) where
  | write (caller : κ) (block : Bytes)
  | flush (caller : κ)
  | close (caller : κ)
  | stream (event : StreamEvent)

def Sink.step {κ : Type} (s : Sink κ) : SinkEvent κ → Sink κ × SinkOutput κ
  | .write caller block => s.write caller block
  | .flush caller => s.flush caller
  | .close caller => s.close caller
  | .stream e => s.onStream e

end FileSearch
