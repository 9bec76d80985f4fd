import FileSearch.Output.Sink

/-!
# Hand-over

A sink at the grain of single turns. A block that finds nothing queued is due, and so is the next one
when a block is acknowledged; it is handed over in a turn of its own. Whatever comes before that turn
it finds: more calls, and a stream that has been ended or destroyed in the meantime. An error of the
stream is reported in a turn of its own too, so a block may be refused before the sink has heard why.

A hand-over that is due and an error that is not reported are taken as done in a `Sink`, which is what
these turns come to when they are left alone (`SinkLoop.rest`).
-/

namespace FileSearch

structure SinkLoop (κ : Type) where
  sink : Sink κ
  /-- An error of the stream that is still to be reported. -/
  unreported : Option Fault := none

inductive SinkLoopEvent (κ : Type) where
  | outside (e : SinkEvent κ)
  /-- The turn of the block that is due. -/
  | handedOver
  | reported

namespace SinkLoop

variable {κ : Type}

/-- Whether the first block of the queue is still to be handed over. -/
def due (l : SinkLoop κ) : Bool := !l.sink.queue.isEmpty && !l.sink.stream.outstanding

/-- What the sink does with a call or an answer, while an error stays unreported. -/
def put (l : SinkLoop κ) (next : Sink κ × SinkOutput κ) : SinkLoop κ × SinkOutput κ :=
  ({ l with sink := next.1 }, next.2)

/-- Takes a block. An empty one is only waited for. -/
def write (l : SinkLoop κ) (caller : κ) (bytes : Bytes) : SinkLoop κ × SinkOutput κ :=
  let call : SinkCall κ := { caller, kind := .write }
  if bytes.isEmpty || l.sink.broken.isSome then l.put (l.sink.awaitLast call)
  else l.put ({ l.sink with queue := l.sink.queue ++ [{ bytes, waiting := [call] }] }, {})

/-- The first block is answered. The next one is left for its turn. -/
def answered (l : SinkLoop κ) : Except Fault Unit → SinkLoop κ × SinkOutput κ
  | .ok () =>
    match l.sink.queue with
    | [] => (l, {})
    | b :: rest =>
      let s := { l.sink with
        queue := rest
        bytesWritten := l.sink.bytesWritten + b.bytes.length
        blocksWritten := l.sink.blocksWritten + 1 }
      l.put (s.reply [] (b.answers 0 (.ok ())))
  | .error fault => l.put (l.sink.answered (.error fault))

def onStream (l : SinkLoop κ) (e : StreamEvent) : SinkLoop κ × SinkOutput κ :=
  let (stream, signal) := l.sink.stream.step e
  let l := { sink := { l.sink with stream }, unreported := l.unreported <|> signal.error }
  match signal.answer with
  | none => (l, {})
  | some answer => l.answered answer

def handOver (l : SinkLoop κ) : SinkLoop κ × SinkOutput κ :=
  let (s, delivered, answers) := l.sink.handOver 0
  l.put (s.reply delivered answers)

/-- The error is told to whoever listens. -/
def report (l : SinkLoop κ) : SinkLoop κ × SinkOutput κ :=
  ({ sink := l.sink.hear l.unreported }, { errors := l.unreported.toList })

/-- Whether an event can come. The stream answers nothing but a write. -/
def admits (l : SinkLoop κ) : SinkLoopEvent κ → Bool
  | .outside (.stream .acknowledged) | .outside (.stream (.failed _)) => l.sink.stream.outstanding
  | .outside (.write _ _) | .outside (.flush _) | .outside (.close _)
  | .outside (.stream .ended) | .outside (.stream (.destroyed _)) => true
  | .handedOver => l.due
  | .reported => l.unreported.isSome

/-- What an event does that can come. -/
def advance (l : SinkLoop κ) : SinkLoopEvent κ → SinkLoop κ × SinkOutput κ
  | .outside (.write caller bytes) => l.write caller bytes
  | .outside (.flush caller) => l.put (l.sink.flush caller)
  | .outside (.close caller) => l.put (l.sink.close caller)
  | .outside (.stream e) => l.onStream e
  | .handedOver => l.handOver
  | .reported => l.report

def step (l : SinkLoop κ) (e : SinkLoopEvent κ) : SinkLoop κ × SinkOutput κ :=
  if l.admits e then l.advance e else (l, {})

/-- The sink these turns come to when nothing more comes from outside, and what it does on the
way. -/
def rest (l : SinkLoop κ) : Sink κ × SinkOutput κ :=
  let (l, handed) := l.step .handedOver
  let (l, reported) := l.step .reported
  (l.sink, { handed with errors := reported.errors })

end SinkLoop

end FileSearch
