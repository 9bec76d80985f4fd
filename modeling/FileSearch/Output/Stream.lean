import FileSearch.Failure

/-!
# Output stream

The stream that report blocks go to. It takes one write at a time and answers it later, or is ended
or destroyed at any moment; a write that is under way is still answered then. A stream reports at
most one error, and only as long as it is not destroyed.
-/

namespace FileSearch

structure OutputStream where
  ended : Bool := false
  destroyed : Bool := false
  /-- Whether a write has not been answered yet. -/
  outstanding : Bool := false
  deriving DecidableEq, Repr

inductive StreamEvent where
  | acknowledged
  | failed (message : String)
  | ended
  | destroyed (message : Option String)
  deriving DecidableEq, Repr

/-- What an event leads to: the answer to the outstanding write, and an error that is reported to
whoever listens. -/
structure StreamSignal where
  answer : Option (Except Fault Unit) := none
  error : Option Fault := none

namespace OutputStream

/-- Whether the stream takes no more writes. -/
def closed (s : OutputStream) : Bool := s.ended || s.destroyed

/-- A stream that has ended is destroyed as soon as nothing is outstanding. -/
def settle (s : OutputStream) : OutputStream :=
  if s.ended && !s.outstanding then { s with destroyed := true } else s

/-- Destroys the stream. A second time nothing comes of it. -/
def destroy (s : OutputStream) (error : Option Fault) : OutputStream × StreamSignal :=
  if s.destroyed then (s, {}) else ({ s with destroyed := true }, { error })

def step (s : OutputStream) : StreamEvent → OutputStream × StreamSignal
  | .acknowledged =>
    if s.outstanding then
      (settle { s with outstanding := false }, { answer := some (.ok ()) })
    else (s, {})
  | .failed message =>
    if s.outstanding then
      let fault : Fault := { message }
      let (s, signal) := destroy { s with outstanding := false } (some fault)
      (s, { signal with answer := some (.error fault) })
    else (s, {})
  | .ended => (settle { s with ended := true }, {})
  | .destroyed message => s.destroy (message.map fun m => { message := m })

end OutputStream

end FileSearch
