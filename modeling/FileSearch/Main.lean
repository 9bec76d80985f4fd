import FileSearch.Command

/-!
# Program

The command on a real system: it reads the environment and standard input, opens files one at a
time, writes reports to standard output and log lines to standard error. What happens next is up to
`Scan.next?`.
-/

namespace FileSearch.Program

def osCode? : IO.Error → Option UInt32
  | .alreadyExists _ code _ | .otherError code _ | .resourceBusy code _
  | .resourceVanished code _ | .unsupportedOperation code _ | .hardwareFault code _
  | .unsatisfiedConstraints code _ | .illegalOperation code _ | .protocolError code _
  | .timeExpired code _ | .interrupted _ code _ | .noFileOrDirectory _ code _
  | .invalidArgument _ code _ | .permissionDenied _ code _ | .resourceExhausted _ code _
  | .inappropriateType _ code _ | .noSuchThing _ code _ => some code
  | _ => none

def systemError? (e : IO.Error) : Option SystemError :=
  (osCode? e).bind fun code => SystemError.ofNumber? code.toNat

/-- An error of opening or reading a file. -/
def fileFault (path : String) (e : IO.Error) : Fault :=
  match systemError? e with
  | some known => known.openFault path
  | none => { message := toString e }

def openFile (path : String) : IO Opening := do
  if path.toList.contains (Char.ofNat 0) then
    return .error (.fault (nullPathFault path))
  match ← (IO.FS.Handle.mk path .read).toBaseIO with
  | .error e => return .error (.fault (fileFault path e))
  | .ok handle =>
    match ← handle.readBinToEnd.toBaseIO with
    | .ok bytes => return .ok (.ofContents bytes.data.toList)
    | .error e =>
      if systemError? e = some .isDirectory then return .ok .ofDirectory
      else
        let thrown : Thrown := .fault (fileFault path e)
        return .ok
          { stat := .ok { size := .ofNat 0 }
            chunks := []
            failure := some thrown
            contents := .error thrown }

/-- Writes a block and tells how the stream took it. -/
def writeBlock (block : Bytes) : IO StreamEvent := do
  let output ← IO.getStdout
  let write : IO Unit := do
    output.write ⟨block.toArray⟩
    output.flush
  match ← write.toBaseIO with
  | .ok _ => return .acknowledged
  | .error e => return .failed (toString e)

partial def readChunks (input : IO.FS.Stream) : IO (List Bytes) := do
  let chunk ← input.read 65536
  if chunk.isEmpty then return []
  return chunk.data.toList :: (← readChunks input)

/-- The event that has to happen before the machine goes on, and what opening a file gave. -/
def meet (s : Scan) (e : ScanEvent) : IO (ScanEvent × Opening) := do
  let unopened : Opening := .error (.value .absent)
  match e with
  | .scanned index =>
    match s.task? index with
    | some task => return (e, ← openFile task.path)
    | none => return (e, unopened)
  | .stream _ => return (.stream (← writeBlock (s.delivered.getLastD [])), unopened)
  | e => return (e, unopened)

def showLines (lines : List String) : IO Unit := lines.forM fun line => IO.eprintln line

partial def drive (job : ScanJob) (lines : List PathLine) (s : Scan) : IO Scan := do
  match s.next? { lines } lines with
  | none => return s
  | some (e, rest) =>
    let (e, opening) ← meet s e
    let next := s.step { job with files := fun _ => opening } e
    showLines (next.logLines.drop s.logLines.length)
    drive job rest next

def runCommand (c : Command) : IO CommandTrace := do
  showLines c.logLines
  match Scan.start { c.job with files := fun _ => .error (.value .absent) } {} with
  | .error thrown => return c.conclude { result := .error thrown }
  | .ok s =>
    showLines s.logLines
    let input ← readChunks (← IO.getStdin)
    let s ← drive c.job (readPathLines input) s
    let trace := c.conclude s.trace
    showLines (trace.logLines.drop (c.logLines.length + s.logLines.length))
    return trace

def readEnvironment : IO Environment := do
  let values ← Setting.all.mapM fun setting => do
    return (setting.key, ← IO.getEnv setting.key)
  return fun name => (values.lookup name).join

/-- The number of processors the system lists. -/
def countProcessors : IO Nat := do
  match ← (IO.FS.lines "/proc/cpuinfo").toBaseIO with
  | .ok lines => return (lines.filter fun line => line.startsWith "processor").size
  | .error _ => return 1

end FileSearch.Program

open FileSearch in
def main (arguments : List String) : IO UInt32 := do
  let environment ← Program.readEnvironment
  let processors ← Program.countProcessors
  match Command.ofInvocation { arguments, environment, processors := .ofNat processors } with
  | .error trace =>
    Program.showLines trace.logLines
    return UInt32.ofNat trace.exitCode.toNat
  | .ok c =>
    let trace ← Program.runCommand c
    return UInt32.ofNat trace.exitCode.toNat
