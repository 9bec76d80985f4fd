import FileSearch.Output.Sink
import FileSearch.PathList
import FileSearch.Pool
import FileSearch.Scan.Plan

/-!
# Scans

A run as a machine. The pool starts a task for every path; a task scans its file, hands the report
to the sink and waits until the sink has answered; then its result is counted. Events come from
outside: the next line of the path list, the end of the work on a file, an event of the output
stream. `Scan.step` takes one event and does everything that follows from it.

When the pool settles the sink is closed, and then the run ends: with the error of the pool, else
with that of the first task that failed, else with the summary.
-/

namespace FileSearch

/-- A live task; once its file is scanned it waits for the output with the report. -/
structure ScanTask where
  path : String
  report : Option Report := none

/-- Who calls the sink. -/
inductive ScanCaller where
  | task (index : Nat)
  | run
  deriving DecidableEq, Repr

inductive ScanPhase where
  | running
  /-- The pool has settled with an error or the failures of its tasks; the sink is closing. -/
  | closing (outcome : Except Thrown (List TaskFailure))
  | settled (result : Except Thrown Summary)

inductive ScanEvent where
  | line (line : PathLine)
  | linesEnded
  | linesFailed (reason : Reason)
  /-- The work on the file of a task is done. -/
  | scanned (index : Nat)
  | stream (event : StreamEvent)

structure Scan where
  pool : Pool ScanTask
  sink : Sink ScanCaller
  tally : Tally := {}
  logLines : List String := []
  events : List DiagnosticsEvent := []
  /-- The blocks handed to the stream. -/
  delivered : List Bytes := []
  phase : ScanPhase := .running

namespace Scan

/-- Logs an entry, unless writing it fails. -/
def record (p : ScanPlan) (s : Scan) (e : LogEntry) : Scan × Option Thrown :=
  match p.log.write e with
  | .ok lines => ({ s with logLines := s.logLines ++ lines }, none)
  | .error thrown => (s, some thrown)

/-- Logs entries up to the first that cannot be written. -/
def recordAll (p : ScanPlan) (s : Scan) : List LogEntry → Scan × Option Thrown
  | [] => (s, none)
  | e :: rest =>
    match s.record p e with
    | (s, some thrown) => (s, some thrown)
    | (s, none) => recordAll p s rest

/-- The result of a run, once there is one. -/
def result? (s : Scan) : Option (Except Thrown Summary) :=
  match s.phase with
  | .settled result => some result
  | _ => none


-- ---------------------------------------------------------------------------
-- The end of a run
-- ---------------------------------------------------------------------------

def settle (s : Scan) (result : Except Thrown Summary) : Scan := { s with phase := .settled result }

/-- Ends the run after the sink was closed. -/
def conclude (p : ScanPlan) (s : Scan) : Except Thrown (List TaskFailure) → Scan
  | .error thrown => s.settle (.error thrown)
  | .ok (first :: _) => s.settle (.error (.failure (ScanPlan.taskFailure first.error)))
  | .ok [] =>
    let summary := s.tally.summary p.policy
    match s.record p (ScanPlan.summaryEntry summary) with
    | (s, some thrown) => s.settle (.error thrown)
    | (s, none) => s.settle (.ok summary)

/-- The sink has answered the closing. -/
def sinkClosed (p : ScanPlan) (s : Scan) (answer : Except Failure Unit) : Scan :=
  match s.phase with
  | .closing outcome =>
    match answer with
    | .ok _ => s.conclude p outcome
    | .error failure =>
      match s.record p (ScanPlan.flushEntry failure) with
      | (s, some thrown) => s.settle (.error thrown)
      | (s, none) => s.conclude p outcome
  | _ => s


-- ---------------------------------------------------------------------------
-- Tasks
-- ---------------------------------------------------------------------------

/-- Takes up what the pool has started. -/
def takeUp (p : ScanPlan) (s : Scan) (next : Pool ScanTask × List (Nat × ScanTask)) : Scan :=
  { s with
    pool := next.1
    events := s.events ++ next.2.flatMap fun t => p.diagnostics.started t.2.path }

def release (p : ScanPlan) (s : Scan) (index : Nat) (failure : Option Thrown) : Scan :=
  s.takeUp p (s.pool.step (.finished index failure))

/-- Counts what a task came to, logs a file that failed, and frees the slot. -/
def finishTask (p : ScanPlan) (s : Scan) (index : Nat) (path : String)
    (outcome : Except Thrown FileResult) : Scan :=
  let s := { s with events := s.events ++ p.diagnostics.finished path outcome }
  match outcome with
  | .error thrown => s.release p index (some thrown)
  | .ok result =>
    let s := { s with tally := s.tally.record result }
    match result.failure? with
    | none => s.release p index none
    | some failure =>
      let (s, fault) := s.record p (ScanPlan.failureEntry failure)
      s.release p index fault

def task? (s : Scan) (index : Nat) : Option ScanTask := s.pool.live.lookup index

/-- Passes an answer of the sink on. -/
def receive (p : ScanPlan) (s : Scan) (a : SinkAnswer ScanCaller) : Scan :=
  match a.call.caller with
  | .run => s.sinkClosed p a.outcome
  | .task index =>
    match s.task? index with
    | some { path, report := some report } =>
      s.finishTask p index path (match a.outcome with
        | .ok _ => .ok (.scanned path report)
        | .error failure => .error (.failure failure))
    | _ => s

/-- Takes up what a step of the sink has brought about. -/
def absorb (p : ScanPlan) (s : Scan) (next : Sink ScanCaller × SinkOutput ScanCaller) : Scan :=
  next.2.answers.foldl (receive p)
    { s with sink := next.1, delivered := s.delivered ++ next.2.delivered }

/-- Goes on with a task whose file is scanned: a report goes to the sink. -/
def fileScanned (p : ScanPlan) (s : Scan) (index : Nat) (path : String) : Scan :=
  let scan := p.scan path
  match s.recordAll p scan.warnings with
  | (s, some thrown) => s.finishTask p index path (.error thrown)
  | (s, none) =>
    match scan.result with
    | .failed _ _ => s.finishTask p index path (.ok scan.result)
    | .scanned _ report =>
      let s := { s with pool := s.pool.update index fun t => { t with report := some report } }
      s.absorb p (s.sink.write (.task index) report.block)


-- ---------------------------------------------------------------------------
-- Steps
-- ---------------------------------------------------------------------------

def failSource (p : ScanPlan) (s : Scan) (reason : Reason) : Scan :=
  s.takeUp p (s.pool.step (.sourceFailed (ScanPlan.pathsError reason)))

def takeLine (p : ScanPlan) (s : Scan) : PathLine → Scan
  | .path path => s.takeUp p (s.pool.step (.delivered { path }))
  | .blank =>
    if s.pool.asks then
      match s.record p PathLine.skipped with
      | (s, some thrown) => s.failSource p thrown
      | (s, none) => s
    else s

def advance (p : ScanPlan) (s : Scan) : ScanEvent → Scan
  | .line line => s.takeLine p line
  | .linesEnded => s.takeUp p (s.pool.step .sourceEnded)
  | .linesFailed reason => s.failSource p reason
  | .scanned index =>
    match s.task? index with
    | some { path, report := none } => s.fileScanned p index path
    | _ => s
  | .stream e => s.absorb p (s.sink.onStream e)

/-- Closes the sink. -/
def close (p : ScanPlan) (s : Scan) (outcome : Except Thrown (List TaskFailure)) : Scan :=
  { s with phase := .closing outcome }.absorb p (s.sink.close .run)

/-- Closes the sink if the pool has settled. -/
def closeIfDone (p : ScanPlan) (s : Scan) : Scan :=
  match s.phase with
  | .running =>
    if s.pool.settled then
      match s.pool.outcome with
      | .error thrown => s.close p (.error (.failure (ScanPlan.poolFailure thrown)))
      | .ok outcome =>
        match s.record p (ScanPlan.dispatchedEntry outcome.dispatched) with
        | (s, some thrown) => s.close p (.error (.failure (ScanPlan.poolFailure thrown)))
        | (s, none) => s.close p (.ok outcome.failures)
    else s
  | _ => s

/-- Takes an event. Nothing happens to a run that has ended. -/
def step (p : ScanPlan) (s : Scan) (e : ScanEvent) : Scan :=
  match s.phase with
  | .settled _ => s
  | _ => (s.advance p e).closeIfDone p

/-- Starts a run on a stream. A number of slots that is none ends it at once; if its first log entry
cannot be written it does not start. -/
def start (p : ScanPlan) (stream : OutputStream) : Except Thrown Scan :=
  match p.log.write (ScanPlan.startEntry p.toScanJob) with
  | .error thrown => .error thrown
  | .ok logLines =>
    match Pool.ofConcurrency p.concurrency with
    | .ok pool => .ok { pool, sink := { stream }, logLines }
    | .error fault =>
      let s : Scan := { pool := { limit := 0 }, sink := { stream }, logLines }
      .ok (s.close p (.error (.failure (ScanPlan.poolFailure (.fault fault)))))

end Scan

end FileSearch
