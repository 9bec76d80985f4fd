import FileSearch.Scan.Basic

/-!
# Running a scan

Events may come in any order; this is one of them. The list of paths answers as soon as it is asked,
a write is answered before another file is looked at, and files are done in the order they were
started.
-/

namespace FileSearch

/-- What a run meets: the list of paths, and how the stream answers each write. -/
structure Surroundings where
  lines : List PathLine
  /-- What reading the list fails with after its last line. -/
  failure : Option Reason := none
  answer : Nat → StreamEvent := fun _ => .acknowledged

/-- What a run leaves behind. -/
structure ScanTrace where
  result : Except Thrown Summary
  logLines : List String := []
  events : List DiagnosticsEvent := []
  delivered : List Bytes := []
  /-- How many paths were taken from the list. -/
  pulled : Nat := 0

namespace Scan

/-- The next event, and the lines of the list that are left after it. -/
def next? (s : Scan) (around : Surroundings) (lines : List PathLine) :
    Option (ScanEvent × List PathLine) :=
  if s.result?.isSome then none
  else if s.pool.asks then
    match lines, around.failure with
    | line :: rest, _ => some (.line line, rest)
    | [], some reason => some (.linesFailed reason, [])
    | [], none => some (.linesEnded, [])
  else if s.sink.stream.outstanding then
    some (.stream (around.answer (s.delivered.length - 1)), lines)
  else
    match s.pool.live.find? (·.2.report.isNone) with
    | some (index, _) => some (.scanned index, lines)
    | none => none

/-- Takes up to so many events, as long as there are any. -/
def runFor (p : ScanPlan) (around : Surroundings) : Nat → List PathLine → Scan → Scan
  | 0, _, s => s
  | fuel + 1, lines, s =>
    match s.next? around lines with
    | none => s
    | some (e, rest) => runFor p around fuel rest (s.step p e)

/-- Every line is one event, and every path two more at most: its file is scanned and its report is
written. -/
def maxEvents (lines : List PathLine) : Nat := 3 * lines.length + 1

def trace (s : Scan) : ScanTrace where
  result := s.result?.getD (.error (.value .absent))
  logLines := s.logLines
  events := s.events
  delivered := s.delivered
  pulled := s.pool.started + s.pool.waiting.toList.length

/-- Runs a plan from start to end. -/
def run (p : ScanPlan) (stream : OutputStream) (around : Surroundings) : ScanTrace :=
  match start p stream with
  | .error thrown => { result := .error thrown }
  | .ok s => (s.runFor p around (maxEvents around.lines) around.lines).trace

end Scan

end FileSearch
