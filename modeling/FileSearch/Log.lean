import FileSearch.Failure

/-!
# Log

Log entries have a level; those below a threshold are dropped, the others are written one line each.
-/

namespace FileSearch

inductive LogLevel where
  | debug
  | info
  | notice
  | warning
  | error
  | critical
  deriving DecidableEq, Repr

namespace LogLevel

def name : LogLevel → String
  | debug => "debug"
  | info => "info"
  | notice => "notice"
  | warning => "warning"
  | error => "error"
  | critical => "critical"

def rank : LogLevel → Nat
  | debug => 0
  | info => 1
  | notice => 2
  | warning => 3
  | error => 4
  | critical => 5

def all : List LogLevel := [debug, info, notice, warning, error, critical]

def ofName? (name : String) : Option LogLevel := all.find? (·.name = name)

end LogLevel

/-- The least level that is written; with none, every level is. -/
structure LogThreshold where
  minimum : Option LogLevel := some .warning
  deriving DecidableEq, Repr

namespace LogThreshold

/-- Sets the threshold by name. An empty name changes nothing, and a name that is no level lets
everything through. -/
def set (t : LogThreshold) (name : String) : LogThreshold :=
  if name.isEmpty then t else ⟨LogLevel.ofName? name⟩

def admits (t : LogThreshold) (level : LogLevel) : Bool :=
  t.minimum.all fun m => m.rank ≤ level.rank

end LogThreshold

structure LogEntry where
  level : LogLevel
  message : String
  source : String := ""
  deriving DecidableEq, Repr

namespace LogEntry

def line (e : LogEntry) : String :=
  "[" ++ e.level.name ++ "] " ++ (if e.source.isEmpty then "" else e.source ++ ": ") ++ e.message

end LogEntry

/-- The lines of entries that are written without fault. -/
def LogThreshold.lines (t : LogThreshold) (entries : List LogEntry) : List String :=
  (entries.filter (t.admits ·.level)).map LogEntry.line

/-- Where log lines go: the threshold, and what writing a given line fails with, if it does. -/
structure Log where
  threshold : LogThreshold := {}
  fault : String → Option Thrown := fun _ => none

namespace Log

/-- The lines written for an entry, or the error that writing it raised. -/
def write (log : Log) (e : LogEntry) : Except Thrown (List String) :=
  if log.threshold.admits e.level then
    match log.fault e.line with
    | some thrown => .error thrown
    | none => .ok [e.line]
  else .ok []

end Log

end FileSearch
