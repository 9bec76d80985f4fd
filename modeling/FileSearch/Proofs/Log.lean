import FileSearch.Log

/-!
# Log lines

An entry is written or its line is refused; a refused one leaves nothing behind. A line begins with
the level of its entry, so the lines of a level can be told from all others.
-/

namespace FileSearch

namespace Log

/-- Whether every line can be written. -/
def Reliable (log : Log) : Prop := ∀ line, log.fault line = none

/-- The lines an entry leaves in the log. -/
def written (log : Log) (e : LogEntry) : List String :=
  if log.threshold.admits e.level && (log.fault e.line).isNone then [e.line] else []

/-- What writing an entry fails with. -/
def refused (log : Log) (e : LogEntry) : Option Thrown :=
  if log.threshold.admits e.level then log.fault e.line else none

theorem write_eq (log : Log) (e : LogEntry) :
    log.write e = match log.refused e with
      | some thrown => .error thrown
      | none => .ok (log.written e) := by
  unfold write refused written
  cases log.threshold.admits e.level with
  | false => simp
  | true => cases hfault : log.fault e.line <;> simp

theorem Reliable.refused_eq {log : Log} (hlog : log.Reliable) (e : LogEntry) :
    log.refused e = none := by
  simp [refused, hlog e.line]

theorem Reliable.written_eq {log : Log} (hlog : log.Reliable) (e : LogEntry) :
    log.written e = if log.threshold.admits e.level then [e.line] else [] := by
  simp [written, hlog e.line]

theorem reliable_of_threshold (threshold : LogThreshold) : ({ threshold } : Log).Reliable :=
  fun _ => rfl

end Log


-- ---------------------------------------------------------------------------
-- Lines of a level
-- ---------------------------------------------------------------------------

namespace LogLevel

/-- Whether a line begins as the lines of a level do. -/
def marks (level : LogLevel) (line : String) : Bool :=
  ("[" ++ level.name ++ "] ").toList.isPrefixOf line.toList

/-- The line of an entry is marked with the level of the entry and no other. -/
theorem marks_line (level : LogLevel) (e : LogEntry) :
    level.marks e.line = decide (e.level = level) := by
  have hline : e.line.toList = ("[" ++ e.level.name ++ "] ").toList
      ++ ((if e.source.isEmpty then "" else e.source ++ ": ") ++ e.message).toList := by
    rw [← String.toList_append, LogEntry.line]
    simp only [String.append_assoc]
  unfold marks
  rw [hline]
  cases level <;> cases e.level <;> simp [name, List.isPrefixOf]

end LogLevel

end FileSearch
