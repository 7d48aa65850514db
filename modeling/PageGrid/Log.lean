/-!
# Log entries

What a run tells its user beside its result. Entries are data: functions that have something to
report return entries, and the interpreter keeps them in the order in which they arose.
-/

namespace PageGrid

/-- How serious an entry is. -/
inductive Level where
  | info
  | warning
  | error
  deriving DecidableEq, Repr

/-- One entry of the log. -/
structure LogEntry where
  level : Level
  text : String
  deriving DecidableEq, Repr

namespace LogEntry

/-- An entry for the user's information. -/
def info (text : String) : LogEntry := ⟨.info, text⟩

/-- An entry about something that was ignored or does not fit. -/
def warning (text : String) : LogEntry := ⟨.warning, text⟩

/-- An entry about the failure of a run. -/
def error (text : String) : LogEntry := ⟨.error, text⟩

end LogEntry

end PageGrid
