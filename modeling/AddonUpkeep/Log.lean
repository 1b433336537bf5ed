/-!
# The log

What the library has to say while it works, in order, each entry at a level.
-/

namespace AddonUpkeep

/-- The levels of the log. -/
inductive LogLevel where
  | debug
  | info
  | warning
  | error
  | critical
  deriving DecidableEq, Repr

namespace LogLevel

/-- The rank of a level. -/
def rank : LogLevel → Nat
  | debug => 0
  | info => 1
  | warning => 2
  | error => 3
  | critical => 4

/-- The level of a name. -/
def ofName? (name : String) : Option LogLevel :=
  match name with
  | "debug" => some debug
  | "info" => some info
  | "warning" => some warning
  | "error" => some error
  | "critical" => some critical
  | _ => none

end LogLevel

/-- An entry of the log. -/
structure LogEntry where
  level : LogLevel
  text : String
  deriving DecidableEq, Repr

/-- A log, the earliest entry first. -/
abbrev Log := List LogEntry

/-- The entries at a level or above. -/
def Log.atLeast (log : Log) (level : LogLevel) : Log :=
  log.filter fun entry ↦ decide (level.rank ≤ entry.level.rank)

@[simp]
theorem Log.atLeast_debug (log : Log) : log.atLeast .debug = log := by
  simp [Log.atLeast, LogLevel.rank]

@[simp]
theorem Log.atLeast_append (first second : Log) (level : LogLevel) :
    Log.atLeast (first ++ second) level = first.atLeast level ++ second.atLeast level := by
  simp [Log.atLeast]

end AddonUpkeep
