import Switchboard.Logging.Level

/-!
# The memory log

A logger that keeps its records, for programs that want to look at them later.  Records below the
level in force are dropped, except that errors and critical records are always kept.
-/

namespace Switchboard

/-- One record of a log. -/
structure LogRecord where
  level : Level
  message : String
  data : Json

/-- A logger that keeps its records, oldest first. -/
structure MemoryLog where
  level : Level
  records : List LogRecord

namespace MemoryLog

/-- An empty log. -/
def new (level : Level) : MemoryLog := ⟨level, []⟩

/-- Whether a record of that level is dropped. -/
def drops (log : MemoryLog) (level : Level) : Bool :=
  level < Level.error && level < log.level

/-- Write a record. -/
def write (log : MemoryLog) (level : Level) (message : String) (data : Json) : MemoryLog :=
  if log.drops level then log else ⟨log.level, log.records ++ [⟨level, message, data⟩]⟩

/-- Put another level in force; the records stay. -/
def setLevel (log : MemoryLog) (level : Level) : MemoryLog :=
  ⟨level, log.records⟩

/-- Forget all records. -/
def clear (log : MemoryLog) : MemoryLog :=
  ⟨log.level, []⟩

/-- The records of a level with exactly that message. -/
def find (log : MemoryLog) (level : Level) (message : String) : List LogRecord :=
  log.records.filter fun r => r.level == level && r.message == message

/-- The number of records of a level. -/
def count (log : MemoryLog) (level : Level) : Nat :=
  log.records.countP fun r => r.level == level

end MemoryLog
end Switchboard
