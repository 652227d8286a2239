import Switchboard.Logging.Memory
import Switchboard.Logging.Tracing

/-!
# Loggers

What the parts of an application write to: either kind of log behind one interface.  Writing gives
the logger afterwards and the trace lines it caused.
-/

namespace Switchboard

/-- A logger of either kind. -/
inductive Logger where
  | memory (log : MemoryLog)
  | tracing (log : TracingLog)

namespace Logger

/-- The level in force. -/
def level : Logger → Level
  | memory log => log.level
  | tracing log => log.level

/-- Put another level in force. -/
def setLevel (level : Level) : Logger → Logger
  | memory log => memory (log.setLevel level)
  | tracing log => tracing (log.setLevel level)

/-- Write a record. -/
def write (l : Level) (message : String) (data : Json) : Logger → Logger × List TraceLine
  | memory log => (memory (log.write l message data), [])
  | tracing log => (tracing log, log.write l message data)

/-- The records kept by a memory log; a tracing log keeps none. -/
def records : Logger → List LogRecord
  | memory log => log.records
  | tracing _ => []

end Logger
end Switchboard
