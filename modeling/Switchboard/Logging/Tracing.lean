import Switchboard.Logging.Level
import Switchboard.Logging.Sanitizer

/-!
# The tracing log

A logger that passes its records on as trace lines and keeps none.  The data of a record is cut
down first and travels as text.  Errors and critical records pass at any level; since the trace
has no rank above `ERROR`, a critical record is an error with a mark.
-/

namespace Switchboard

/-- A logger that passes its records on. -/
structure TracingLog where
  level : Level
  sanitizer : Sanitizer
  deriving DecidableEq

namespace TracingLog

/-- A logger with the standard limits. -/
def new (level : Level) : TracingLog := ⟨level, .standard⟩

/-- Whether a record of that level passes. -/
def enabled (log : TracingLog) (level : Level) : Bool :=
  Level.error ≤ level || log.level ≤ level

/-- The trace line that carries a record. -/
def line (log : TracingLog) (level : Level) (message : String) (data : Json) : TraceLine :=
  let text := ("data", Json.str (log.sanitizer.sanitize data).compact)
  ⟨level.traceRank, message,
    if level = .critical then [("critical", .bool true), text] else [text]⟩

/-- Write a record: the lines it adds to the trace. -/
def write (log : TracingLog) (level : Level) (message : String) (data : Json) : List TraceLine :=
  if log.enabled level then [log.line level message data] else []

/-- Put another level in force. -/
def setLevel (log : TracingLog) (level : Level) : TracingLog :=
  ⟨level, log.sanitizer⟩

end TracingLog
end Switchboard
