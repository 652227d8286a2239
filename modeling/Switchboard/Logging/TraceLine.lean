import Switchboard.Json.Basic

/-!
# Trace lines

What an application reports about itself, besides the log records its parts write through a logger:
a rank, a message and named fields.  Ranks go from `TRACE` to `ERROR`; there is none above.
-/

namespace Switchboard

/-- The rank of a trace line. -/
inductive TraceRank where
  | trace
  | debug
  | info
  | warn
  | error
  deriving DecidableEq

namespace TraceRank

/-- The name of a rank. -/
def name : TraceRank → String
  | trace => "TRACE"
  | debug => "DEBUG"
  | info => "INFO"
  | warn => "WARN"
  | error => "ERROR"

/-- Urgency, ascending. -/
def urgency : TraceRank → Nat
  | trace => 1
  | debug => 2
  | info => 3
  | warn => 4
  | error => 5

end TraceRank

/-- One line of the trace. -/
structure TraceLine where
  rank : TraceRank
  message : String
  fields : List (String × Json)

end Switchboard
