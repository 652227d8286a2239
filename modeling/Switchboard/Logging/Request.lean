import Switchboard.Logging.Logger

/-!
# Requests to a logger

What can be asked of a logger of either kind, where levels may be given by their names.  Every request
answers with the level that is in force afterwards, or is refused because a level has no such name;
then nothing happens.
-/

namespace Switchboard

/-- A request to a logger. -/
inductive LogRequest where
  | write (level : Level) (message : String) (data : Json)
  /-- Write a record at a level given by its name. -/
  | writeNamed (levelName : String) (message : String) (data : Json)
  | setLevel (levelName : String)
  /-- Nothing but the level in force is asked for. -/
  | level

/-- Act on a request: the logger afterwards, and the trace lines. -/
def Logger.act (l : Logger) : LogRequest → Except SetupError (Logger × List TraceLine)
  | .write level message data => .ok (l.write level message data)
  | .writeNamed name message data => do
    let level ← Level.parse name
    .ok (l.write level message data)
  | .setLevel name => do
    let level ← Level.parse name
    .ok (l.setLevel level, [])
  | .level => .ok (l, [])

end Switchboard
