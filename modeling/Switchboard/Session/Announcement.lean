import Switchboard.Event
import Switchboard.Json.Printer
import Switchboard.Logging.Memory
import Switchboard.ServerEvents.Message

/-!
# What listeners make of session events

Two listeners come with the application.  The audit writes a log record about every session that is
opened or closed, and refuses any other event.  The relay makes a message to clients of whatever event
it hears; if the event is about a session, the message says which and whose.  Tokens go into neither.
-/

namespace Switchboard

namespace Audit

/-- The name of the listener. -/
def listenerName : String := "session-audit"

/-- The word for what happened to the session of an event. -/
def action? : Event → Option (Session × String)
  | .sessionCreated s => some (s, "opened")
  | .sessionDeleted s _ => some (s, "closed")
  | _ => none

/-- The record about an event, or why there is none. -/
def record (e : Event) : Except String LogRecord :=
  match action? e with
  | some (s, action) =>
    .ok ⟨.info, "session audit",
      .object [("action", .str action), ("event", .str e.name), ("session_id", .str s.sessionId),
        ("user_id", .str s.userId), ("ip_address", .str s.ipAddress),
        ("occurred_at", .str e.timeText)]⟩
  | none => .error ("unsupported event for session audit: " ++ e.name)

end Audit

namespace Relay

/-- The name of the listener. -/
def listenerName : String := "server-event-relay"

/-- The data of the message about an event. -/
def data (e : Event) : Json :=
  .object (("occurred_at", .str e.timeText) ::
    match e.session? with
    | some s => [("session_id", .str s.sessionId), ("user_id", .str s.userId)]
    | none => [])

/-- The message about an event. -/
def message (e : Event) : Message :=
  ⟨e.name, (data e).compact⟩

end Relay
end Switchboard
