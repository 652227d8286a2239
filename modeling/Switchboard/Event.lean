import Switchboard.Session.Session

/-!
# Events

What has happened and when.  The name of an event decides which listeners hear of it.  A listener
that knows the kinds of event finds the particulars again: the session that was opened or closed, the
number of an order, or the tag of an event that has no kind of its own.
-/

namespace Switchboard

/-- An event. -/
inductive Event where
  /-- An event with a name of its own; `hops` says how often it may still be passed on. -/
  | plain (name : String) (time : Instant) (tag : String) (hops : Nat)
  | orderPlaced (id : String) (time : Instant)
  | orderClosed (id : String) (time : Instant)
  /-- A session was opened, when it was created. -/
  | sessionCreated (session : Session)
  /-- A session was closed. -/
  | sessionDeleted (session : Session) (time : Instant)
  deriving DecidableEq

namespace Event

/-- The name of the event of an opened session. -/
def createdName : String := "auth.session.created"

/-- The name of the event of a closed session. -/
def deletedName : String := "auth.session.deleted"

/-- The name of an event. -/
def name : Event → String
  | plain n _ _ _ => n
  | orderPlaced _ _ => "order.placed"
  | orderClosed _ _ => "order.closed"
  | sessionCreated _ => createdName
  | sessionDeleted _ _ => deletedName

/-- When an event happened. -/
def occurredAt : Event → Instant
  | plain _ t _ _ => t
  | orderPlaced _ t => t
  | orderClosed _ t => t
  | sessionCreated s => s.createdAt
  | sessionDeleted _ t => t

/-- The session that an event is about. -/
def session? : Event → Option Session
  | sessionCreated s => some s
  | sessionDeleted s _ => some s
  | _ => none

/-- An event that may be passed on, with one hop less left. -/
def relayed? : Event → Option Event
  | plain n t tag (hops + 1) => some (plain n t tag hops)
  | _ => none

/-- The time of an event as log records show it. -/
def timeText (e : Event) : String :=
  Rfc3339.offsetForm e.occurredAt

end Event
end Switchboard
