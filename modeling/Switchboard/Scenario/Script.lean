import Switchboard.Application.Assembly
import Switchboard.Session.Announcement

/-!
# Scripted listeners

A scenario is played with listeners whose behaviour is written down as data: the audit and the relay
that come with the application, and scripts.  A script is a list of acts, which the listener goes
through on every call.  An act may wait, may use what the hub holds, and may end the call with an
error or a panic.

A listener may subscribe others while it runs, so scripts and listeners are defined together.
-/

namespace Switchboard
namespace Scenario

mutual

/-- What a listener does when it is called. -/
inductive Handler where
  | audit
  | relay
  /-- Go through acts; the label stands for the listener in the journal. -/
  | script (label : String) (acts : List Act)

/-- One act of a script. -/
inductive Act where
  /-- Put a value into the journal. -/
  | note (value : Json)
  /-- Put the particulars of the event into the journal. -/
  | describe
  /-- Wait until a gate is open. -/
  | gate (name : String)
  /-- Wait until the bus begins to close. -/
  | waitCancel
  | publish (event : Event)
  | dispatch (event : Event)
  | subscribe (listeners : List (Listener Handler))
  /-- Publish the event again if it may be passed on. -/
  | republish
  | broadcast (message : Message)
  | log (request : LogRequest)
  /-- Fail unless something is registered in a place of the hub. -/
  | need (slot : Slot)
  | fail (error : String)
  | panic (text : Option String)

end

instance : Inhabited Handler := ⟨.audit⟩

/-- The audit of one kind of session event. -/
def auditOf (event : String) : Listener Handler :=
  ⟨event, .async, Audit.listenerName, .audit⟩

/-- The audit of all session events. -/
def audits : List (Listener Handler) :=
  [auditOf Event.createdName, auditOf Event.deletedName]

/-- The relay of one kind of event. -/
def relayOf (event : String) : Listener Handler :=
  ⟨event, .async, Relay.listenerName, .relay⟩

/-- The relay of all session events. -/
def relays : List (Listener Handler) :=
  [relayOf Event.createdName, relayOf Event.deletedName]

/-- A scripted listener.  Its name is for the log and its label for the journal. -/
def scripted (name label event : String) (delivery : Delivery) (acts : List Act) :
    Listener Handler :=
  ⟨event, delivery, name, .script label acts⟩

/-- The particulars of an event, as far as its kind is known. -/
def particulars : Event → Json
  | .plain _ _ tag hops => .object [("plain", .str tag), ("hops", .int hops)]
  | .orderPlaced id _ => .object [("order", .str id)]
  | .orderClosed id _ => .object [("order_closed", .str id)]
  | .sessionCreated s => .object [("created", .str s.sessionId)]
  | .sessionDeleted s _ => .object [("deleted", .str s.sessionId)]

end Scenario
end Switchboard
