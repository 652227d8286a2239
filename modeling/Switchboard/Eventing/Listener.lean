import Switchboard.Event

/-!
# Listeners

A listener hears the events of one name.  Synchronous listeners run inside the call that publishes
an event; asynchronous ones run on their own, later.  What a listener does is left open: `H` stands
for whatever describes it to those who run it.
-/

namespace Switchboard

/-- How events are delivered to a listener. -/
inductive Delivery where
  /-- Before the publishing call returns. -/
  | sync
  /-- By a worker, through the queue. -/
  | async
  deriving DecidableEq

/-- The word for a way of delivery. -/
def Delivery.word : Delivery → String
  | sync => "sync"
  | async => "async"

/-- A listener. -/
structure Listener (H : Type) where
  /-- The name of the events it hears, letter for letter. -/
  event : String
  delivery : Delivery
  /-- Its own name, for the log. -/
  name : String
  handler : H

/-- How a call of a listener ended. -/
inductive Outcome where
  | done
  /-- It gave up with an error. -/
  | failed (error : String)
  /-- It panicked, perhaps with a text. -/
  | panicked (text : Option String)
  deriving DecidableEq

end Switchboard
