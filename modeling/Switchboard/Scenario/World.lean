import Switchboard.Scenario.Script
import Switchboard.Session.Service

/-!
# The world of a scenario

An application with scripted listeners, and those who are at work in it.  Two sorts of party go on by
themselves: the agents of a bus, whose steps are those of the bus, and *jobs*.  A job is a piece of
work with calls inside calls, its frames, the innermost first: publishing an event calls synchronous
listeners, and what a listener does may publish again.

## Turns

One party is active at a time.  It goes on until it has to wait, and then the first of the queue
becomes active.  A party that need not wait any longer is put at the end of the queue, unless it is in
it already.  Nothing is lost by a party that goes on too early: it finds that it has to wait and does.

What those who run the scenario ask for directly, such as publishing an event, is a job too, but one
that is carried out at once and not through the queue.
-/

namespace Switchboard
namespace Scenario

/-- Where a call of a listener comes from. -/
inductive CallSite where
  /-- From a publishing call of the bus. -/
  | publishing (call : Nat)
  /-- From nowhere: it was scheduled by the bus. -/
  | scheduled (invocation : Nat)
  deriving DecidableEq

/-- The word for the way in which a call came about. -/
def CallSite.delivery : CallSite → Delivery
  | publishing _ => .sync
  | scheduled _ => .async

/-- A call of a listener under way. -/
structure Handling where
  bus : Nat
  site : CallSite
  handler : Handler
  event : Event
  /-- Whether the listener has begun. -/
  begun : Bool
  /-- The acts it has yet to do. -/
  acts : List Act

/-- A call inside a job. -/
inductive Frame where
  /-- Publishing an event. -/
  | publishing (bus call : Nat)
  /-- Running a listener. -/
  | handling (h : Handling)
  /-- Broadcasting a message. -/
  | sending (b : Broadcast)

/-- A piece of work. -/
structure Job where
  id : Nat
  /-- The calls it is in, the innermost first. -/
  frames : List Frame

/-- A party that goes on by itself. -/
inductive Party where
  | agent (bus : Nat) (agent : Agent)
  | job (id : Nat)
  deriving DecidableEq

/-- The world of a scenario. -/
structure World where
  app : Application Handler
  now : Instant
  service : SessionService
  /-- The bus on which the service announces sessions. -/
  serviceBus : Option Nat
  /-- The bus that was there from the beginning. -/
  directBus : Option Nat
  /-- The logger that was there from the beginning. -/
  firstLogger : Option Nat
  /-- How many records of that logger have been reported. -/
  reported : Nat
  /-- The broadcast centre that was there from the beginning. -/
  firstCenter : Nat
  /-- The clients that are known by their ids. -/
  clients : List (String × Client)
  /-- The inboxes that are known by the ids of their clients. -/
  inboxOf : List (String × Nat)
  /-- The gates that are open. -/
  gates : List String
  /-- Jobs that wait at gates, the first come first. -/
  gateLine : List (String × Nat)
  /-- Jobs that wait for a bus to begin to close, the first come first. -/
  cancelLine : List (Nat × Nat)
  jobs : List Job
  /-- The number of the next job; a job that broadcasts has its number as a sender, too. -/
  nextId : Nat
  active : Option Party
  queue : List Party
  journal : List Json
  /-- Broadcasts, by their jobs, that nobody else waits for. -/
  pendingBroadcasts : List Nat
  /-- Those of them that have ended since they were last reported, and how. -/
  endedBroadcasts : List (Nat × Except ServiceError Unit)
  closesBegun : Nat
  closesEnded : Nat

namespace World

/-- Put a party into the queue, unless it is in it. -/
def wake (w : World) (p : Party) : World :=
  if p ∈ w.queue then w else { w with queue := w.queue ++ [p] }

/-- Add an entry to the journal. -/
def note (w : World) (entry : Json) : World :=
  { w with journal := w.journal ++ [entry] }

/-- Begin a job. -/
def startJob (w : World) (frame : Frame) : World :=
  { w with jobs := w.jobs ++ [⟨w.nextId, [frame]⟩], nextId := w.nextId + 1 }

/-- A job. -/
def job? (w : World) (id : Nat) : Option Job :=
  w.jobs.find? fun j => j.id == id

/-- Replace the frames of a job.  A job without frames has ended. -/
def setFrames (w : World) (id : Nat) (frames : List Frame) : World :=
  if frames.isEmpty then { w with jobs := w.jobs.filter fun j => j.id != id }
  else { w with jobs := w.jobs.map fun j => if j.id = id then ⟨id, frames⟩ else j }

/-- The job that is inside a publishing call of a bus, with its frames. -/
def publisher? (w : World) (bus call : Nat) : Option Job :=
  w.jobs.find? fun j =>
    match j.frames with
    | .publishing b c :: _ => b == bus && c == call
    | _ => false

/-- Act on an effect of a step of a bus. -/
def absorb (w : World) (bus : Nat) : Effect Handler → World
  | .log _ _ _ => w
  | .wake agent => w.wake (.agent bus agent)
  | .cancelled =>
    let those := w.cancelLine.filter fun p => p.1 == bus
    those.foldr (fun p w => w.wake (.job p.2))
      { w with cancelLine := w.cancelLine.filter fun p => p.1 != bus }
  | .invoke call listener event =>
    match w.publisher? bus call with
    | none => w
    | some j =>
      w.setFrames j.id
        (.handling ⟨bus, .publishing call, listener.handler, event, false, []⟩ :: j.frames)
  | .returned call =>
    match w.publisher? bus call with
    | none => w
    | some j => w.setFrames j.id j.frames.tail
  | .subscribed _ => w
  | .began _ _ => w
  | .accepted _ => w
  | .refused _ => w
  | .entered _ => w
  | .abandoned _ => w
  | .fannedOut _ _ => w
  | .skipped _ _ => w
  | .scheduled v =>
    (w.startJob (.handling ⟨bus, .scheduled v.id, v.listener.handler, v.event, false, []⟩)).wake
      (.job w.nextId)
  | .finished _ _ => w
  | .closed _ => { w with closesEnded := w.closesEnded + 1 }

/-- Act on all effects of steps of buses that are due. -/
def settleDue (w : World) : World :=
  w.app.due.foldl (fun w d => w.absorb d.1 d.2) { w with app := { w.app with due := [] } }

/-- Let a bus take a step, if it can. -/
def stepBus? (w : World) (bus : Nat) (s : BusStep Handler) : Option World :=
  (w.app.stepBus? bus s).map fun a => { w with app := a }.settleDue

/-- Let a bus take a step that it can take at any time. -/
def stepBus (w : World) (bus : Nat) (s : BusStep Handler) : World :=
  (w.stepBus? bus s).getD w

/-- Whether a bus has begun to close. -/
def isClosing (w : World) (bus : Nat) : Bool :=
  match w.app.bus? bus with
  | some b => b.cancelled
  | none => false

/-- The number that the next call, or the next call to close, gets from a bus. -/
def nextCall (w : World) (bus : Nat) : Nat :=
  match w.app.bus? bus with
  | some b => b.nextId
  | none => 0

/-- Carry out a call that needs the registry of a bus once: nobody else has it, so the call goes on at
once. -/
def callBus (w : World) (bus : Nat) (s : BusStep Handler) : World :=
  (w.stepBus bus s).stepBus bus (.call (w.nextCall bus))

end World
end Scenario
end Switchboard
