import Switchboard.Eventing.DispatcherConfig
import Switchboard.Eventing.Registry
import Switchboard.Logging.Level

/-!
# The bus

Events are published to a bus, which calls their synchronous listeners at once and puts the event
into a queue of limited length.  Workers take events out of the queue and fan them out: every
asynchronous listener of the event is scheduled on its own.  A publisher never waits.  If the queue
is full, the event is *deferred*: it is left with a task that waits for a free slot.

## Parties and steps

What goes on at the same time is described by `Bus.step`, one step of one party at a time: of a
call, a worker, a deferred event, a listener that ends, a call that closes the bus.  A step is
everything that a party does between two points at which it awaits something; `none` means that the
party has to wait.  A run of the bus is any sequence of steps, in whatever order.  Next to the state,
a step gives its effects: records for the log, parties that need not wait any longer, listeners to be
run, and what happened to an event.

Threads that overlap inside a step are not described.  A call that collects changes the phase first
and starts the workers afterwards, without awaiting anything, so it is one step, and no other party is
seen to go on in between.

## The registry

Whoever needs the registry waits for it first: a call that subscribes a listener, publishes an event
or fans one out, and a worker that holds an event.  Nobody keeps the registry for longer than a
step, so those who wait for it can go on at any time, but others may have been there before.

## Slots

Every place in the queue is free, taken by a queued event, or granted.  A slot that becomes free
while deferred events wait is granted to the first of them, and counts as taken from then on.  A
queue may also refuse whatever is offered to it.  That would be so once nobody could read from it
any more, which does not come about as long as there is a bus.

## The reader

Only one worker at a time reads from the queue, and the others stand in line for it.  The reader
leaves its place to the next in line before it fans out what it took.

## Closing

Closing cancels everything that waits: workers stop, deferred events are abandoned, and what would
be fanned out is skipped from then on.  A call that closes the bus waits for the workers first and
then for listeners and deferred events, which count as tasks.  Events that are still in the queue
stay there.
-/

namespace Switchboard

/-- The phases of the life of a bus, in order. -/
inductive Phase where
  | constructed
  | collecting
  | closing
  | closed
  deriving DecidableEq

namespace Phase

/-- The word for a phase. -/
def word : Phase → String
  | constructed => "Constructed"
  | collecting => "Collecting"
  | closing => "Closing"
  | closed => "Closed"

/-- The place of a phase in the order. -/
def rank : Phase → Nat
  | constructed => 0
  | collecting => 1
  | closing => 2
  | closed => 3

/-- The phase after a call to close has begun. -/
def begunClosing : Phase → Phase
  | constructed => closing
  | collecting => closing
  | closing => closing
  | closed => closed

end Phase

/-- An event on its way through the queue, with the number of the call that published it. -/
structure Posting where
  call : Nat
  event : Event
  deriving DecidableEq

/-- What a worker is doing. -/
inductive WorkerState where
  /-- About to look for an event. -/
  | ready
  /-- In line to become the reader. -/
  | inLine
  /-- Reading from the queue. -/
  | reading
  /-- Holding an event that it has to fan out. -/
  | carrying (posting : Posting)
  | stopped
  deriving DecidableEq

/-- How far a deferred event has got. -/
inductive DeferredStage where
  /-- It has not asked for a slot yet. -/
  | fresh
  | waiting
  /-- A slot is reserved for it. -/
  | granted
  deriving DecidableEq

/-- An event left with a task that waits for a slot in the queue. -/
structure Deferred where
  id : Nat
  posting : Posting
  stage : DeferredStage
  deriving DecidableEq

/-- How far a call has got. -/
inductive CallStage (H : Type) where
  /-- It waits for the registry to add a listener. -/
  | subscribing (listener : Listener H)
  /-- It waits for the registry to look up the synchronous listeners of an event. -/
  | publishing (event : Event)
  /-- It has looked them up: those it has yet to call, and the one it is calling. -/
  | calling (event : Event) (remaining : List (Listener H)) (current : Option (Listener H))
  /-- It waits for the registry to fan an event out, past the queue. -/
  | dispatching (event : Event)

/-- A call of the bus that has not returned. -/
structure Call (H : Type) where
  id : Nat
  stage : CallStage H

/-- An asynchronous listener at work on an event. -/
structure Invocation (H : Type) where
  id : Nat
  /-- The call that published the event; none if it was not published but fanned out directly. -/
  source : Option Nat
  listener : Listener H
  event : Event

/-- What a call that closes the bus waits for. -/
inductive CloserStage where
  | workers
  | tasks
  /-- Nothing: the last task has ended since it began to wait for tasks. -/
  | nothing
  deriving DecidableEq

/-- A call that closes the bus. -/
structure Closer where
  id : Nat
  stage : CloserStage
  deriving DecidableEq

/-- A party that goes on by itself. -/
inductive Agent where
  | worker (index : Nat)
  | deferred (id : Nat)
  | invocation (id : Nat)
  | closer (id : Nat)
  deriving DecidableEq

/-- What a step does besides changing the state. -/
inductive Effect (H : Type) where
  /-- Write a record to the log of the bus. -/
  | log (level : Level) (message : String) (data : Json)
  /-- Let a party go on. -/
  | wake (agent : Agent)
  /-- Cancellation begins. -/
  | cancelled
  /-- A listener is in the registry from now on. -/
  | subscribed (listener : Listener H)
  /-- A publishing call begins. -/
  | began (call : Nat) (event : Event)
  /-- Run a synchronous listener for a publishing call. -/
  | invoke (call : Nat) (listener : Listener H) (event : Event)
  /-- A publishing call has called its synchronous listeners and leaves the event to the bus. -/
  | accepted (posting : Posting)
  /-- A call returns. -/
  | returned (call : Nat)
  /-- The queue refuses an event, which is lost. -/
  | refused (posting : Posting)
  /-- An event has entered the queue. -/
  | entered (posting : Posting)
  /-- A deferred event will never enter the queue. -/
  | abandoned (posting : Posting)
  /-- An event has been fanned out.  Here and below, `source` is the call that published it. -/
  | fannedOut (source : Option Nat) (event : Event)
  /-- An event has not been fanned out, since the bus is closing. -/
  | skipped (source : Option Nat) (event : Event)
  /-- Run an asynchronous listener. -/
  | scheduled (invocation : Invocation H)
  /-- An asynchronous listener has ended. -/
  | finished (invocation : Invocation H) (outcome : Outcome)
  /-- A call that closes the bus returns. -/
  | closed (closer : Nat)

/-- A step that somebody takes. -/
inductive BusStep (H : Type) where
  /-- Begin to subscribe a listener. -/
  | subscribe (listener : Listener H)
  /-- Begin to publish an event. -/
  | publish (event : Event)
  /-- Begin to fan an event out, past the queue. -/
  | dispatch (event : Event)
  /-- A call gets the registry and does what it needs it for, or goes on to its next listener, or to
  the queue after the last. -/
  | call (id : Nat)
  /-- The listener of a publishing call ends. -/
  | endListener (id : Nat) (outcome : Outcome)
  /-- Start the workers, which needs a runtime. -/
  | collect (inRuntime : Bool)
  /-- Begin to close. -/
  | close
  /-- Give up waiting for a close. -/
  | abandonClose (id : Nat)
  /-- A party goes on. -/
  | worker (index : Nat)
  | deferred (id : Nat)
  | closer (id : Nat)
  /-- An asynchronous listener ends. -/
  | finish (id : Nat) (outcome : Outcome)

/-- A bus. -/
structure Bus (H : Type) where
  config : DispatcherConfig
  valid : config.validate = .ok ()
  registry : Registry H
  queue : List Posting
  /-- The number of free slots. -/
  free : Nat
  /-- Whether the queue refuses events. -/
  refusing : Bool
  calls : List (Call H)
  /-- Deferred events; those that wait stand in the order in which slots are granted. -/
  overflow : List Deferred
  /-- The counter of deferred events. -/
  pending : Nat
  /-- The workers, none before they are started. -/
  crew : List WorkerState
  /-- The reader, or the worker that is to become it. -/
  holder : Option Nat
  /-- The workers in line behind it. -/
  line : List Nat
  running : List (Invocation H)
  closers : List Closer
  phase : Phase
  cancelled : Bool
  nextId : Nat

namespace Bus

variable {H : Type}

/-- A bus of valid settings. -/
def new? (config : DispatcherConfig) : Except SetupError (Bus H) :=
  match h : config.validate with
  | .ok () =>
    .ok ⟨config, h, .empty, [], config.bufferSize, false, [], [], 0, [], none, [], [], [],
      .constructed, false, 0⟩
  | .error e => .error e

/-- How many slots of the queue are not free. -/
def queued (b : Bus H) : Nat :=
  b.config.bufferSize - b.free

/-- How many listeners of an event name there are, synchronous and asynchronous. -/
def listenerCount (b : Bus H) (event : String) : Nat × Nat :=
  (b.registry.count .sync event, b.registry.count .async event)

/-- Whether all workers have stopped. -/
def crewStopped (b : Bus H) : Bool :=
  b.crew.all fun w => w == .stopped

/-- Whether no task is left. -/
def idle (b : Bus H) : Bool :=
  b.running.isEmpty && b.overflow.isEmpty

/-- What is logged about the end of a listener: nothing if all went well. -/
def report (l : Listener H) (e : Event) (d : Delivery) (o : Outcome) : List (Effect H) :=
  let data (key text : String) : Json :=
    .object [("event", .str e.name), ("handler", .str l.name), ("delivery", .str d.word),
      (key, .str text)]
  match o with
  | .done => []
  | .failed error => [.log .error "error dispatching event for handler" (data "error" error)]
  | .panicked text =>
    [.log .error "listener panicked" (data "panic" (text.getD "non-string panic payload"))]

/-- The reader need not wait any longer if it does. -/
def wakeReader (b : Bus H) : List (Effect H) :=
  match b.holder with
  | some i => if b.crew[i]? = some .reading then [.wake (.worker i)] else []
  | none => []

/-- Put an event into a slot of the queue that has been taken for it. -/
def enter (b : Bus H) (p : Posting) : Bus H × List (Effect H) :=
  ({ b with queue := b.queue ++ [p] }, .entered p :: b.wakeReader)

/-- Grant a slot to the first deferred event that waits. -/
def grantFirst : List Deferred → Option (List Deferred × Nat)
  | [] => none
  | d :: rest =>
    if d.stage = .waiting then some ({ d with stage := .granted } :: rest, d.id)
    else (grantFirst rest).map fun r => (d :: r.1, r.2)

/-- Give a slot back. -/
def releaseSlot (b : Bus H) : Bus H × List (Effect H) :=
  match grantFirst b.overflow with
  | some (overflow, id) => ({ b with overflow := overflow }, [.wake (.deferred id)])
  | none => ({ b with free := b.free + 1 }, [])

/-- Leave the place of the reader to the next in line. -/
def releaseReader (b : Bus H) : Bus H × List (Effect H) :=
  match b.line with
  | [] => ({ b with holder := none }, [])
  | i :: rest => ({ b with holder := some i, line := rest }, [.wake (.worker i)])

/-- Once no task is left, those who wait for tasks need not wait any longer. -/
def tasksEnded (b : Bus H) : Bus H × List (Effect H) :=
  if b.idle then
    ({ b with
        closers := b.closers.map fun c => if c.stage = .tasks then { c with stage := .nothing } else c },
      (b.closers.filter fun c => c.stage = .tasks).map fun c => .wake (.closer c.id))
  else (b, [])

/-- Offer an event to the queue: it enters, or it is deferred if there is no free slot. -/
def offer (b : Bus H) (p : Posting) : Bus H × List (Effect H) :=
  if b.refusing then (b, [.refused p])
  else if 0 < b.free then { b with free := b.free - 1 }.enter p
  else
    ({ b with
        overflow := b.overflow ++ [⟨b.nextId, p, .fresh⟩]
        pending := b.pending + 1
        nextId := b.nextId + 1 },
      [.log .warning "queue is full waiting for a slot"
          (.object [("event", .str p.event.name), ("occurred_at", .str p.event.timeText),
            ("capacity", .int b.config.bufferSize), ("pending", .int (b.pending + 1))]),
        .wake (.deferred b.nextId)])

/-- The invocations of listeners for an event, numbered from `id` on. -/
def invocations (source : Option Nat) (e : Event) : Nat → List (Listener H) → List (Invocation H)
  | _, [] => []
  | id, l :: rest => ⟨id, source, l, e⟩ :: invocations source e (id + 1) rest

/-- Fan an event out, unless cancellation has begun. -/
def fanOut (b : Bus H) (source : Option Nat) (e : Event) : Bus H × List (Effect H) :=
  if b.cancelled then
    (b, [.log .debug "dispatch skipped while closing" (.object [("event", .str e.name)]),
      .skipped source e])
  else
    let started := invocations source e b.nextId (b.registry.listeners .async e.name)
    ({ b with running := b.running ++ started, nextId := b.nextId + started.length },
      .fannedOut source e :: started.map .scheduled)

/-- Put a worker into a state. -/
def setWorker (b : Bus H) (i : Nat) (w : WorkerState) : Bus H :=
  { b with crew := b.crew.set i w }

/-- A worker stops; after the last one, those who wait for workers need not wait any longer. -/
def stopWorker (b : Bus H) (i : Nat) : Bus H × List (Effect H) :=
  let stopped := b.setWorker i .stopped
  (stopped,
    .log .info "collect worker stopped" (.object [("worker", .int i)]) ::
      if stopped.crewStopped then
        (b.closers.filter fun c => c.stage = .workers).map fun c => .wake (.closer c.id)
      else [])

/-- A worker stops that has left the line, or the place of the reader. -/
def stopAfter (left : Bus H × List (Effect H)) (i : Nat) : Bus H × List (Effect H) :=
  let stopped := left.1.stopWorker i
  (stopped.1, left.2 ++ stopped.2)

/-- Leave the line, or the place of the reader if it has been reached. -/
def leaveLine (b : Bus H) (i : Nat) : Bus H × List (Effect H) :=
  if b.holder = some i then b.releaseReader
  else ({ b with line := b.line.filter fun j => j != i }, [])

/-- A step of a worker. -/
def workerStep (b : Bus H) (i : Nat) : Option (Bus H × List (Effect H)) :=
  match b.crew[i]? with
  | some .ready =>
    if b.cancelled then some (b.stopWorker i)
    else if b.holder = none then some ({ b with holder := some i }.setWorker i .reading, [])
    else some ({ b with line := b.line ++ [i] }.setWorker i .inLine, [])
  | some .inLine =>
    if b.cancelled then some (stopAfter (b.leaveLine i) i)
    else if b.holder = some i then some (b.setWorker i .reading, [])
    else none
  | some .reading =>
    if b.cancelled then some (stopAfter b.releaseReader i)
    else match b.queue with
      | [] => if b.refusing then some (stopAfter b.releaseReader i) else none
      | p :: rest =>
        let slot := { b with queue := rest }.releaseSlot
        let left := slot.1.releaseReader
        some (left.1.setWorker i (.carrying p), slot.2 ++ left.2)
  | some (.carrying p) => some ((b.setWorker i .ready).fanOut (some p.call) p.event)
  | some .stopped => none
  | none => none

/-- Take a deferred event out, whether it has entered the queue or not. -/
def dropDeferred (b : Bus H) (id : Nat) : Bus H :=
  { b with overflow := b.overflow.filter fun d => d.id != id, pending := b.pending - 1 }

/-- A deferred event ends, having entered the queue or not. -/
def endDeferred (b : Bus H) (id : Nat) : Bus H × List (Effect H) :=
  (b.dropDeferred id).tasksEnded

/-- A step of a deferred event. -/
def deferredStep (b : Bus H) (id : Nat) : Option (Bus H × List (Effect H)) :=
  match b.overflow.find? fun d => d.id == id with
  | none => none
  | some d =>
    if b.cancelled then
      let dropped := b.dropDeferred id
      let slot := if d.stage = .granted then dropped.releaseSlot else (dropped, [])
      let ended := slot.1.tasksEnded
      some (ended.1,
        .log .debug "overflow enqueue abandoned"
            (.object [("event", .str d.posting.event.name)]) ::
          .abandoned d.posting :: (slot.2 ++ ended.2))
    else if b.refusing then
      let ended := b.endDeferred id
      some (ended.1, .refused d.posting :: ended.2)
    else
      match d.stage with
      | .fresh =>
        if 0 < b.free then
          let entered := { b with free := b.free - 1 }.enter d.posting
          let ended := entered.1.endDeferred id
          some (ended.1, entered.2 ++ ended.2)
        else
          some ({ b with
            overflow := (b.overflow.filter fun d => d.id != id) ++ [{ d with stage := .waiting }] },
            [])
      | .waiting => none
      | .granted =>
        let entered := b.enter d.posting
        let ended := entered.1.endDeferred id
        some (ended.1, entered.2 ++ ended.2)

/-- A step of a call that closes the bus. -/
def closerStep (b : Bus H) (id : Nat) : Option (Bus H × List (Effect H)) :=
  let finished : Bus H × List (Effect H) :=
    ({ b with closers := b.closers.filter fun c => c.id != id, phase := .closed }, [.closed id])
  match b.closers.find? fun c => c.id == id with
  | none => none
  | some c =>
    match c.stage with
    | .workers =>
      if !b.crewStopped then none
      else if b.idle then some finished
      else
        some ({ b with closers := b.closers.map fun c =>
          if c.id = id then { c with stage := .tasks } else c }, [])
    | .tasks => none
    | .nothing => some finished

/-- Take a call out: it returns. -/
def dropCall (b : Bus H) (id : Nat) : Bus H :=
  { b with calls := b.calls.filter fun c => c.id != id }

/-- Put a call into a stage. -/
def setCall (b : Bus H) (id : Nat) (stage : CallStage H) : Bus H :=
  { b with calls := b.calls.map fun c => if c.id = id then { c with stage := stage } else c }

/-- Begin a call. -/
def begin (b : Bus H) (stage : CallStage H) : Bus H :=
  { b with calls := b.calls ++ [⟨b.nextId, stage⟩], nextId := b.nextId + 1 }

/-- A step of a call. -/
def callStep (b : Bus H) (id : Nat) : Option (Bus H × List (Effect H)) :=
  match b.calls.find? fun c => c.id == id with
  | none => none
  | some c =>
    match c.stage with
    | .subscribing l =>
      some ({ b.dropCall id with registry := (b.registry.insert l).1 }, [.subscribed l, .returned id])
    | .publishing e =>
      some (b.setCall id (.calling e (b.registry.listeners .sync e.name) none), [])
    | .calling _ _ (some _) => none
    | .calling e (l :: rest) none => some (b.setCall id (.calling e rest (some l)), [.invoke id l e])
    | .calling e [] none =>
      let p : Posting := ⟨id, e⟩
      let offered := (b.dropCall id).offer p
      some (offered.1, .accepted p :: offered.2 ++ [.returned id])
    | .dispatching e =>
      let fanned := (b.dropCall id).fanOut none e
      some (fanned.1, fanned.2 ++ [.returned id])

/-- The listener that a publishing call is calling ends. -/
def endListener (b : Bus H) (id : Nat) (o : Outcome) : Option (Bus H × List (Effect H)) :=
  match b.calls.find? fun c => c.id == id with
  | none => none
  | some c =>
    match c.stage with
    | .calling e rest (some l) => some (b.setCall id (.calling e rest none), report l e .sync o)
    | _ => none

/-- An asynchronous listener ends. -/
def finish (b : Bus H) (id : Nat) (o : Outcome) : Option (Bus H × List (Effect H)) :=
  match b.running.find? fun v => v.id == id with
  | none => none
  | some v =>
    let ended := { b with running := b.running.filter fun v => v.id != id }.tasksEnded
    some (ended.1, .finished v o :: report v.listener v.event .async o ++ ended.2)

/-- Start the workers, once and only before closing. -/
def collect (b : Bus H) (inRuntime : Bool) : Bus H × List (Effect H) :=
  if !inRuntime then (b, [.log .error "collect requires a tokio runtime" (.object [])])
  else if b.phase = .constructed then
    ({ b with phase := .collecting, crew := List.replicate b.config.workers .ready },
      (List.range b.config.workers).map fun i => .wake (.worker i))
  else (b, [.log .warning "collect ignored" (.object [("state", .str b.phase.word)])])

/-- Begin to close. -/
def close (b : Bus H) : Bus H × List (Effect H) :=
  ({ b with
      phase := b.phase.begunClosing
      cancelled := true
      closers := b.closers ++ [⟨b.nextId, .workers⟩]
      nextId := b.nextId + 1 },
    if b.cancelled then []
    else
      .cancelled ::
        ((List.range b.crew.length).map fun i => .wake (.worker i)) ++
        b.overflow.map fun d => .wake (.deferred d.id))

/-- What is logged about a new listener. -/
def subscription (l : Listener H) : Effect H :=
  .log .debug "subscribing to event"
    (.object [("event", .str l.event), ("handler", .str l.name), ("delivery", .str l.delivery.word)])

/-- One step; `none` if the party has to wait or does not exist. -/
def step (b : Bus H) : BusStep H → Option (Bus H × List (Effect H))
  | .subscribe l => some (b.begin (.subscribing l), [subscription l])
  | .publish e => some (b.begin (.publishing e), [.began b.nextId e])
  | .dispatch e => some (b.begin (.dispatching e), [])
  | .call id => b.callStep id
  | .endListener id outcome => b.endListener id outcome
  | .collect inRuntime => some (b.collect inRuntime)
  | .close => some b.close
  | .abandonClose id => some ({ b with closers := b.closers.filter fun c => c.id != id }, [])
  | .worker i => b.workerStep i
  | .deferred id => b.deferredStep id
  | .closer id => b.closerStep id
  | .finish id outcome => b.finish id outcome

end Bus
end Switchboard
