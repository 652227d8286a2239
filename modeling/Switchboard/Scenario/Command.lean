import Switchboard.Scenario.Turn

/-!
# Commands of a scenario

What those who run a scenario can ask for, and the answers.  Commands are about the hub, the bus that
is registered in it, the session service, the store of sessions, and the clients with their inboxes.

Only some commands let parties have their turns (`World.quiesce`): all those after which a waiting
party may have to go on, and `settle`, which does nothing else.  A close and a broadcast take their own
first steps before any other party.  Publishing carries out the synchronous part of the call, that is
all.
-/

namespace Switchboard
namespace Scenario

/-- What can be registered in the hub. -/
inductive Provision where
  | number (n : Nat)
  | text (s : String)
  | slice (s : String)
  | level (levelName : String)
  | settings (s : Settings)
  | loader (l : Loader)
  /-- A new memory logger. -/
  | logger (levelName : String)
  /-- A new bus of standard settings, which writes to the logger of the hub. -/
  | events
  /-- A new broadcast centre. -/
  | serverEvents (id : String)
  | repository

/-- Something to be done with the hub. -/
inductive HubCommand where
  | register (p : Provision)
  | get (s : Slot)
  | tryGet (s : Slot)
  | exists (s : Slot)
  | registered
  | size
  | debug

/-- Something to be done with the store of sessions. -/
inductive StoreCommand where
  | create (s : Session)
  | update (s : Session)
  | delete (s : Session)
  | find (id : String)
  | deleteId (id : String)
  | findUser (user : String)
  | deleteUser (user : String)
  | findExpired (now : Instant)
  | deleteExpired (now : Instant)
  | size

/-- Something to be done with the session service. -/
inductive SessionCommand where
  /-- A new service, with the bus of the hub or without any. -/
  | service (settings : SessionSettings) (announcing : Bool)
  /-- Open a session under a new id. -/
  | openSession (c : OpenSession) (id : String)
  | invalidate (id : String)
  | session (id : String)
  | userSessions (user : String)
  | invalidateUser (user : String)
  | cleanExpired

/-- Something to be done with clients and broadcast centres. -/
inductive ClientCommand where
  /-- A new client with an inbox. -/
  | connect (id : String) (capacity : Nat)
  /-- A new client that cannot be reached. -/
  | connectBroken (id : String)
  | hello (id : String)
  | forget (id : String)
  | subscribe (id : String)
  | unsubscribe (id : String)
  | describeCenter
  | broadcast (m : Message)
  | dropInbox (id : String)
  /-- Take messages out of an inbox, at most so many if a number is given. -/
  | receive (id : String) (most : Option Nat)

/-- Something to be done with the bus of the hub. -/
inductive BusCommand where
  | subscribe (ls : List (Listener Handler))
  | publish (e : Event) (times : Nat)
  | dispatch (e : Event)
  | collect (inRuntime : Bool)
  | settle
  | openGate (gate : String)
  | close
  | closes
  | count (event : String)
  | config

/-- A command. -/
inductive Command where
  | bus (c : BusCommand)
  | session (c : SessionCommand)
  | store (c : StoreCommand)
  | client (c : ClientCommand)
  | log (q : LogRequest)
  | hub (c : HubCommand)

/-- What a command asks for and is not there. -/
inductive Absence where
  | directBus
  | client
  | inbox
  deriving DecidableEq

/-- The broadcasts that have ended since the last report, in the order of the calls, and the number of
those that have not. -/
structure BroadcastReport where
  ended : List (Except ServiceError Unit)
  waiting : Nat

/-- Why no more messages were taken out of an inbox. -/
inductive ReceiveEnd where
  /-- There were as many as were asked for. -/
  | enough
  | empty
  /-- It is empty and nobody is left to fill it. -/
  | disconnected
  deriving DecidableEq

/-- How the contents of a place of the hub are shown. -/
inductive Shown where
  | number (n : Nat)
  | text (s : String)
  | level (l : Level)
  | settings (s : Settings)
  | present

/-- An answer. -/
inductive Reply where
  | done
  | absent (a : Absence)
  | setupError (e : SetupError)
  | failed (e : ServiceError)
  | flag (b : Bool)
  | number (n : Nat)
  | config (c : DispatcherConfig)
  | listeners (sync async : Nat)
  | closes (returned waiting : Nat)
  | opened (s : Session)
  | session (s : Option Session)
  | sessions (ss : List Session)
  | ids (ids : List String)
  | size (n : Nat)
  | registered (n : Nat)
  | shown (s : Shown)
  | isSome (b : Bool)
  | exists (b : Bool)
  | names (ns : List String)
  | debug (s : String)
  | level (l : Level)
  | center (id : String) (clients : Nat)
  | broadcasts (r : BroadcastReport)
  | dropped (b : Bool) (r : BroadcastReport)
  | received (messages : List Message) (ending : ReceiveEnd) (r : BroadcastReport)

namespace Reply

/-- The answer of what either is done or fails. -/
def ofExcept {α : Type} (ok : α → Reply) : Except ServiceError α → Reply
  | .ok v => ok v
  | .error e => failed e

end Reply

/-! ## The hub -/

/-- Register something in the hub of an application. -/
def provide (a : Application Handler) : Provision → Except SetupError (Application Handler)
  | .number n => .ok (a.register .number n)
  | .text s => .ok (a.register .text s)
  | .slice s => .ok (a.register .slice s)
  | .level name => do
    let l ← Level.parse name
    .ok (a.register .level l)
  | .settings s => .ok (a.register .settings s)
  | .loader l => .ok (a.register .loader l)
  | .logger name => do
    let l ← Level.parse name
    .ok (a.addLogger (.memory (.new l)))
  | .events => a.addHubBus .standard
  | .serverEvents id => .ok (a.addServerEvents id)
  | .repository => .ok (a.register .repository ())

/-- How what is registered in a place is shown. -/
def showSlot (a : Application Handler) : Slot → Except SetupError Shown
  | .number => (a.hub.need .number).map .number
  | .text => (a.hub.need .text).map .text
  | .slice => (a.hub.need .slice).map .text
  | .level => (a.hub.need .level).map .level
  | .settings => (a.hub.need .settings).map .settings
  | .logger => (a.hub.need .logger).map fun i =>
    match a.loggers[(show Nat from i)]? with
    | some l => .level l.level
    | none => .present
  | s => (a.hub.need s).map fun _ => .present

/-- Carry out a command about the hub. -/
def runHub (a : Application Handler) : HubCommand → Application Handler × Reply
  | .register p =>
    match provide a p with
    | .ok b => (b, .registered b.hub.size)
    | .error e => (a, .setupError e)
  | .get s =>
    match showSlot a s with
    | .ok v => (a, .shown v)
    | .error e => (a, .setupError e)
  | .tryGet s => (a, .isSome (a.hub.find? s).isSome)
  | .exists s => (a, .exists (a.hub.has s))
  | .registered => (a, .names (a.hub.names Slot.typeName))
  | .size => (a, .size a.hub.size)
  | .debug => (a, .debug Hub.shown)

namespace World

/-- How many turns are given at most. -/
def maxTurns : Nat := 10000000

/-- Let all parties go on until they have to wait. -/
def quiesce (w : World) : World :=
  w.settle maxTurns

/-! ## The bus -/

/-- Publish an event: its synchronous listeners are called, and it is offered to the queue. -/
def publishNow (w : World) (bus : Nat) (e : Event) : World :=
  ((w.startJob (.publishing bus (w.nextCall bus))).stepBus bus (.publish e)).runJob w.nextId maxTurns

/-- Publish events one after the other. -/
def publishAll (w : World) (bus : Nat) : List Event → World
  | [] => w
  | e :: rest => publishAll (w.publishNow bus e) bus rest

/-- Open a gate: those who wait at it go on in the order in which they came. -/
def openGate (w : World) (gate : String) : World :=
  (w.gateLine.filter fun p => p.1 == gate).foldl (fun w p => w.wake (.job p.2))
    { w with
      gates := if gate ∈ w.gates then w.gates else w.gates ++ [gate]
      gateLine := w.gateLine.filter fun p => p.1 != gate }

/-- Close a bus: the call to close goes on before any other party. -/
def closeBus (w : World) (bus : Nat) : World :=
  let begun := { w with closesBegun := w.closesBegun + 1 }.stepBus bus .close
  { begun with active := some (.agent bus (.closer (w.nextCall bus))) }.quiesce

/-- Do something with the bus of the hub. -/
def withBus (w : World) (f : Nat → World) : World × Reply :=
  match w.app.hub.need .events with
  | .ok bus => (f bus, .done)
  | .error e => (w, .setupError e)

/-- The bus that was there from the beginning. -/
def directBus? (w : World) : Option (Bus Handler) :=
  w.directBus.bind w.app.bus?

/-- Carry out a command about the bus. -/
def runBus (w : World) : BusCommand → World × Reply
  | .subscribe ls =>
    w.withBus fun bus => ls.foldl (fun w l => w.callBus bus (.subscribe l)) w
  | .publish e times => w.withBus fun bus => w.publishAll bus (List.replicate times e)
  | .dispatch e => w.withBus fun bus => w.callBus bus (.dispatch e)
  | .collect inRuntime => w.withBus fun bus => w.stepBus bus (.collect inRuntime)
  | .settle => (w.quiesce, .done)
  | .openGate gate => ((w.openGate gate).quiesce, .done)
  | .close => w.withBus w.closeBus
  | .closes => (w, .closes w.closesEnded (w.closesBegun - w.closesEnded))
  | .count event =>
    match w.directBus? with
    | some b => (w, .listeners (b.listenerCount event).1 (b.listenerCount event).2)
    | none => (w, .absent .directBus)
  | .config =>
    match w.directBus? with
    | some b => (w, .config b.config)
    | none => (w, .absent .directBus)

/-! ## Sessions -/

/-- Act on what comes of an operation of the service: the store changes, and then the events are
published. -/
def accept {α : Type} (w : World) (r : Receipt α) : World :=
  let changed := { w with app := { w.app with repository := r.repository }.addTrace r.trace }
  match w.serviceBus with
  | some bus => changed.publishAll bus r.events
  | none => changed

/-- Carry out a command about the session service. -/
def runSession (w : World) : SessionCommand → World × Reply
  | .service settings announcing =>
    let fresh := { w with service := .new settings }
    if announcing then
      match w.app.hub.need .events with
      | .ok bus => ({ fresh with serviceBus := some bus }, .done)
      | .error e => (w, .setupError e)
    else ({ fresh with serviceBus := none }, .done)
  | .openSession c id =>
    match w.service.openSession w.app.repository c id w.now with
    | .ok r => (w.accept r, .opened r.answer)
    | .error e => (w, .failed e)
  | .invalidate id =>
    match SessionService.invalidate w.app.repository id w.now with
    | .ok r => (w.accept r, .done)
    | .error e => (w, .failed e)
  | .session id =>
    (w, .ofExcept (fun s => .session (some s)) (SessionService.session w.app.repository id w.now))
  | .userSessions user => (w, .sessions (w.app.repository.findUser user))
  | .invalidateUser user =>
    let r := SessionService.invalidateUser w.app.repository user w.now
    (w.accept r, .number r.answer)
  | .cleanExpired =>
    let r := SessionService.cleanExpired w.app.repository w.now
    (w.accept r, .number r.answer)

/-! ## The store of sessions -/

/-- Put another store in the place of the store. -/
def setRepository (w : World) (r : Repository) : World :=
  { w with app := { w.app with repository := r } }

/-- The ids of sessions in ascending order. -/
def sortedIds (ss : List Session) : List String :=
  (ss.map Session.sessionId).mergeSort fun a b => !(b < a)

/-- Carry out a command about the store. -/
def runStore (w : World) : StoreCommand → World × Reply
  | .create s =>
    match w.app.repository.create s with
    | .ok r => (w.setRepository r, .done)
    | .error e => (w, .failed e)
  | .update s =>
    match w.app.repository.update s with
    | .ok r => (w.setRepository r, .done)
    | .error e => (w, .failed e)
  | .delete s => (w.setRepository (w.app.repository.deleteId s.sessionId).2, .done)
  | .find id => (w, .session (w.app.repository.find? id))
  | .deleteId id =>
    let p := w.app.repository.deleteId id
    (w.setRepository p.2, .session p.1)
  | .findUser user => (w, .sessions (w.app.repository.findUser user))
  | .deleteUser user =>
    let p := w.app.repository.deleteUser user
    (w.setRepository p.2, .ids (sortedIds p.1))
  | .findExpired now => (w, .ids (sortedIds (w.app.repository.findExpired now)))
  | .deleteExpired now =>
    let p := w.app.repository.deleteExpired now
    (w.setRepository p.2, .number p.1)
  | .size => (w, .size w.app.repository.size)

/-! ## Clients -/

/-- The value that is known by an id. -/
def known {α : Type} (id : String) (list : List (String × α)) : Option α :=
  (list.find? fun p => p.1 == id).map Prod.snd

/-- Make a value known by an id, in place of an earlier one. -/
def enroll {α : Type} (id : String) (v : α) (list : List (String × α)) : List (String × α) :=
  (list.filter fun p => p.1 != id) ++ [(id, v)]

/-- Take away the receiver of an inbox. -/
def dropReceiver (w : World) (i : Nat) : World :=
  match w.app.inboxes[i]? with
  | none => w
  | some box =>
    box.drop.2.foldl (fun w s => w.wake (.job s))
      { w with app := { w.app with inboxes := w.app.inboxes.set i box.drop.1 } }

/-- Forget the inbox that is known by an id, and take away its receiver. -/
def dropInbox (w : World) (id : String) : World × Bool :=
  match known id w.inboxOf with
  | none => (w, false)
  | some i =>
    (({ w with inboxOf := w.inboxOf.filter fun p => p.1 != id } : World).dropReceiver i, true)

/-- Report the broadcasts. -/
def reportBroadcasts (w : World) : World × BroadcastReport :=
  let inOrder := w.endedBroadcasts.mergeSort fun a b => a.1 ≤ b.1
  let still := w.pendingBroadcasts.filter fun job => !(w.endedBroadcasts.any fun e => e.1 == job)
  ({ w with endedBroadcasts := [], pendingBroadcasts := still },
    ⟨inOrder.map Prod.snd, still.length⟩)

/-- Broadcast a message to the clients of a centre, before any other party goes on. -/
def broadcastFrom (w : World) (c : Center) (m : Message) : World :=
  let begun := w.startJob (.sending (.start w.nextId c m))
  { begun with
    pendingBroadcasts := w.pendingBroadcasts ++ [w.nextId]
    active := some (.job w.nextId) }.quiesce

/-- Whether somebody holds a client with that inbox, and may send to it. -/
def hasSender (w : World) (i : Nat) : Bool :=
  let reaches (c : Client) : Bool := c.outlet == .inbox i
  w.clients.any (fun p => reaches p.2) || w.app.centers.any (fun c => c.clients.any reaches) ||
    w.jobs.any fun j => j.frames.any fun
      | .sending b => b.remaining.any reaches
      | _ => false

/-- Take messages out of an inbox: those taken and why there are no more. -/
def takeMessages (w : World) (i : Nat) (most : Option Nat) :
    Nat → World × List Message × ReceiveEnd
  | 0 => (w, [], .enough)
  | n + 1 =>
    if most = some 0 then (w, [], .enough)
    else match w.app.inboxes[i]? with
      | none => (w, [], .disconnected)
      | some box =>
        match box.receive? with
        | none => (w, [], if w.hasSender i then .empty else .disconnected)
        | some (m, after, woken) =>
          let taken := { w with app := { w.app with inboxes := w.app.inboxes.set i after } }
          let awake := match woken with
            | some s => taken.wake (.job s)
            | none => taken
          let r := takeMessages awake i (most.map (· - 1)) n
          (r.1, m :: r.2.1, r.2.2)

/-- How many messages are in an inbox. -/
def heldIn (w : World) (i : Nat) : Nat :=
  match w.app.inboxes[i]? with
  | some box => box.held.length
  | none => 0

/-- The registered centre and its number. -/
def center? (w : World) : Except SetupError (Nat × Center) := do
  let i : Nat ← w.app.hub.need .serverEvents
  match w.app.centers[i]? with
  | some c => .ok (i, c)
  | none => .error (.providerNotFound Slot.serverEvents.typeName)

/-- Put another centre in the place of one. -/
def setCenter (w : World) (i : Nat) (c : Center) : World :=
  { w with app := { w.app with centers := w.app.centers.set i c } }

/-- Carry out a command about clients. -/
def runClient (w : World) : ClientCommand → World × Reply
  | .connect id capacity =>
    let i := w.app.inboxes.length
    let dropped := (w.dropInbox id).1
    ({ dropped with
      app := { dropped.app with inboxes := dropped.app.inboxes ++ [.new capacity] }
      clients := enroll id ⟨id, .inbox i⟩ w.clients
      inboxOf := enroll id i dropped.inboxOf }, .done)
  | .connectBroken id => ({ w with clients := enroll id ⟨id, .broken⟩ w.clients }, .done)
  | .hello id =>
    match known id w.clients with
    | some _ => (w, .done)
    | none => (w, .absent .client)
  | .forget id =>
    ({ w with clients := w.clients.filter fun p => p.1 != id },
      .flag (known id w.clients).isSome)
  | .subscribe id =>
    match known id w.clients with
    | none => (w, .absent .client)
    | some client =>
      match w.center? with
      | .error e => (w, .setupError e)
      | .ok (i, c) =>
        match c.subscribe client with
        | .ok d =>
          ({ w.setCenter i d with app := (w.setCenter i d).app.addTrace [c.subscribedLine id] },
            .done)
        | .error e => (w, .failed e)
  | .unsubscribe id =>
    match w.center? with
    | .error e => (w, .setupError e)
    | .ok (i, c) =>
      match c.unsubscribe id with
      | .ok d => (w.setCenter i d, .done)
      | .error e => (w, .failed e)
  | .describeCenter =>
    match w.app.centers[w.firstCenter]? with
    | some c => (w, .center c.id c.clients.length)
    | none => (w, .center "" 0)
  | .broadcast m =>
    match w.center? with
    | .error e => (w, .setupError e)
    | .ok (_, c) =>
      let r := (w.broadcastFrom c m).reportBroadcasts
      (r.1, .broadcasts r.2)
  | .dropInbox id =>
    let p := w.dropInbox id
    let r := p.1.quiesce.reportBroadcasts
    (r.1, .dropped p.2 r.2)
  | .receive id most =>
    match known id w.inboxOf with
    | none => (w, .absent .inbox)
    | some i =>
      let taken := w.takeMessages i most (w.heldIn i + 1)
      let r := taken.1.quiesce.reportBroadcasts
      (r.1, .received taken.2.1 taken.2.2 r.2)

/-! ## All commands -/

/-- Carry out a command. -/
def run (w : World) : Command → World × Reply
  | .bus c => w.runBus c
  | .session c => w.runSession c
  | .store c => w.runStore c
  | .client c => w.runClient c
  | .log q =>
    match w.app.request q with
    | .ok r => ({ w with app := r.1 }, .level r.2)
    | .error e => (w, .setupError e)
  | .hub c =>
    let r := runHub w.app c
    ({ w with app := r.1 }, r.2)

end World
end Scenario
end Switchboard
