import Switchboard.Application.Slot
import Switchboard.Eventing.Bus
import Switchboard.Logging.Request
import Switchboard.ServerEvents.Center
import Switchboard.Session.Repository

/-!
# An application

The hub and the collaborators that change: loggers, buses with the logger each writes to, broadcast
centres, inboxes of clients, the store of sessions.  They are numbered in the order in which they are
made.

A step of a bus is taken by `stepBus?`.  It writes the records that the step gives to the logger of
the bus and notes the other effects as due, for those who run listeners and decide whose turn it is.
-/

namespace Switchboard

/-- A bus and the logger that it writes to. -/
structure HostedBus (H : Type) where
  bus : Bus H
  logger : Nat

/-- An application whose listeners are described by `H`. -/
structure Application (H : Type) where
  hub : AppHub
  loggers : List Logger
  buses : List (HostedBus H)
  centers : List Center
  inboxes : List Inbox
  repository : Repository
  trace : List TraceLine
  /-- Effects of bus steps that nobody has acted on yet, each with the number of its bus. -/
  due : List (Nat × Effect H)

namespace Application

variable {H : Type}

/-- An application of which nothing is there yet. -/
def bare : Application H := ⟨.empty, [], [], [], [], .empty, [], []⟩

/-- Add lines to the trace. -/
def addTrace (a : Application H) (lines : List TraceLine) : Application H :=
  { a with trace := a.trace ++ lines }

/-- Write a record to a logger. -/
def write (a : Application H) (logger : Nat) (level : Level) (message : String) (data : Json) :
    Application H :=
  match a.loggers[logger]? with
  | none => a
  | some l =>
    let r := l.write level message data
    { a with loggers := a.loggers.set logger r.1, trace := a.trace ++ r.2 }

/-- Act on the effects of a step of a bus. -/
def absorb (bus logger : Nat) : List (Effect H) → Application H → Application H
  | [], a => a
  | .log level message data :: rest, a => absorb bus logger rest (a.write logger level message data)
  | e :: rest, a => absorb bus logger rest { a with due := a.due ++ [(bus, e)] }

/-- Take a step of a bus, if it can be taken. -/
def stepBus? (a : Application H) (bus : Nat) (s : BusStep H) : Option (Application H) :=
  match a.buses[bus]? with
  | none => none
  | some hosted =>
    (hosted.bus.step s).map fun r =>
      absorb bus hosted.logger r.2
        { a with buses := a.buses.set bus { hosted with bus := r.1 } }

/-- Take a step of a bus that can always be taken. -/
def stepBus (a : Application H) (bus : Nat) (s : BusStep H) : Application H :=
  (a.stepBus? bus s).getD a

/-- A bus. -/
def bus? (a : Application H) (bus : Nat) : Option (Bus H) :=
  a.buses[bus]?.map HostedBus.bus

/-- Register in a place of the hub. -/
def register (a : Application H) (s : Slot) (v : s.Value) : Application H :=
  { a with hub := a.hub.register s v }

/-- Make a logger and register it. -/
def addLogger (a : Application H) (l : Logger) : Application H :=
  ({ a with loggers := a.loggers ++ [l] } : Application H).register .logger a.loggers.length

/-- Make a bus that writes to a logger, and register it. -/
def addBus (a : Application H) (b : Bus H) (logger : Nat) : Application H :=
  ({ a with buses := a.buses ++ [⟨b, logger⟩] } : Application H).register .events a.buses.length

/-- Make a broadcast centre, without registering it. -/
def addCenter (a : Application H) (id : String) : Application H :=
  { a with centers := a.centers ++ [Center.new id] }

/-- Make a broadcast centre and register it. -/
def addServerEvents (a : Application H) (id : String) : Application H :=
  (a.addCenter id).register .serverEvents a.centers.length

/-- Make a bus that writes to the logger of the hub, and register it. -/
def addHubBus (a : Application H) (config : DispatcherConfig) : Except SetupError (Application H) := do
  let logger ← a.hub.need .logger
  let b ← Bus.new? config
  .ok (a.addBus b logger)

/-- Act on a request to the logger of the hub, and give the level that is then in force. -/
def request (a : Application H) (q : LogRequest) : Except SetupError (Application H × Level) := do
  let i : Nat ← a.hub.need .logger
  match a.loggers[i]? with
  | none => .error (.providerNotFound Slot.logger.typeName)
  | some l =>
    let r ← l.act q
    .ok ({ a with loggers := a.loggers.set i r.1, trace := a.trace ++ r.2 }, r.1.level)

end Application
end Switchboard
