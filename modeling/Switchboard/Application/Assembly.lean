import Switchboard.Application.State

/-!
# Putting an application together

Factories add collaborators to an application, one factory after the other.  Each first looks up what
it depends on and then makes and registers what it provides; the first failure ends the assembly, and
what the failing factory would have registered is not there.

A factory that has not looked anything up falls back on standard settings, and on the logger that the
hub has by then.
-/

namespace Switchboard

/-- A maker of collaborators, with what it has looked up so far. -/
inductive Factory where
  /-- Loads settings, and registers the loader and the settings. -/
  | config (loader : Loader)
  /-- Registers a logger. -/
  | logger (settings : Option LogSettings)
  /-- Registers a bus and starts its workers. -/
  | events (settings : Option EventSettings) (logger : Option Nat)
  /-- Registers a broadcast centre. -/
  | serverEvents (id : String)

namespace Factory

variable {H : Type}

/-- Look up what a factory depends on. -/
def init (h : AppHub) : Factory → Except SetupError Factory
  | .config loader => .ok (.config loader)
  | .logger _ => do
    let s ← h.need .settings
    .ok (.logger (some (Settings.logging s)))
  | .events _ _ => do
    let s ← h.need .settings
    let l ← h.need .logger
    .ok (.events (some (Settings.events s)) (some l))
  | .serverEvents id => .ok (.serverEvents id)

/-- The logger of a kind. -/
def loggerOf (kind : String) (level : Level) : Except SetupError Logger :=
  if kind = "tracing" then .ok (.tracing (.new level))
  else if kind = "memory" then .ok (.memory (.new level))
  else .error (.unknownProvider ("logger:" ++ kind))

/-- Make and register a bus that writes to a logger, and start its workers.  A kind of bus that is
not known is logged too. -/
def registerBus (s : EventSettings) (logger : Nat) (a : Application H) :
    Application H × Option SetupError :=
  if s.providerType = "in-memory" then
    match Bus.new? s.dispatcher with
    | .ok b => ((a.addBus b logger).stepBus a.buses.length (.collect true), none)
    | .error e => (a, some e)
  else
    (a.write logger .error "invalid domain event provider type"
      (.object [("type", .str s.providerType)]),
      some (.unknownProvider s.providerType))

/-- Make and register a logger. -/
def registerLogger (s : LogSettings) (a : Application H) : Application H × Option SetupError :=
  let level := s.readLevel
  let traced := a.addTrace level.2
  match loggerOf s.kind level.1 with
  | .ok l => (traced.addLogger l, none)
  | .error e => (traced, some e)

/-- Load and register settings. -/
def registerSettings (loader : Loader) (now : Instant) (a : Application H) :
    Application H × Option ServiceError :=
  match loader.load now with
  | .ok s => ((a.register .loader loader).register .settings s, none)
  | .error e => (a, some e)

/-- Make and register what a factory provides. -/
def register (now : Instant) (a : Application H) : Factory → Application H × Option ServiceError
  | .config loader => registerSettings loader now a
  | .logger settings =>
    let r := registerLogger (settings.getD .standard) a
    (r.1, r.2.map .setup)
  | .events settings (some known) =>
    let r := registerBus (settings.getD .standard) known a
    (r.1, r.2.map .setup)
  | .events settings none =>
    match a.hub.need .logger with
    | .ok found =>
      let r := registerBus (settings.getD .standard) found a
      (r.1, r.2.map .setup)
    | .error e => (a, some (.setup e))
  | .serverEvents id => (a.addServerEvents id, none)

/-- Look up and register. -/
def run (now : Instant) (a : Application H) (f : Factory) : Application H × Option ServiceError :=
  match f.init a.hub with
  | .ok ready => ready.register now a
  | .error e => (a, some (.setup e))

end Factory
end Switchboard
