import Switchboard.Scenario.Command

/-!
# Playing a scenario

A scenario begins with setting the stage: a logger, a broadcast centre, a store of sessions and a bus,
each as far as it is asked for, and then whatever factories add.  Commands follow.  After each of them
there is a report: the answer, and what has come into the journal, the log and the trace since the
last report.
-/

namespace Switchboard
namespace Scenario

/-- A factory, and whether it may look up what it depends on before it makes anything. -/
structure Enlisted where
  factory : Factory
  prepared : Bool

/-- What the stage is set with. -/
structure Setting where
  /-- The name of the level of the logger, if there is to be one. -/
  loggerLevel : Option String
  /-- The id of the broadcast centre, if it is to be registered. -/
  centerId : Option String
  bus : Option DispatcherConfig
  factories : List Enlisted

/-- What has happened since the last report. -/
structure Report where
  reply : Reply
  journal : List Json
  log : List LogRecord
  trace : List TraceLine
  /-- The phase of the bus that was there from the beginning, how many slots of its queue are taken and
  how many events are deferred. -/
  bus : Option (Phase × Nat × Nat)

namespace World

/-- A world in which nothing is there but a centre with no registration and an empty store. -/
def empty (now : Instant) (a : Application Handler) (firstCenter : Nat)
    (firstLogger : Option Nat) : World where
  app := a
  now := now
  service := .new .standard
  serviceBus := none
  directBus := none
  firstLogger := firstLogger
  reported := 0
  firstCenter := firstCenter
  clients := []
  inboxOf := []
  gates := []
  gateLine := []
  cancelLine := []
  jobs := []
  nextId := 0
  active := none
  queue := []
  journal := []
  pendingBroadcasts := []
  endedBroadcasts := []
  closesBegun := 0
  closesEnded := 0

/-- Let one factory after the other add to the application, up to the first failure. -/
def enlist (w : World) : List Enlisted → World × Reply
  | [] => (w, .done)
  | f :: rest =>
    let r := if f.prepared then f.factory.run w.now w.app else f.factory.register w.now w.app
    let after := { w with app := r.1 }.settleDue
    match r.2 with
    | none => enlist after rest
    | some e => (after, .failed e)

/-- Set the stage.  A logger whose level has no such name is refused; any other failure is the answer of
the stage that has been set so far. -/
def setUp (now : Instant) (s : Setting) : Except SetupError (World × Reply) := do
  let (a, logger) ← match s.loggerLevel with
    | none => .ok (Application.bare, none)
    | some name => do
      let l ← Level.parse name
      .ok (Application.bare.addLogger (.memory (.new l)), some 0)
  let centered := match s.centerId with
    | some id => a.addServerEvents id
    | none => a.addCenter ""
  let w := empty now (centered.register .repository ()) 0 logger
  match s.bus with
  | none => .ok (w.enlist s.factories)
  | some config =>
    match w.app.addHubBus config with
    | .error e => .ok (w, .setupError e)
    | .ok b => .ok (({ w with app := b, directBus := some 0 } : World).enlist s.factories)

/-- The records of the logger that was there from the beginning. -/
def firstLog (w : World) : List LogRecord :=
  match w.firstLogger.bind fun i => w.app.loggers[i]? with
  | some l => l.records
  | none => []

/-- Report what has happened since the last report. -/
def report (w : World) (reply : Reply) : World × Report :=
  ({ w with app := { w.app with trace := [] }, journal := [], reported := w.firstLog.length },
    ⟨reply, w.journal, w.firstLog.drop w.reported, w.app.trace,
      w.directBus?.map fun b => (b.phase, b.queued, b.pending)⟩)

/-- Carry out a command at some time, and report. -/
def play (w : World) (now : Instant) (c : Command) : World × Report :=
  let r := { w with now := now }.run c
  r.1.report r.2

end World
end Scenario
end Switchboard
