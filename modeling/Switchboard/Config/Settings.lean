import Switchboard.Eventing.DispatcherConfig
import Switchboard.Logging.Level

/-!
# Settings of an application

Three sections --- events, logging, sessions --- each of which has a value for every field even if
nothing is configured.  The level of the log is kept as text and read leniently when it is needed.
Validation concerns the bus and the lifetime of refresh tokens, in this order.

The lifetime of a refresh token is a number of seconds of either sign.  A number too long to be a
span of time stands for the standard lifetime where a lifetime has to be used
(`SessionSettings.refreshTtl`), but it has no expiry of its own (`SessionSettings.refreshExpiry?`).
-/

namespace Switchboard

/-- The section on events. -/
structure EventSettings where
  /-- The kind of bus. -/
  providerType : String
  bufferSize : Nat
  workers : Nat
  deriving DecidableEq

/-- The section on logging. -/
structure LogSettings where
  /-- The kind of logger. -/
  kind : String
  /-- The name of the level. -/
  level : String
  deriving DecidableEq

/-- The section on sessions. -/
structure SessionSettings where
  /-- Seconds that a refresh token is good for. -/
  refreshTtlSecs : Int
  deriving DecidableEq

/-- The settings of an application. -/
structure Settings where
  events : EventSettings
  logging : LogSettings
  session : SessionSettings
  deriving DecidableEq

namespace EventSettings

/-- The section when nothing is configured. -/
def standard : EventSettings :=
  ⟨"in-memory", DispatcherConfig.standard.bufferSize, DispatcherConfig.standard.workers⟩

/-- The settings of the bus. -/
def dispatcher (e : EventSettings) : DispatcherConfig :=
  ⟨e.bufferSize, e.workers⟩

end EventSettings

namespace LogSettings

/-- The section when nothing is configured. -/
def standard : LogSettings := ⟨"tracing", Level.info.name⟩

/-- The level in force, with the warning about a name that is none. -/
def readLevel (l : LogSettings) : Level × List TraceLine :=
  Level.orInfo l.level

end LogSettings

namespace SessionSettings

/-- Thirty days, in seconds. -/
def standardTtl : Int := 2592000

/-- The section when nothing is configured. -/
def standard : SessionSettings := ⟨standardTtl⟩

/-- The lifetime in use. -/
def refreshTtl (s : SessionSettings) : Int :=
  if Instant.isSpan s.refreshTtlSecs then s.refreshTtlSecs else standardTtl

/-- When a refresh token made at `start` expires, if that instant exists. -/
def refreshExpiry? (s : SessionSettings) (start : Instant) : Option Instant :=
  start.add? s.refreshTtlSecs

end SessionSettings

namespace Settings

/-- The settings when nothing is configured. -/
def standard : Settings := ⟨.standard, .standard, .standard⟩

/-- Accept settings whose bus is valid and whose refresh tokens, made now, expire at an instant
after their making that exists. -/
def validate (s : Settings) (now : Instant) : Except SetupError Unit := do
  s.events.dispatcher.validate
  if s.session.refreshTtlSecs ≤ 0 ∨ s.session.refreshExpiry? now = none then
    .error (.invalidConfig (.refreshTtl s.session.refreshTtlSecs))
  else .ok ()

end Settings
end Switchboard
