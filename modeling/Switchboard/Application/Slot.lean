import Switchboard.Config.Layers
import Switchboard.Hub

/-!
# The places of an application's hub

Which types of collaborator an application knows, and how each is named where one is missing.
Collaborators that change --- loggers, buses, broadcast centres --- are kept by the application, and
the hub holds their numbers.
-/

namespace Switchboard

/-- A type of collaborator. -/
inductive Slot where
  | number
  | text
  | slice
  | level
  | settings
  | loader
  | logger
  | events
  | serverEvents
  | repository
  deriving DecidableEq

namespace Slot

/-- The name of a type. -/
def typeName : Slot → String
  | number => "u64"
  | text => "alloc::string::String"
  | slice => "str"
  | level => "herald_domain::logging::level::LogLevel"
  | settings => "herald_application::config::HeraldConfig"
  | loader => "herald_application::config::ConfigLoader"
  | logger => "dyn herald_domain::logging::LogProvider"
  | events => "dyn herald_domain::eventing::provider::DomainEventsProvider"
  | serverEvents => "dyn herald_application::server_events::ServerEventProvider"
  | repository => "dyn herald_application::session::repository::SessionRepository"

/-- What the place of a type holds. -/
def Value : Slot → Type
  | number => Nat
  | text => String
  | slice => String
  | level => Level
  | settings => Settings
  | loader => Loader
  | logger => Nat
  | events => Nat
  | serverEvents => Nat
  | repository => Unit

end Slot

/-- The hub of an application. -/
abbrev AppHub := Hub Slot.Value

namespace AppHub

/-- What is registered in a place. -/
def need (h : AppHub) (s : Slot) : Except SetupError s.Value :=
  h.get Slot.typeName s

end AppHub
end Switchboard
