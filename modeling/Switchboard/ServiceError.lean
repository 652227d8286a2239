import Switchboard.Config.Layers

/-!
# What an application can answer instead of a result

Failures of sessions, of their store and of the clients of a broadcast centre, and failures of
assembly and of settings, which are passed on.
-/

namespace Switchboard

/-- What the store of sessions, or a client, refuses to do. -/
inductive StoreFault where
  /-- A session with that id is there already. -/
  | duplicateSession (id : String)
  /-- A message of that name cannot be sent. -/
  | cannotSend (event : String)
  deriving DecidableEq

/-- The text of a refusal. -/
def StoreFault.message : StoreFault → String
  | duplicateSession id => "duplicate session id: " ++ id
  | cannotSend event => "cannot send " ++ event

/-- A failure. -/
inductive ServiceError where
  | setup (e : SetupError)
  | config (f : LayerFault)
  | sessionNotFound (id : String)
  | sessionExpired (id : String)
  | repository (f : StoreFault)
  | alreadySubscribed (client : String)
  | notSubscribed (client : String)
  | disconnected (client : String)

/-- The word for the cause of a failure; a failure of assembly keeps its own. -/
def ServiceError.kind : ServiceError → String
  | setup e => "Domain." ++ e.kind
  | config _ => "Config"
  | sessionNotFound _ => "SessionNotFound"
  | sessionExpired _ => "SessionExpired"
  | repository _ => "Repository"
  | alreadySubscribed _ => "ClientAlreadySubscribed"
  | notSubscribed _ => "ClientNotSubscribed"
  | disconnected _ => "ClientDisconnected"

/-- The text of a failure. -/
def ServiceError.message : ServiceError → String
  | setup e => "domain: " ++ e.message
  | config f => "config: " ++ f.message
  | sessionNotFound id => "session not found: " ++ id
  | sessionExpired id => "session expired: " ++ id
  | repository f => "repository: " ++ f.message
  | alreadySubscribed client => "client already subscribed: " ++ client
  | notSubscribed client => "client not subscribed: " ++ client
  | disconnected client => "client disconnected: " ++ client

/-- The data that stands for a failure: the word for its cause, and its text. -/
def failureData (kind message : String) : Json :=
  .object [("error", .str kind), ("message", .str message)]

/-- The data that stands for a failure of assembly. -/
def SetupError.toJson (e : SetupError) : Json :=
  failureData e.kind e.message

/-- The data that stands for a failure. -/
def ServiceError.toJson (e : ServiceError) : Json :=
  failureData e.kind e.message

namespace Loader

/-- The settings that the layers hold, if an application started now can run with them. -/
def load (l : Loader) (now : Instant) : Except ServiceError Settings := do
  let s ← l.extract.mapError ServiceError.config
  (s.validate now).mapError ServiceError.setup
  .ok s

end Loader
end Switchboard
