/-!
# What can go wrong while an application is put together

A collaborator is missing, a setting is out of bounds, a kind of implementation is not known, or a
log level has no such name.  Delivery of events never reports an error to the one who publishes, so
these are all the causes there are below the level of sessions and clients.  The wording of each is
given once, by `SetupError.message`.
-/

namespace Switchboard

/-- A setting outside its bounds. -/
inductive SettingFault where
  /-- The queue has no room at all. -/
  | noBuffer
  /-- The queue is longer than a channel can be. -/
  | bufferTooLarge
  /-- Nobody takes events from the queue. -/
  | noWorkers
  /-- The configured lifetime of a refresh token is not positive or leads out of the calendar. -/
  | refreshTtl (seconds : Int)
  /-- The lifetime in use leads out of the calendar. -/
  | refreshSpan (seconds : Int)
  deriving DecidableEq

/-- The greatest capacity of a channel. -/
def maxCapacity : Nat := 2305843009213693951

/-- The reason given for refusing a setting. -/
def SettingFault.message : SettingFault → String
  | noBuffer => "buffer_size must be at least 1"
  | bufferTooLarge => "buffer_size must not exceed " ++ toString maxCapacity
  | noWorkers => "workers must be at least 1"
  | refreshTtl seconds => "session refresh ttl out of range: " ++ toString seconds
  | refreshSpan seconds => "session refresh ttl out of range: " ++ toString seconds ++ "s"

/-- A failure of assembly. -/
inductive SetupError where
  /-- Nothing is registered for the named type of collaborator. -/
  | providerNotFound (provider : String)
  | invalidConfig (reason : SettingFault)
  /-- No implementation goes by that kind. -/
  | unknownProvider (kind : String)
  /-- No log level goes by that name. -/
  | unknownLevel (name : String)
  deriving DecidableEq

namespace SetupError

/-- The text of a failure. -/
def message : SetupError → String
  | providerNotFound provider => "provider not found: " ++ provider
  | invalidConfig reason => "invalid config: " ++ reason.message
  | unknownProvider kind => "unknown provider type: " ++ kind
  | unknownLevel name => "parse error: unknown log level: " ++ name

/-- The word for the cause of a failure. -/
def kind : SetupError → String
  | providerNotFound _ => "ProviderNotFound"
  | invalidConfig _ => "InvalidConfig"
  | unknownProvider _ => "UnknownProvider"
  | unknownLevel _ => "Parse"

end SetupError
end Switchboard
