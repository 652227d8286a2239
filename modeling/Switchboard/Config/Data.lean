import Switchboard.Config.Settings

/-!
# Settings as structured data

Each section is written with all its fields, and read with the standard value for every field that
is not there.
-/

namespace Switchboard

namespace EventSettings

/-- The data that stands for the section. -/
def toJson (e : EventSettings) : Json :=
  .object [("provider_type", .str e.providerType), ("buffer_size", .int e.bufferSize),
    ("workers", .int e.workers)]

/-- The fields of the section. -/
def form : RecordForm Json Json.Fault EventSettings :=
  ⟨"EventsConfig",
    [Json.field "provider_type" Json.asText fun e s => ⟨s, e.bufferSize, e.workers⟩,
      Json.field "buffer_size" Json.asNat fun e n => ⟨e.providerType, n, e.workers⟩,
      Json.field "workers" Json.asNat fun e n => ⟨e.providerType, e.bufferSize, n⟩]⟩

/-- Read the section. -/
def ofJson (v : Json) : Except Json.Fault EventSettings :=
  Json.asPartialRecord form standard v

end EventSettings

namespace LogSettings

/-- The data that stands for the section. -/
def toJson (l : LogSettings) : Json :=
  .object [("kind", .str l.kind), ("level", .str l.level)]

/-- The fields of the section. -/
def form : RecordForm Json Json.Fault LogSettings :=
  ⟨"LoggingConfig",
    [Json.field "kind" Json.asText fun l s => ⟨s, l.level⟩,
      Json.field "level" Json.asText fun l s => ⟨l.kind, s⟩]⟩

/-- Read the section. -/
def ofJson (v : Json) : Except Json.Fault LogSettings :=
  Json.asPartialRecord form standard v

end LogSettings

namespace SessionSettings

/-- The data that stands for the section. -/
def toJson (s : SessionSettings) : Json :=
  .object [("refresh_ttl_secs", .int s.refreshTtlSecs)]

/-- The fields of the section. -/
def form : RecordForm Json Json.Fault SessionSettings :=
  ⟨"SessionConfig", [Json.field "refresh_ttl_secs" Json.asInt fun _ n => ⟨n⟩]⟩

/-- Read the section. -/
def ofJson (v : Json) : Except Json.Fault SessionSettings :=
  Json.asPartialRecord form standard v

end SessionSettings

namespace Settings

/-- The data that stands for settings. -/
def toJson (s : Settings) : Json :=
  .object [("events", s.events.toJson), ("logging", s.logging.toJson),
    ("session", s.session.toJson)]

/-- The sections of settings. -/
def form : RecordForm Json Json.Fault Settings :=
  ⟨"HeraldConfig",
    [Json.field "events" EventSettings.ofJson fun s e => ⟨e, s.logging, s.session⟩,
      Json.field "logging" LogSettings.ofJson fun s l => ⟨s.events, l, s.session⟩,
      Json.field "session" SessionSettings.ofJson fun s t => ⟨s.events, s.logging, t⟩]⟩

/-- Read settings. -/
def ofJson (v : Json) : Except Json.Fault Settings :=
  Json.asPartialRecord form standard v

end Settings
end Switchboard
