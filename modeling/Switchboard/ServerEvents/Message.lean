import Switchboard.Json.Decode

/-!
# Messages to clients

A message has the name of an event and data, which is text.
-/

namespace Switchboard

/-- A message that is broadcast to clients. -/
structure Message where
  event : String
  data : String
  deriving DecidableEq

namespace Message

/-- The data that stands for a message. -/
def toJson (m : Message) : Json :=
  .object [("event", .str m.event), ("data", .str m.data)]

/-- The fields of a message. -/
def form : RecordForm Json Json.Fault Message :=
  ⟨"EventMessage",
    [Json.field "event" Json.asText fun m s => ⟨s, m.data⟩,
      Json.field "data" Json.asText fun m s => ⟨m.event, s⟩]⟩

/-- Read a message, both of whose fields must be there. -/
def ofJson (v : Json) : Except Json.Fault Message :=
  Json.asRecord form ⟨"", ""⟩ v

end Message
end Switchboard
