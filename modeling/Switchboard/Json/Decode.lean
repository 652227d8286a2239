import Switchboard.Json.Basic
import Switchboard.Record
import Switchboard.Text.Quoted
import Switchboard.Time.Rfc3339
import Switchboard.Words

/-!
# From structured data to values of the program

Each reader accepts the data of one type or gives the first fault.  Records come in two sorts: those
whose fields must all be there, and those, all settings, whose absent fields keep what the draft
holds.
-/

namespace Switchboard
namespace Json

/-- Why data is refused. -/
inductive Fault where
  /-- A value of another type. -/
  | wrongType (found : Json) (expected : String)
  /-- A whole number that does not fit. -/
  | outOfRange (found : Int) (expected : String)
  /-- An object that should have exactly one member. -/
  | notSingle
  /-- A name that is none of the choices. -/
  | unknownVariant (found : String) (choices : List String)
  | missingField (name : String)
  /-- A list of fields that is too short. -/
  | tooShort (found : Nat) (record : String) (expected : Nat)
  /-- A list of fields that is too long. -/
  | tooLong (found : Nat)
  | badTime (fault : Rfc3339.Fault)

/-- How a value is named in a message. -/
def shown : Json → String
  | null => "null"
  | bool b => "boolean `" ++ toString b ++ "`"
  | int n => "integer `" ++ toString n ++ "`"
  | dec d => "floating point `" ++ String.ofList d.dataText ++ "`"
  | str s => "string " ++ Text.quoted s
  | arr _ => "sequence"
  | obj _ => "map"

/-- The text of a fault. -/
def Fault.message : Fault → String
  | wrongType found expected => "invalid type: " ++ found.shown ++ ", expected " ++ expected
  | outOfRange found expected =>
    "invalid value: integer `" ++ toString found ++ "`, expected " ++ expected
  | notSingle => "invalid value: map, expected map with a single key"
  | unknownVariant found choices =>
    "unknown variant `" ++ found ++ "`, expected one of " ++
      String.intercalate ", " (choices.map fun c => "`" ++ c ++ "`")
  | missingField name => "missing field `" ++ name ++ "`"
  | tooShort found record expected =>
    "invalid length " ++ toString found ++ ", expected struct " ++ record ++ " with " ++
      toString expected ++ " elements"
  | tooLong found => "invalid length " ++ toString found ++ ", expected fewer elements in array"
  | badTime fault => fault.message

/-- Read a text. -/
def asText : Json → Except Fault String
  | str s => .ok s
  | v => .error (.wrongType v "a string")

/-- Read a natural number of 64 bits. -/
def asNat : Json → Except Fault Nat
  | int n => if fitsUnsigned n then .ok n.toNat else .error (.outOfRange n "usize")
  | v => .error (.wrongType v "usize")

/-- Read a signed number of 64 bits. -/
def asInt : Json → Except Fault Int
  | int n => if fitsSigned n then .ok n else .error (.outOfRange n "i64")
  | v => .error (.wrongType v "i64")

/-- Read an instant. -/
def asInstant : Json → Except Fault Instant
  | str s =>
    match Rfc3339.parse s with
    | .ok t => .ok t
    | .error f => .error (.badTime f)
  | v => .error (.wrongType v "an RFC 3339 formatted date and time string")

/-- Read a record all of whose fields must be there. -/
def asRecord {α : Type} (form : RecordForm Json Fault α) (blank : α) : Json → Except Fault α
  | obj members => do
    let r ← form.putMembers (fun _ e => e) members blank
    match form.missing? members with
    | some name => .error (.missingField name)
    | none => .ok r
  | arr items => do
    let r ← RecordForm.putListed (fun _ e => e) 0 form.fields items blank
    if items.length < form.fields.length then
      .error (.tooShort items.length form.name form.fields.length)
    else if form.fields.length < items.length then .error (.tooLong items.length)
    else .ok r
  | v => .error (.wrongType v ("struct " ++ form.name))

/-- Read a record whose absent fields keep what the draft holds. -/
def asPartialRecord {α : Type} (form : RecordForm Json Fault α) (draft : α) :
    Json → Except Fault α
  | obj members => form.putMembers (fun _ e => e) members draft
  | arr items => do
    let r ← RecordForm.putListed (fun _ e => e) 0 form.fields items draft
    if form.fields.length < items.length then .error (.tooLong items.length) else .ok r
  | v => .error (.wrongType v ("struct " ++ form.name))

/-- The field of a record that holds what `read` gives. -/
def field {α β : Type} (name : String) (read : Json → Except Fault β) (set : α → β → α) :
    FieldForm Json Fault α :=
  ⟨name, fun v draft => do return set draft (← read v)⟩

end Json
end Switchboard
