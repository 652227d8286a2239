/-!
# Records read field by field

A record of the program is read from structured data that either names its fields or lists them in
the order of their declaration.  A `RecordForm` describes the fields: for each a name and a function
that puts a value into a draft of the record.  Names that belong to no field are passed over.

The form is used with two kinds of data, JSON and layered settings, so the type of the data `V` and
that of the faults `E` are left open.  `locate` tells a fault which member it was found in.
-/

namespace Switchboard

/-- A field: its name, and how a value is put into it. -/
structure FieldForm (V E α : Type) where
  name : String
  put : V → α → Except E α

/-- A record: the name it goes by in messages, and its fields in the order of declaration. -/
structure RecordForm (V E α : Type) where
  name : String
  fields : List (FieldForm V E α)

namespace RecordForm

variable {V E α : Type}

/-- Put the value of one member into a draft. -/
def putMember (form : RecordForm V E α) (locate : String → E → E) (m : String × V) (draft : α) :
    Except E α :=
  match form.fields.find? fun f => f.name == m.1 with
  | some f => (f.put m.2 draft).mapError (locate m.1)
  | none => .ok draft

/-- Put all members into a draft, in their order; the first fault ends it. -/
def putMembers (form : RecordForm V E α) (locate : String → E → E) :
    List (String × V) → α → Except E α
  | [], draft => .ok draft
  | m :: rest, draft => do form.putMembers locate rest (← form.putMember locate m draft)

/-- Put listed values, counted from `i`, into the fields they stand for, as far as both go. -/
def putListed (locate : Nat → E → E) :
    Nat → List (FieldForm V E α) → List V → α → Except E α
  | _, [], _, draft => .ok draft
  | _, _, [], draft => .ok draft
  | i, f :: fields, v :: rest, draft => do
    putListed locate (i + 1) fields rest (← (f.put v draft).mapError (locate i))

/-- The first field that no member names. -/
def missing? (form : RecordForm V E α) (members : List (String × V)) : Option String :=
  (form.fields.map FieldForm.name).find? fun n => !(members.any fun m => m.1 == n)

end RecordForm
end Switchboard
