import Switchboard.Json.Basic
import Switchboard.Record
import Switchboard.Text.Quoted
import Switchboard.Words

/-!
# Trees of settings

Settings come from several sources, which are laid one over the other before anything is read from
them.  What a source gives is a tree: inner nodes have named members, and the leaves are typed
values.  The sources tell apart signed and unsigned numbers and single characters from texts, and
messages about a bad value say which it was.

Laying a tree over another keeps the members of both; where both have a member that is a node, the
two are merged, and anything else from the upper tree replaces what is below.
-/

namespace Switchboard

/-- A tree of settings. -/
inductive Tree where
  | unit
  | flag (b : Bool)
  | unsigned (n : Nat)
  | signed (n : Int)
  | decimal (d : Decimal)
  /-- A number beyond all decimals. -/
  | infinite (negative : Bool)
  | char (c : Char)
  | text (s : String)
  | list (items : List Tree)
  | node (members : List (String × Tree))

namespace Tree

instance : Inhabited Tree := ⟨unit⟩

mutual

/-- Lay a tree over another. -/
def merge (below : Tree) : Tree → Tree
  | node upper =>
    match below with
    | node lower => node (mergeMembers lower upper)
    | _ => node upper
  | upper => upper

/-- Lay members over members. -/
def mergeMembers (lower : List (String × Tree)) : List (String × Tree) → List (String × Tree)
  | [] => lower
  | (key, upper) :: rest =>
    let merged :=
      match Members.lookup key lower with
      | some below => merge below upper
      | none => upper
    mergeMembers (Members.insert key merged lower) rest

end

/-- The names of a path that is written with points between them. -/
def dotted (path : String) : List String :=
  (path.toList.splitOn '.').map String.ofList

/-- The tree in which a path of names leads to a tree; an empty name ends the path. -/
def nest : List String → Tree → Tree
  | [], t => t
  | name :: path, t => if name = "" then t else node [(name, nest path t)]

mutual

/-- Structured data as a tree. -/
def ofJson : Json → Tree
  | .null => unit
  | .bool b => flag b
  | .int n => if n < 0 then signed n else unsigned n.toNat
  | .dec d => decimal d
  | .str s => text s
  | .arr items => list (ofItems items)
  | .obj members => node (ofMembers members)

/-- The items of an array as trees. -/
def ofItems : List Json → List Tree
  | [] => []
  | v :: rest => ofJson v :: ofItems rest

/-- The members of an object as trees. -/
def ofMembers : List (String × Json) → List (String × Tree)
  | [] => []
  | (key, v) :: rest => (key, ofJson v) :: ofMembers rest

end

/-- How a tree is named in a message. -/
def shown : Tree → String
  | unit => "unit"
  | flag b => "bool " ++ toString b
  | unsigned n => "unsigned int `" ++ toString n ++ "`"
  | signed n => "signed int `" ++ toString n ++ "`"
  | decimal d => "float `" ++ String.ofList d.messageText ++ "`"
  | infinite negative => if negative then "float `-inf`" else "float `inf`"
  | char c => "char " ++ Text.quotedChar c
  | text s => "string " ++ Text.quoted s
  | list _ => "sequence"
  | node _ => "map"

/-- Why a value is refused. -/
inductive Mismatch where
  /-- A value of another type. -/
  | wrongType (found : Tree) (expected : String)
  /-- A number that does not fit. -/
  | outOfRange (found : Tree) (expected : String)

/-- The text of a refusal. -/
def Mismatch.message : Mismatch → String
  | wrongType found expected => "invalid type: found " ++ found.shown ++ ", expected " ++ expected
  | outOfRange found expected => "invalid value " ++ found.shown ++ ", expected " ++ expected

/-- A refusal, and the path from the root to the refused value. -/
structure Fault where
  mismatch : Mismatch
  path : List String

/-- The fault of a tree of which the faulty one is the member of that name. -/
def Fault.under (name : String) (f : Fault) : Fault :=
  ⟨f.mismatch, name :: f.path⟩

/-- Read a text; a single character is one. -/
def asText : Tree → Except Fault String
  | text s => .ok s
  | char c => .ok (String.ofList [c])
  | t => .error ⟨.wrongType t "a string", []⟩

/-- The whole number at a leaf. -/
def number? : Tree → Option Int
  | unsigned n => some n
  | signed n => some n
  | _ => none

/-- Read a natural number of 64 bits. -/
def asNat (t : Tree) : Except Fault Nat :=
  match t.number? with
  | some n => if fitsUnsigned n then .ok n.toNat else .error ⟨.outOfRange t "usize", []⟩
  | none => .error ⟨.wrongType t "usize", []⟩

/-- Read a signed number of 64 bits. -/
def asInt (t : Tree) : Except Fault Int :=
  match t.number? with
  | some n => if fitsSigned n then .ok n else .error ⟨.outOfRange t "i64", []⟩
  | none => .error ⟨.wrongType t "i64", []⟩

/-- Read a record whose absent fields keep what the draft holds.  A list gives the fields in the
order of declaration; what it has beyond them is passed over. -/
def asRecord {α : Type} (form : RecordForm Tree Fault α) (draft : α) : Tree → Except Fault α
  | node members => form.putMembers Fault.under members draft
  | list items => RecordForm.putListed (fun i => Fault.under (toString i)) 0 form.fields items draft
  | t => .error ⟨.wrongType t ("struct " ++ form.name), []⟩

/-- The field of a record that holds what `read` gives. -/
def field {α β : Type} (name : String) (read : Tree → Except Fault β) (set : α → β → α) :
    FieldForm Tree Fault α :=
  ⟨name, fun t draft => do return set draft (← read t)⟩

end Tree
end Switchboard
