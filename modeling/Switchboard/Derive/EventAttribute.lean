import Switchboard.Derive.Item

/-!
# Event attributes

An attribute whose path is the one name `event` has settings between its brackets, with commas between
them and perhaps after the last: the name of the event, as a text, or the field that holds its time, as
names with points between them.  All settings of an attribute are read before anything is made of them.
-/

namespace Switchboard
namespace Derive

/-- A text as it is written, and its value. -/
structure TextLiteral where
  written : String
  value : List Char
  deriving DecidableEq

/-- Where to find a value in a record: a field, and fields of what it holds. -/
structure FieldPath where
  root : String
  inner : List String
  deriving DecidableEq

namespace FieldPath

/-- All names, the field of the record first. -/
def names (p : FieldPath) : List String := p.root :: p.inner

end FieldPath

/-- One setting of an event attribute. -/
inductive EventPair where
  | name (text : TextLiteral)
  | occurredAt (path : FieldPath)
  deriving DecidableEq

namespace EventPair

/-- Read names with points between them, to the end of the tokens. -/
def fieldNames (more : Bool) : List Token → Except Fault (List String)
  | .name n :: rest =>
    if n ∈ Token.keywords then .error (.keyword n)
    else match rest with
      | [] => .ok [n]
      | .mark '.' _ :: after => do
        let names ← fieldNames more after
        .ok (n :: names)
      | _ => .error (.expectedMark ",")
  | [] => .error (.expected .identifier !more)
  | _ => .error (.expected .identifier false)

/-- Read the field that holds the time. -/
def readPath (more : Bool) (ts : List Token) : Except Fault EventPair := do
  match ← fieldNames more ts with
  | root :: inner => .ok (.occurredAt ⟨root, inner⟩)
  | [] => .error (.expected .identifier !more)

/-- Read the name of the event. -/
def readName (more : Bool) : List Token → Except Fault EventPair
  | .literal ⟨written, .text value⟩ :: rest =>
    if rest.isEmpty then .ok (.name ⟨written, value⟩) else .error (.expectedMark ",")
  | [] => .error (.expected .stringLiteral !more)
  | _ => .error (.expected .stringLiteral false)

/-- Read a setting from the tokens of one piece; `more` says whether a comma follows it. -/
def ofTokens (more : Bool) (ts : List Token) : Except Fault EventPair := do
  let (key, rest) ← Token.identifier more ts
  match rest with
  | .mark '=' _ :: value =>
    if key = "name" then readName more value
    else if key = "occurred_at" then readPath more value
    else .error .unknownKey
  | _ => .error (.expectedMark "=")

/-- Read all settings. -/
def readPieces : List (List Token × Bool) → Except Fault (List EventPair)
  | [] => .ok []
  | p :: rest => do
    let first ← ofTokens p.2 p.1
    let others ← readPieces rest
    .ok (first :: others)

/-- Read the settings between the brackets of an attribute. -/
def readAll (ts : List Token) : Except Fault (List EventPair) :=
  readPieces (Token.pieces ts)

/-- The tokens of names with points between them. -/
def pathTokens : List String → List Token
  | [] => []
  | [n] => [.name n]
  | n :: rest => .name n :: Token.sign '.' :: pathTokens rest

/-- The tokens of a setting. -/
def toTokens : EventPair → List Token
  | name text => [.name "name", Token.sign '=', .literal ⟨text.written, .text text.value⟩]
  | occurredAt path => .name "occurred_at" :: Token.sign '=' :: pathTokens path.names

/-- The tokens of settings with commas between them. -/
def listTokens : List EventPair → List Token
  | [] => []
  | [p] => p.toTokens
  | p :: rest => p.toTokens ++ Token.sign ',' :: listTokens rest

end EventPair

namespace Attribute

/-- Whether an attribute is about the event. -/
def isEvent (a : Attribute) : Bool :=
  !a.absolute && a.path == ["event"]

/-- The settings of an event attribute. -/
def pairs (a : Attribute) : Except Fault (List EventPair) :=
  match a.arguments with
  | .none => .error .noArguments
  | .value _ => .error .noParentheses
  | .list _ ts => EventPair.readAll ts

/-- The event attribute with some settings. -/
def ofPairs (ps : List EventPair) : Attribute :=
  ⟨false, ["event"], .list .round (EventPair.listTokens ps)⟩

end Attribute
end Derive
end Switchboard
