import Switchboard.Derive.EventAttribute

/-!
# Deriving the event interface

From a record with named fields and its event attributes follows how it implements the interface of
events: its name is the text given, and its time stands in the field given, or in the field
`occurred_at` if none is.  All event attributes together must give a name, and may give each setting
only once.

What is wrong is looked for in this order: the sort of the item; attribute after attribute, in each
first its form and then whether it repeats a setting; a name that is missing or empty; a field that is
not there.  `Implementation.tokens` is what has been derived.
-/

namespace Switchboard
namespace Derive

/-- What event attributes have said so far. -/
structure EventFacts where
  name : Option TextLiteral
  path : Option FieldPath
  deriving DecidableEq

namespace EventFacts

/-- Nothing has been said. -/
def none : EventFacts := ⟨.none, .none⟩

/-- Take a setting in, unless it has been given. -/
def add (f : EventFacts) : EventPair → Except Fault EventFacts
  | .name text => if f.name.isSome then .error .duplicateName else .ok { f with name := some text }
  | .occurredAt path =>
    if f.path.isSome then .error .duplicateTime else .ok { f with path := some path }

/-- Take settings in, one after the other. -/
def addAll (f : EventFacts) : List EventPair → Except Fault EventFacts
  | [] => .ok f
  | p :: rest => do
    let g ← f.add p
    addAll g rest

/-- Take in what an attribute says; one that is not about the event says nothing. -/
def addAttribute (f : EventFacts) (a : Attribute) : Except Fault EventFacts :=
  if a.isEvent then do
    let ps ← a.pairs
    f.addAll ps
  else .ok f

/-- Take attributes in, one after the other. -/
def addAttributes (f : EventFacts) : List Attribute → Except Fault EventFacts
  | [] => .ok f
  | a :: rest => do
    let g ← f.addAttribute a
    addAttributes g rest

/-- The field that holds the time if no attribute gives one. -/
def standardPath : FieldPath := ⟨"occurred_at", []⟩

end EventFacts

/-- How a type implements the interface of events. -/
structure Implementation where
  type : String
  generics : Generics
  /-- The name of the event, as a literal. -/
  name : String
  /-- Where the time stands. -/
  path : FieldPath

namespace Attribute

/-- What follows the path. -/
def argumentTokens : Arguments → List Token
  | .none => []
  | .value ts => Token.sign '=' :: Token.regroupAll ts
  | .list d ts => [.group d ts]

/-- An attribute in front of what it is about. -/
def tokens (a : Attribute) : List Token :=
  let path := if a.absolute then Token.absolutePath a.path else Token.relativePath a.path
  [Token.sign '#', .group .square (path ++ argumentTokens a.arguments)]

end Attribute

namespace Binder

/-- Whether a parameter is a lifetime; lifetimes are written before all others. -/
def isLifetime : Binder → Bool
  | lifetime _ _ => true
  | _ => false

/-- Bounds after their mark; nothing if there are none. -/
def boundTokens (bounds : List Token) : List Token :=
  if bounds.isEmpty then [] else Token.sign ':' :: Token.regroupAll bounds

/-- A parameter where it is introduced. -/
def declaration : Binder → List Token
  | lifetime n bounds => .mark '\x27' true :: .name n :: boundTokens bounds
  | type n bounds => .name n :: boundTokens bounds
  | const n of => .name "const" :: .name n :: Token.sign ':' :: Token.regroupAll of

/-- A parameter where it is used. -/
def use : Binder → List Token
  | lifetime n _ => [.mark '\x27' true, .name n]
  | type n _ => [.name n]
  | const n _ => [.name n]

end Binder

namespace Parameter

/-- A parameter where it is introduced, its attributes in front of it. -/
def declaration (p : Parameter) : List Token :=
  p.attributes.flatMap Attribute.tokens ++ p.binder.declaration

/-- A parameter where it is used; it has no attributes there. -/
def use (p : Parameter) : List Token :=
  p.binder.use

end Parameter

namespace Generics

/-- Parameters, each with whether a comma follows it where the item is declared. -/
def marked (g : Generics) : List Parameter → List (Parameter × Bool)
  | [] => []
  | [p] => [(p, g.trailing)]
  | p :: rest => (p, true) :: marked g rest

/-- Parameters with their commas. -/
def written (write : Parameter → List Token) (ps : List (Parameter × Bool)) : List Token :=
  ps.flatMap fun p => write p.1 ++ if p.2 then [Token.sign ','] else []

/-- Parameters between angle brackets: first the lifetimes, then the others. -/
def brackets (g : Generics) (write : Parameter → List Token) : List Token :=
  let all := g.marked g.parameters
  let lifetimes := all.filter fun p => p.1.binder.isLifetime
  let others := all.filter fun p => !p.1.binder.isLifetime
  let between :=
    if !others.isEmpty && lifetimes.getLast?.any (fun p => !p.2) then [Token.sign ','] else []
  if g.parameters.isEmpty then []
  else Token.sign '<' :: (written write lifetimes ++ between ++ written write others) ++
    [Token.sign '>']

/-- The conditions; nothing if there are none. -/
def conditionTokens (g : Generics) : List Token :=
  if g.conditions.isEmpty then [] else .name "where" :: Token.regroupAll g.conditions

end Generics

namespace Implementation

/-- A group that holds nothing but a reference to the value itself. -/
def receiver : Token := .group .round [Token.sign '&', .name "self"]

/-- What gives the time: the value itself, and names with points before them. -/
def timeTokens (p : FieldPath) : List Token :=
  .name "self" :: p.names.flatMap fun n => [Token.sign '.', .name n]

/-- A function of the interface: its name, the type of its result, and what gives the result. -/
def function (name : String) (result body : List Token) : List Token :=
  [.name "fn", .name name, receiver] ++ Token.arrow ++ result ++ [.group .curly body]

/-- The tokens of an implementation. -/
def tokens (i : Implementation) : List Token :=
  .name "impl" :: i.generics.brackets Parameter.declaration ++
    Token.absolutePath ["herald_domain", "domain_event", "DomainEvent"] ++
    .name "for" :: .name i.type :: i.generics.brackets Parameter.use ++
    i.generics.conditionTokens ++
    [.group .curly
      (function "name" [Token.sign '&', .name "str"] [.literal ⟨i.name, .other⟩] ++
        function "occurred_at"
          (Token.absolutePath ["herald_domain", "domain_event", "Timestamp"]) (timeTokens i.path) ++
        function "as_any"
          (Token.sign '&' :: .name "dyn" :: Token.absolutePath ["std", "any", "Any"])
          [.name "self"])]

/-- The text of an implementation. -/
def text (i : Implementation) : String :=
  String.ofList (Token.render i.tokens)

end Implementation

namespace Item

/-- The named fields of an item. -/
def fields (i : Item) : Except Fault (List String) :=
  match i.shape with
  | .named fields => .ok fields
  | .tuple => .error .unnamedFields
  | .unit => .error .unnamedFields
  | .enumeration => .error .notRecord
  | .union => .error .notRecord

/-- Derive the implementation of the interface of events. -/
def expand (i : Item) : Except Fault Implementation := do
  let fields ← i.fields
  let facts ← EventFacts.none.addAttributes i.attributes
  match facts.name with
  | none => .error .missingName
  | some text =>
    if text.value.isEmpty then .error .emptyName
    else
      let path := facts.path.getD EventFacts.standardPath
      if path.root ∈ fields then .ok ⟨i.name, i.generics, text.written, path⟩
      else .error (.missingField path.root)

end Item
end Derive
end Switchboard
