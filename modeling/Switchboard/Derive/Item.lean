import Switchboard.Derive.Fault
import Switchboard.Derive.Lexer

/-!
# Items

An item is what a derivation starts from: attributes, a sort with its fields, a name, and parameters
with conditions on them.  A parameter may have attributes of its own.  Of types, bounds and conditions
only the tokens are kept, since they are written out again as they are; defaults of parameters are
dropped.

`Item.ofText` reads an item from its text.  What follows the arguments of an attribute inside its
brackets, be it an attribute of the item, of a parameter or of a field, is a fault only if nothing else
is wrong with the item.
-/

namespace Switchboard
namespace Derive

/-- What follows the path of an attribute. -/
inductive Arguments where
  | none
  /-- A value after an equals sign. -/
  | value (tokens : List Token)
  /-- Tokens between brackets. -/
  | list (d : Delimiter) (tokens : List Token)

/-- An attribute. -/
structure Attribute where
  /-- Whether the path begins with two points. -/
  absolute : Bool
  path : List String
  arguments : Arguments

/-- What sort of item it is; of a record with named fields, the names. -/
inductive Shape where
  | named (fields : List String)
  | tuple
  | unit
  | enumeration
  | union
  deriving DecidableEq

/-- What a parameter introduces. -/
inductive Binder where
  | lifetime (name : String) (bounds : List Token)
  | type (name : String) (bounds : List Token)
  | const (name : String) (type : List Token)

/-- A parameter of an item. -/
structure Parameter where
  attributes : List Attribute
  binder : Binder

/-- The parameters of an item and the conditions on them. -/
structure Generics where
  parameters : List Parameter
  /-- Whether a comma follows the last parameter. -/
  trailing : Bool
  conditions : List Token

/-- An item. -/
structure Item where
  attributes : List Attribute
  shape : Shape
  name : String
  generics : Generics

namespace Token

/-- Read a name that is no keyword; `more` says whether anything follows the tokens. -/
def identifier (more : Bool) : List Token → Except Fault (String × List Token)
  | .name n :: rest => if n ∈ keywords then .error (.keyword n) else .ok (n, rest)
  | [] => .error (.expected .identifier !more)
  | _ => .error (.expected .identifier false)

/-- Whether a token is a comma. -/
def isComma : Token → Bool
  | .mark ',' _ => true
  | _ => false

/-- The pieces between commas, each with whether a comma follows it.  After a last comma there is no
further piece. -/
def pieces : List Token → List (List Token × Bool)
  | [] => []
  | t :: rest =>
    if t.isComma then ([], true) :: pieces rest
    else match pieces rest with
      | [] => [([t], false)]
      | p :: others => (t :: p.1, p.2) :: others

/-- Put tokens in front of the first piece. -/
def attach (ts : List Token) : List (List Token × Bool) → List (List Token × Bool)
  | [] => [(ts, false)]
  | p :: others => (ts ++ p.1, p.2) :: others

/-- The pieces between those commas that do not stand between angle brackets; `depth` counts the angle
brackets that are open. -/
def outerPieces : Nat → List Token → List (List Token × Bool)
  | _, [] => []
  | depth, .mark '-' true :: .mark '>' j :: rest =>
    attach [.mark '-' true, .mark '>' j] (outerPieces depth rest)
  | depth, .mark '<' j :: rest => attach [.mark '<' j] (outerPieces (depth + 1) rest)
  | depth, .mark '>' j :: rest => attach [.mark '>' j] (outerPieces (depth - 1) rest)
  | depth, t :: rest =>
    if t.isComma && depth == 0 then ([], true) :: outerPieces depth rest
    else attach [t] (outerPieces depth rest)

/-- What stands before and after the closing angle bracket; `depth` counts those that are open
besides. -/
def untilClosing : Nat → List Token → Option (List Token × List Token)
  | _, [] => none
  | depth, .mark '-' true :: .mark '>' j :: rest =>
    (untilClosing depth rest).map fun r => (.mark '-' true :: .mark '>' j :: r.1, r.2)
  | 0, .mark '>' _ :: rest => some ([], rest)
  | depth + 1, .mark '>' j :: rest =>
    (untilClosing depth rest).map fun r => (.mark '>' j :: r.1, r.2)
  | depth, .mark '<' j :: rest =>
    (untilClosing (depth + 1) rest).map fun r => (.mark '<' j :: r.1, r.2)
  | depth, t :: rest => (untilClosing depth rest).map fun r => (t :: r.1, r.2)

/-- What stands before a default, that is before an equals sign outside angle brackets. -/
def beforeDefault : Nat → List Token → List Token
  | _, [] => []
  | depth, .mark '-' true :: .mark '>' j :: rest =>
    .mark '-' true :: .mark '>' j :: beforeDefault depth rest
  | depth, .mark '<' j :: rest => .mark '<' j :: beforeDefault (depth + 1) rest
  | depth, .mark '>' j :: rest => .mark '>' j :: beforeDefault (depth - 1) rest
  | 0, .mark '=' _ :: _ => []
  | depth, t :: rest => t :: beforeDefault depth rest

end Token

namespace Attribute

/-- Names that may be part of a path although they are keywords. -/
def pathKeywords : List String := ["super", "self", "Self", "crate"]

/-- Read the parts of a path; `first` says that none has been read. -/
def segments (first : Bool) : List Token → Except Fault (List String × List Token)
  | .name n :: rest =>
    if n ∈ Token.keywords ∧ n ∉ pathKeywords then
      .error (if first then .keyword n else .expected .pathSegment false)
    else match rest with
      | .mark ':' true :: .mark ':' _ :: after => do
        let more ← segments false after
        .ok (n :: more.1, more.2)
      | _ => .ok ([n], rest)
  | ts =>
    .error (.expected (if first then .identifier else .pathSegment) ts.isEmpty)

/-- Read a path.  `unsafe` may stand alone in its place. -/
def readPath : List Token → Except Fault (Bool × List String × List Token)
  | .name "unsafe" :: rest => .ok (false, ["unsafe"], rest)
  | .mark ':' true :: .mark ':' _ :: rest => do
    let s ← segments true rest
    .ok (true, s.1, s.2)
  | ts => do
    let s ← segments true ts
    .ok (false, s.1, s.2)

/-- Whether tokens after an equals sign are one value and nothing else. -/
def isValue (ts : List Token) : Bool :=
  ts.all fun
    | .mark ',' _ => false
    | .mark ';' _ => false
    | _ => true

/-- Read an attribute from what stands between its square brackets.  The second part of the result says
whether nothing follows. -/
def ofTokens (ts : List Token) : Except Fault (Attribute × Bool) := do
  let (absolute, path, rest) ← readPath ts
  match rest with
  | .group d inner :: after => .ok (⟨absolute, path, .list d inner⟩, after.isEmpty)
  | .mark '=' _ :: [] => .error (.expected .expression true)
  | .mark '=' _ :: .mark ',' _ :: _ => .error (.expected .expression false)
  | .mark '=' _ :: value => .ok (⟨absolute, path, .value value⟩, isValue value)
  | after => .ok (⟨absolute, path, .none⟩, after.isEmpty)

/-- Read attributes as long as there are any; `more` says whether anything follows the tokens.  The second
part of the result says whether nothing follows in the brackets of each. -/
def readAll (more : Bool) : List Token → Except Fault (List Attribute × Bool × List Token)
  | .mark '#' _ :: .group .square inner :: rest => do
    let a ← ofTokens inner
    let others ← readAll more rest
    .ok (a.1 :: others.1, a.2 && others.2.1, others.2.2)
  | .mark '#' _ :: rest => .error (.expected .squareBrackets (rest.isEmpty && !more))
  | ts => .ok ([], true, ts)

end Attribute

namespace Binder

/-- Read what a parameter introduces.  The line stands for a type without a name. -/
def ofTokens : List Token → Except Fault Binder
  | .mark '\x27' _ :: .name n :: rest =>
    match rest with
    | [] => .ok (.lifetime n [])
    | .mark ':' _ :: bounds => .ok (.lifetime n bounds)
    | _ => .error (.expectedMark ",")
  | .name "const" :: rest => do
    let (n, after) ← Token.identifier true rest
    match after with
    | .mark ':' _ :: of => .ok (.const n (Token.beforeDefault 0 of))
    | _ => .error (.expectedMark ":")
  | .name "_" :: rest => if rest.isEmpty then .ok (.type "_" []) else .error (.expectedMark ",")
  | .name n :: rest =>
    if n ∈ Token.keywords then .error (.expected .parameter false)
    else match rest with
      | [] => .ok (.type n [])
      | .mark '=' _ :: _ => .ok (.type n [])
      | .mark ':' _ :: bounds => .ok (.type n (Token.beforeDefault 0 bounds))
      | _ => .error (.expectedMark ",")
  | _ => .error (.expected .parameter false)

end Binder

namespace Parameter

/-- Read a parameter: its attributes and what it introduces.  The second part of the result says whether
nothing follows in the brackets of each attribute. -/
def ofTokens (ts : List Token) : Except Fault (Parameter × Bool) := do
  let (attributes, clean, rest) ← Attribute.readAll true ts
  let binder ← Binder.ofTokens rest
  .ok (⟨attributes, binder⟩, clean)

end Parameter

namespace Generics

/-- No parameters. -/
def empty : Generics := ⟨[], false, []⟩

/-- Read parameters between angle brackets, if there are any.  The second part of the result says whether
nothing follows in the brackets of their attributes. -/
def ofTokens : List Token → Except Fault (Generics × Bool × List Token)
  | .mark '<' _ :: rest =>
    match Token.untilClosing 0 rest with
    | none => .error (.expectedMark ">")
    | some (inner, after) => do
      let parts := Token.outerPieces 0 inner
      let parameters ← parts.mapM fun p => Parameter.ofTokens p.1
      .ok (⟨parameters.map Prod.fst, parts.getLast?.any Prod.snd, []⟩,
        parameters.all Prod.snd, after)
  | ts => .ok (empty, true, ts)

/-- Whether a condition ends here: what follows is the body of an item. -/
def endsConditions : Token → Bool
  | .group .curly _ => true
  | .mark ';' _ => true
  | _ => false

/-- Read the conditions, if there are any. -/
def readConditions : List Token → List Token × List Token
  | .name "where" :: rest =>
    (rest.takeWhile (!endsConditions ·), rest.dropWhile (!endsConditions ·))
  | ts => ([], ts)

end Generics

namespace Shape

/-- The tokens after a visibility, if there is one. -/
def afterVisibility : List Token → List Token
  | .name "pub" :: .group .round _ :: rest => rest
  | .name "pub" :: rest => rest
  | ts => ts

/-- Read a field of a record: its name, and whether nothing follows in the brackets of its attributes. -/
def fieldName (more : Bool) (ts : List Token) : Except Fault (String × Bool) := do
  let (_, clean, rest) ← Attribute.readAll more ts
  let (n, after) ← Token.identifier more (afterVisibility rest)
  match after with
  | .mark ':' _ :: _ => .ok (n, clean)
  | _ => .error (.expectedMark ":")

/-- Read the fields between the braces of a record. -/
def fields (inner : List Token) : Except Fault (List (String × Bool)) :=
  (Token.outerPieces 0 inner).mapM fun p => fieldName p.2 p.1

/-- Read the body of a record: its conditions, its shape, whether nothing follows in the brackets of its
attributes, and what follows the body. -/
def ofRecordBody (ts : List Token) : Except Fault (List Token × Shape × Bool × List Token) :=
  let (before, rest) := Generics.readConditions ts
  match rest with
  | .group .curly inner :: after => do
    let fields ← fields inner
    .ok (before, .named (fields.map Prod.fst), fields.all Prod.snd, after)
  | .mark ';' _ :: after => .ok (before, .unit, true, after)
  | .group .round _ :: after =>
    match Generics.readConditions after with
    | (behind, .mark ';' _ :: tail) => .ok (behind, .tuple, true, tail)
    | _ => .error (.expectedMark ";")
  | _ => .error (.expected .recordBody rest.isEmpty)

/-- Read the body of an item that is no record. -/
def ofBracedBody (shape : Shape) (ts : List Token) :
    Except Fault (List Token × Shape × Bool × List Token) :=
  let (before, rest) := Generics.readConditions ts
  match rest with
  | .group .curly _ :: after => .ok (before, shape, true, after)
  | _ => .error (.expected .curlyBraces rest.isEmpty)

end Shape

namespace Item

/-- Read the body of an item of the sort that a keyword says. -/
def body (word : String) (ts : List Token) :
    Option (Except Fault (List Token × Shape × Bool × List Token)) :=
  match word with
  | "struct" => some (Shape.ofRecordBody ts)
  | "enum" => some (Shape.ofBracedBody .enumeration ts)
  | "union" => some (Shape.ofBracedBody .union ts)
  | _ => none

/-- Read an item. -/
def ofTokens (ts : List Token) : Except Fault Item := do
  let (attributes, cleanItem, rest) ← Attribute.readAll false ts
  match Shape.afterVisibility rest with
  | .name word :: rest =>
    if (body word []).isNone then .error (.expected .itemKeyword false)
    else
      let (name, rest) ← Token.identifier false rest
      let (generics, cleanParameters, rest) ← Generics.ofTokens rest
      match body word rest with
      | none => .error (.expected .itemKeyword false)
      | some read =>
        let (conditions, shape, cleanBody, after) ← read
        if !(cleanItem && cleanParameters && cleanBody) then .error .unexpectedInBrackets
        else if !after.isEmpty then .error .unexpected
        else .ok ⟨attributes, shape, name, { generics with conditions := conditions }⟩
  | rest => .error (.expected .itemKeyword rest.isEmpty)

/-- Read the text of an item. -/
def ofText (text : String) : Except Fault Item :=
  match Token.ofText? text with
  | some ts => ofTokens ts
  | none => .error .unreadable

end Item
end Derive
end Switchboard
