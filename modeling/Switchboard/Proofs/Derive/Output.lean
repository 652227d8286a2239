import Switchboard.Proofs.Derive.Verdict

/-!
# What is derived from an item

What is derived from an accepted item implements the interface of events for the type of the item.  Its
parameters stand between angle brackets where they are introduced and where they are used, lifetimes
first, and its conditions after `where` (`Bracketed`, `Introduced`).  Where a parameter is introduced its
own attributes stand in front of it, and where it is used they do not (`Parameter.Declared`,
`Parameter.Used`).  The function `name` gives the literal of the item, and the function `occurred_at` goes
from the value itself along the path of the item (`Item.Implements`).  Both functions are read from the
tokens that have been derived (`Token.functionBody?`).

Of attributes, bounds, types and conditions the words are kept (`Token.words`): two points that are joined
are one word and so is an arrow, but whether other marks are joined is forgotten.
-/

namespace Switchboard
namespace Derive

/-! ## Words -/

/-- A word: what a reader of tokens tells apart. -/
inductive Word where
  | name (text : String)
  | mark (c : Char)
  /-- The two points of a path. -/
  | points
  | arrow
  | literal (l : Literal)
  | group (d : Delimiter) (inner : List Word)

namespace Token

mutual

/-- The word that a token is if nothing is joined to it. -/
def word : Token → Word
  | name text => .name text
  | mark c _ => .mark c
  | literal l => .literal l
  | group d inner => .group d (words inner)

/-- The words of tokens. -/
def words : List Token → List Word
  | .mark ':' true :: .mark ':' _ :: rest => .points :: words rest
  | .mark '-' true :: .mark '>' _ :: rest => .arrow :: words rest
  | t :: rest => word t :: words rest
  | [] => []

end

end Token

/-! ## Attributes, parameters and conditions -/

namespace Attribute

/-- The words of a path. -/
def pathWords (a : Attribute) : List Word :=
  if a.absolute then a.path.flatMap fun n => [.points, .name n]
  else (a.path.map Word.name).intersperse .points

/-- The words of what follows the path. -/
def argumentWords : Arguments → List Word
  | .none => []
  | .value ts => .mark '=' :: Token.words ts
  | .list d ts => [.group d (Token.words ts)]

/-- The words of an attribute: its path and what follows it, in square brackets. -/
def words (a : Attribute) : List Word :=
  [.mark '#', .group .square (a.pathWords ++ argumentWords a.arguments)]

end Attribute

/-- Tokens after one that introduces them, with the same words; nothing if there are none. -/
inductive Introduced (t : Token) : List Token → List Token → Prop
  | none : Introduced t [] []
  | some {ts us : List Token} (hne : ts ≠ []) (h : Token.words us = Token.words ts) :
      Introduced t ts (t :: us)

namespace Binder

/-- What a parameter introduces, where it is introduced. -/
inductive Declared : Binder → List Token → Prop
  | lifetime {n : String} {bounds ts : List Token} (h : Introduced (.mark ':' false) bounds ts) :
      Declared (.lifetime n bounds) (.mark '\x27' true :: .name n :: ts)
  | type {n : String} {bounds ts : List Token} (h : Introduced (.mark ':' false) bounds ts) :
      Declared (.type n bounds) (.name n :: ts)
  | const {n : String} {of ts : List Token} (h : Token.words ts = Token.words of) :
      Declared (.const n of) (.name "const" :: .name n :: .mark ':' false :: ts)

/-- What a parameter introduces, where it is used. -/
inductive Used : Binder → List Token → Prop
  | lifetime (n : String) (bounds : List Token) :
      Used (.lifetime n bounds) [.mark '\x27' true, .name n]
  | type (n : String) (bounds : List Token) : Used (.type n bounds) [.name n]
  | const (n : String) (of : List Token) : Used (.const n of) [.name n]

end Binder

namespace Parameter

/-- A parameter where it is introduced: its attributes and what it introduces. -/
inductive Declared (p : Parameter) : List Token → Prop
  | intro {ts us : List Token} (hattributes : Token.words ts = p.attributes.flatMap Attribute.words)
      (hbinder : p.binder.Declared us) : Declared p (ts ++ us)

/-- A parameter where it is used: what it introduces, without attributes. -/
def Used (p : Parameter) (ts : List Token) : Prop :=
  p.binder.Used ts

/-- An attribute stands in front of what it is about, but only where that is introduced. -/
example : let p : Parameter := ⟨[⟨false, ["a", "b"], .none⟩], .type "T" []⟩
    p.declaration = [Token.sign '#', .group .square [.name "a", .mark ':' true, .mark ':' false,
      .name "b"], .name "T"] ∧ p.use = [.name "T"] := by
  exact ⟨rfl, rfl⟩

end Parameter

namespace Generics

variable {write : Parameter → List Token} {form : Parameter → List Token → Prop}
  {xs ys : List (Parameter × Bool)}

/-- The lifetime goes first and gets a comma, and the type keeps the one that it had. -/
example : brackets ⟨[⟨[], .type "T" []⟩, ⟨[], .lifetime "a" []⟩], false, []⟩ Parameter.use =
    [Token.sign '<', .mark '\x27' true, .name "a", Token.sign ',', .name "T", Token.sign ',',
      Token.sign '>'] := by
  rfl

end Generics

/-! ## Functions -/

namespace Token

end Token

/-! ## Paths -/

end Derive
end Switchboard
