import Switchboard.Decimal.Basic
import Switchboard.Members

/-!
# Structured data

Log records, messages to clients and configuration all carry JSON values.  Whole numbers are kept
apart from numbers with a fraction, which pass through as decimals.  The members of an object are
stored in ascending order of their keys, each key once: `Json.object` builds one from any list of
members, a later member replacing an earlier one of the same key.
-/

namespace Switchboard

/-- A JSON value. -/
inductive Json where
  | null
  | bool (b : Bool)
  | int (n : Int)
  | dec (d : Decimal)
  | str (s : String)
  | arr (items : List Json)
  | obj (members : List (String × Json))

namespace Json

instance : Inhabited Json := ⟨null⟩

/-- The object with the given members, the last one of a key counting. -/
def object (members : List (String × Json)) : Json :=
  obj (Members.ofList members)

/-- The member of an object; `none` on any other value. -/
def get? (v : Json) (key : String) : Option Json :=
  match v with
  | obj members => Members.lookup key members
  | _ => none

/-- The text of a string value. -/
def text? : Json → Option String
  | str s => some s
  | _ => none

/-- The value of a whole number. -/
def int? : Json → Option Int
  | int n => some n
  | _ => none

/-- The value of a truth value. -/
def bool? : Json → Option Bool
  | bool b => some b
  | _ => none

/-- The items of an array. -/
def items? : Json → Option (List Json)
  | arr items => some items
  | _ => none

/-- The members of an object. -/
def members? : Json → Option (List (String × Json))
  | obj members => some members
  | _ => none

mutual

/-- Equality of values, decided by structure. -/
def beq : Json → Json → Bool
  | null, null => true
  | bool a, bool b => a == b
  | int a, int b => a == b
  | dec a, dec b => a == b
  | str a, str b => a == b
  | arr a, arr b => beqItems a b
  | obj a, obj b => beqMembers a b
  | _, _ => false

/-- Equality of arrays, item by item. -/
def beqItems : List Json → List Json → Bool
  | [], [] => true
  | a :: as, b :: bs => beq a b && beqItems as bs
  | _, _ => false

/-- Equality of objects, member by member. -/
def beqMembers : List (String × Json) → List (String × Json) → Bool
  | [], [] => true
  | (k, a) :: as, (l, b) :: bs => k == l && beq a b && beqMembers as bs
  | _, _ => false

end

instance : BEq Json := ⟨beq⟩

end Json
end Switchboard
