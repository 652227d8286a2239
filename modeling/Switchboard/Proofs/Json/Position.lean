import Switchboard.Json.Basic

/-!
# Positions in structured data

A value stands in another one at some position: the numbers of the items and members that lead down to
it, from the outside in.  Members are counted like items, in the order in which they are stored.  So the
length of a position is the level of nesting, and the value itself stands at level 0.

What is said of a value and of all that occurs in it is shown by going from a value to its children
(`ofChildren`).
-/

namespace Switchboard
namespace Json

/-- The values right inside a value. -/
def children : Json → List Json
  | arr items => items
  | obj members => members.map Prod.snd
  | _ => []

/-- The value that stands at a position. -/
def at? : Json → List Nat → Option Json
  | v, [] => some v
  | v, i :: p => v.children[i]?.bind fun c => c.at? p

/-- Whether other values can stand in a value: arrays and objects. -/
def isContainer : Json → Bool
  | arr _ => true
  | obj _ => true
  | _ => false

/-- Whether a value is neither a container nor a text. -/
def isScalar : Json → Bool
  | str _ => false
  | arr _ => false
  | obj _ => false
  | _ => true

theorem children_of_isScalar {v : Json} (h : v.isScalar = true) : v.children = [] := by
  cases v with
  | str | arr | obj => exact absurd h Bool.noConfusion
  | _ => rfl

theorem at?_cons (v : Json) (i : Nat) (p : List Nat) :
    v.at? (i :: p) = v.children[i]?.bind fun c => c.at? p := rfl

theorem at?_append (v : Json) (p q : List Nat) : v.at? (p ++ q) = (v.at? p).bind fun x => x.at? q := by
  induction p generalizing v with
  | nil => rfl
  | cons i p ih =>
    rw [List.cons_append, at?_cons, at?_cons]
    cases v.children[i]? with
    | none => rfl
    | some c => exact ih c

/-- A position that ends inside a value leads to one of its children. -/
theorem at?_concat (v : Json) (p : List Nat) (i : Nat) :
    v.at? (p ++ [i]) = (v.at? p).bind fun x => x.children[i]? := by
  rw [at?_append]
  refine congrArg _ (funext fun x => ?_)
  rw [at?_cons]
  cases x.children[i]? <;> rfl

theorem at?_concat_of_at? {v x : Json} {p : List Nat} (h : v.at? p = some x) (i : Nat) :
    v.at? (p ++ [i]) = x.children[i]? := by
  rw [at?_concat, h]
  rfl

theorem at?_concat_eq_some {v c : Json} {p : List Nat} {i : Nat} :
    v.at? (p ++ [i]) = some c ↔ ∃ x, v.at? p = some x ∧ x.children[i]? = some c := by
  rw [at?_concat, Option.bind_eq_some_iff]

/-- **Induction from the children of a value to the value.** -/
theorem ofChildren {P : Json → Prop} (h : ∀ v, (∀ c ∈ v.children, P c) → P v) (v : Json) : P v := by
  refine Json.rec (motive_1 := P) (motive_2 := fun items => ∀ c ∈ items, P c)
    (motive_3 := fun members => ∀ m ∈ members, P m.2) (motive_4 := fun m => P m.2)
    ?null ?bool ?int ?dec ?str ?arr ?obj ?noItem ?item ?noMember ?member ?pair v
  case null => exact h _ fun _ hc => absurd hc List.not_mem_nil
  case bool => exact fun _ => h _ fun _ hc => absurd hc List.not_mem_nil
  case int => exact fun _ => h _ fun _ hc => absurd hc List.not_mem_nil
  case dec => exact fun _ => h _ fun _ hc => absurd hc List.not_mem_nil
  case str => exact fun _ => h _ fun _ hc => absurd hc List.not_mem_nil
  case arr => exact fun items hitems => h (arr items) hitems
  case obj =>
    intro members hmembers
    refine h (obj members) fun c hc => ?_
    obtain ⟨m, hm, rfl⟩ := List.mem_map.1 hc
    exact hmembers m hm
  case noItem => exact fun c hc => absurd hc List.not_mem_nil
  case item => exact fun _ _ hhead htail => List.forall_mem_cons.2 ⟨hhead, htail⟩
  case noMember => exact fun m hm => absurd hm List.not_mem_nil
  case member => exact fun _ _ hhead htail => List.forall_mem_cons.2 ⟨hhead, htail⟩
  case pair => exact fun _ _ hvalue => hvalue

/-- What holds at all positions holds of the value itself and at all positions of its children. -/
theorem forall_at?_iff {v : Json} {P : List Nat → Json → Prop} :
    (∀ p x, v.at? p = some x → P p x) ↔
      P [] v ∧ ∀ i c, v.children[i]? = some c → ∀ p x, c.at? p = some x → P (i :: p) x := by
  constructor
  · intro h
    refine ⟨h [] v rfl, fun i c hc p x hx => h (i :: p) x ?_⟩
    rw [at?_cons, hc]
    exact hx
  · rintro ⟨hself, hinside⟩ p x hx
    cases p with
    | nil => exact Option.some.inj hx ▸ hself
    | cons i p =>
      obtain ⟨c, hc, hx⟩ := Option.bind_eq_some_iff.1 hx
      exact hinside i c hc p x hx

end Json
end Switchboard
