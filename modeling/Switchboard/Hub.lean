import Switchboard.SetupError

/-!
# The hub

Parts of an application find one another through a hub: one place for each type of collaborator, in
which the last one registered stays.  The types are left open: `K` names them, and `V k` is what the
place of `k` holds.  What has never been registered is reported by the name of its type.
-/

namespace Switchboard

/-- A place for each type of collaborator; no type is listed twice. -/
structure Hub {K : Type} (V : K → Type) where
  entries : List (Sigma V)
  distinct : (entries.map Sigma.fst).Nodup

namespace Hub

variable {K : Type} {V : K → Type} [DecidableEq K]

/-- Nothing registered. -/
def empty : Hub V := ⟨[], List.nodup_nil⟩

/-- Put a collaborator into its place. -/
def register (h : Hub V) (k : K) (v : V k) : Hub V where
  entries := h.entries.filter (fun e => decide (e.1 ≠ k)) ++ [⟨k, v⟩]
  distinct := by
    rw [List.map_append, List.nodup_append]
    refine ⟨(List.filter_sublist.map Sigma.fst).nodup h.distinct, by simp, ?_⟩
    intro a ha b hb
    simp only [List.mem_map, List.mem_filter, decide_eq_true_eq] at ha
    obtain ⟨e, ⟨-, hne⟩, rfl⟩ := ha
    simp only [List.map_cons, List.map_nil, List.mem_singleton] at hb
    exact hb ▸ hne

/-- The entry of a place among entries. -/
def findEntry (k : K) : List (Sigma V) → Option (V k)
  | [] => none
  | ⟨j, v⟩ :: rest => if h : j = k then some (h ▸ v) else findEntry k rest

/-- What is registered, if anything. -/
def find? (h : Hub V) (k : K) : Option (V k) :=
  findEntry k h.entries

/-- What is registered; `typeName` gives the name under which it is reported missing. -/
def get (h : Hub V) (typeName : K → String) (k : K) : Except SetupError (V k) :=
  match h.find? k with
  | some v => .ok v
  | none => .error (.providerNotFound (typeName k))

/-- Whether anything is registered. -/
def has (h : Hub V) (k : K) : Bool :=
  h.entries.any fun e => decide (e.1 = k)

/-- How many places are taken. -/
def size (h : Hub V) : Nat :=
  h.entries.length

/-- Whether no place is taken. -/
def isEmpty (h : Hub V) : Bool :=
  h.entries.isEmpty

/-- The names of the types whose places are taken, in ascending order. -/
def names (h : Hub V) (typeName : K → String) : List String :=
  (h.entries.map fun e => typeName e.1).mergeSort fun a b => !(b < a)

/-- How a hub is shown: without its contents. -/
def shown : String := "ProviderHub \x7b .. \x7d"

end Hub
end Switchboard
