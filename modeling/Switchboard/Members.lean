/-!
# Named members in ascending order

Objects of structured data and trees of settings hold their members as a list in ascending order of
the names, each name once.
-/

namespace Switchboard
namespace Members

variable {α : Type}

/-- Put a member at its place, instead of an earlier one of the same name. -/
def insert (key : String) (value : α) : List (String × α) → List (String × α)
  | [] => [(key, value)]
  | m :: rest =>
    if key < m.1 then (key, value) :: m :: rest
    else if key = m.1 then (key, value) :: rest
    else m :: insert key value rest

/-- The members of a list in any order, the last one of a name counting. -/
def ofList (members : List (String × α)) : List (String × α) :=
  members.foldl (fun ms m => insert m.1 m.2 ms) []

/-- The value stored under a name. -/
def lookup (key : String) : List (String × α) → Option α
  | [] => none
  | m :: rest => if m.1 = key then some m.2 else lookup key rest

@[simp] theorem lookup_nil (key : String) : lookup key ([] : List (String × α)) = none := rfl

/-- The name just inserted holds the new value, and all others hold what they held. -/
theorem lookup_insert (key other : String) (value : α) (ms : List (String × α)) :
    lookup other (insert key value ms) =
      if key = other then some value else lookup other ms := by
  induction ms with
  | nil => simp [insert, lookup]
  | cons m rest ih =>
    by_cases before : key < m.1
    · simp [insert, before, lookup]
    · by_cases same : key = m.1
      · by_cases hit : key = other <;> simp [insert, lookup, ← same, hit]
      · have step : insert key value (m :: rest) = m :: insert key value rest := by
          simp [insert, before, same]
        rw [step, lookup, lookup, ih]
        by_cases hit : m.1 = other
        · have apart : ¬key = other := fun h => same (h.trans hit.symm)
          simp [hit, apart]
        · simp [hit]

/-! ## Order -/

/-- The names stand in ascending order, each once. -/
def Ascending (ms : List (String × α)) : Prop :=
  ms.Pairwise fun m n => m.1 < n.1

theorem mem_insert {key : String} {value : α} {ms : List (String × α)} {n : String × α}
    (h : n ∈ insert key value ms) : n = (key, value) ∨ n ∈ ms := by
  induction ms with
  | nil => exact .inl (List.mem_singleton.1 h)
  | cons m rest ih =>
    rw [insert] at h
    split at h
    · exact List.mem_cons.1 h
    · split at h
      · exact (List.mem_cons.1 h).imp_right (List.mem_cons_of_mem m)
      · rcases List.mem_cons.1 h with rfl | h
        · exact .inr List.mem_cons_self
        · exact (ih h).imp_right (List.mem_cons_of_mem m)

/-- Putting a member at its place keeps the order. -/
theorem Ascending.insert {ms : List (String × α)} (h : Ascending ms) (key : String) (value : α) :
    Ascending (insert key value ms) := by
  induction ms with
  | nil => exact List.pairwise_singleton ..
  | cons m rest ih =>
    obtain ⟨hm, hrest⟩ := List.pairwise_cons.1 h
    rw [Members.insert]
    split
    · rename_i before
      refine List.pairwise_cons.2 ⟨fun n hn => ?_, h⟩
      rcases List.mem_cons.1 hn with rfl | hn
      · exact before
      · exact String.lt_trans before (hm n hn)
    · rename_i before
      split
      · rename_i same
        exact List.pairwise_cons.2 ⟨fun n hn => same ▸ hm n hn, hrest⟩
      · rename_i same
        have after : m.1 < key := by
          rcases Decidable.em (m.1 < key) with hlt | hlt
          · exact hlt
          · exact absurd (String.le_antisymm (String.not_lt.1 hlt) (String.not_lt.1 before)) same
        refine List.pairwise_cons.2 ⟨fun n hn => ?_, ih hrest⟩
        rcases mem_insert hn with rfl | hn
        · exact after
        · exact hm n hn

/-- A new name is added, wherever its place is. -/
theorem insert_perm {key : String} {ms : List (String × α)} (h : key ∉ ms.map Prod.fst) (value : α) :
    (insert key value ms).Perm ((key, value) :: ms) := by
  induction ms with
  | nil => exact .refl _
  | cons m rest ih =>
    rw [List.map_cons, List.mem_cons, not_or] at h
    rw [insert]
    split
    · exact .refl _
    · rw [if_neg h.1]
      exact ((ih h.2).cons m).trans (.swap ..)

/-- The members of a list with distinct names are the same in ascending order. -/
theorem ofList_eq_of_perm {ms ns : List (String × α)} (hperm : ms.Perm ns) (h : Ascending ns) :
    ofList ms = ns := by
  have hdistinct : (ms.map Prod.fst).Nodup := by
    rw [(hperm.map Prod.fst).nodup_iff]
    exact List.pairwise_map.2 (h.imp fun {m n} hlt (heq : m.1 = n.1) =>
      String.lt_irrefl n.1 (heq ▸ hlt))
  -- What has been put in so far is in order, and has none of the names to come.
  have hall : ∀ later before : List (String × α), Ascending before →
      ((before ++ later).map Prod.fst).Nodup →
      Ascending (later.foldl (fun ms m => insert m.1 m.2 ms) before) ∧
        (later.foldl (fun ms m => insert m.1 m.2 ms) before).Perm (before ++ later) := by
    intro later
    induction later with
    | nil => exact fun before hb _ => ⟨hb, .of_eq (List.append_nil _).symm⟩
    | cons m rest ih =>
      intro before hb hnodup
      have hnew : m.1 ∉ before.map Prod.fst := by
        rw [List.map_append, List.nodup_append] at hnodup
        exact fun hmem => hnodup.2.2 _ hmem _ List.mem_cons_self rfl
      have hput : (insert m.1 m.2 before ++ rest).Perm (before ++ m :: rest) :=
        ((insert_perm hnew m.2).append_right rest).trans List.perm_middle.symm
      have hnext := ih (insert m.1 m.2 before) (hb.insert m.1 m.2)
        ((hput.map Prod.fst).nodup_iff.2 hnodup)
      exact ⟨hnext.1, hnext.2.trans hput⟩
  obtain ⟨hascending, hsame⟩ := hall ms [] List.Pairwise.nil hdistinct
  refine (hsame.trans hperm).eq_of_pairwise (fun m n _ _ hmn hnm => ?_) hascending h
  exact absurd hnm (String.lt_asymm hmn)

end Members
end Switchboard
