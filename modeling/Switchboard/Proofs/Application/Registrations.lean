import Mathlib.Data.List.Dedup
import Mathlib.Data.List.Induction
import Mathlib.Data.List.Sigma
import Switchboard.Hub

/-!
# What a hub holds after registrations

A hub is asked in many ways: for a collaborator, whether there is one, how many there are, and which.
All answers are read off two facts about its entries, which a single registration keeps up.  An entry is
there if and only if it is the last registration of its type (`mem_registerAll`), and no type has two.

So a hub is a map of types in which the last registration counts, and `lookups` says what each question is
answered after any registrations.  Nothing is assumed of the types or of their names; two types may even
go by the same name, which is then listed twice.
-/

namespace Switchboard
namespace Hub

variable {K : Type} {V : K → Type} [DecidableEq K]

/-- Put collaborators into their places, one after the other. -/
def registerAll (h : Hub V) (rs : List (Sigma V)) : Hub V :=
  rs.foldl (fun g r => g.register r.1 r.2) h

theorem registerAll_append (h : Hub V) (rs others : List (Sigma V)) :
    h.registerAll (rs ++ others) = (h.registerAll rs).registerAll others :=
  List.foldl_append

/-! ## Places -/

theorem findEntry_append (k : K) (es others : List (Sigma V)) :
    findEntry k (es ++ others) = (findEntry k es).or (findEntry k others) := by
  induction es with
  | nil => rfl
  | cons e rest ih =>
    rw [List.cons_append, findEntry, findEntry]
    split
    · rfl
    · exact ih

theorem findEntry_filter_self (k : K) (es : List (Sigma V)) :
    findEntry k (es.filter fun e => decide (e.1 ≠ k)) = none := by
  induction es with
  | nil => rfl
  | cons e rest ih =>
    by_cases he : e.1 = k
    · rw [List.filter_cons_of_neg (by simpa using he)]
      exact ih
    · rw [List.filter_cons_of_pos (by simpa using he), findEntry, dif_neg he]
      exact ih

theorem findEntry_filter_of_ne {j k : K} (hne : j ≠ k) (es : List (Sigma V)) :
    findEntry j (es.filter fun e => decide (e.1 ≠ k)) = findEntry j es := by
  induction es with
  | nil => rfl
  | cons e rest ih =>
    by_cases he : e.1 = k
    · have hej : e.1 ≠ j := fun h => hne (h.symm.trans he)
      rw [List.filter_cons_of_neg (by simpa using he), findEntry, dif_neg hej]
      exact ih
    · rw [List.filter_cons_of_pos (by simpa using he), findEntry, findEntry, ih]

/-- In its place stands what has been registered last. -/
theorem find?_register_self (h : Hub V) (k : K) (v : V k) : (h.register k v).find? k = some v := by
  rw [find?, register, findEntry_append, findEntry_filter_self, findEntry, dif_pos rfl]
  rfl

/-- The other places are as they were. -/
theorem find?_register_of_ne (h : Hub V) {j k : K} (hne : j ≠ k) (v : V k) :
    (h.register k v).find? j = h.find? j := by
  rw [find?, register, findEntry_append, findEntry_filter_of_ne hne, findEntry, dif_neg hne.symm,
    findEntry, Option.or_none, find?]

/-- **After many registrations**, a place holds the last of those that concern it, or what it held
before if there is none. -/
theorem find?_registerAll (h : Hub V) (rs : List (Sigma V)) (k : K) :
    (h.registerAll rs).find? k = (findEntry k rs.reverse).or (h.find? k) := by
  induction rs generalizing h with
  | nil => rfl
  | cons r rest ih =>
    obtain ⟨j, v⟩ := r
    have hfirst : (h.register j v).find? k = (findEntry k [⟨j, v⟩]).or (h.find? k) := by
      by_cases hj : j = k
      · subst hj
        rw [find?_register_self, findEntry, dif_pos rfl]
        rfl
      · rw [find?_register_of_ne h (Ne.symm hj), findEntry, dif_neg hj]
        rfl
    rw [List.reverse_cons, findEntry_append, Option.or_assoc, ← hfirst]
    exact ih (h.register j v)

/-! ## Entries -/

variable {h : Hub V} {rs : List (Sigma V)} {r : Sigma V} {k : K} {v : V k}

/-- A registration is the last one of its type. -/
def LastIn (rs : List (Sigma V)) (r : Sigma V) : Prop :=
  ∃ before after, rs = before ++ r :: after ∧ ∀ s ∈ after, s.1 ≠ r.1

/-- The types that are registered, each once. -/
def types (h : Hub V) : List K :=
  h.entries.map Sigma.fst

omit [DecidableEq K] in
/-- The last registration of all is the last one of its type, and the last one of any other type is the
one it was before. -/
theorem lastIn_concat {s : Sigma V} : LastIn (rs ++ [r]) s ↔ s = r ∨ LastIn rs s ∧ r.1 ≠ s.1 := by
  constructor
  · rintro ⟨before, after, heq, hlast⟩
    rcases List.eq_nil_or_concat after with rfl | ⟨after, t, rfl⟩
    · exact .inl (List.singleton_inj.1 (List.append_inj' heq rfl).2).symm
    · rw [List.concat_eq_append, ← List.cons_append, ← List.append_assoc] at heq
      obtain ⟨hrs, ht⟩ := List.append_inj' heq rfl
      obtain rfl : r = t := List.head_eq_of_cons_eq ht
      exact .inr ⟨⟨before, after, hrs, fun x hx => hlast x (by simp [hx])⟩, hlast r (by simp)⟩
  · rintro (rfl | ⟨⟨before, after, rfl, hlast⟩, hne⟩)
    · exact ⟨rs, [], rfl, fun _ hx => absurd hx List.not_mem_nil⟩
    · refine ⟨before, after ++ [r], by simp, fun x hx => ?_⟩
      rcases List.mem_append.1 hx with hx | hx
      · exact hlast x hx
      · exact List.mem_singleton.1 hx ▸ hne

theorem mem_register {s : Sigma V} :
    s ∈ (h.register k v).entries ↔ s = ⟨k, v⟩ ∨ s ∈ h.entries ∧ k ≠ s.1 := by
  rw [register, List.mem_append, List.mem_filter, List.mem_singleton, decide_eq_true_iff, or_comm,
    ne_comm]

/-- **The entries are the last registrations of their types.** -/
theorem mem_registerAll : r ∈ ((empty : Hub V).registerAll rs).entries ↔ LastIn rs r := by
  -- A new registration takes the place of the one of its type, and so it does among the last ones.
  induction rs using List.reverseRecOn with
  | nil =>
    refine iff_of_false List.not_mem_nil ?_
    rintro ⟨before, after, heq, -⟩
    exact absurd heq.symm (List.append_ne_nil_of_right_ne_nil before (List.cons_ne_nil _ _))
  | append_singleton rs s ih =>
    rw [registerAll_append, lastIn_concat, ← ih]
    exact mem_register

/-- Every registered type has a last registration. -/
theorem mem_types_registerAll :
    k ∈ ((empty : Hub V).registerAll rs).types ↔ k ∈ rs.map Sigma.fst := by
  induction rs using List.reverseRecOn with
  | nil => rfl
  | append_singleton rs s ih =>
    have hstep : k ∈ (((empty : Hub V).registerAll rs).register s.1 s.2).types ↔
        k = s.1 ∨ k ∈ ((empty : Hub V).registerAll rs).types := by
      constructor
      · intro hk
        obtain ⟨e, he, rfl⟩ := List.mem_map.1 hk
        rcases mem_register.1 he with rfl | ⟨he, -⟩
        · exact .inl rfl
        · exact .inr (List.mem_map_of_mem he)
      · intro hk
        by_cases hs : s.1 = k
        · exact List.mem_map.2 ⟨s, mem_register.2 (.inl rfl), hs⟩
        · obtain ⟨e, he, rfl⟩ := List.mem_map.1 (hk.resolve_left (Ne.symm hs))
          exact List.mem_map.2 ⟨e, mem_register.2 (.inr ⟨he, hs⟩), rfl⟩
    rw [registerAll_append, List.map_append, List.mem_append, List.map_singleton,
      List.mem_singleton, or_comm, ← ih]
    exact hstep

/-! ## Questions -/

/-- The entry of a place is what a list of pairs holds under a key. -/
theorem findEntry_eq_dlookup (k : K) (es : List (Sigma V)) : findEntry k es = es.dlookup k := by
  induction es with
  | nil => rfl
  | cons e rest ih =>
    by_cases hk : e.1 = k
    · subst hk
      rw [findEntry, dif_pos rfl, List.dlookup_cons_eq]
    · rw [findEntry, dif_neg hk, ih, List.dlookup_cons_ne rest e (Ne.symm hk)]

theorem find?_eq_some_iff : h.find? k = some v ↔ ⟨k, v⟩ ∈ h.entries := by
  rw [find?, findEntry_eq_dlookup]
  exact List.mem_dlookup_iff h.distinct

theorem find?_eq_none_iff : h.find? k = none ↔ k ∉ h.types := by
  rw [find?, findEntry_eq_dlookup, List.dlookup_eq_none]
  rfl

theorem has_eq_false_iff : h.has k = false ↔ k ∉ h.types := by
  rw [has, List.any_eq_false, types, List.mem_map, not_exists]
  exact forall_congr' fun e => by rw [decide_eq_true_iff, not_and]

theorem get_eq_ok_iff {typeName : K → String} : h.get typeName k = .ok v ↔ h.find? k = some v := by
  rw [get]
  cases h.find? k <;> simp

theorem get_eq_error_iff {typeName : K → String} {e : SetupError} :
    h.get typeName k = .error e ↔ h.find? k = none ∧ e = .providerNotFound (typeName k) := by
  rw [get]
  cases h.find? k <;> simp [eq_comm]

/-- What is registered of one type does not depend on the registrations of others. -/
theorem find?_registerAll_filter (h : Hub V) (rs : List (Sigma V)) (k : K) :
    (h.registerAll (rs.filter fun r => decide (r.1 = k))).find? k = (h.registerAll rs).find? k := by
  induction rs using List.reverseRecOn with
  | nil => rfl
  | append_singleton rs r ih =>
    obtain ⟨j, w⟩ := r
    rw [List.filter_append, registerAll_append, registerAll_append]
    by_cases hj : j = k
    · subst hj
      rw [List.filter_singleton, decide_eq_true rfl, cond_true]
      exact (find?_register_self ..).trans (find?_register_self ..).symm
    · rw [List.filter_singleton, decide_eq_false hj, cond_false]
      exact ih.trans (find?_register_of_ne _ (Ne.symm hj) w).symm

/-! ## Names -/

omit [DecidableEq K] in
theorem names_perm (h : Hub V) (typeName : K → String) :
    (h.names typeName).Perm (h.types.map typeName) := by
  rw [types, List.map_map]
  exact List.mergeSort_perm _ _

omit [DecidableEq K] in
/-- The names are listed in ascending order. -/
theorem pairwise_names (h : Hub V) (typeName : K → String) :
    (h.names typeName).Pairwise (· ≤ ·) := by
  have hsorted := @List.pairwise_mergeSort String (fun a b => !decide (b < a))
    (fun a b c hab hbc => ?_) (fun a b => ?_) (h.entries.map fun e => typeName e.1)
  · exact hsorted.imp fun hle => by
      simpa only [Bool.not_eq_true', decide_eq_false_iff_not, String.not_lt] using hle
  · simp only [Bool.not_eq_true', decide_eq_false_iff_not, String.not_lt] at hab hbc ⊢
    exact String.le_trans hab hbc
  · simp only [Bool.or_eq_true, Bool.not_eq_true', decide_eq_false_iff_not, String.not_lt]
    exact String.le_total a b

/-! ## The main result -/

/-- **A hub is a map of types in which the last registration counts.**  After any registrations, a place
holds what has been put into it last, however it is asked for, and registrations of other types have no
influence on it.  Asking for it fails if and only if nothing has ever been put there; then the hub says so,
and the error names the type.

The size is the number of different types that have been registered, and the names that are listed are
theirs, one for each, in ascending order. -/
theorem lookups (typeName : K → String) (rs : List (Sigma V)) :
    let h := (empty : Hub V).registerAll rs
    (∀ k, (∀ v, h.find? k = some v ↔ LastIn rs ⟨k, v⟩) ∧
      (∀ v, h.get typeName k = .ok v ↔ LastIn rs ⟨k, v⟩) ∧
      h.find? k = ((empty : Hub V).registerAll (rs.filter fun r => decide (r.1 = k))).find? k) ∧
    (∀ k, (∀ e, h.get typeName k = .error e ↔
        h.find? k = none ∧ e = .providerNotFound (typeName k)) ∧
      (h.find? k = none ↔ h.has k = false) ∧ (h.has k = false ↔ ∀ r ∈ rs, r.1 ≠ k)) ∧
    h.size = (rs.map Sigma.fst).dedup.length ∧
    (h.isEmpty = true ↔ h.size = 0) ∧
    (h.names typeName).Pairwise (· ≤ ·) ∧
    (h.names typeName).Perm ((rs.map Sigma.fst).dedup.map typeName) ∧
    (h.names typeName).length = h.size := by
  intro h
  have htypes : h.types.Perm (rs.map Sigma.fst).dedup := by
    refine (List.perm_ext_iff_of_nodup h.distinct (List.nodup_dedup _)).2 fun k => ?_
    rw [List.mem_dedup]
    exact mem_types_registerAll
  have hnames : (h.names typeName).Perm ((rs.map Sigma.fst).dedup.map typeName) :=
    (h.names_perm typeName).trans (htypes.map typeName)
  have hsize : h.size = (rs.map Sigma.fst).dedup.length := by
    rw [← htypes.length_eq, types, List.length_map, size]
  refine ⟨fun k => ⟨fun v => ?_, fun v => ?_, ?_⟩, fun k => ⟨fun e => get_eq_error_iff, ?_, ?_⟩,
    hsize, ?_, h.pairwise_names typeName, hnames, ?_⟩
  · rw [find?_eq_some_iff, mem_registerAll]
  · rw [get_eq_ok_iff, find?_eq_some_iff, mem_registerAll]
  · exact (find?_registerAll_filter empty rs k).symm
  · rw [find?_eq_none_iff, has_eq_false_iff]
  · rw [has_eq_false_iff, mem_types_registerAll, List.mem_map]
    exact ⟨fun hnone r hr heq => hnone ⟨r, hr, heq⟩, fun hnone ⟨r, hr, heq⟩ => hnone r hr heq⟩
  · rw [isEmpty, List.isEmpty_iff_length_eq_zero, size]
  · rw [hnames.length_eq, List.length_map, hsize]

end Hub
end Switchboard
