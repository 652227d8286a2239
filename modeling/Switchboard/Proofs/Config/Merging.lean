import Switchboard.Config.Tree

/-!
# Merged trees, member by member, and records read from them

Two facts carry everything that is said about settings in layers.

* A member of a merged tree is the member of the upper tree, laid over that of the lower if both have
  one, and otherwise the member of the one that has it (`Tree.member?_merge`).  This needs that the names
  in the upper tree stand in order, each once (`Tree.InOrder`).
* A record that is read from such a tree holds in each of its fields what the member of that name reads
  as, and what the draft held where there is no such member (`Tree.asRecord_of_accepts`).

A form is described from outside, by what happens to one field: `RecordForm.Governs` says that a name
sets what a view of the record shows, and that no other name does.
-/

namespace Switchboard

namespace Members

variable {α : Type}

/-- Members are in order if their names are. -/
theorem ascending_of_names {ms : List (String × α)} (h : (ms.map Prod.fst).Pairwise (· < ·)) :
    Ascending ms := List.pairwise_map.1 h

/-- A name that no member has is not found. -/
theorem lookup_eq_none {name : String} {ms : List (String × α)} (h : ∀ m ∈ ms, m.1 ≠ name) :
    lookup name ms = none := by
  induction ms with
  | nil => rfl
  | cons m rest ih =>
    rw [lookup, if_neg (h m List.mem_cons_self)]
    exact ih fun n hn => h n (List.mem_cons_of_mem m hn)

/-- Behind a member of an ordered list there is none of the same name. -/
theorem Ascending.lookup_tail {m : String × α} {rest : List (String × α)}
    (h : Ascending (m :: rest)) : lookup m.1 rest = none := by
  refine lookup_eq_none fun n hn heq => ?_
  have hlt : m.1 < n.1 := (List.pairwise_cons.1 h).1 n hn
  rw [heq] at hlt
  exact String.lt_irrefl m.1 hlt

/-- In an ordered list every member is the one that is found under its name. -/
theorem Ascending.lookup_of_mem {ms : List (String × α)} (h : Ascending ms) {m : String × α}
    (hm : m ∈ ms) : lookup m.1 ms = some m.2 := by
  induction ms with
  | nil => exact absurd hm List.not_mem_nil
  | cons n rest ih =>
    rw [lookup]
    rcases List.mem_cons.1 hm with rfl | hm
    · exact if_pos rfl
    · have hlt : n.1 < m.1 := (List.pairwise_cons.1 h).1 m hm
      have hne : n.1 ≠ m.1 := fun heq => String.lt_irrefl m.1 (heq ▸ hlt)
      rw [if_neg hne]
      exact ih (List.pairwise_cons.1 h).2 hm

/-- Members that are passed over are not found, and all others are. -/
theorem lookup_filter (p : String → Bool) (name : String) (ms : List (String × α)) :
    lookup name (ms.filter fun m => p m.1) = if p name then lookup name ms else none := by
  induction ms with
  | nil => simp
  | cons m rest ih =>
    rw [List.filter_cons]
    by_cases hname : m.1 = name
    · subst hname
      by_cases hp : p m.1 = true
      · rw [if_pos hp, lookup, if_pos rfl, if_pos hp, lookup, if_pos rfl]
      · rw [if_neg hp, ih, if_neg hp, if_neg hp]
    · rw [lookup, if_neg hname, ← ih]
      split
      · rw [lookup, if_neg hname]
      · rfl

/-- What is found after all members have been changed. -/
theorem lookup_map {β : Type} (g : String → α → β) (name : String) (ms : List (String × α)) :
    lookup name (ms.map fun m => (m.1, g m.1 m.2)) = (lookup name ms).map (g name) := by
  induction ms with
  | nil => rfl
  | cons m rest ih =>
    rw [List.map_cons, lookup, lookup]
    by_cases hname : m.1 = name
    · rw [if_pos hname, if_pos hname, hname]
      rfl
    · rw [if_neg hname, if_neg hname, ih]

end Members

/-! ## Merging -/

namespace Tree

/-- The member of a name. -/
def member? (name : String) : Tree → Option Tree
  | node members => Members.lookup name members
  | _ => none

/-- A tree whose members stand in order, each name once. -/
inductive InOrder : Tree → Prop
  | node {members : List (String × Tree)} (h : Members.Ascending members) : InOrder (node members)

/-- Lay a tree over another, if there is one. -/
def layOver (below : Option Tree) (upper : Tree) : Tree :=
  match below with
  | some t => merge t upper
  | none => upper

@[simp] theorem layOver_none (t : Tree) : layOver none t = t := rfl

@[simp] theorem layOver_some (below t : Tree) : layOver (some below) t = below.merge t := rfl

/-- What is not a node takes the place of whatever is below. -/
theorem merge_leaf (below : Tree) {t : Tree} (h : ∀ ms, t ≠ node ms) : below.merge t = t := by
  cases t with
  | node ms => exact absurd rfl (h ms)
  | _ => rfl

/-- Whatever is laid over what is not a node takes its place. -/
theorem merge_over_leaf {below : Tree} (h : ∀ ms, below ≠ node ms) (t : Tree) :
    below.merge t = t := by
  cases t with
  | node upper =>
    cases below with
    | node lower => exact absurd rfl (h lower)
    | _ => rfl
  | _ => rfl

theorem lookup_mergeMembers {upper : List (String × Tree)} (h : Members.Ascending upper)
    (lower : List (String × Tree)) (name : String) :
    Members.lookup name (mergeMembers lower upper) =
      ((Members.lookup name upper).map (layOver (Members.lookup name lower))).or
        (Members.lookup name lower) := by
  induction upper generalizing lower with
  | nil => rfl
  | cons m rest ih =>
    obtain ⟨key, u⟩ := m
    have hrest : Members.Ascending rest := (List.pairwise_cons.1 h).2
    show Members.lookup name
      (mergeMembers (Members.insert key (layOver (Members.lookup key lower) u) lower) rest) = _
    rw [ih hrest, Members.lookup_insert, Members.lookup]
    by_cases hkey : key = name
    · -- The member has been merged, and the rest has none of that name.
      subst hkey
      have hnone : Members.lookup key rest = none := h.lookup_tail
      rw [if_pos rfl, if_pos rfl, hnone]
      rfl
    · rw [if_neg hkey, if_neg hkey]

theorem ascending_mergeMembers {lower : List (String × Tree)} (h : Members.Ascending lower)
    (upper : List (String × Tree)) : Members.Ascending (mergeMembers lower upper) := by
  induction upper generalizing lower with
  | nil => exact h
  | cons m rest ih => exact ih (h.insert m.1 (layOver (Members.lookup m.1 lower) m.2))

/-- **A member of a merged tree** is that of the upper tree over that of the lower. -/
theorem member?_merge {t : Tree} (h : t.InOrder) (below : Tree) (name : String) :
    (below.merge t).member? name =
      ((t.member? name).map (layOver (below.member? name))).or (below.member? name) := by
  obtain @⟨upper, hupper⟩ := h
  cases below with
  | node lower => exact lookup_mergeMembers hupper lower name
  | _ =>
    show Members.lookup name upper = ((Members.lookup name upper).map (layOver none)).or none
    cases Members.lookup name upper <;> rfl

theorem InOrder.merge {below t : Tree} (hb : below.InOrder) (ht : t.InOrder) :
    (below.merge t).InOrder := by
  obtain ⟨hlower⟩ := hb
  obtain ⟨hupper⟩ := ht
  exact .node (ascending_mergeMembers hlower _)

end Tree

/-! ## Records -/

namespace RecordForm

variable {V E α β : Type}

/-- Any draft takes in a member. -/
def Accepts (form : RecordForm V E α) (m : String × V) : Prop :=
  ∀ locate draft, ∃ after, form.putMember locate m draft = .ok after

/-- A name sets what a view of the record shows, and no other name does. -/
structure Governs (form : RecordForm V E α) (name : String) (read : V → Except E β) (view : α → β) :
    Prop where
  own : ∀ {locate v draft after}, form.putMember locate (name, v) draft = .ok after →
    read v = .ok (view after)
  other : ∀ {locate m draft after}, m.1 ≠ name → form.putMember locate m draft = .ok after →
    view after = view draft

variable {form : RecordForm V E α} {locate : String → E → E} {ms : List (String × V)}
  {draft after : α}

theorem putMembers_cons_eq_ok {m : String × V}
    (h : form.putMembers locate (m :: ms) draft = .ok after) :
    ∃ mid, form.putMember locate m draft = .ok mid ∧ form.putMembers locate ms mid = .ok after := by
  rw [putMembers] at h
  cases hm : form.putMember locate m draft with
  | error e =>
    rw [hm] at h
    exact absurd h (by simp [bind, Except.bind])
  | ok mid =>
    rw [hm] at h
    exact ⟨mid, rfl, h⟩

theorem exists_putMembers (h : ∀ m ∈ ms, form.Accepts m) (locate : String → E → E) (draft : α) :
    ∃ after, form.putMembers locate ms draft = .ok after := by
  induction ms generalizing draft with
  | nil => exact ⟨draft, rfl⟩
  | cons m rest ih =>
    obtain ⟨mid, hmid⟩ := h m List.mem_cons_self locate draft
    obtain ⟨last, hlast⟩ := ih (fun n hn => h n (List.mem_cons_of_mem m hn)) mid
    refine ⟨last, ?_⟩
    rw [putMembers, hmid]
    exact hlast

/-- What a record shows after all members have been put into it. -/
theorem Governs.putMembers {name : String} {read : V → Except E β} {view : α → β}
    (hg : form.Governs name read view) (hms : Members.Ascending ms)
    (h : form.putMembers locate ms draft = .ok after) :
    view after = ((Members.lookup name ms).bind fun v => (read v).toOption).getD (view draft) := by
  induction ms generalizing draft with
  | nil =>
    obtain rfl := Except.ok.inj h
    rfl
  | cons m rest ih =>
    obtain ⟨mid, hmid, hlast⟩ := putMembers_cons_eq_ok h
    have hview := ih (List.pairwise_cons.1 hms).2 hlast
    rw [Members.lookup]
    by_cases hname : m.1 = name
    · subst hname
      have hread : read m.2 = .ok (view mid) := hg.own hmid
      rw [if_pos rfl, hview, hms.lookup_tail, Option.bind_some, hread]
      rfl
    · rw [if_neg hname, hview, hg.other hname hmid]

/-- If one member cannot be put into any draft, and all others can, its fault is that of the whole. -/
theorem putMembers_eq_error {name : String} {v : V} {e : E} (hms : Members.Ascending ms)
    (hlookup : Members.lookup name ms = some v)
    (hbad : ∀ draft, form.putMember locate (name, v) draft = .error e)
    (hothers : ∀ m ∈ ms, m.1 ≠ name → form.Accepts m) (draft : α) :
    form.putMembers locate ms draft = .error e := by
  induction ms generalizing draft with
  | nil => exact absurd hlookup (by simp)
  | cons m rest ih =>
    rw [Members.lookup] at hlookup
    rw [putMembers]
    split at hlookup
    · rename_i hname
      obtain rfl := Option.some.inj hlookup
      obtain rfl := hname
      rw [hbad draft]
      rfl
    · rename_i hname
      obtain ⟨mid, hmid⟩ := hothers m List.mem_cons_self hname locate draft
      rw [hmid]
      exact ih (List.pairwise_cons.1 hms).2 hlookup
        (fun n hn => hothers n (List.mem_cons_of_mem m hn)) mid

end RecordForm

namespace Tree

variable {α β : Type} {form : RecordForm Tree Fault α}

theorem put_field_eq_ok {name : String} {read : Tree → Except Fault β} {set : α → β → α} {t : Tree}
    {draft after : α} :
    (field name read set).put t draft = .ok after ↔ ∃ x, read t = .ok x ∧ set draft x = after := by
  show (do return set draft (← read t)) = Except.ok after ↔ _
  cases read t with
  | error e => simp [bind, Except.bind]
  | ok x => simp [bind, Except.bind, pure, Except.pure]

theorem put_field_eq_error {name : String} {read : Tree → Except Fault β} {set : α → β → α}
    {t : Tree} {e : Fault} (h : read t = .error e) (draft : α) :
    (field name read set).put t draft = .error e := by
  show (do return set draft (← read t)) = Except.error e
  rw [h]
  rfl

theorem putMember_of_find {f : FieldForm Tree Fault α} {name : String}
    (h : form.fields.find? (fun f => f.name == name) = some f) (locate : String → Fault → Fault)
    (t : Tree) (draft : α) :
    form.putMember locate (name, t) draft = (f.put t draft).mapError (locate name) := by
  rw [RecordForm.putMember]
  simp only [h]

/-- A member whose value can be read is taken in. -/
theorem accepts_of_read {name : String} {read : Tree → Except Fault β} {set : α → β → α} {t : Tree}
    {x : β} (hfind : form.fields.find? (fun f => f.name == name) = some (field name read set))
    (hx : read t = .ok x) : form.Accepts (name, t) := by
  intro locate draft
  refine ⟨set draft x, ?_⟩
  rw [putMember_of_find hfind, put_field_eq_ok.2 ⟨x, hx, rfl⟩]
  rfl

/-- A member that belongs to no field is passed over. -/
theorem accepts_of_unknown {name : String} (h : name ∉ form.fields.map FieldForm.name) (t : Tree) :
    form.Accepts (name, t) := by
  intro locate draft
  have hnone : form.fields.find? (fun f => f.name == name) = none := by
    refine List.find?_eq_none.2 fun f hf heq => h ?_
    rw [← beq_iff_eq.1 heq]
    exact List.mem_map_of_mem hf
  refine ⟨draft, ?_⟩
  rw [RecordForm.putMember]
  simp only [hnone]

/-- A field leaves a view of the record as it is. -/
def Leaves (f : FieldForm Tree Fault α) (view : α → β) : Prop :=
  ∀ t draft after, f.put t draft = .ok after → view after = view draft

theorem leaves_field {γ : Type} {name : String} {read : Tree → Except Fault γ} {set : α → γ → α}
    {view : α → β} (h : ∀ draft x, view (set draft x) = view draft) :
    Leaves (field name read set) view := by
  intro t draft after hput
  obtain ⟨x, -, rfl⟩ := put_field_eq_ok.1 hput
  exact h draft x

/-- A name governs a view if the field of that name sets it and the other fields leave it alone. -/
theorem governs_of_fields {name : String} {read : Tree → Except Fault β} {set : α → β → α}
    {view : α → β} (hfind : form.fields.find? (fun f => f.name == name) = some (field name read set))
    (hset : ∀ draft x, view (set draft x) = x)
    (hothers : ∀ f ∈ form.fields, f.name ≠ name → Leaves f view) : form.Governs name read view where
  own := by
    intro locate t draft after h
    rw [putMember_of_find hfind] at h
    cases hput : (field name read set).put t draft with
    | error e =>
      rw [hput] at h
      cases h
    | ok mid =>
      rw [hput] at h
      obtain rfl := Except.ok.inj h
      obtain ⟨x, hx, rfl⟩ := put_field_eq_ok.1 hput
      rw [hx, hset]
  other := by
    intro locate m draft after hne h
    rw [RecordForm.putMember] at h
    split at h
    · rename_i f hf
      have hname : f.name = m.1 := by simpa using List.find?_some hf
      cases hput : f.put m.2 draft with
      | error e =>
        rw [hput] at h
        cases h
      | ok mid =>
        rw [hput] at h
        obtain rfl := Except.ok.inj h
        exact hothers f (List.mem_of_find?_eq_some hf) (fun heq => hne (hname.symm.trans heq)) _ _ _
          hput
    · rw [← Except.ok.inj h]

/-- **A record that is read from a tree in order** shows under each name what the member of that name
reads as, and what the draft showed where there is none. -/
theorem asRecord_of_accepts {t : Tree} (h : t.InOrder)
    (haccepts : ∀ name u, t.member? name = some u → form.Accepts (name, u)) (draft : α) :
    ∃ r, asRecord form draft t = .ok r ∧
      ∀ {γ : Type} {name : String} {read : Tree → Except Fault γ} {view : α → γ},
        form.Governs name read view →
          view r = ((t.member? name).bind fun u => (read u).toOption).getD (view draft) := by
  obtain @⟨ms, hms⟩ := h
  have hall : ∀ m ∈ ms, form.Accepts m := fun m hm => haccepts m.1 m.2 (hms.lookup_of_mem hm)
  obtain ⟨r, hr⟩ := RecordForm.exists_putMembers hall Fault.under draft
  exact ⟨r, hr, fun hg => hg.putMembers hms hr⟩

/-- A record of which one member cannot be read, and all others can. -/
theorem asRecord_eq_error {t u : Tree} {name : String} {e : Fault} (h : t.InOrder)
    (hu : t.member? name = some u)
    (hbad : ∀ draft, form.putMember Fault.under (name, u) draft = .error e)
    (hothers : ∀ other v, t.member? other = some v → other ≠ name → form.Accepts (other, v))
    (draft : α) : asRecord form draft t = .error e := by
  obtain @⟨ms, hms⟩ := h
  exact RecordForm.putMembers_eq_error hms hu hbad
    (fun m hm hne => hothers m.1 m.2 (hms.lookup_of_mem hm) hne) draft

end Tree
end Switchboard
