import Switchboard.Config.Layers
import Switchboard.Proofs.Config.Merging

/-!
# The fields of settings

Settings have six fields in three parts.  A `Field` has a place in a tree --- a member of a section ---
and a place in settings, and values of its own type; what holds of all six is said once, for a field.

A tree is *sectioned* if it is in order and so are its sections, whatever else is in it.  Laying
sectioned trees over one another lays the leaves of each field over one another (`Tree.leaf?_merge`).  If
moreover the leaves read as values of their fields, then settings are read from the tree, each of whose
fields holds the value of its leaf or, where there is none, the standard value
(`Tree.exists_asSettings`).
-/

namespace Switchboard

/-- A section of settings. -/
inductive Part where
  | events
  | logging
  | session
  deriving DecidableEq

/-- A field of settings. -/
inductive Field where
  | providerType
  | bufferSize
  | workers
  | loggerKind
  | logLevel
  | refreshTtl
  deriving DecidableEq

namespace Part

/-- The name of a section. -/
def name : Part → String
  | events => "events"
  | logging => "logging"
  | session => "session"

/-- All sections. -/
def all : List Part := [events, logging, session]

theorem mem_all (p : Part) : p ∈ all := by
  cases p <;> decide

theorem name_injective {p q : Part} (h : p.name = q.name) : p = q := by
  cases p <;> cases q <;> first | rfl | exact absurd h (by decide)

/-- What a section is read as. -/
def Record : Part → Type
  | events => EventSettings
  | logging => LogSettings
  | session => SessionSettings

/-- The fields of a section, as they are read. -/
def form : (p : Part) → RecordForm Tree Tree.Fault p.Record
  | events => Tree.eventForm
  | logging => Tree.logForm
  | session => Tree.sessionForm

/-- A section when nothing is configured. -/
def standard : (p : Part) → p.Record
  | events => EventSettings.standard
  | logging => LogSettings.standard
  | session => SessionSettings.standard

/-- A section of settings. -/
def of (s : Settings) : (p : Part) → p.Record
  | events => s.events
  | logging => s.logging
  | session => s.session

end Part

namespace Field

/-- All fields. -/
def all : List Field :=
  [providerType, bufferSize, workers, loggerKind, logLevel, refreshTtl]

theorem mem_all (f : Field) : f ∈ all := by
  cases f <;> decide

/-- The section that a field stands in. -/
def part : Field → Part
  | providerType | bufferSize | workers => .events
  | loggerKind | logLevel => .logging
  | refreshTtl => .session

/-- The name of a field in its section. -/
def name : Field → String
  | providerType => "provider_type"
  | bufferSize => "buffer_size"
  | workers => "workers"
  | loggerKind => "kind"
  | logLevel => "level"
  | refreshTtl => "refresh_ttl_secs"

/-- The names that lead to a field. -/
def path (f : Field) : List String := [f.part.name, f.name]

/-- The type of the values of a field. -/
def Value : Field → Type
  | providerType | loggerKind | logLevel => String
  | bufferSize | workers => Nat
  | refreshTtl => Int

/-- Read a value of a field. -/
def read : (f : Field) → Tree → Except Tree.Fault f.Value
  | providerType | loggerKind | logLevel => Tree.asText
  | bufferSize | workers => Tree.asNat
  | refreshTtl => Tree.asInt

/-- The value of a field in its section. -/
def view : (f : Field) → f.part.Record → f.Value
  | providerType => EventSettings.providerType
  | bufferSize => EventSettings.bufferSize
  | workers => EventSettings.workers
  | loggerKind => LogSettings.kind
  | logLevel => LogSettings.level
  | refreshTtl => SessionSettings.refreshTtlSecs

/-- The value of a field in settings. -/
def of (s : Settings) (f : Field) : f.Value := f.view (f.part.of s)

/-- Settings are known by their fields. -/
theorem settings_ext {s t : Settings} (h : ∀ f, of s f = of t f) : s = t := by
  obtain ⟨⟨provider, buffer, count⟩, ⟨kind, level⟩, ⟨ttl⟩⟩ := s
  obtain ⟨⟨provider', buffer', count'⟩, ⟨kind', level'⟩, ⟨ttl'⟩⟩ := t
  obtain rfl : provider = provider' := h providerType
  obtain rfl : buffer = buffer' := h bufferSize
  obtain rfl : count = count' := h workers
  obtain rfl : kind = kind' := h loggerKind
  obtain rfl : level = level' := h logLevel
  obtain rfl : ttl = ttl' := h refreshTtl
  rfl

theorem eq_of_path {f g : Field} (hpart : f.part = g.part) (hname : f.name = g.name) : f = g := by
  cases f <;> cases g <;> first | rfl | exact absurd hpart (by decide) | exact absurd hname (by decide)

/-- Values of fields are no nodes. -/
theorem not_node_of_read {f : Field} {t : Tree} {v : f.Value} (h : f.read t = .ok v) :
    ∀ ms, t ≠ .node ms := by
  rintro ms rfl
  cases f <;> exact absurd h (by simp [read, Tree.asText, Tree.asNat, Tree.asInt, Tree.number?])

/-- A field is read under its name. -/
theorem exists_find (f : Field) : ∃ set,
    f.part.form.fields.find? (fun g => g.name == f.name) = some (Tree.field f.name f.read set) := by
  cases f <;> exact ⟨_, rfl⟩

/-- A field of a section is governed by its name. -/
theorem governs (f : Field) : f.part.form.Governs f.name f.read f.view := by
  cases f
  all_goals
    refine Tree.governs_of_fields rfl (fun _ _ => rfl) ?_
    intro g hg hne
    -- The field of that name itself, and fields that put their values elsewhere.
    repeat
      rcases List.mem_cons.1 hg with rfl | hg
      · first
        | exact absurd rfl hne
        | exact Tree.leaves_field fun _ _ => rfl
    exact absurd hg List.not_mem_nil

end Field

namespace Part

variable (p : Part)

/-- A section is read under its name. -/
theorem exists_find : ∃ set, Tree.settingsForm.fields.find? (fun g => g.name == p.name) =
    some (Tree.field p.name (Tree.asRecord p.form p.standard) set) := by
  cases p <;> exact ⟨_, rfl⟩

/-- A section of settings is governed by its name. -/
theorem governs :
    Tree.settingsForm.Governs p.name (Tree.asRecord p.form p.standard) (Part.of · p) := by
  cases p
  all_goals
    refine Tree.governs_of_fields rfl (fun _ _ => rfl) ?_
    intro g hg hne
    repeat
      rcases List.mem_cons.1 hg with rfl | hg
      · first
        | exact absurd rfl hne
        | exact Tree.leaves_field fun _ _ => rfl
    exact absurd hg List.not_mem_nil

/-- A section has the fields that stand in it. -/
theorem names_form :
    p.form.fields.map FieldForm.name = (Field.all.filter fun f => f.part = p).map Field.name := by
  cases p <;> rfl

theorem names_settingsForm :
    Tree.settingsForm.fields.map FieldForm.name = all.map name := rfl

/-- A section takes in a member that is none of its fields, or whose value can be read. -/
theorem accepts {name : String} {t : Tree}
    (h : ∀ f : Field, f.part = p → f.name = name → ∃ v, f.read t = .ok v) :
    p.form.Accepts (name, t) := by
  by_cases hfield : ∃ f : Field, f.part = p ∧ f.name = name
  · obtain ⟨f, rfl, rfl⟩ := hfield
    obtain ⟨v, hv⟩ := h f rfl rfl
    obtain ⟨set, hset⟩ := f.exists_find
    exact Tree.accepts_of_read hset hv
  · refine Tree.accepts_of_unknown (fun hmem => hfield ?_) t
    rw [p.names_form, List.mem_map] at hmem
    obtain ⟨f, hf, hname⟩ := hmem
    exact ⟨f, by simpa using (List.mem_filter.1 hf).2, hname⟩

/-- Settings take in a member that is no section, or that can be read. -/
theorem settings_accepts {name : String} {t : Tree}
    (h : ∀ p : Part, p.name = name → ∃ r, Tree.asRecord p.form p.standard t = .ok r) :
    Tree.settingsForm.Accepts (name, t) := by
  by_cases hpart : ∃ p : Part, p.name = name
  · obtain ⟨p, rfl⟩ := hpart
    obtain ⟨r, hr⟩ := h p rfl
    obtain ⟨set, hset⟩ := p.exists_find
    exact Tree.accepts_of_read hset hr
  · refine Tree.accepts_of_unknown (fun hmem => hpart ?_) t
    rw [names_settingsForm, List.mem_map] at hmem
    obtain ⟨p, -, hname⟩ := hmem
    exact ⟨p, hname⟩

end Part

/-! ## Trees in sections -/

namespace Tree

/-- The leaf of a field. -/
def leaf? (t : Tree) (f : Field) : Option Tree :=
  (t.member? f.part.name).bind (member? f.name)

/-- What the leaf of a field reads as. -/
def value? (t : Tree) (f : Field) : Option f.Value :=
  (t.leaf? f).bind fun u => (f.read u).toOption

/-- A tree in order whose sections are in order, whatever else there is in it. -/
structure Sectioned (t : Tree) : Prop where
  inOrder : t.InOrder
  sections : ∀ (p : Part) (u : Tree), t.member? p.name = some u → u.InOrder

/-- A tree that holds, for any of the fields, values of their types. -/
structure Proper (t : Tree) : Prop extends Sectioned t where
  typed : ∀ (f : Field) (u : Tree), t.leaf? f = some u → ∃ v, f.read u = .ok v

theorem sectioned_nil : Sectioned (node []) where
  inOrder := .node List.Pairwise.nil
  sections := fun _ _ h => absurd h (by simp [member?])

theorem proper_nil : Proper (node []) where
  toSectioned := sectioned_nil
  typed := fun _ _ h => absurd h (by simp [leaf?, member?])

/-- **Leaves are laid over leaves.** -/
theorem leaf?_merge {below t : Tree} (ht : t.Sectioned) (f : Field) :
    (below.merge t).leaf? f = ((t.leaf? f).map (layOver (below.leaf? f))).or (below.leaf? f) := by
  rw [leaf?, leaf?, leaf?, member?_merge ht.inOrder]
  cases hu : t.member? f.part.name with
  | none => rfl
  | some u =>
    have hin : u.InOrder := ht.sections f.part u hu
    cases below.member? f.part.name with
    | none =>
      show u.member? f.name = ((u.member? f.name).map (layOver none)).or none
      cases u.member? f.name <;> rfl
    | some b => exact member?_merge hin b f.name

theorem Sectioned.merge {below t : Tree} (hb : below.Sectioned) (ht : t.Sectioned) :
    (below.merge t).Sectioned where
  inOrder := hb.inOrder.merge ht.inOrder
  sections := by
    intro p v hv
    rw [member?_merge ht.inOrder] at hv
    cases hu : t.member? p.name with
    | none =>
      rw [hu] at hv
      exact hb.sections p v hv
    | some u =>
      rw [hu] at hv
      have hin : u.InOrder := ht.sections p u hu
      cases hbelow : below.member? p.name with
      | none =>
        rw [hbelow] at hv
        obtain rfl := Option.some.inj hv
        exact hin
      | some b =>
        rw [hbelow] at hv
        obtain rfl := Option.some.inj hv
        exact (hb.sections p b hbelow).merge hin

/-- A value takes the place of whatever is below. -/
theorem layOver_of_read {f : Field} {t : Tree} {v : f.Value} (h : f.read t = .ok v)
    (below : Option Tree) : layOver below t = t := by
  cases below with
  | none => rfl
  | some b => exact b.merge_leaf (Field.not_node_of_read h)

/-- A leaf of a proper tree takes the place of the leaf below. -/
theorem Proper.leaf?_merge {below t : Tree} (ht : t.Proper) (f : Field) :
    (below.merge t).leaf? f = (t.leaf? f).or (below.leaf? f) := by
  rw [Tree.leaf?_merge ht.toSectioned]
  cases hu : t.leaf? f with
  | none => rfl
  | some u =>
    obtain ⟨v, hv⟩ := ht.typed f u hu
    rw [Option.map_some, layOver_of_read hv]

theorem Proper.merge {below t : Tree} (hb : below.Proper) (ht : t.Proper) :
    (below.merge t).Proper where
  toSectioned := hb.toSectioned.merge ht.toSectioned
  typed := by
    intro f u hu
    rw [ht.leaf?_merge] at hu
    rcases Option.or_eq_some_iff.1 hu with hu | ⟨-, hu⟩
    · exact ht.typed f u hu
    · exact hb.typed f u hu

/-- **Of two layers the upper counts**, for each field that it gives. -/
theorem Proper.value?_merge {below t : Tree} (ht : t.Proper) (f : Field) :
    (below.merge t).value? f = (t.value? f).or (below.value? f) := by
  rw [value?, value?, value?, ht.leaf?_merge]
  cases hu : t.leaf? f with
  | none => rfl
  | some u =>
    obtain ⟨v, hv⟩ := ht.typed f u hu
    show (f.read u).toOption = (f.read u).toOption.or _
    rw [hv]
    rfl

/-! ## Reading settings -/

/-- What the leaf of a field reads as, if its section is there. -/
theorem value?_of_member {t u : Tree} {f : Field} (h : t.member? f.part.name = some u) :
    t.value? f = (u.member? f.name).bind fun x => (f.read x).toOption := by
  rw [value?, leaf?, h]
  rfl

/-- A section whose leaves hold values of their types can be read. -/
theorem Sectioned.exists_section {t u : Tree} {p : Part} (ht : t.Sectioned)
    (hu : t.member? p.name = some u)
    (htyped : ∀ f : Field, f.part = p → ∀ x, t.leaf? f = some x → ∃ v, f.read x = .ok v) :
    ∃ r, asRecord p.form p.standard u = .ok r ∧
      ∀ f : Field, f.part = p → ∀ {view : p.Record → f.Value}, p.form.Governs f.name f.read view →
        view r = (t.value? f).getD (view p.standard) := by
  have haccepts : ∀ name x, u.member? name = some x → p.form.Accepts (name, x) := by
    intro name x hx
    refine p.accepts fun f hp hname => htyped f hp x ?_
    subst hp hname
    rw [leaf?, hu]
    exact hx
  obtain ⟨r, hr, hview⟩ := asRecord_of_accepts (ht.sections p u hu) haccepts p.standard
  refine ⟨r, hr, ?_⟩
  rintro f rfl view hgoverns
  rw [hview hgoverns, value?_of_member hu]

/-- **Settings are read from a proper tree**, and each field holds the value of its leaf or, where there
is none, the standard value. -/
theorem Proper.exists_asSettings {t : Tree} (ht : t.Proper) :
    ∃ s, t.asSettings = .ok s ∧ ∀ f : Field, f.of s = (t.value? f).getD (f.of .standard) := by
  have haccepts : ∀ name u, t.member? name = some u → settingsForm.Accepts (name, u) := by
    intro name u hu
    refine Part.settings_accepts fun p hp => ?_
    obtain ⟨r, hr, -⟩ := ht.exists_section (p := p) (hp ▸ hu) fun f _ => ht.typed f
    exact ⟨r, hr⟩
  obtain ⟨s, hs, hview⟩ := asRecord_of_accepts ht.inOrder haccepts .standard
  refine ⟨s, hs, fun f => ?_⟩
  have hpart : f.part.of s =
      ((t.member? f.part.name).bind fun u =>
        (asRecord f.part.form f.part.standard u).toOption).getD (f.part.of .standard) :=
    hview f.part.governs
  have hstandard : f.part.of .standard = f.part.standard := by
    cases f <;> rfl
  rw [Field.of, Field.of, hpart, hstandard]
  cases hu : t.member? f.part.name with
  | none =>
    rw [value?, leaf?, hu]
    rfl
  | some u =>
    obtain ⟨r, hr, hfield⟩ := ht.exists_section hu fun f _ => ht.typed f
    rw [Option.bind_some, hr]
    exact hfield f rfl f.governs

/-- If one leaf holds no value of its type, and all others do, the fault names this leaf. -/
theorem Sectioned.asSettings_eq_error {t u : Tree} {f : Field} {e : Fault} (ht : t.Sectioned)
    (hu : t.leaf? f = some u) (hbad : f.read u = .error e)
    (hothers : ∀ g x, g ≠ f → t.leaf? g = some x → ∃ v, g.read x = .ok v) :
    t.asSettings = .error ((e.under f.name).under f.part.name) := by
  obtain ⟨sec, hsection, hmember⟩ := Option.bind_eq_some_iff.1 hu
  have hpart (draft : f.part.Record) :
      asRecord f.part.form draft sec = .error (e.under f.name) := by
    obtain ⟨set, hset⟩ := f.exists_find
    refine asRecord_eq_error (ht.sections _ _ hsection) hmember (fun draft => ?_) ?_ draft
    · rw [putMember_of_find hset, put_field_eq_error hbad]
      rfl
    · intro name x hx hne
      refine f.part.accepts fun g hg hname => hothers g x ?_ ?_
      · rintro rfl
        exact hne hname.symm
      · subst hname
        rw [leaf?, hg, hsection]
        exact hx
  obtain ⟨set, hset⟩ := f.part.exists_find
  refine asRecord_eq_error ht.inOrder hsection (fun draft => ?_) ?_ Settings.standard
  · rw [putMember_of_find hset, put_field_eq_error (hpart _)]
    rfl
  · intro name x hx hne
    refine Part.settings_accepts fun p hp => ?_
    obtain ⟨r, hr, -⟩ := ht.exists_section (p := p) (hp ▸ hx) fun g hg y hy =>
      hothers g y (fun heq => hne (by rw [← hp, ← hg, heq])) hy
    exact ⟨r, hr⟩

/-! ## The standard settings -/

theorem leaf?_standard (f : Field) : ∃ u, Settings.standard.toTree.leaf? f = some u ∧
    f.read u = .ok (f.of .standard) := by
  cases f <;> exact ⟨_, rfl, rfl⟩

theorem proper_standard : Settings.standard.toTree.Proper where
  inOrder := .node (Members.ascending_of_names (by decide))
  sections := by
    intro p u hu
    cases p
    all_goals
      obtain rfl := Option.some.inj hu
      exact .node (Members.ascending_of_names (by decide))
  typed := by
    intro f u hu
    obtain ⟨v, hv, hread⟩ := leaf?_standard f
    obtain rfl := Option.some.inj (hv.symm.trans hu)
    exact ⟨_, hread⟩

theorem value?_standard (f : Field) : Settings.standard.toTree.value? f = some (f.of .standard) := by
  obtain ⟨u, hu, hread⟩ := leaf?_standard f
  rw [value?, hu, Option.bind_some, hread]
  rfl

end Tree
end Switchboard
