import Switchboard.Proofs.Config.Fields
import Switchboard.ServiceError

/-!
# Settings in layers: the last layer that gives a field counts

A layer may give any of the fields, and it may hold anything else besides.  What a loader makes of layers
is said field by field, without a word about trees: a field has the value that the last layer gives
which gives it one at all, and the standard value if there is no such layer (`Loader.last_giver`).

So it does not matter what else is in the layers, and two layers next to each other that have no field in
common may change places.  The layers below a partly given section show through, and so do the standard
values: the merging of trees keeps what an upper layer does not mention, and the reading of a section
fills in what no layer mentions.
-/

namespace Switchboard

/-! ## Layers -/

namespace Field

/-- The name of a field with the name of its section in front, and a point between them. -/
def key (f : Field) : String := f.part.name ++ "." ++ f.name

theorem dotted_key (f : Field) : Tree.dotted f.key = f.path := by
  cases f <;> decide

end Field

namespace Tree

/-- The tree in which the path of a field leads to a leaf. -/
theorem nest_path (f : Field) (t : Tree) :
    nest f.path t = node [(f.part.name, node [(f.name, t)])] := by
  cases f <;> rfl

theorem sectioned_nest (f : Field) (t : Tree) : (nest f.path t).Sectioned := by
  rw [nest_path]
  refine ⟨.node (List.pairwise_singleton ..), fun p u hu => ?_⟩
  rw [member?, Members.lookup] at hu
  split at hu
  · obtain rfl := Option.some.inj hu
    exact .node (List.pairwise_singleton ..)
  · exact absurd hu (by simp)

/-- It has no other leaf. -/
theorem leaf?_nest (f g : Field) (t : Tree) :
    (nest f.path t).leaf? g = if f = g then some t else none := by
  rw [nest_path, leaf?, member?, Members.lookup]
  by_cases hpart : f.part = g.part
  · by_cases hname : f.name = g.name
    · obtain rfl := Field.eq_of_path hpart hname
      simp [member?, Members.lookup]
    · have hne : f ≠ g := fun h => hname (congrArg Field.name h)
      simp [hpart, member?, Members.lookup, hname, hne]
  · have hne : f ≠ g := fun h => hpart (congrArg Field.part h)
    have hnames : f.part.name ≠ g.part.name := fun h => hpart (Part.name_injective h)
    simp [hnames, hne]

/-- The members of a node whose names are wanted. -/
def pick (wanted : String → Bool) : Tree → Tree
  | node members => node (members.filter fun m => wanted m.1)
  | t => t

theorem member?_pick (wanted : String → Bool) (t : Tree) (name : String) :
    (t.pick wanted).member? name = if wanted name then t.member? name else none := by
  cases t with
  | node members => exact Members.lookup_filter wanted name members
  | _ => split <;> rfl

theorem InOrder.pick {t : Tree} (h : t.InOrder) (wanted : String → Bool) :
    (t.pick wanted).InOrder := by
  obtain ⟨hms⟩ := h
  exact .node (hms.filter _)

/-- The sections of a tree with the fields that they have; everything else is left out. -/
def known : Tree → Tree
  | node members => node
      ((members.filter fun m => Part.all.any fun p => p.name == m.1).map fun m =>
        (m.1, m.2.pick fun name => Field.all.any fun f => f.part.name == m.1 && f.name == name))
  | t => t

theorem member?_known (t : Tree) (p : Part) : t.known.member? p.name = (t.member? p.name).map
    (pick fun name => Field.all.any fun f => f.part.name == p.name && f.name == name) := by
  cases t with
  | node members =>
    have hpart : (Part.all.any fun q => q.name == p.name) = true :=
      List.any_eq_true.2 ⟨p, p.mem_all, beq_self_eq_true _⟩
    show Members.lookup p.name (List.map _ _) = _
    rw [Members.lookup_map (fun key => pick fun name =>
        Field.all.any fun f => f.part.name == key && f.name == name),
      Members.lookup_filter (fun key => Part.all.any fun q => q.name == key), if_pos hpart]
    rfl
  | _ => rfl

/-- Nothing that concerns a field is left out. -/
theorem leaf?_known (t : Tree) (f : Field) : t.known.leaf? f = t.leaf? f := by
  have hfield : (Field.all.any fun g => g.part.name == f.part.name && g.name == f.name) = true :=
    List.any_eq_true.2 ⟨f, f.mem_all, by simp⟩
  rw [leaf?, leaf?, member?_known]
  cases t.member? f.part.name with
  | none => rfl
  | some u =>
    rw [Option.map_some, Option.bind_some, member?_pick, if_pos hfield]
    rfl

theorem Sectioned.known {t : Tree} (h : t.Sectioned) : t.known.Sectioned where
  inOrder := by
    obtain ⟨⟨hms⟩, -⟩ := h
    exact .node (List.pairwise_map.2 (hms.filter _))
  sections := by
    intro p u hu
    rw [member?_known, Option.map_eq_some_iff] at hu
    obtain ⟨v, hv, rfl⟩ := hu
    exact (h.sections p v hv).pick _

theorem Proper.known {t : Tree} (h : t.Proper) : t.known.Proper where
  toSectioned := h.toSectioned.known
  typed := fun f u hu => h.typed f u (t.leaf?_known f ▸ hu)

end Tree

namespace Layer

/-- Layers that may be laid over one another: trees that hold values of their types for any of the
fields, and values of their types at the dotted names of fields. -/
inductive Proper : Layer → Prop
  | tree {origin : Origin} {t : Tree} (h : t.Proper) : Proper ⟨origin, t⟩
  | key (f : Field) {t : Tree} {v : f.Value} (h : f.read t = .ok v) : Proper (atPath f.key t)

/-- The value that a layer gives to a field. -/
def gives (l : Layer) (f : Field) : Option f.Value := l.tree.value? f

/-- Whether a layer mentions a field. -/
def Mentions (l : Layer) (f : Field) : Prop := l.tree.leaf? f ≠ none

/-- A layer without what belongs to no field. -/
def known (l : Layer) : Layer := ⟨l.origin, l.tree.known⟩

theorem Proper.tree_proper {l : Layer} (h : l.Proper) : l.tree.Proper := by
  cases h with
  | tree h => exact h
  | key f h =>
    show (Tree.nest (Tree.dotted f.key) _).Proper
    rw [f.dotted_key]
    refine ⟨Tree.sectioned_nest f _, fun g u hu => ?_⟩
    rw [Tree.leaf?_nest] at hu
    split at hu
    · rename_i heq
      subst heq
      obtain rfl := Option.some.inj hu
      exact ⟨_, h⟩
    · exact absurd hu (by simp)

/-- A layer gives no value to a field that it does not mention. -/
theorem gives_eq_none {l : Layer} {f : Field} (h : ¬l.Mentions f) : l.gives f = none := by
  rw [gives, Tree.value?, Decidable.not_not.1 h]
  rfl

theorem gives_known (l : Layer) (f : Field) : l.known.gives f = l.gives f := by
  rw [gives, gives, Tree.value?, Tree.value?, known, Tree.leaf?_known]

end Layer

/-! ## Laying layers over one another -/

namespace Tree

/-- Lay trees over one another, the later over the earlier. -/
def layAll (below : Tree) (ts : List Tree) : Tree := ts.foldl merge below

theorem Sectioned.layAll {below : Tree} (hb : below.Sectioned) {ts : List Tree}
    (h : ∀ t ∈ ts, t.Sectioned) : (below.layAll ts).Sectioned := by
  induction ts generalizing below with
  | nil => exact hb
  | cons t rest ih =>
    exact ih (hb.merge (h t List.mem_cons_self)) fun u hu => h u (List.mem_cons_of_mem t hu)

theorem Proper.layAll {below : Tree} (hb : below.Proper) {ts : List Tree} (h : ∀ t ∈ ts, t.Proper) :
    (below.layAll ts).Proper := by
  induction ts generalizing below with
  | nil => exact hb
  | cons t rest ih =>
    exact ih (hb.merge (h t List.mem_cons_self)) fun u hu => h u (List.mem_cons_of_mem t hu)

/-- The last tree that has a value for a field counts. -/
theorem value?_layAll (below : Tree) {ts : List Tree} (h : ∀ t ∈ ts, t.Proper) (f : Field) :
    (below.layAll ts).value? f = ((ts.filterMap (value? · f)).getLast?).or (below.value? f) := by
  induction ts generalizing below with
  | nil => rfl
  | cons t rest ih =>
    have hfirst : (below.merge t).value? f = (t.value? f).or (below.value? f) :=
      (h t List.mem_cons_self).value?_merge f
    show ((below.merge t).layAll rest).value? f = _
    rw [ih _ fun u hu => h u (List.mem_cons_of_mem t hu), hfirst, ← Option.or_assoc]
    congr 1
    cases hv : t.value? f with
    | none => simp [hv]
    | some v => simp [hv, List.getLast?_cons]

end Tree

namespace Loader

theorem overlay_eq (below : Tree) {ls : List Layer} (h : ∀ l ∈ ls, l.tree.InOrder) :
    overlay below ls = .ok (below.layAll (ls.map Layer.tree)) := by
  induction ls generalizing below with
  | nil => rfl
  | cons l rest ih =>
    have hrest : ∀ m ∈ rest, m.tree.InOrder := fun m hm => h m (List.mem_cons_of_mem l hm)
    have hl : l.tree.InOrder := h l List.mem_cons_self
    rw [overlay]
    cases ht : l.tree with
    | node members =>
      show overlay (below.merge (.node members)) rest = _
      rw [ih _ hrest, List.map_cons, ht]
      rfl
    | _ =>
      rw [ht] at hl
      exact absurd hl nofun

/-- The settings that are read are loaded if an application can run with them. -/
theorem load_of_extract {l : Loader} {s : Settings} (h : l.extract = .ok s) (now : Instant) :
    l.load now = match s.validate now with
      | .ok () => .ok s
      | .error e => .error (.setup e) := by
  rw [load, h]
  show ((s.validate now).mapError ServiceError.setup >>= fun _ => .ok s) = _
  cases s.validate now <;> rfl

theorem load_eq_ok_iff {l : Loader} {s : Settings} (h : l.extract = .ok s) (now : Instant)
    (t : Settings) : l.load now = .ok t ↔ t = s ∧ s.validate now = .ok () := by
  rw [load_of_extract h]
  cases s.validate now with
  | error e => simp
  | ok u => simp [eq_comm]

/-- Layers over the standard settings, or over nothing. -/
def on (based : Bool) (ls : List Layer) : Loader :=
  ⟨(if based then [Layer.standard] else []) ++ ls⟩

/-- What is extracted from layers is read from the tree that they make. -/
theorem extract_of_asSettings {l : Loader} {t : Tree} {s : Settings} (ht : l.tree = .ok t)
    (hs : t.asSettings = .ok s) : l.extract = .ok s := by
  simp only [extract, ht, bind, Except.bind, hs]

theorem extract_of_asSettings_error {l : Loader} {t : Tree} {f : Tree.Fault} (ht : l.tree = .ok t)
    (hf : t.asSettings = .error f) : l.extract = .error ⟨f, l.originAt f.path⟩ := by
  simp only [extract, ht, bind, Except.bind, hf]

/-- What is read from layers is known by the values that they give. -/
theorem exists_extract (based : Bool) {ls : List Layer} (h : ∀ l ∈ ls, l.tree.Proper) :
    ∃ s, (on based ls).extract = .ok s ∧
      ∀ f : Field, f.of s = ((ls.filterMap (·.gives f)).getLast?).getD (f.of .standard) := by
  have hall : ∀ l ∈ (on based ls).layers, l.tree.Proper := by
    intro l hl
    rcases List.mem_append.1 hl with hl | hl
    · cases based with
      | false => exact absurd hl List.not_mem_nil
      | true =>
        obtain rfl := List.mem_singleton.1 hl
        exact Tree.proper_standard
    · exact h l hl
  have htrees : ∀ t ∈ (on based ls).layers.map Layer.tree, t.Proper := by
    intro t ht
    obtain ⟨l, hl, rfl⟩ := List.mem_map.1 ht
    exact hall l hl
  obtain ⟨s, hs, hvalue⟩ := (Tree.proper_nil.layAll htrees).exists_asSettings
  have htree : (on based ls).tree = .ok _ := overlay_eq (.node []) fun l hl => (hall l hl).inOrder
  refine ⟨s, extract_of_asSettings htree hs, fun f => ?_⟩
  have hnothing : (Tree.node []).value? f = none := rfl
  rw [hvalue, Tree.value?_layAll _ htrees, hnothing, Option.or_none, List.filterMap_map]
  -- The standard layer gives what stands for a value that no layer gives.
  cases based with
  | false => rfl
  | true =>
    have hstandard : Layer.standard.gives f = some (f.of .standard) := Tree.value?_standard f
    show ((List.filterMap (·.gives f) (Layer.standard :: ls)).getLast?).getD (f.of .standard) = _
    simp [hstandard, List.getLast?_cons]

/-- **The last layer that gives a field counts.**  From layers over the standard settings, or over
nothing, settings are read each of whose fields has the value that the last layer gives it which gives
it one, and the standard value if none does.  What else there is in the layers has no influence, two
layers that stand one after the other and mention no field in common can change places, and the settings
are loaded if and only if they are valid. -/
theorem last_giver (based : Bool) {ls : List Layer} (h : ∀ l ∈ ls, l.Proper) :
    ∃ s, (on based ls).extract = .ok s ∧
      (∀ f : Field, f.of s = ((ls.filterMap (·.gives f)).getLast?).getD (f.of .standard)) ∧
      (on based (ls.map Layer.known)).extract = .ok s ∧
      (∀ before a b after, ls = before ++ a :: b :: after →
        (∀ f, ¬(a.Mentions f ∧ b.Mentions f)) →
          (on based (before ++ b :: a :: after)).extract = .ok s) ∧
      ∀ now t, (on based ls).load now = .ok t ↔ t = s ∧ s.validate now = .ok () := by
  have hproper : ∀ l ∈ ls, l.tree.Proper := fun l hl => (h l hl).tree_proper
  obtain ⟨s, hs, hvalue⟩ := exists_extract based hproper
  -- Layers that give the same values are read as the same settings.
  have same {ms : List Layer} (hms : ∀ l ∈ ms, l.tree.Proper)
      (hgives : ∀ f : Field, ms.filterMap (·.gives f) = ls.filterMap (·.gives f)) :
      (on based ms).extract = .ok s := by
    obtain ⟨t, ht, hother⟩ := exists_extract based hms
    have heq : t = s := Field.settings_ext fun f => by rw [hother, hvalue, hgives]
    rw [ht, heq]
  refine ⟨s, hs, hvalue, same ?_ ?_, ?_, fun now t => load_eq_ok_iff hs now t⟩
  · intro l hl
    obtain ⟨m, hm, rfl⟩ := List.mem_map.1 hl
    exact (hproper m hm).known
  · intro f
    have hsame : (·.gives f) ∘ Layer.known = (·.gives f) := funext fun l => l.gives_known f
    rw [List.filterMap_map, hsame]
  · rintro before a b after rfl hapart
    refine same (fun l hl => hproper l ?_) fun f => ?_
    · have hswap : (before ++ b :: a :: after).Perm (before ++ a :: b :: after) :=
        (List.Perm.swap a b after).append_left before
      exact hswap.mem_iff.1 hl
    · have hnone : a.gives f = none ∨ b.gives f = none := by
        by_cases ha : a.Mentions f
        · exact Or.inr (Layer.gives_eq_none fun hb => hapart f ⟨ha, hb⟩)
        · exact Or.inl (Layer.gives_eq_none ha)
      rcases hnone with hnone | hnone <;> simp [List.filterMap_append, List.filterMap_cons, hnone]

/-! ## A partly given section -/

/-- Two fields of the events, among other things. -/
def crowded : Layer :=
  ⟨.program, .node [("colour", .text "red"),
    ("events", .node [("buffer_size", .unsigned 16), ("speed", .list []), ("workers", .unsigned 2)])]⟩

theorem proper_crowded : crowded.Proper := by
  refine .tree ⟨⟨.node (Members.ascending_of_names (by decide)), fun p u hu => ?_⟩, fun f u hu => ?_⟩
  · cases p with
    | events =>
      obtain rfl := Option.some.inj hu
      exact .node (Members.ascending_of_names (by decide))
    | _ => exact absurd hu (by simp [Tree.member?, Members.lookup, Part.name])
  · cases f with
    | bufferSize | workers =>
      obtain rfl := Option.some.inj hu
      exact ⟨_, rfl⟩
    | _ => exact absurd hu (by simp [Tree.leaf?, Tree.member?, Members.lookup, Field.part, Field.name,
        Part.name])

/-- An upper layer with one field of a section leaves the others as the layer below has them, and what
neither has is standard. -/
theorem last_giver_of_one_field :
    (∀ l ∈ [crowded, Layer.atPath Field.workers.key (.unsigned 3)], l.Proper) ∧
      ∃ s, (on true [crowded, Layer.atPath Field.workers.key (.unsigned 3)]).extract = .ok s ∧
        s.events = ⟨"in-memory", 16, 3⟩ := by
  have hproper : ∀ l ∈ [crowded, Layer.atPath Field.workers.key (.unsigned 3)], l.Proper := by
    intro l hl
    rcases List.mem_cons.1 hl with rfl | hl
    · exact proper_crowded
    · obtain rfl := List.mem_singleton.1 hl
      exact .key .workers (v := (3 : Nat)) rfl
  obtain ⟨s, hs, hvalue, -⟩ := last_giver true hproper
  refine ⟨hproper, s, hs, ?_⟩
  have hkind : s.events.providerType = "in-memory" := hvalue .providerType
  have hsize : s.events.bufferSize = 16 := hvalue .bufferSize
  have hworkers : s.events.workers = 3 := hvalue .workers
  cases hevents : s.events
  simp_all

end Loader
end Switchboard
