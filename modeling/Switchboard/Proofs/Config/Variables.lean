import Switchboard.Config.Environment
import Switchboard.Proofs.Config.Layering
import Switchboard.Proofs.Config.Spelling

/-!
# Settings from variables

Each of the six fields has a variable of its own, and a variable sets its field and nothing else.  An
environment is *documented* if no name occurs in it twice and every name is that of a field or sets
nothing.  The tree that its loader reads has, for each field, the leaf that the text of the variable of
that field is read as, and the standard leaf where the variable is not set (`Environment.exists_tree`).

From there on it does not matter any more that there were four families of variables whose trees are
laid over the standard settings, with paths made in two ways.  `Environment.own_variables` says what is
loaded if every variable that is set spells a value of its field, and `Settings.demands` what is asked of
settings before an application runs with them.
-/

namespace Switchboard

/-! ## What is asked of settings -/

namespace Instant

/-- The last second of the calendar. -/
def lastSecond : Int := 8210266876799

/-- There is an instant so many seconds later unless that leads out of the calendar. -/
theorem add?_eq_none_iff (t : Instant) {span : Int} (h : 0 < span) :
    t.add? span = none ↔ lastSecond < t.seconds + span := by
  have hrange := t.inRange
  have hfraction := t.fraction
  rw [lastSecond, add?]
  by_cases hspan : isSpan span = true
  · rw [if_pos hspan]
    by_cases hleap : 1000000000 ≤ t.nanos
    · rw [if_pos hleap, if_neg (by omega), if_pos h, make?]
      split <;> simp <;> omega
    · rw [if_neg hleap, make?]
      split <;> simp <;> omega
  · rw [if_neg hspan]
    have hlong : ¬(-maxSpan ≤ span ∧ span ≤ maxSpan) := by
      simpa [isSpan] using hspan
    rw [maxSpan] at hlong
    exact iff_of_true rfl (by omega)

end Instant

namespace Settings

/-- What is asked of settings before an application runs with them from now on, and what is wrong with
settings that do not meet it. -/
def demands (s : Settings) (now : Instant) : List (Bool × SettingFault) :=
  [(1 ≤ s.events.bufferSize, .noBuffer),
    (s.events.bufferSize ≤ maxCapacity, .bufferTooLarge),
    (1 ≤ s.events.workers, .noWorkers),
    (0 < s.session.refreshTtlSecs, .refreshTtl s.session.refreshTtlSecs),
    (now.seconds + s.session.refreshTtlSecs ≤ Instant.lastSecond,
      .refreshTtl s.session.refreshTtlSecs)]

/-- The first demand that settings do not meet. -/
def firstFault? (s : Settings) (now : Instant) : Option SettingFault :=
  ((s.demands now).find? fun d => !d.1).map Prod.snd

/-- **Settings are accepted if they meet all demands**, and otherwise the first that they do not meet
is given. -/
theorem validate_eq (s : Settings) (now : Instant) : s.validate now =
    match s.firstFault? now with
    | none => .ok ()
    | some fault => .error (.invalidConfig fault) := by
  have hinstant (h : 0 < s.session.refreshTtlSecs) : s.session.refreshExpiry? now = none ↔
      ¬now.seconds + s.session.refreshTtlSecs ≤ Instant.lastSecond :=
    (now.add?_eq_none_iff h).trans Int.not_le.symm
  have hbuffer : 1 ≤ s.events.bufferSize ↔ ¬s.events.bufferSize = 0 := Nat.one_le_iff_ne_zero
  have hcapacity : s.events.bufferSize ≤ maxCapacity ↔ ¬maxCapacity < s.events.bufferSize :=
    Nat.not_lt.symm
  have hworkers : 1 ≤ s.events.workers ↔ ¬s.events.workers = 0 := Nat.one_le_iff_ne_zero
  simp only [validate, DispatcherConfig.validate, EventSettings.dispatcher, firstFault?, demands,
    hbuffer, hcapacity, hworkers]
  by_cases h₁ : s.events.bufferSize = 0
  · simp [h₁, bind, Except.bind]
  by_cases h₂ : maxCapacity < s.events.bufferSize
  · simp [h₁, h₂, bind, Except.bind]
  by_cases h₃ : s.events.workers = 0
  · simp [h₁, h₂, h₃, bind, Except.bind]
  by_cases h₄ : 0 < s.session.refreshTtlSecs
  · by_cases h₅ : now.seconds + s.session.refreshTtlSecs ≤ Instant.lastSecond
    · simp [h₁, h₂, h₃, h₄, h₅, hinstant h₄, bind, Except.bind]
    · simp [h₁, h₂, h₃, h₄, h₅, hinstant h₄, bind, Except.bind]
  · simp [h₁, h₂, h₃, h₄, bind, Except.bind]

end Settings

/-! ## Variables of fields -/

namespace Field

/-- The name of the variable of a field. -/
def variableName : Field → String
  | providerType => "DOMAIN_EVENT_PROVIDER_TYPE"
  | bufferSize => "DOMAIN_EVENT_BUFFER_SIZE"
  | workers => "DOMAIN_EVENT_WORKERS"
  | loggerKind => "LOGGER_TYPE"
  | logLevel => "LOG_LEVEL"
  | refreshTtl => "SESSION_REFRESH_TTL_SECS"

theorem variableName_injective {f g : Field} (h : f.variableName = g.variableName) : f = g := by
  cases f <;> cases g <;> first | rfl | exact absurd h (by decide)

theorem path_ne_empty (f : Field) : f.path.any String.isEmpty = false := by
  cases f <;> decide

/-- A text that spells a value of a field: the value is a text, or the text is the decimal digits of a
number of the field's type. -/
def Spells : (f : Field) → String → f.Value → Prop
  | providerType | loggerKind | logLevel => fun text (v : String) =>
    (EnvText.read text).asText = .ok v
  | bufferSize | workers => fun text (n : Nat) =>
    EnvText.IsDecimal text.toList n ∧ fitsUnsigned n = true
  | refreshTtl => fun text (n : Int) => EnvText.IsDecimal text.toList n ∧ fitsSigned n = true

/-- A text that spells a value is read as that value. -/
theorem read_of_spells {f : Field} {text : String} {v : f.Value} (h : f.Spells text v) :
    f.read (EnvText.read text) = .ok v := by
  cases f with
  | providerType | loggerKind | logLevel => exact h
  | bufferSize | workers =>
    obtain ⟨hdecimal, hfits⟩ := h
    have hnumber := EnvText.number?_read hdecimal (.inl hfits)
    show Tree.asNat _ = _
    rw [Tree.asNat, hnumber]
    exact if_pos hfits
  | refreshTtl =>
    obtain ⟨hdecimal, hfits⟩ := h
    have hnumber := EnvText.number?_read hdecimal (.inr hfits)
    show Tree.asInt _ = _
    rw [Tree.asInt, hnumber]
    exact if_pos hfits

end Field

namespace Environment

/-- The text of the variable of a field. -/
def text? (e : Environment) (f : Field) : Option String := Members.lookup f.variableName e.entries

/-- A name that sets nothing. -/
def Ignored (name : String) : Prop :=
  eventPath? name = none ∧
    ∀ f : Field, f.part ≠ .events → ownPath? f.variableName f.path name = none

/-- An environment in which no name occurs twice, and every name is that of a field or sets
nothing. -/
structure Documented (e : Environment) : Prop where
  nodup : (e.entries.map Prod.fst).Nodup
  known : ∀ name ∈ e.entries.map Prod.fst, (∃ f : Field, name = f.variableName) ∨ Ignored name

/-! ## Families of variables -/

/-- Set what a variable sets. -/
def set (path? : String → Option (List String)) (t : Tree) (v : String × String) : Tree :=
  match path? v.1 with
  | some path => if path.any String.isEmpty then t else t.merge (.nest path (EnvText.read v.2))
  | none => t

/-- The variables with these names that belong to a family set the fields of the family, and all others
nothing. -/
def Sets (path? : String → Option (List String)) (family : Field → Bool) (names : List String) : Prop :=
  ∀ name ∈ names, (path? name = none ∧ ∀ f, family f = true → f.variableName ≠ name) ∨
    ∃ f, family f = true ∧ f.variableName = name ∧ path? name = some f.path

section Family

variable {path? : String → Option (List String)} {family : Field → Bool}

theorem set_of_path {v : String × String} {f : Field} (h : path? v.1 = some f.path) (t : Tree) :
    set path? t v = t.merge (.nest f.path (EnvText.read v.2)) := by
  rw [set, h]
  exact if_neg (by rw [f.path_ne_empty]; exact Bool.false_ne_true)

/-- A variable sets its field, if it was not set before, and no other. -/
theorem leaf?_set {v : String × String} {f : Field} (h : path? v.1 = some f.path) {t : Tree}
    (hfresh : t.leaf? f = none) (g : Field) : (set path? t v).leaf? g =
      if f = g then some (EnvText.read v.2) else t.leaf? g := by
  rw [set_of_path h, Tree.leaf?_merge (Tree.sectioned_nest f _), Tree.leaf?_nest]
  by_cases heq : f = g
  · subst heq
    rw [if_pos rfl, if_pos rfl, hfresh]
    rfl
  · rw [if_neg heq, if_neg heq]
    rfl

/-- After all variables have been set, the fields of the family that were not there before have the
texts of their variables; the others are as they were. -/
theorem leaf?_foldl_set {entries : List (String × String)} (hnodup : (entries.map Prod.fst).Nodup)
    (hsets : Sets path? family (entries.map Prod.fst)) {t : Tree} (ht : t.Sectioned)
    (hfresh : ∀ f, family f = true → f.variableName ∈ entries.map Prod.fst → t.leaf? f = none) :
    (entries.foldl (set path?) t).Sectioned ∧
      ∀ f, (entries.foldl (set path?) t).leaf? f =
        (if family f = true then (Members.lookup f.variableName entries).map EnvText.read
          else none).or (t.leaf? f) := by
  induction entries generalizing t with
  | nil => exact ⟨ht, fun f => by simp⟩
  | cons v rest ih =>
    obtain ⟨hnotin, hrest⟩ := List.nodup_cons.1 hnodup
    have hsets' : Sets path? family (rest.map Prod.fst) :=
      fun name hname => hsets name (List.mem_cons_of_mem _ hname)
    rcases hsets v.1 List.mem_cons_self with ⟨hpath, hother⟩ | ⟨f, hf, hname, hpath⟩
    · -- The variable is of another family.
      have hset : set path? t v = t := by
        rw [set, hpath]
      obtain ⟨hsectioned, hleaf⟩ := ih hrest hsets' ht fun g hg hmem =>
        hfresh g hg (List.mem_cons_of_mem _ hmem)
      rw [List.foldl_cons, hset]
      refine ⟨hsectioned, fun g => ?_⟩
      rw [hleaf, Members.lookup]
      by_cases hg : family g = true
      · rw [if_neg (hother g hg).symm]
      · rw [if_neg hg, if_neg hg]
    · have hleaf := leaf?_set hpath (hfresh f hf (hname ▸ List.mem_cons_self))
      have hsectioned : (set path? t v).Sectioned :=
        set_of_path hpath t ▸ ht.merge (Tree.sectioned_nest f _)
      obtain ⟨hsectioned', hleaf'⟩ := ih hrest hsets' hsectioned fun g hg hmem => by
        have hne : f ≠ g := fun heq => hnotin (hname ▸ heq ▸ hmem)
        rw [hleaf, if_neg hne]
        exact hfresh g hg (List.mem_cons_of_mem _ hmem)
      refine ⟨hsectioned', fun g => ?_⟩
      rw [List.foldl_cons, hleaf', hleaf, Members.lookup]
      by_cases heq : f = g
      · have hnone : Members.lookup f.variableName rest = none :=
          Members.lookup_eq_none fun m hm hm' =>
            hnotin (hname ▸ hm' ▸ List.mem_map_of_mem hm)
        rw [← heq, if_pos hf, if_pos hf, if_pos rfl, if_pos hname.symm, hnone]
        rfl
      · have hne : v.1 ≠ g.variableName :=
          fun h => heq (Field.variableName_injective (hname.trans h))
        rw [if_neg heq, if_neg hne]

/-- The tree of a family has the texts of its variables at their fields, and no other field. -/
theorem leaf?_treeOf {e : Environment} (hnodup : (e.entries.map Prod.fst).Nodup)
    (hsets : Sets path? family (e.entries.map Prod.fst)) : (e.treeOf path?).Sectioned ∧
      ∀ f, (e.treeOf path?).leaf? f =
        if family f = true then (e.text? f).map EnvText.read else none := by
  have hnil (f : Field) : (Tree.node []).leaf? f = none := rfl
  obtain ⟨hsectioned, hleaf⟩ := leaf?_foldl_set hnodup hsets Tree.sectioned_nil fun f _ _ => hnil f
  refine ⟨hsectioned, fun f => (hleaf f).trans ?_⟩
  rw [hnil, Option.or_none]
  rfl

end Family

/-- The variables on events set the fields of that section. -/
theorem Documented.sets_events {e : Environment} (he : e.Documented) :
    Sets eventPath? (fun f => f.part = .events) (e.entries.map Prod.fst) := by
  intro name hname
  rcases he.known name hname with ⟨f, rfl⟩ | ⟨hignored, -⟩
  · cases f
    case providerType | bufferSize | workers => exact Or.inr ⟨_, by decide, rfl, by decide⟩
    all_goals
      refine Or.inl ⟨by decide, fun f hf => ?_⟩
      cases f <;> first | decide | exact absurd hf (by decide)
  · refine Or.inl ⟨hignored, fun f hf heq => ?_⟩
    subst heq
    cases f <;> first | exact absurd hignored (by decide) | exact absurd hf (by decide)

theorem ownPath?_variableName (f g : Field) : ownPath? f.variableName f.path g.variableName =
    if g = f then some f.path else none := by
  cases f <;> cases g <;> decide

/-- The variable of any other field sets this field. -/
theorem Documented.sets_own {e : Environment} (he : e.Documented) {f : Field}
    (hpart : f.part ≠ .events) :
    Sets (ownPath? f.variableName f.path) (fun g => g = f) (e.entries.map Prod.fst) := by
  intro name hname
  rcases he.known name hname with ⟨g, rfl⟩ | ⟨-, hignored⟩
  · by_cases heq : g = f
    · subst heq
      exact Or.inr ⟨g, decide_eq_true rfl, rfl, (ownPath?_variableName g g).trans (if_pos rfl)⟩
    · refine Or.inl ⟨(ownPath?_variableName f g).trans (if_neg heq), fun k hk hname => ?_⟩
      obtain rfl := of_decide_eq_true hk
      exact heq (Field.variableName_injective hname).symm
  · refine Or.inl ⟨hignored f hpart, fun k hk hname => ?_⟩
    obtain rfl := of_decide_eq_true hk
    subst hname
    have hnone := hignored k hpart
    rw [ownPath?_variableName, if_pos rfl] at hnone
    exact absurd hnone nofun

/-- The tree of a variable that is a family by itself. -/
def ownTree (e : Environment) (f : Field) : Tree := e.treeOf (ownPath? f.variableName f.path)

theorem Documented.leaf?_ownTree {e : Environment} (he : e.Documented) {f : Field}
    (hpart : f.part ≠ .events) : (e.ownTree f).Sectioned ∧
      ∀ g, (e.ownTree f).leaf? g = if g = f then (e.text? g).map EnvText.read else none := by
  obtain ⟨hsectioned, hleaf⟩ := leaf?_treeOf he.nodup (he.sets_own hpart)
  exact ⟨hsectioned, fun g => (hleaf g).trans (by simp only [decide_eq_true_eq])⟩

/-- The layers of a loader, each of a family of variables, over the standard settings. -/
theorem layers_loader (e : Environment) : e.loader.layers =
    [Layer.standard, ⟨.environment (some eventFamily), e.treeOf eventPath?⟩,
      ⟨.environment none, e.ownTree .loggerKind⟩, ⟨.environment none, e.ownTree .logLevel⟩,
      ⟨.environment none, e.ownTree .refreshTtl⟩] := by
  simp only [loader, layers, ownTree, Field.path, Field.variableName, Field.part, Field.name, Part.name]

/-- **Each variable is a leaf of its own.**  The tree that a loader reads has at each field what the text
of its variable is read as, and the standard leaf where the variable is not set. -/
theorem Documented.exists_tree {e : Environment} (he : e.Documented) :
    ∃ t, e.loader.tree = .ok t ∧ t.Sectioned ∧ ∀ f : Field, t.leaf? f =
      ((e.text? f).map EnvText.read).or (Settings.standard.toTree.leaf? f) := by
  obtain ⟨hevents, hevents'⟩ := leaf?_treeOf he.nodup he.sets_events
  obtain ⟨hkind, hkind'⟩ := he.leaf?_ownTree (f := .loggerKind) (by decide)
  obtain ⟨hlevel, hlevel'⟩ := he.leaf?_ownTree (f := .logLevel) (by decide)
  obtain ⟨httl, httl'⟩ := he.leaf?_ownTree (f := .refreshTtl) (by decide)
  have hall : ∀ t ∈ e.loader.layers.map Layer.tree, t.Sectioned := by
    simp only [layers_loader, List.map_cons, List.map_nil, List.forall_mem_cons]
    exact ⟨Tree.proper_standard.toSectioned, hevents, hkind, hlevel, httl, nofun⟩
  have htree : e.loader.tree = .ok ((Tree.node []).layAll (e.loader.layers.map Layer.tree)) :=
    Loader.overlay_eq (.node []) fun l hl => (hall l.tree (List.mem_map_of_mem hl)).inOrder
  refine ⟨_, htree, Tree.sectioned_nil.layAll hall, fun f => ?_⟩
  obtain ⟨u, hu, hread⟩ := Tree.leaf?_standard f
  have hover : Tree.layOver (some u) = id :=
    funext fun t => Tree.merge_over_leaf (Field.not_node_of_read hread) t
  have hnil : (Tree.node []).leaf? f = none := rfl
  simp only [layers_loader, List.map_cons, List.map_nil, Tree.layAll, List.foldl_cons, List.foldl_nil,
    Layer.standard]
  rw [Tree.leaf?_merge httl, Tree.leaf?_merge hlevel, Tree.leaf?_merge hkind,
    Tree.leaf?_merge hevents, Tree.leaf?_merge Tree.proper_standard.toSectioned, hevents', hkind',
    hlevel', httl', hu, hnil]
  -- One of the four trees at most has the field, and there is no node below.
  cases e.text? f with
  | none => simp
  | some text => cases f <;> simp [Field.part, hover]

/-! ## What is loaded -/

/-- A documented environment in which every variable of a field spells a value of this field. -/
structure Spelled (e : Environment) : Prop extends Documented e where
  spelled : ∀ (f : Field) (text : String), e.text? f = some text → ∃ v, f.Spells text v

/-- What is extracted has the values that the variables spell, and is standard elsewhere. -/
theorem Spelled.exists_extract {e : Environment} (he : e.Spelled) :
    ∃ s, e.loader.extract = .ok s ∧ ∀ f : Field, f.of s =
      ((e.text? f).bind fun text => (f.read (EnvText.read text)).toOption).getD (f.of .standard) := by
  obtain ⟨t, htree, hsectioned, hleaf⟩ := he.toDocumented.exists_tree
  have hproper : t.Proper := by
    refine ⟨hsectioned, fun f u hu => ?_⟩
    rw [hleaf] at hu
    cases htext : e.text? f with
    | none =>
      rw [htext] at hu
      exact Tree.proper_standard.typed f u hu
    | some text =>
      rw [htext] at hu
      obtain rfl := Option.some.inj hu
      obtain ⟨v, hv⟩ := he.spelled f text htext
      exact ⟨v, Field.read_of_spells hv⟩
  obtain ⟨s, hs, hvalue⟩ := hproper.exists_asSettings
  refine ⟨s, Loader.extract_of_asSettings htree hs, fun f => ?_⟩
  rw [hvalue, Tree.value?, hleaf]
  cases e.text? f with
  | none =>
    obtain ⟨u, hu, hread⟩ := Tree.leaf?_standard f
    rw [hu]
    show ((f.read u).toOption).getD _ = _
    rw [hread]
    rfl
  | some text => rfl

/-- **Each variable sets its own field and nothing else.**  If the variables that are set spell values,
then the settings that have those values, and the standard values elsewhere, are loaded if they meet all
demands; otherwise the first demand that they do not meet is answered.  A field that has the same text in
two such environments, or none in both, has the same value in what is loaded from them, whatever else
there is in either. -/
theorem own_variables {e : Environment} (he : e.Spelled) (now : Instant) :
    (∃ s, (∀ f text v, e.text? f = some text → f.Spells text v → f.of s = v) ∧
      (∀ f, e.text? f = none → f.of s = f.of .standard) ∧
      e.loader.load now = match s.firstFault? now with
        | none => .ok s
        | some fault => .error (.setup (.invalidConfig fault))) ∧
      ∀ (e' : Environment) (now' : Instant) (s s' : Settings), e'.Spelled →
        e.loader.load now = .ok s → e'.loader.load now' = .ok s' →
          ∀ f : Field, e.text? f = e'.text? f → f.of s = f.of s' := by
  obtain ⟨s, hs, hvalue⟩ := he.exists_extract
  refine ⟨⟨s, fun f text v htext hv => ?_, fun f hf => ?_, ?_⟩, ?_⟩
  · rw [hvalue, htext, Option.bind_some, Field.read_of_spells hv]
    rfl
  · rw [hvalue, hf]
    rfl
  · rw [Loader.load_of_extract hs, Settings.validate_eq]
    cases s.firstFault? now <;> rfl
  · intro e' now' t t' he' hload hload' f htext
    obtain ⟨s', hs', hvalue'⟩ := he'.exists_extract
    obtain ⟨rfl, -⟩ := (Loader.load_eq_ok_iff hs now t).1 hload
    obtain ⟨rfl, -⟩ := (Loader.load_eq_ok_iff hs' now' t').1 hload'
    rw [hvalue, hvalue', htext]

/-- An environment with a number, a quoted text and a word. -/
def small : Environment :=
  ⟨[("DOMAIN_EVENT_BUFFER_SIZE", "16"), ("LOGGER_TYPE", "\"memory\""), ("LOG_LEVEL", " debug ")]⟩

theorem spelled_small : small.Spelled where
  nodup := by decide
  known := by
    intro name hname
    refine Or.inl ?_
    rcases List.mem_cons.1 hname with rfl | hname
    · exact ⟨.bufferSize, rfl⟩
    rcases List.mem_cons.1 hname with rfl | hname
    · exact ⟨.loggerKind, rfl⟩
    exact ⟨.logLevel, List.mem_singleton.1 hname⟩
  spelled := by
    intro f text htext
    cases f
    case bufferSize =>
      obtain rfl := Option.some.inj htext
      exact ⟨(16 : Nat), EnvText.isDecimal_toString 16, rfl⟩
    case loggerKind =>
      obtain rfl := Option.some.inj htext
      exact ⟨"memory", by rfl⟩
    case logLevel =>
      obtain rfl := Option.some.inj htext
      exact ⟨"debug", by rfl⟩
    all_goals exact absurd (show none = some text from htext) nofun

/-- What is loaded from it at the start of 1970. -/
theorem own_variables_of_small : small.Spelled ∧
    small.loader.load .epoch = .ok ⟨⟨"in-memory", 16, 8⟩, ⟨"memory", "debug"⟩, ⟨2592000⟩⟩ := by
  obtain ⟨⟨s, hset, hunset, hload⟩, -⟩ := own_variables spelled_small .epoch
  have hs : s = ⟨⟨"in-memory", 16, 8⟩, ⟨"memory", "debug"⟩, ⟨2592000⟩⟩ := by
    refine Field.settings_ext fun f => ?_
    cases f with
    | bufferSize => exact hset .bufferSize "16" (16 : Nat) rfl ⟨EnvText.isDecimal_toString 16, rfl⟩
    | loggerKind => exact hset .loggerKind "\"memory\"" "memory" rfl rfl
    | logLevel => exact hset .logLevel " debug " "debug" rfl rfl
    | providerType => exact hunset .providerType rfl
    | workers => exact hunset .workers rfl
    | refreshTtl => exact hunset .refreshTtl rfl
  rw [hs] at hload
  exact ⟨spelled_small, hload⟩

end Environment
end Switchboard
