import Mathlib.Data.List.Induction
import Switchboard.Derive.Expansion
import Switchboard.Proofs.Derive.Grammar

/-!
# Which items are accepted, and what is wrong first

An item is accepted if it is a record with named fields, its event attributes follow the grammar, and
all of them together give one name, which is not empty, and at most one path to a field that is there
(`Item.Accepted`).  If several things are wrong, the fault that is reported is the first in a fixed order:
the shape of the item; attribute after attribute, in each first the grammar and then settings that have
been given before; a name that is missing or empty; a field that is not there (`Item.Violated`).
`Item.verdict` says that nothing else is accepted or reported.

The settings of all attributes are taken in one after the other, and what has been taken in so far are
the first name and the first path (`EventFacts.ofPairs`).  It does not matter in which attribute they
stood.
-/

namespace Switchboard
namespace Derive

/-! ## Attributes -/

namespace Attribute

/-- An attribute is about the event: its path is the one name `event`. -/
def AboutEvent (a : Attribute) : Prop :=
  a.absolute = false ∧ a.path = ["event"]

instance : DecidablePred AboutEvent := fun a =>
  inferInstanceAs (Decidable (a.absolute = false ∧ a.path = ["event"]))

theorem isEvent_eq_decide (a : Attribute) : a.isEvent = decide a.AboutEvent := by
  rw [Bool.eq_iff_iff, decide_eq_true_iff]
  simp [isEvent, AboutEvent]

/-- An attribute follows the grammar and gives these settings. -/
def Gives (a : Attribute) (ps : List EventPair) : Prop :=
  ∃ d ts, a.arguments = .list d ts ∧ ListForm ts ps

/-- What is wrong first with an attribute that does not follow the grammar. -/
inductive Misformed (a : Attribute) : Fault → Prop
  | noArguments (h : a.arguments = .none) : Misformed a .noArguments
  | noParentheses {ts : List Token} (h : a.arguments = .value ts) : Misformed a .noParentheses
  | settings {d : Delimiter} {ts : List Token} {f : Fault} (h : a.arguments = .list d ts)
      (hts : ListFault ts f) : Misformed a f

variable {a : Attribute} {ps : List EventPair} {f : Fault}

theorem pairs_of_gives (h : a.Gives ps) : a.pairs = .ok ps := by
  obtain ⟨d, ts, harguments, hts⟩ := h
  rw [pairs, harguments]
  exact EventPair.readAll_eq_ok_iff.2 hts

theorem pairs_of_misformed (h : a.Misformed f) : a.pairs = .error f := by
  cases h with
  | noArguments h | noParentheses h => rw [pairs, h]
  | settings h hts =>
    rw [pairs, h]
    exact EventPair.readAll_eq_error_iff.2 hts

theorem gives_or_misformed (a : Attribute) : (∃ ps, a.Gives ps) ∨ ∃ f, a.Misformed f := by
  cases h : a.arguments with
  | none => exact Or.inr ⟨_, .noArguments h⟩
  | value ts => exact Or.inr ⟨_, .noParentheses h⟩
  | list d ts =>
    rcases form_or_fault ts with ⟨ps, hps⟩ | ⟨f, hf⟩
    · exact Or.inl ⟨ps, d, ts, h, hps⟩
    · exact Or.inr ⟨f, .settings h hf⟩

end Attribute

/-! ## Settings -/

namespace EventPair

/-- The name that a setting gives. -/
def name? : EventPair → Option TextLiteral
  | name text => some text
  | occurredAt _ => none

/-- The path that a setting gives. -/
def path? : EventPair → Option FieldPath
  | name _ => none
  | occurredAt path => some path

/-- The names that settings give. -/
def names (ps : List EventPair) : List TextLiteral :=
  ps.filterMap name?

/-- The paths that settings give. -/
def paths (ps : List EventPair) : List FieldPath :=
  ps.filterMap path?

/-- Where the time stands: in the first path, or in the field `occurred_at`. -/
def timePath (ps : List EventPair) : FieldPath :=
  (paths ps).head?.getD ⟨"occurred_at", []⟩

/-- Nothing is given twice. -/
structure Single (ps : List EventPair) : Prop where
  names : (names ps).length ≤ 1
  paths : (paths ps).length ≤ 1

/-- A setting is given that has been given before. -/
inductive Repeats (ps : List EventPair) : EventPair → Fault → Prop
  | name (text : TextLiteral) (h : names ps ≠ []) : Repeats ps (.name text) .duplicateName
  | occurredAt (path : FieldPath) (h : paths ps ≠ []) : Repeats ps (.occurredAt path) .duplicateTime

variable {ps qs : List EventPair} {p : EventPair} {f : Fault}

@[simp] theorem names_append (ps qs : List EventPair) : names (ps ++ qs) = names ps ++ names qs :=
  List.filterMap_append ..

@[simp] theorem paths_append (ps qs : List EventPair) : paths (ps ++ qs) = paths ps ++ paths qs :=
  List.filterMap_append ..

@[simp] theorem names_name (text : TextLiteral) : names [.name text] = [text] := rfl

@[simp] theorem names_occurredAt (path : FieldPath) : names [.occurredAt path] = [] := rfl

@[simp] theorem paths_name (text : TextLiteral) : paths [.name text] = [] := rfl

@[simp] theorem paths_occurredAt (path : FieldPath) : paths [.occurredAt path] = [path] := rfl

theorem Single.of_append (h : Single (ps ++ qs)) : Single ps := by
  have hnames := h.names
  have hpaths := h.paths
  rw [names_append, List.length_append] at hnames
  rw [paths_append, List.length_append] at hpaths
  exact ⟨by omega, by omega⟩

/-- One more setting is given for the first time, or it has been given before. -/
theorem single_or_repeats (h : Single ps) (p : EventPair) :
    Single (ps ++ [p]) ∨ ∃ f, Repeats ps p f := by
  obtain ⟨hnames, hpaths⟩ := h
  cases p with
  | name text =>
    by_cases hnone : names ps = []
    · exact Or.inl ⟨by simp [hnone], by simpa using hpaths⟩
    · exact Or.inr ⟨_, .name text hnone⟩
  | occurredAt path =>
    by_cases hnone : paths ps = []
    · exact Or.inl ⟨by simpa using hnames, by simp [hnone]⟩
    · exact Or.inr ⟨_, .occurredAt path hnone⟩

/-- More settings are given for the first time, or there is a first one that has been given before. -/
theorem single_or_first_repeats (h : Single ps) (qs : List EventPair) : Single (ps ++ qs) ∨
    ∃ first p rest f, qs = first ++ p :: rest ∧ Single (ps ++ first) ∧ Repeats (ps ++ first) p f := by
  -- From the end of the list: a setting that repeats remains the first to do so, whatever follows.
  induction qs using List.reverseRecOn with
  | nil =>
    rw [List.append_nil]
    exact Or.inl h
  | append_singleton qs q ih =>
    rcases ih with hsingle | ⟨first, p, rest, f, rfl, hsingle, hp⟩
    · rcases single_or_repeats hsingle q with hmore | ⟨f, hf⟩
      · rw [List.append_assoc] at hmore
        exact Or.inl hmore
      · exact Or.inr ⟨qs, q, [], f, rfl, hsingle, hf⟩
    · exact Or.inr ⟨first, p, rest ++ [q], f, List.append_assoc .., hsingle, hp⟩

end EventPair

/-! ## Several attributes -/

namespace Attribute

/-- Attributes follow the grammar, and all of them together give these settings. -/
inductive AllGive : List Attribute → List EventPair → Prop
  | none : AllGive [] []
  | more {as : List Attribute} {a : Attribute} {ps qs : List EventPair} (h : AllGive as ps)
      (ha : a.Gives qs) : AllGive (as ++ [a]) (ps ++ qs)

/-- What is wrong first with event attributes: the settings before are well formed, and none is given
twice. -/
inductive FirstFault : List Attribute → Fault → Prop
  | misformed {before after : List Attribute} {a : Attribute} {ps : List EventPair} {f : Fault}
      (h : AllGive before ps) (hsingle : EventPair.Single ps) (ha : a.Misformed f) :
      FirstFault (before ++ a :: after) f
  | repeats {before after : List Attribute} {a : Attribute} {ps first rest : List EventPair}
      {p : EventPair} {f : Fault} (h : AllGive before ps) (ha : a.Gives (first ++ p :: rest))
      (hsingle : EventPair.Single (ps ++ first)) (hp : EventPair.Repeats (ps ++ first) p f) :
      FirstFault (before ++ a :: after) f

variable {as : List Attribute} {a : Attribute} {f : Fault}

theorem FirstFault.append (h : FirstFault as f) (bs : List Attribute) : FirstFault (as ++ bs) f := by
  cases h with
  | misformed h hsingle ha =>
    rw [List.append_assoc, List.cons_append]
    exact .misformed h hsingle ha
  | repeats h ha hsingle hp =>
    rw [List.append_assoc, List.cons_append]
    exact .repeats h ha hsingle hp

/-- Attributes give each setting at most once, or something is wrong with them. -/
theorem single_or_firstFault (as : List Attribute) :
    (∃ ps, AllGive as ps ∧ EventPair.Single ps) ∨ ∃ f, FirstFault as f := by
  induction as using List.reverseRecOn with
  | nil => exact Or.inl ⟨[], .none, Nat.zero_le 1, Nat.zero_le 1⟩
  | append_singleton as a ih =>
    rcases ih with ⟨ps, hps, hsingle⟩ | ⟨f, hf⟩
    · rcases a.gives_or_misformed with ⟨qs, hqs⟩ | ⟨f, hf⟩
      · rcases EventPair.single_or_first_repeats hsingle qs with
          hmore | ⟨first, p, rest, f, rfl, hfirst, hp⟩
        · exact Or.inl ⟨ps ++ qs, .more hps hqs, hmore⟩
        · exact Or.inr ⟨f, .repeats hps hqs hfirst hp⟩
      · exact Or.inr ⟨f, .misformed hps hsingle hf⟩
    · exact Or.inr ⟨f, hf.append [a]⟩

end Attribute

/-! ## What has been taken in -/

namespace EventFacts

open EventPair Attribute

/-- What is known after some settings. -/
def ofPairs (ps : List EventPair) : EventFacts :=
  ⟨(names ps).head?, (paths ps).head?⟩

variable {ps qs first rest : List EventPair} {p : EventPair} {f : Fault}
  {as before after : List Attribute} {a : Attribute}

/-- A setting that is given for the first time is taken in. -/
theorem add_of_single (h : Single (ps ++ [p])) : (ofPairs ps).add p = .ok (ofPairs (ps ++ [p])) := by
  cases p with
  | name text =>
    have hnone : names ps = [] := by simpa using h.names
    simp [add, ofPairs, hnone]
  | occurredAt path =>
    have hnone : paths ps = [] := by simpa using h.paths
    simp [add, ofPairs, hnone]

/-- A setting that has been given before is a fault. -/
theorem add_of_repeats (h : Repeats ps p f) : (ofPairs ps).add p = .error f := by
  cases h with
  | name text h | occurredAt path h =>
    obtain ⟨x, xs, hxs⟩ := List.exists_cons_of_ne_nil h
    rw [ofPairs, hxs]
    rfl

theorem addAll_of_single (h : Single (ps ++ qs)) :
    (ofPairs ps).addAll qs = .ok (ofPairs (ps ++ qs)) := by
  -- What has been taken in grows by one setting with each that is left.
  induction qs generalizing ps with
  | nil => rw [List.append_nil, addAll]
  | cons q qs ih =>
    rw [List.append_cons] at h ⊢
    rw [addAll, add_of_single h.of_append]
    exact ih h

theorem addAll_of_repeats (h : Single (ps ++ first)) (hp : Repeats (ps ++ first) p f) :
    (ofPairs ps).addAll (first ++ p :: rest) = .error f := by
  induction first generalizing ps with
  | nil =>
    rw [List.append_nil] at hp
    rw [List.nil_append, addAll, add_of_repeats hp]
    rfl
  | cons q first ih =>
    rw [List.append_cons] at h hp
    rw [List.cons_append, addAll, add_of_single h.of_append]
    exact ih h hp

theorem addAttributes_cons (ha : a.isEvent = true) (g : EventFacts) (after : List Attribute) :
    g.addAttributes (a :: after) =
      ((a.pairs >>= g.addAll) >>= fun g' => g'.addAttributes after) := by
  rw [addAttributes, addAttribute, if_pos ha]

/-- If attributes are taken in, those after them come next. -/
theorem addAttributes_append_of_ok {g g' : EventFacts} (h : g.addAttributes before = .ok g')
    (after : List Attribute) : g.addAttributes (before ++ after) = g'.addAttributes after := by
  induction before generalizing g with
  | nil =>
    obtain rfl := Except.ok.inj h
    rfl
  | cons a before ih =>
    rw [addAttributes] at h
    rw [List.cons_append, addAttributes]
    cases hg : g.addAttribute a with
    | error f =>
      rw [hg] at h
      exact absurd h (by simp [bind, Except.bind])
    | ok g'' =>
      rw [hg] at h
      exact ih h

/-- **Attributes that are not about the event have no influence.** -/
theorem addAttributes_filter (g : EventFacts) (as : List Attribute) :
    g.addAttributes (as.filter isEvent) = g.addAttributes as := by
  induction as generalizing g with
  | nil => rfl
  | cons a as ih =>
    cases ha : a.isEvent with
    | false =>
      rw [List.filter_cons_of_neg (by rw [ha]; exact Bool.false_ne_true), ih, addAttributes,
        addAttribute, if_neg (by rw [ha]; exact Bool.false_ne_true)]
      rfl
    | true =>
      rw [List.filter_cons_of_pos ha, addAttributes, addAttributes]
      exact bind_congr ih

/-- Event attributes that give nothing twice are taken in. -/
theorem addAttributes_of_allGive (h : AllGive as ps) (hevent : ∀ a ∈ as, a.isEvent = true)
    (hsingle : Single ps) : none.addAttributes as = .ok (ofPairs ps) := by
  induction h with
  | none => rfl
  | @more as a ps qs h ha ih =>
    have hbefore := ih (fun a ha => hevent a (List.mem_append_left _ ha)) hsingle.of_append
    have hlast : a.pairs >>= (ofPairs ps).addAll = .ok (ofPairs (ps ++ qs)) := by
      rw [pairs_of_gives ha]
      exact addAll_of_single hsingle
    rw [addAttributes_append_of_ok hbefore, addAttributes_cons (hevent a (by simp)), hlast]
    rfl

/-- If an attribute is at fault after others have been taken in, its fault is reported. -/
theorem addAttributes_of_error (hevent : ∀ b ∈ before ++ a :: after, b.isEvent = true)
    (h : AllGive before ps) (hsingle : Single ps)
    (ha : a.pairs >>= (ofPairs ps).addAll = .error f) :
    none.addAttributes (before ++ a :: after) = .error f := by
  have hbefore :=
    addAttributes_of_allGive h (fun b hb => hevent b (List.mem_append_left _ hb)) hsingle
  rw [addAttributes_append_of_ok hbefore, addAttributes_cons (hevent a (by simp)), ha]
  rfl

/-- The first fault of event attributes is reported. -/
theorem addAttributes_of_firstFault (h : FirstFault as f) (hevent : ∀ a ∈ as, a.isEvent = true) :
    none.addAttributes as = .error f := by
  cases h with
  | misformed h hsingle ha =>
    refine addAttributes_of_error hevent h hsingle ?_
    rw [pairs_of_misformed ha]
    rfl
  | repeats h ha hsingle hp =>
    refine addAttributes_of_error hevent h hsingle.of_append ?_
    rw [pairs_of_gives ha]
    exact addAll_of_repeats hsingle hp

end EventFacts

/-! ## Items -/

namespace Item

open EventPair Attribute

/-- The attributes that are about the event. -/
def eventAttributes (i : Item) : List Attribute :=
  i.attributes.filter fun a => a.AboutEvent

/-- An item is accepted, with its implementation. -/
inductive Accepted (i : Item) : Implementation → Prop
  | intro {fields : List String} {ps : List EventPair} {text : TextLiteral}
      (hshape : i.shape = .named fields) (hgive : AllGive i.eventAttributes ps)
      (hname : names ps = [text]) (hvalue : text.value ≠ []) (htime : (paths ps).length ≤ 1)
      (hfield : (timePath ps).root ∈ fields) :
      Accepted i ⟨i.name, i.generics, text.written, timePath ps⟩

/-- What is wrong first with an item. -/
inductive Violated (i : Item) : Fault → Prop
  | unnamedFields (h : i.shape = .tuple ∨ i.shape = .unit) : Violated i .unnamedFields
  | notRecord (h : i.shape = .enumeration ∨ i.shape = .union) : Violated i .notRecord
  | attributes {fields : List String} {f : Fault} (hshape : i.shape = .named fields)
      (h : FirstFault i.eventAttributes f) : Violated i f
  | missingName {fields : List String} {ps : List EventPair} (hshape : i.shape = .named fields)
      (hgive : AllGive i.eventAttributes ps) (htime : (paths ps).length ≤ 1) (hname : names ps = []) :
      Violated i .missingName
  | emptyName {fields : List String} {ps : List EventPair} {text : TextLiteral}
      (hshape : i.shape = .named fields) (hgive : AllGive i.eventAttributes ps)
      (htime : (paths ps).length ≤ 1) (hname : names ps = [text]) (hvalue : text.value = []) :
      Violated i .emptyName
  | missingField {fields : List String} {ps : List EventPair} {text : TextLiteral}
      (hshape : i.shape = .named fields) (hgive : AllGive i.eventAttributes ps)
      (htime : (paths ps).length ≤ 1) (hname : names ps = [text]) (hvalue : text.value ≠ [])
      (hfield : (timePath ps).root ∉ fields) : Violated i (.missingField (timePath ps).root)

variable {i : Item} {fields : List String} {ps : List EventPair} {d : Implementation} {f : Fault}

theorem eventAttributes_eq (i : Item) : i.eventAttributes = i.attributes.filter Attribute.isEvent :=
  List.filter_congr fun a _ => a.isEvent_eq_decide.symm

theorem isEvent_of_mem_eventAttributes {a : Attribute} (h : a ∈ i.eventAttributes) :
    a.isEvent = true :=
  (List.mem_filter.1 (i.eventAttributes_eq ▸ h)).2

/-- What is made of the settings of a record that gives nothing twice. -/
theorem expand_of_allGive (hshape : i.shape = .named fields) (hgive : AllGive i.eventAttributes ps)
    (hsingle : Single ps) : i.expand = match (names ps).head? with
      | none => .error .missingName
      | some text =>
        if text.value.isEmpty then .error .emptyName
        else if (timePath ps).root ∈ fields then
          .ok ⟨i.name, i.generics, text.written, timePath ps⟩
        else .error (.missingField (timePath ps).root) := by
  have hfacts : EventFacts.none.addAttributes i.attributes = .ok (EventFacts.ofPairs ps) := by
    rw [← EventFacts.addAttributes_filter, ← eventAttributes_eq]
    exact EventFacts.addAttributes_of_allGive hgive (fun _ => isEvent_of_mem_eventAttributes) hsingle
  rw [expand, Item.fields, hshape]
  change (EventFacts.none.addAttributes i.attributes >>= _) = _
  rw [hfacts]
  rfl

theorem expand_of_firstFault (hshape : i.shape = .named fields)
    (h : FirstFault i.eventAttributes f) : i.expand = .error f := by
  have hfacts : EventFacts.none.addAttributes i.attributes = .error f := by
    rw [← EventFacts.addAttributes_filter, ← eventAttributes_eq]
    exact EventFacts.addAttributes_of_firstFault h fun _ => isEvent_of_mem_eventAttributes
  rw [expand, Item.fields, hshape]
  change (EventFacts.none.addAttributes i.attributes >>= _) = _
  rw [hfacts]
  rfl

theorem expand_of_accepted (h : i.Accepted d) : i.expand = .ok d := by
  obtain ⟨hshape, hgive, hname, hvalue, htime, hfield⟩ := h
  rw [expand_of_allGive hshape hgive ⟨by rw [hname]; exact Nat.le_refl 1, htime⟩, hname]
  simp [hvalue, hfield]

theorem expand_of_violated (h : i.Violated f) : i.expand = .error f := by
  cases h with
  | unnamedFields h | notRecord h =>
    rw [expand, Item.fields]
    rcases h with h | h <;> rw [h] <;> rfl
  | attributes hshape h => exact expand_of_firstFault hshape h
  | missingName hshape hgive htime hname =>
    rw [expand_of_allGive hshape hgive ⟨by rw [hname]; exact Nat.zero_le 1, htime⟩, hname]
    rfl
  | emptyName hshape hgive htime hname hvalue =>
    rw [expand_of_allGive hshape hgive ⟨by rw [hname]; exact Nat.le_refl 1, htime⟩, hname]
    simp [hvalue]
  | missingField hshape hgive htime hname hvalue hfield =>
    rw [expand_of_allGive hshape hgive ⟨by rw [hname]; exact Nat.le_refl 1, htime⟩, hname]
    simp [hvalue, hfield]

/-- A record that gives nothing twice is accepted, or its name or its field is at fault. -/
theorem accepted_or_violated_of_allGive (hshape : i.shape = .named fields)
    (hgive : AllGive i.eventAttributes ps) (hsingle : Single ps) :
    (∃ d, i.Accepted d) ∨ ∃ f, i.Violated f := by
  obtain ⟨hnames, htime⟩ := hsingle
  cases hname : names ps with
  | nil => exact Or.inr ⟨_, .missingName hshape hgive htime hname⟩
  | cons text others =>
    rw [hname, List.length_cons] at hnames
    obtain rfl : others = [] := List.length_eq_zero_iff.1 (by omega)
    by_cases hvalue : text.value = []
    · exact Or.inr ⟨_, .emptyName hshape hgive htime hname hvalue⟩
    by_cases hfield : (timePath ps).root ∈ fields
    · exact Or.inl ⟨_, .intro hshape hgive hname hvalue htime hfield⟩
    · exact Or.inr ⟨_, .missingField hshape hgive htime hname hvalue hfield⟩

theorem accepted_or_violated (i : Item) : (∃ d, i.Accepted d) ∨ ∃ f, i.Violated f := by
  cases hshape : i.shape with
  | named fields =>
    rcases single_or_firstFault i.eventAttributes with ⟨ps, hgive, hsingle⟩ | ⟨f, hf⟩
    · exact accepted_or_violated_of_allGive hshape hgive hsingle
    · exact Or.inr ⟨f, .attributes hshape hf⟩
  | tuple => exact Or.inr ⟨_, .unnamedFields (Or.inl hshape)⟩
  | unit => exact Or.inr ⟨_, .unnamedFields (Or.inr hshape)⟩
  | enumeration => exact Or.inr ⟨_, .notRecord (Or.inl hshape)⟩
  | union => exact Or.inr ⟨_, .notRecord (Or.inr hshape)⟩

/-- **An item is accepted if and only if it follows the grammar, and what is reported otherwise is what
is wrong first.**  Attributes with other paths have no influence. -/
theorem verdict (i : Item) : (∀ d, i.expand = .ok d ↔ i.Accepted d) ∧
    (∀ f, i.expand = .error f ↔ i.Violated f) ∧
    ({ i with attributes := i.eventAttributes } : Item).expand = i.expand := by
  refine ⟨fun d => ⟨fun h => ?_, expand_of_accepted⟩, fun f => ⟨fun h => ?_, expand_of_violated⟩, ?_⟩
  · rcases accepted_or_violated i with ⟨e, he⟩ | ⟨f, hf⟩
    · obtain rfl := Except.ok.inj ((expand_of_accepted he).symm.trans h)
      exact he
    · exact absurd ((expand_of_violated hf).symm.trans h) (by simp)
  · rcases accepted_or_violated i with ⟨d, hd⟩ | ⟨g, hg⟩
    · exact absurd ((expand_of_accepted hd).symm.trans h) (by simp)
    · obtain rfl := Except.error.inj ((expand_of_violated hg).symm.trans h)
      exact hg
  · rw [expand, expand]
    exact bind_congr fun fields => by rw [eventAttributes_eq, EventFacts.addAttributes_filter]

/-- The second attribute repeats the name, and so it does not matter that the first name is empty and that
there is no field for the time. -/
example : expand ⟨[.ofPairs [.name ⟨"\"\"", []⟩], .ofPairs [.name ⟨"\"left\"", "left".toList⟩]],
    .named [], "Left", ⟨[], false, []⟩⟩ = .error .duplicateName := by
  rfl

end Item
end Derive
end Switchboard
