import Mathlib.Data.List.Nodup
import Switchboard.Eventing.Registry

/-!
# The registry against the list of what was inserted

A registry keeps two tables of rows and answers every question from a single row.  Here it is compared with
the plain list of the listeners that were inserted, first to last, and `routing` says that all answers are
parts of that list.

A table lists some listeners (`ListenerTable.Lists`) if the event names that somebody hears have one row
each and no others have any, and if the row of a name holds the listeners of that name, in order.  A
registry lists some (`Registry.Lists`) if each of its tables lists those of its way of delivery.  An
insertion keeps this up, with the listener at the end of the list (`Lists.insert`), and so do any number of
them (`Lists.insertAll`).

In which order the rows of a table stand depends on the name that was heard of first, and nobody can ask for
it.  Two registries are therefore taken to agree if their tables have the same rows (`Registry.Agrees`), and
that is so if and only if they give the same answers (`Lists.agrees_iff`).  Insertions into different rows
commute in this sense (`Lists.swap_agrees_iff`).  Within a row they do not, since the row shows which
listener came first.
-/

namespace Switchboard

variable {H : Type}

namespace ListenerTable

variable {t u : ListenerTable H} {ls ms : List (Listener H)} {l : Listener H}
  {row : String × List (Listener H)} {event : String}

/-! ## One table -/

/-- The event names that have a row. -/
def names (t : ListenerTable H) : List String :=
  t.map Prod.fst

/-- All listeners of a table, row after row. -/
def content (t : ListenerTable H) : List (Listener H) :=
  t.flatMap Prod.snd

@[simp] theorem names_cons (row : String × List (Listener H)) (t : ListenerTable H) :
    names (row :: t) = row.1 :: names t :=
  rfl

@[simp] theorem content_cons (row : String × List (Listener H)) (t : ListenerTable H) :
    content (row :: t) = row.2 ++ content t :=
  rfl

/-- A table lists some listeners, each in the row of the name it hears. -/
structure Lists (t : ListenerTable H) (ls : List (Listener H)) : Prop where
  distinct : (names t).Nodup
  mem_names : ∀ event, event ∈ names t ↔ event ∈ ls.map Listener.event
  find_eq : ∀ event, find event t = ls.filter fun l => l.event = event
  content_perm : (content t).Perm ls

/-- A row is made for an event name that has none, and only then. -/
theorem names_add (l : Listener H) (t : ListenerTable H) :
    names (add l t) = if l.event ∈ names t then names t else names t ++ [l.event] := by
  induction t with
  | nil => rfl
  | cons row rest ih =>
    rw [add, names_cons]
    by_cases hrow : row.1 = l.event
    · rw [if_pos hrow, names_cons, if_pos (List.mem_cons.2 (.inl hrow.symm))]
    · have hmem : l.event ∈ row.1 :: names rest ↔ l.event ∈ names rest :=
        List.mem_cons.trans (or_iff_right (Ne.symm hrow))
      rw [if_neg hrow, names_cons, ih]
      simp only [hmem]
      split <;> rfl

/-- Wherever its row is, a listener that is added is one more in the table. -/
theorem content_add (l : Listener H) (t : ListenerTable H) :
    (content (add l t)).Perm (content t ++ [l]) := by
  induction t with
  | nil => exact List.Perm.refl [l]
  | cons row rest ih =>
    rw [add]
    split
    · rw [content_cons, content_cons, List.append_assoc, List.append_assoc]
      exact List.perm_append_comm.append_left row.2
    · rw [content_cons, content_cons, List.append_assoc]
      exact ih.append_left row.2

/-- No table is left as it was when a listener is added. -/
theorem add_ne_self (l : Listener H) (t : ListenerTable H) : add l t ≠ t := by
  intro hadd
  have hlength := (content_add l t).length_eq
  rw [hadd, List.length_append, List.length_singleton] at hlength
  exact Nat.succ_ne_self _ hlength.symm

/-- A row is what is found under its name. -/
theorem mem_iff_find_eq (ht : (names t).Nodup) :
    row ∈ t ↔ row.1 ∈ names t ∧ find row.1 t = row.2 := by
  induction t with
  | nil => exact iff_of_false List.not_mem_nil fun hrow => List.not_mem_nil hrow.1
  | cons first rest ih =>
    obtain ⟨hfirst, hrest⟩ := List.nodup_cons.1 ht
    rw [List.mem_cons, ih hrest, find, names_cons, List.mem_cons]
    by_cases heq : first.1 = row.1
    · have hrow : row.1 ∉ names rest := heq ▸ hfirst
      rw [if_pos heq]
      constructor
      · rintro (rfl | ⟨hmem, -⟩)
        · exact ⟨.inl rfl, rfl⟩
        · exact absurd hmem hrow
      · rintro ⟨-, hlisteners⟩
        exact .inl (Prod.ext heq.symm hlisteners.symm)
    · rw [if_neg heq]
      constructor
      · rintro (rfl | ⟨hmem, hfind⟩)
        · exact absurd rfl heq
        · exact ⟨.inr hmem, hfind⟩
      · rintro ⟨hmem, hfind⟩
        exact .inr ⟨hmem.resolve_left (Ne.symm heq), hfind⟩

theorem Lists.nil : Lists ([] : ListenerTable H) [] :=
  ⟨List.nodup_nil, fun _ => Iff.rfl, fun _ => rfl, List.Perm.nil⟩

/-- A table goes on to list listeners when one is added. -/
theorem Lists.add (ht : Lists t ls) (l : Listener H) : Lists (add l t) (ls ++ [l]) where
  distinct := by
    rw [names_add]
    split
    · exact ht.distinct
    · next hnew => exact List.concat_eq_append ▸ ht.distinct.concat hnew
  mem_names event := by
    rw [names_add, List.map_append, List.mem_append, ← ht.mem_names event]
    split
    · next hold => exact ⟨.inl, fun hmem => hmem.elim id fun heq => List.mem_singleton.1 heq ▸ hold⟩
    · exact List.mem_append
  find_eq event := by
    rw [find_add, ht.find_eq, List.filter_append, List.filter_singleton]
    by_cases he : l.event = event <;> simp [he]
  content_perm := (content_add l t).trans (ht.content_perm.append_right [l])

/-- What has no row is heard by nobody. -/
theorem Lists.find_eq_nil_iff (ht : Lists t ls) : find event t = [] ↔ event ∉ names t := by
  rw [ht.find_eq, ht.mem_names, List.filter_eq_nil_iff, List.mem_map, not_exists]
  exact forall_congr' fun l => by rw [decide_eq_true_iff, not_and]

/-- Two tables have the same rows if and only if the same is found in them. -/
theorem Lists.perm_iff (ht : Lists t ls) (hu : Lists u ms) :
    t.Perm u ↔ ∀ event, find event t = find event u := by
  constructor
  · intro hperm event
    have hnames : event ∈ names t ↔ event ∈ names u := (hperm.map Prod.fst).mem_iff
    by_cases hmem : event ∈ names u
    · have hrow : (event, find event u) ∈ u := (mem_iff_find_eq hu.distinct).2 ⟨hmem, rfl⟩
      exact ((mem_iff_find_eq ht.distinct).1 (hperm.mem_iff.2 hrow)).2
    · rw [hu.find_eq_nil_iff.2 hmem, ht.find_eq_nil_iff, hnames]
      exact hmem
  · intro hfind
    have hnames (event : String) : event ∈ names t ↔ event ∈ names u := by
      rw [← not_iff_not, ← ht.find_eq_nil_iff, ← hu.find_eq_nil_iff, hfind]
    refine (List.perm_ext_iff_of_nodup ht.distinct.of_map hu.distinct.of_map).2 fun row => ?_
    rw [mem_iff_find_eq ht.distinct, mem_iff_find_eq hu.distinct, hnames, hfind]

end ListenerTable

namespace Registry

variable {r s : Registry H} {ls ms : List (Listener H)}

/-! ## Both tables -/

/-- Insert listeners, one after the other. -/
def insertAll (r : Registry H) (ls : List (Listener H)) : Registry H :=
  ls.foldl (fun s l => (s.insert l).1) r

theorem insertAll_append (r : Registry H) (ls ms : List (Listener H)) :
    r.insertAll (ls ++ ms) = (r.insertAll ls).insertAll ms :=
  List.foldl_append

/-- A registry lists some listeners, each in the table of its way of delivery. -/
def Lists (r : Registry H) (ls : List (Listener H)) : Prop :=
  ∀ d, ListenerTable.Lists (r.table d) (ls.filter fun l => l.delivery = d)

/-- Two registries have the same rows. -/
def Agrees (r s : Registry H) : Prop :=
  ∀ d, (r.table d).Perm (s.table d)

theorem Lists.empty : (Registry.empty : Registry H).Lists [] := by
  intro d
  cases d <;> exact .nil

/-- The way of delivery that an insertion reports is that of the listener. -/
theorem insert_snd (r : Registry H) (l : Listener H) : (r.insert l).2 = l.delivery := by
  rw [insert]
  cases l.delivery <;> rfl

/-- An insertion leaves the other table alone, and no more than that. -/
theorem table_insert_eq_self_iff (r : Registry H) (l : Listener H) (d : Delivery) :
    (r.insert l).1.table d = r.table d ↔ d ≠ l.delivery := by
  rw [table_insert, ne_comm]
  by_cases hd : l.delivery = d
  · rw [if_pos hd]
    exact iff_of_false (ListenerTable.add_ne_self l _) fun hne => hne hd
  · rw [if_neg hd]
    exact iff_of_true rfl hd

/-- **An insertion puts its listener at the end of the list.** -/
theorem Lists.insert (hr : r.Lists ls) (l : Listener H) : (r.insert l).1.Lists (ls ++ [l]) := by
  intro d
  rw [table_insert, List.filter_append, List.filter_singleton]
  by_cases hd : l.delivery = d
  · rw [if_pos hd, decide_eq_true hd]
    exact (hr d).add l
  · rw [if_neg hd, decide_eq_false hd, cond_false, List.append_nil]
    exact hr d

/-- **A registry lists what has been inserted**, in that order. -/
theorem Lists.insertAll (hr : r.Lists ls) (ms : List (Listener H)) :
    (r.insertAll ms).Lists (ls ++ ms) := by
  induction ms generalizing r ls with
  | nil => exact (List.append_nil ls).symm ▸ hr
  | cons m rest ih =>
    rw [← List.singleton_append, ← List.append_assoc]
    exact ih (hr.insert m)

/-- The answer to a question is the part of the list that it is about. -/
theorem Lists.listeners_eq (hr : r.Lists ls) (d : Delivery) (event : String) :
    r.listeners d event = ls.filter fun l => l.delivery = d ∧ l.event = event := by
  rw [listeners, (hr d).find_eq, List.filter_filter]
  exact List.filter_congr fun l _ => by rw [Bool.decide_and, Bool.and_comm]

/-- **Registries agree if and only if they answer every question alike.** -/
theorem Lists.agrees_iff (hr : r.Lists ls) (hs : s.Lists ms) :
    r.Agrees s ↔ ∀ d event, r.listeners d event = s.listeners d event :=
  forall_congr' fun d => (hr d).perm_iff (hs d)

/-! ## Insertions that change places -/

/-- Two neighbours that change places are noticed by whoever looks at both. -/
theorem filter_swap_iff {α : Type} (p : α → Bool) (before after : List α) (a b : α) :
    (before ++ a :: b :: after).filter p = (before ++ b :: a :: after).filter p ↔
      ¬(p a = true ∧ p b = true) ∨ a = b := by
  rw [List.filter_append, List.filter_append, List.append_cancel_left_eq]
  cases ha : p a <;> cases hb : p b <;> simp [ha, hb, eq_comm]

/-- **Two insertions in succession may change places** if they are about different names or ways of
delivery, and otherwise only if both are of the same listener. -/
theorem Lists.swap_agrees_iff (hr : r.Lists ls) (l m : Listener H) (after : List (Listener H)) :
    (r.insertAll (l :: m :: after)).Agrees (r.insertAll (m :: l :: after)) ↔
      l.event ≠ m.event ∨ l.delivery ≠ m.delivery ∨ l = m := by
  rw [(hr.insertAll _).agrees_iff (hr.insertAll _)]
  simp only [(hr.insertAll _).listeners_eq, filter_swap_iff, decide_eq_true_iff]
  constructor
  · intro hswap
    rcases hswap m.delivery m.event with hne | heq
    · by_cases hevent : l.event = m.event
      · exact .inr (.inl fun hdelivery => hne ⟨⟨hdelivery, hevent⟩, rfl, rfl⟩)
      · exact .inl hevent
    · exact .inr (.inr heq)
  · rintro (hne | hne | heq) d event
    · exact .inl fun ⟨hl, hm⟩ => hne (hl.2.trans hm.2.symm)
    · exact .inl fun ⟨hl, hm⟩ => hne (hl.1.trans hm.1.symm)
    · exact .inr heq

/-! ## The main result -/

/-- **A registry is the list of insertions, filtered.**  After any insertions, those who are listed for a way
of delivery and an event name are the listeners that were inserted with both, in order and as often as
they were, and their number is counted right.

A table holds the listeners of its way of delivery and no others, with one row for each event name.
Whatever is inserted next goes into one table, the one that the insertion reports, to the end of the row of
its name, and the other table stays as it is.  Two insertions may change places, whatever comes after them,
and neither the rows nor the answers show it, unless they are of different listeners for one name and one
way of delivery. -/
theorem routing (ls : List (Listener H)) :
    let r := (empty : Registry H).insertAll ls
    (∀ d event,
      r.listeners d event = ls.filter (fun l => l.delivery = d ∧ l.event = event) ∧
      r.count d event = (ls.filter fun l => l.delivery = d ∧ l.event = event).length) ∧
    (∀ d, (r.table d).names.Nodup ∧ (r.table d).content.Perm (ls.filter fun l => l.delivery = d)) ∧
    (∀ l, (r.insert l).2 = l.delivery ∧
      (∀ d, (r.insert l).1.table d = r.table d ↔ d ≠ (r.insert l).2) ∧
      ∀ event, (r.insert l).1.listeners (r.insert l).2 event =
        r.listeners (r.insert l).2 event ++ if l.event = event then [l] else []) ∧
    ∀ l m after,
      let s := r.insertAll (l :: m :: after)
      let s' := r.insertAll (m :: l :: after)
      (s.Agrees s' ↔ ∀ d event, s.listeners d event = s'.listeners d event) ∧
      (s.Agrees s' ↔ l.event ≠ m.event ∨ l.delivery ≠ m.delivery ∨ l = m) := by
  intro r
  have hr : r.Lists ls := Lists.empty.insertAll ls
  refine ⟨fun d event => ⟨hr.listeners_eq d event, ?_⟩,
    fun d => ⟨(hr d).distinct, (hr d).content_perm⟩,
    fun l => ⟨r.insert_snd l, fun d => ?_, fun event => ?_⟩,
    fun l m after => ⟨(hr.insertAll _).agrees_iff (hr.insertAll _), hr.swap_agrees_iff l m after⟩⟩
  · rw [count, hr.listeners_eq]
  · rw [table_insert_eq_self_iff, insert_snd]
  · rw [listeners_insert, insert_snd]
    simp only [true_and]

end Registry
end Switchboard
