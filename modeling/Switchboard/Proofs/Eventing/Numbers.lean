import Mathlib.Data.List.Nodup
import Mathlib.Data.List.Perm.Basic
import Switchboard.Proofs.Eventing.Reached

/-!
# Numbers

Calls, deferred events, invocations and calls to close get their numbers from one counter, so no
number is given twice (`Reached.numbers`).  Therefore the number of a party is as good as the party:
whoever is taken out of a list by its number is the only one that is taken out (`perm_cons_filter`).
-/

namespace Switchboard

namespace Bus

variable {H : Type}

open History

/-- Numbers that have been given out by a counter, none of them twice. -/
def Numbered (next : Nat) (ids : List Nat) : Prop :=
  ids.Nodup ∧ ∀ i ∈ ids, i < next

namespace Numbered

variable {next : Nat} {ids : List Nat}

theorem nil : Numbered next [] :=
  ⟨List.nodup_nil, fun _ hi => absurd hi (List.not_mem_nil)⟩

theorem mono {later : Nat} (h : Numbered next ids) (hl : next ≤ later) : Numbered later ids :=
  ⟨h.1, fun i hi => Nat.lt_of_lt_of_le (h.2 i hi) hl⟩

theorem sublist {fewer : List Nat} (h : Numbered next ids) (hs : fewer.Sublist ids) :
    Numbered next fewer :=
  ⟨h.1.sublist hs, fun i hi => h.2 i (hs.subset hi)⟩

theorem perm {others : List Nat} (h : Numbered next ids) (hp : ids.Perm others) :
    Numbered next others :=
  ⟨hp.nodup_iff.1 h.1, fun i hi => h.2 i (hp.mem_iff.2 hi)⟩

/-- The next numbers may be given. -/
theorem append_range (h : Numbered next ids) (n : Nat) :
    Numbered (next + n) (ids ++ List.range' next n) := by
  refine ⟨List.nodup_append.2 ⟨h.1, List.nodup_range', ?_⟩, fun i hi => ?_⟩
  · intro i hi j hj hij
    have hlt := h.2 i hi
    have hge := (List.mem_range'_1.1 hj).1
    omega
  · rcases List.mem_append.1 hi with hi | hi
    · exact Nat.lt_of_lt_of_le (h.2 i hi) (Nat.le_add_right ..)
    · exact (List.mem_range'_1.1 hi).2

theorem snoc (h : Numbered next ids) : Numbered (next + 1) (ids ++ [next]) :=
  h.append_range 1

end Numbered

/-- An entry with a number of its own can be put in front of the others. -/
theorem perm_cons_filter {α : Type} {key : α → Nat} {xs : List α} {x : α}
    (hn : (xs.map key).Nodup) (hx : x ∈ xs) :
    xs.Perm (x :: xs.filter fun y => key y != key x) := by
  induction xs with
  | nil => exact absurd hx List.not_mem_nil
  | cons y ys ih =>
    rw [List.map_cons, List.nodup_cons] at hn
    rcases List.mem_cons.1 hx with rfl | hx
    · have hself : ys.filter (fun y => key y != key x) = ys := by
        refine List.filter_eq_self.2 fun z hz => bne_iff_ne.2 fun heq => hn.1 ?_
        exact heq ▸ List.mem_map_of_mem hz
      rw [List.filter_cons_of_neg (by simp), hself]
    · have hne : key y ≠ key x := fun heq => hn.1 (heq ▸ List.mem_map_of_mem hx)
      rw [List.filter_cons_of_pos (p := fun y => key y != key x) (bne_iff_ne.2 hne)]
      exact ((ih hn.2 hx).cons y).trans (List.Perm.swap ..)

/-- An entry with a number of its own can be changed and put in front of the others. -/
theorem perm_cons_map {α : Type} {key : α → Nat} {xs : List α} {x : α} {f : α → α}
    (hn : (xs.map key).Nodup) (hx : x ∈ xs) (hf : ∀ y, key y ≠ key x → f y = y) :
    (xs.map f).Perm (f x :: xs.filter fun y => key y != key x) := by
  have hp := (perm_cons_filter hn hx).map f
  have hothers : (xs.filter fun y => key y != key x).map f =
      xs.filter fun y => key y != key x := by
    refine (List.map_congr_left fun y hy => ?_).trans (List.map_id' _)
    exact hf y (bne_iff_ne.1 (List.mem_filter.1 hy).2)
  rwa [List.map_cons, hothers] at hp

theorem filterMap_cons_toList {α β : Type} (f : α → Option β) (x : α) (xs : List α) :
    (x :: xs).filterMap f = (f x).toList ++ xs.filterMap f := by
  rw [List.filterMap_cons]
  cases f x <;> rfl

/-- An entry with a number of its own gives what it gives, and the others what they give. -/
theorem filterMap_perm {α β : Type} {key : α → Nat} {f : α → Option β} {xs : List α} {x : α}
    (hn : (xs.map key).Nodup) (hx : x ∈ xs) :
    (xs.filterMap f).Perm ((f x).toList ++ (xs.filter fun y => key y != key x).filterMap f) := by
  rw [← filterMap_cons_toList]
  exact (perm_cons_filter hn hx).filterMap f

/-- Whoever is looked for by a number of its own is found. -/
theorem find?_id_of_mem {α : Type} {key : α → Nat} {xs : List α} {x : α}
    (hn : (xs.map key).Nodup) (hx : x ∈ xs) :
    xs.find? (fun y => key y == key x) = some x := by
  cases h : xs.find? (fun y => key y == key x) with
  | none => exact absurd (beq_self_eq_true _) (List.find?_eq_none.1 h x hx)
  | some y =>
    obtain ⟨hy, hkey⟩ := mem_of_find?_id h
    rw [List.inj_on_of_nodup_map hn hy hx hkey]

/-- Whoever is put at the end of a list keeps what is said of all, if it changes nothing of it. -/
theorem perm_filter_append {α β : Type} {key : α → Nat} {f : α → β} {xs : List α} {x y : α}
    (hn : (xs.map key).Nodup) (hx : x ∈ xs) (hf : f y = f x) :
    (xs.map f).Perm (((xs.filter fun z => key z != key x) ++ [y]).map f) := by
  rw [List.map_append, List.map_singleton, hf]
  exact ((perm_cons_filter hn hx).map f).trans (List.perm_append_singleton ..).symm

theorem map_id_invocations (source : Option Nat) (e : Event) (ls : List (Listener H)) (n : Nat) :
    (invocations source e n ls).map (·.id) = List.range' n ls.length := by
  induction ls generalizing n with
  | nil => rfl
  | cons l rest ih =>
    rw [invocations, List.map_cons, ih, List.length_cons, List.range'_succ]

theorem length_invocations (source : Option Nat) (e : Event) (ls : List (Listener H)) (n : Nat) :
    (invocations source e n ls).length = ls.length := by
  rw [← List.length_map (f := Invocation.id), map_id_invocations, List.length_range']

/-- Entries may change as long as they keep their numbers. -/
theorem map_key_map {α : Type} {key : α → Nat} {f : α → α} (hf : ∀ x, key (f x) = key x)
    (xs : List α) : (xs.map f).map key = xs.map key := by
  rw [List.map_map]
  exact List.map_congr_left fun x _ => hf x

theorem map_id_relieve (idle : Bool) (closers : List Closer) :
    (relieve idle closers).map (·.id) = closers.map (·.id) := by
  rw [relieve]
  split
  · exact map_key_map (fun c => by split <;> rfl) closers
  · rfl

/-- Giving a slot back grants it to the first of those who wait, and nothing else changes; if nobody
waits, the slot is free. -/
theorem granted_cases (overflow : List Deferred) :
    (granted overflow = overflow ∧ spare overflow = 1 ∧ ∀ d ∈ overflow, d.stage ≠ .waiting) ∨
      ∃ before d after, overflow = before ++ d :: after ∧ d.stage = .waiting ∧
        granted overflow = before ++ { d with stage := .granted } :: after ∧
          spare overflow = 0 := by
  rw [granted, spare]
  induction overflow with
  | nil => exact Or.inl ⟨rfl, rfl, fun _ hd => absurd hd List.not_mem_nil⟩
  | cons x rest ih =>
    by_cases hx : x.stage = .waiting
    · rw [grantFirst, if_pos hx]
      exact Or.inr ⟨[], x, rest, rfl, hx, rfl, rfl⟩
    · rw [grantFirst, if_neg hx]
      rcases ih with ⟨hg, hs, hw⟩ | ⟨before, d, after, rfl, hd, hg, hs⟩
      · cases hr : grantFirst rest with
        | none =>
          refine Or.inl ⟨rfl, rfl, fun d hd => ?_⟩
          rcases List.mem_cons.1 hd with rfl | hd
          · exact hx
          · exact hw d hd
        | some r => exact absurd (by rw [hr] at hs; exact hs) (by simp)
      · cases hr : grantFirst (before ++ d :: after) with
        | none => exact absurd (by rw [hr] at hs; exact hs) (by simp)
        | some r =>
          rw [hr] at hg
          exact Or.inr ⟨x :: before, d, after, rfl, hd, congrArg (List.cons x) hg, rfl⟩

/-- A grant changes neither the numbers of the deferred events nor the events. -/
theorem map_granted {α : Type} {f : Deferred → α} (hf : ∀ d, f { d with stage := .granted } = f d)
    (overflow : List Deferred) : (granted overflow).map f = overflow.map f := by
  rcases granted_cases overflow with ⟨hg, -⟩ | ⟨before, d, after, ho, -, hg, -⟩
  · rw [hg]
  · rw [hg, ho, List.map_append, List.map_append, List.map_cons, List.map_cons, hf]

/-- The numbers of a bus are in order: in each list no number is there twice, and the counter is
past all of them. -/
structure NumbersKept (b : Bus H) : Prop where
  calls : Numbered b.nextId (b.calls.map (·.id))
  overflow : Numbered b.nextId (b.overflow.map (·.id))
  running : Numbered b.nextId (b.running.map (·.id))
  closers : Numbered b.nextId (b.closers.map (·.id))

variable {b : Bus H}

theorem map_id_setCall (b : Bus H) (id : Nat) (stage : CallStage H) :
    (b.setCall id stage).calls.map (·.id) = b.calls.map (·.id) :=
  map_key_map (fun c => by split <;> rfl) b.calls

theorem map_filter_sublist {α : Type} (key : α → Nat) (p : α → Bool) (xs : List α) :
    ((xs.filter p).map key).Sublist (xs.map key) :=
  List.filter_sublist.map key

namespace NumbersKept

theorem begin (hb : NumbersKept b) (stage : CallStage H) : NumbersKept (b.begin stage) where
  calls := by
    rw [Bus.begin, List.map_append]
    exact hb.calls.snoc
  overflow := hb.overflow.mono (Nat.le_succ _)
  running := hb.running.mono (Nat.le_succ _)
  closers := hb.closers.mono (Nat.le_succ _)

theorem setCall (hb : NumbersKept b) (id : Nat) (stage : CallStage H) :
    NumbersKept (b.setCall id stage) where
  calls := by
    rw [map_id_setCall]
    exact hb.calls
  overflow := hb.overflow
  running := hb.running
  closers := hb.closers

theorem dropCall (hb : NumbersKept b) (id : Nat) : NumbersKept (b.dropCall id) :=
  { hb with calls := hb.calls.sublist (map_filter_sublist ..) }

theorem fannedOut (hb : NumbersKept b) (source : Option Nat) (e : Event) :
    NumbersKept (b.fannedOut source e) where
  calls := hb.calls.mono (Nat.le_add_right ..)
  overflow := hb.overflow.mono (Nat.le_add_right ..)
  running := by
    rw [Bus.fannedOut, List.map_append, started, map_id_invocations, length_invocations]
    exact hb.running.append_range _
  closers := hb.closers.mono (Nat.le_add_right ..)

theorem taskEnded (hb : NumbersKept b) : NumbersKept b.taskEnded :=
  { hb with
    closers := by
      rw [Bus.taskEnded, map_id_relieve]
      exact hb.closers }

theorem dropDeferred (hb : NumbersKept b) (id : Nat) : NumbersKept (b.dropDeferred id) :=
  { hb with overflow := hb.overflow.sublist (map_filter_sublist ..) }

theorem slotReleased (hb : NumbersKept b) : NumbersKept b.slotReleased :=
  { hb with
    overflow := by
      rw [Bus.slotReleased, map_granted fun _ => rfl]
      exact hb.overflow }

theorem filterClosers (hb : NumbersKept b) (p : Closer → Bool) (phase : Phase) :
    NumbersKept { b with closers := b.closers.filter p, phase := phase } :=
  { hb with closers := hb.closers.sublist (map_filter_sublist ..) }

end NumbersKept

/-- **No number is given twice.** -/
theorem Reached.numbers {config : DispatcherConfig} {schedule : List (BusStep H)} {past : History H}
    (h : Reached config schedule past b) : NumbersKept b := by
  induction h with
  | new hb =>
    obtain ⟨hv, rfl⟩ := eq_of_new? hb
    exact ⟨.nil, .nil, .nil, .nil⟩
  | @step _ _ _ b _ _ _ ht ih =>
    cases ht with
    | beginSubscribe | beginPublish | beginDispatch => exact ih.begin _
    | subscribe => exact { ih.dropCall _ with }
    | lookUp | invoke | endListener => exact ih.setCall _ _
    | enter => exact { ih.dropCall _ with }
    | @defer id e hc hf =>
      exact
        { calls := (ih.dropCall id).calls.mono (Nat.le_succ _)
          overflow := by
            rw [List.map_append]
            exact ih.overflow.snoc
          running := ih.running.mono (Nat.le_succ _)
          closers := ih.closers.mono (Nat.le_succ _) }
    | dispatch => exact (ih.dropCall _).fannedOut _ _
    | skipDispatch => exact ih.dropCall _
    | close =>
      exact
        { calls := ih.calls.mono (Nat.le_succ _)
          overflow := ih.overflow.mono (Nat.le_succ _)
          running := ih.running.mono (Nat.le_succ _)
          closers := by
            rw [List.map_append]
            exact ih.closers.snoc }
    | abandonClose => exact ih.filterClosers _ _
    | closed => exact ih.filterClosers _ _
    | awaitTasks =>
      refine { ih with closers := ?_ }
      rw [map_key_map (fun c => by split <;> rfl) b.closers]
      exact ih.closers
    | receive => exact { ih.slotReleased with }
    | fanOut =>
      refine NumbersKept.fannedOut ?_ _ _
      exact { ih with }
    | enterFresh | enterGranted =>
      refine NumbersKept.taskEnded (NumbersKept.dropDeferred ?_ _)
      exact { ih with }
    | @wait d hd =>
      exact { ih with overflow := ih.overflow.perm (perm_filter_append ih.overflow.1 hd rfl) }
    | abandon => exact (ih.dropDeferred _).taskEnded
    | abandonGranted => exact (ih.dropDeferred _).slotReleased.taskEnded
    | finish =>
      exact NumbersKept.taskEnded
        { ih with running := ih.running.sublist (map_filter_sublist ..) }
    | _ => exact { ih with }

end Bus
end Switchboard
