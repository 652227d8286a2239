import Switchboard.Proofs.Eventing.Numbers
import Switchboard.Proofs.Eventing.Routing

/-!
# Invocations of asynchronous listeners

Invocations are scheduled by fan-outs and by nothing else, one for each listener that is registered
for the name of the event at that moment (`Transition.fanOuts`).  From then on they are at work
until they end by themselves: what has been scheduled is what is running and what has ended
(`Reached.invocations`), and the bus ends none of them (`Transition.finish_of_finished`).
-/

namespace Switchboard

namespace Bus

variable {H : Type}

open History

variable {b c : Bus H} {s : BusStep H} {fx past : History H}

/-- A step fans out no event and schedules nothing, or it fans out one event to its listeners. -/
theorem Transition.fanOuts (ht : Transition b s c fx) :
    fanOuts fx = [] ∧ scheduled fx = [] ∨
      ∃ source e, fanOuts fx = [(source, e)] ∧ scheduled fx = b.started source e := by
  cases ht with
  | @dispatch id e =>
    refine Or.inr ⟨none, e, ?_, ?_⟩
    · rw [fanOuts_append, fanOuts_fan]
      rfl
    · rw [scheduled_append, scheduled_fan]
      exact List.append_nil _
  | @fanOut i p => exact Or.inr ⟨some p.call, p.event, fanOuts_fan .., scheduled_fan ..⟩
  | close => refine Or.inl ⟨?_, ?_⟩ <;> split <;> rfl
  | _ => exact Or.inl ⟨rfl, rfl⟩

/-- The invocations of a fan-out: one for each listener. -/
theorem map_invocations (source : Option Nat) (e : Event) (ls : List (Listener H)) (n : Nat) :
    (invocations source e n ls).map (fun v => (v.source, v.listener, v.event)) =
      ls.map fun l => (source, l, e) := by
  induction ls generalizing n with
  | nil => rfl
  | cons l rest ih => rw [invocations, List.map_cons, ih, List.map_cons]

/-- All invocations of a fan-out are for its event. -/
theorem eq_of_mem_invocations {source : Option Nat} {e : Event} {ls : List (Listener H)} {n : Nat}
    {v : Invocation H} (hv : v ∈ invocations source e n ls) : v.source = source ∧ v.event = e := by
  have hmem := List.mem_map_of_mem (f := fun v => (v.source, v.listener, v.event)) hv
  rw [map_invocations] at hmem
  obtain ⟨l, -, heq⟩ := List.mem_map.1 hmem
  exact ⟨congrArg Prod.fst heq.symm, congrArg (·.2.2) heq.symm⟩

/-- An invocation ends only when its listener ends. -/
theorem Transition.finish_of_finished {v : Invocation H} {o : Outcome} (ht : Transition b s c fx)
    (hx : .finished v o ∈ fx) : s = .finish v.id o := by
  cases ht with
  | finish =>
    obtain ⟨rfl, rfl⟩ := Effect.finished.inj (List.mem_singleton.1 hx)
    rfl
  | dispatch | fanOut => simp [mem_fan] at hx
  | close => split at hx <;> simp at hx
  | _ => simp at hx

variable {config : DispatcherConfig} {schedule : List (BusStep H)}

/-- **What has been scheduled is running or has ended.** -/
theorem Reached.invocations (h : Reached config schedule past b) :
    (scheduled past).Perm (b.running ++ finished past) := by
  induction h with
  | new hb =>
    obtain ⟨hv, rfl⟩ := eq_of_new? hb
    exact List.Perm.refl _
  | @step _ past _ b _ _ hb ht ih =>
    have hstart (vs : List (Invocation H)) :
        (scheduled past ++ vs).Perm (b.running ++ vs ++ finished past) := by
      refine (ih.append_right vs).trans ?_
      rw [List.append_assoc, List.append_assoc]
      exact List.perm_append_comm.append_left _
    rw [scheduled_append, finished_append]
    cases ht with
    | @dispatch id e =>
      rw [scheduled_append, scheduled_fan, finished_append, finished_fan]
      show (scheduled past ++ (b.started none e ++ [])).Perm
        (b.running ++ b.started none e ++ (finished past ++ []))
      rw [List.append_nil, List.append_nil]
      exact hstart _
    | @fanOut i p =>
      rw [scheduled_fan, finished_fan, List.append_nil]
      exact hstart _
    | @finish v o hv =>
      have hp := perm_cons_filter hb.numbers.running.1 hv
      show (scheduled past ++ []).Perm
        ((b.running.filter fun x : Invocation H => x.id != v.id) ++ (finished past ++ [v]))
      rw [List.append_nil, ← List.append_assoc]
      exact (ih.trans (hp.append_right _)).trans (List.perm_append_singleton v _).symm
    | close =>
      have hs : scheduled (if b.cancelled then [] else [.cancelled] : History H) = [] := by
        split <;> rfl
      have hf : finished (if b.cancelled then [] else [.cancelled] : History H) = [] := by
        split <;> rfl
      rw [hs, hf, List.append_nil, List.append_nil]
      exact ih
    | _ =>
      show (scheduled past ++ []).Perm (b.running ++ (finished past ++ []))
      rw [List.append_nil, List.append_nil]
      exact ih

/-- The event of whose publishing call an invocation is has been fanned out. -/
theorem Reached.fannedOut_of_source (h : Reached config schedule past b) {v : Invocation H}
    (hv : v ∈ scheduled past) {n : Nat} (hn : v.source = some n) :
    ⟨n, v.event⟩ ∈ postings .fannedOut past := by
  induction h with
  | new => exact absurd hv List.not_mem_nil
  | @step _ past fx b _ _ _ ht ih =>
    rw [postings_append]
    rw [scheduled_append] at hv
    rcases List.mem_append.1 hv with hv | hv
    · exact List.mem_append_left _ (ih hv)
    · refine List.mem_append_right _ (mem_postings_fannedOut.2 ?_)
      rcases ht.fanOuts with ⟨-, hnone⟩ | ⟨source, e, hf, hs⟩
      · rw [hnone] at hv
        exact absurd hv List.not_mem_nil
      · rw [hs] at hv
        obtain ⟨hsource, hevent⟩ := eq_of_mem_invocations hv
        rw [hf, ← hsource, ← hevent, hn]
        exact List.mem_singleton_self _

/-- The registry of a bus is what its subscriptions have made of an empty one. -/
theorem Reached.registry (h : Reached config schedule past b) :
    b.registry = Registry.empty.insertAll (subscriptions past) := by
  induction h with
  | new hb =>
    obtain ⟨hv, rfl⟩ := eq_of_new? hb
    rfl
  | @step _ past fx b c _ _ ht ih =>
    rw [subscriptions_append, Registry.insertAll_append, ← ih]
    -- Whoever adds nothing to the registry leaves it alone.
    have hkeep (hr : c.registry = b.registry) (hs : subscriptions fx = []) :
        c.registry = b.registry.insertAll (subscriptions fx) := by
      rw [hr, hs]
      rfl
    cases ht with
    | subscribe => rfl
    | dispatch =>
      refine hkeep rfl ?_
      rw [subscriptions_append, subscriptions_fan]
      rfl
    | fanOut => exact hkeep rfl (subscriptions_fan ..)
    | close => refine hkeep rfl ?_; split <;> rfl
    | _ => exact hkeep rfl rfl

/-- **The registry lists the listeners that have been added to it**, each in its place, in order. -/
theorem Reached.listeners (h : Reached config schedule past b) (d : Delivery) (name : String) :
    b.registry.listeners d name = registered d name past := by
  rw [h.registry]
  exact (Registry.Lists.empty.insertAll (subscriptions past)).listeners_eq d name

end Bus
end Switchboard
