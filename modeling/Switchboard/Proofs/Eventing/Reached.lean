import Mathlib.Data.List.Induction
import Switchboard.Proofs.Eventing.Transition

/-!
# States that a bus can get into

`Reached` says that a new bus gets to a state by a schedule, like `Reaches`, but transition by
transition and with the news of the history only.  Whatever is kept by every transition is shown by
induction on it, and what has been shown before is at hand in the next induction: each invariant is
a theorem about reached states.
-/

namespace Switchboard

namespace Bus

variable {H : Type}

open History

/-- A new bus with these settings gets to a state by a schedule, with these news. -/
inductive Reached (config : DispatcherConfig) : List (BusStep H) → History H → Bus H → Prop where
  | new {b : Bus H} (hb : new? config = .ok b) : Reached config [] [] b
  | step {schedule : List (BusStep H)} {past fx : History H} {b c : Bus H} {s : BusStep H}
      (hb : Reached config schedule past b) (ht : Transition b s c fx) :
      Reached config (schedule ++ [s]) (past ++ fx) c

/-- A new bus: nothing has happened to it. -/
theorem eq_of_new? {config : DispatcherConfig} {b : Bus H} (h : new? config = .ok b) :
    ∃ hv : config.validate = .ok (), b = ⟨config, hv, .empty, [], config.bufferSize, false, [],
      [], 0, [], none, [], [], [], .constructed, false, 0⟩ := by
  rw [new?] at h
  split at h
  · rename_i hv
    exact ⟨hv, (Except.ok.inj h).symm⟩
  · exact absurd h (by simp)

variable {config : DispatcherConfig} {schedule : List (BusStep H)} {past : History H} {b : Bus H}

theorem Reached.refusing (h : Reached config schedule past b) : b.refusing = false := by
  induction h with
  | new hb =>
    obtain ⟨hv, rfl⟩ := eq_of_new? hb
    rfl
  | step _ ht ih => rw [ht.refusing, ih]

theorem Reached.config_eq (h : Reached config schedule past b) : b.config = config := by
  induction h with
  | new hb =>
    obtain ⟨hv, rfl⟩ := eq_of_new? hb
    rfl
  | step _ ht ih =>
    cases ht <;> exact ih

/-- Whatever is in a history is the doing of one step. -/
theorem Reached.cut (h : Reached config schedule past b) {before after : History H} {x : Effect H}
    (hp : past = before ++ x :: after) :
    ∃ earlier mid first s d fx rest, Reached config earlier mid first ∧ Transition first s d fx ∧
      before = mid ++ rest ∧ ∃ others, fx = rest ++ x :: others := by
  induction h generalizing after with
  | new hb => exact absurd hp (by simp)
  | @step earlier mid fx first d s hb ht ih =>
    rcases List.append_eq_append_iff.1 hp with ⟨rest, hbefore, hfx⟩ | ⟨middle, hmid, hafter⟩
    · exact ⟨earlier, mid, first, s, d, fx, rest, hb, ht, hbefore, after, hfx⟩
    · cases middle with
      | nil =>
        rw [List.append_nil] at hmid
        exact ⟨earlier, mid, first, s, d, fx, [], hb, ht, by rw [List.append_nil, hmid], after,
          hafter.symm⟩
      | cons y others =>
        obtain ⟨rfl, -⟩ := List.cons.inj hafter
        exact ih hmid

/-- What a run from a reached state gets to is reached. -/
theorem Reached.run (hb : Reached config schedule past b) {more : List (BusStep H)} {c : Bus H}
    {h : History H} (hrun : b.run more = some (c, h)) :
    Reached config (schedule ++ more) (past ++ news h) c := by
  induction more using List.reverseRecOn generalizing c h with
  | nil =>
    obtain ⟨rfl, rfl⟩ := Prod.mk.inj (Option.some.inj hrun)
    rw [news_nil, List.append_nil, List.append_nil]
    exact hb
  | append_singleton steps s ih =>
    obtain ⟨mid, fx, gx, hfirst, hs, rfl⟩ := run_concat_eq_some.1 hrun
    have hmid := ih hfirst
    rw [news_append, ← List.append_assoc, ← List.append_assoc]
    exact hmid.step (transition_of_step hmid.refusing hs)

/-- Along a run from a reached state, what holds at its beginning and is kept by every step holds at
its end. -/
theorem Reached.steps_induction {P : List (BusStep H) → History H → Bus H → Prop}
    (hb : Reached config schedule past b)
    (keep : ∀ {steps fx m s c gx}, b.run steps = some (m, fx) →
      Reached config (schedule ++ steps) (past ++ news fx) m → P steps fx m →
        m.step s = some (c, gx) → P (steps ++ [s]) (fx ++ gx) c)
    {more : List (BusStep H)} {c : Bus H} {h : History H} (hrun : b.run more = some (c, h))
    (start : P [] [] b) : P more h c := by
  induction more using List.reverseRecOn generalizing c h with
  | nil =>
    obtain ⟨rfl, rfl⟩ := Prod.mk.inj (Option.some.inj hrun)
    exact start
  | append_singleton steps s ih =>
    obtain ⟨mid, fx, gx, hfirst, hs, rfl⟩ := run_concat_eq_some.1 hrun
    exact keep hfirst (hb.run hfirst) (ih hfirst) hs

/-- Along a run from a reached state, what holds at its beginning and is kept by every transition
out of a reached state holds at its end. -/
theorem Reached.run_induction {P : History H → Bus H → Prop} (hb : Reached config schedule past b)
    (keep : ∀ {schedule past b s c fx gx}, Reached config schedule past b → P fx b →
      Transition b s c gx → P (fx ++ gx) c) {more : List (BusStep H)} {c : Bus H} {h : History H}
    (hrun : b.run more = some (c, h)) (start : P [] b) :
    P (news h) c ∧ Reached config (schedule ++ more) (past ++ news h) c := by
  refine ⟨hb.steps_induction (P := fun _ fx b => P (news fx) b) (fun _ hm hp hs => ?_) hrun start,
    hb.run hrun⟩
  rw [news_append]
  exact keep hm hp (transition_of_step hm.refusing hs)

/-- What a new bus reaches is reached, with the news of its history. -/
theorem Reaches.reached {h : History H} (hb : Reaches config schedule b h) :
    Reached config schedule (news h) b := by
  obtain ⟨fresh, hnew, hrun⟩ := hb
  exact (Reached.new hnew).run hrun

end Bus
end Switchboard
