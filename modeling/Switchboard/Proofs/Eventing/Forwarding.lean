import Switchboard.Proofs.Eventing.Delivery

/-!
# A bus that only passes events on

Once everybody has subscribed, a bus may be left to pass on what is published to it.  Its steps are
then of a few kinds (`BusStep.isForward`): nobody subscribes any more, nothing is fanned out past the
queue, and nobody closes the bus.  If nobody hears of the events synchronously either, then a publishing
call does nothing but leave its event to the bus.

What is scheduled in such a run can be read off the events that have been fanned out
(`Forwarding.scheduled`): for each of them, every listener of its name, as the registry had them from
the beginning.  And when the bus comes to rest and no call is under way, the events that have been
fanned out are those that have been published (`Reached.fannedOut_perm`).
-/

namespace Switchboard

/-- Whether a step passes events on, and does nothing else. -/
def BusStep.isForward {H : Type} : BusStep H → Bool
  | publish _ => true
  | call _ => true
  | worker _ => true
  | deferred _ => true
  | closer _ => true
  | finish _ _ => true
  | _ => false

namespace Bus

variable {H : Type}

open History

/-- What is known of a bus that has only passed on events for which `P` holds, with listeners as in a
registry. -/
structure Forwarding (P : Event → Prop) (r : Registry H) (past : History H) (b : Bus H) : Prop where
  registry : b.registry = r
  calls : ∀ c ∈ b.calls, ∃ e, P e ∧ (c.stage = .publishing e ∨ c.stage = .calling e [] none)
  begun : ∀ p ∈ postings .begun past, P p.event
  scheduled : (scheduled past).map (fun v => (v.listener, v.event)) =
    (postings .fannedOut past).flatMap fun p =>
      (r.listeners .async p.event.name).map fun l => (l, p.event)

variable {P : Event → Prop} {r : Registry H} {past fx : History H} {b c : Bus H} {s : BusStep H}

namespace Forwarding

/-- Calls that go on are still calls that pass events on. -/
theorem calls_setCall (h : Forwarding P r past b) {id : Nat} {e : Event} {stage : CallStage H}
    (he : P e) (hs : stage = .publishing e ∨ stage = .calling e [] none) :
    ∀ c ∈ (b.setCall id stage).calls,
      ∃ e, P e ∧ (c.stage = .publishing e ∨ c.stage = .calling e [] none) := by
  intro c hc
  obtain ⟨x, hx, rfl⟩ := List.mem_map.1 hc
  by_cases hid : x.id = id
  · rw [if_pos hid]
    exact ⟨e, he, hs⟩
  · rw [if_neg hid]
    exact h.calls x hx

/-- A step that neither begins to publish nor fans out. -/
theorem frame (h : Forwarding P r past b) (hr : c.registry = b.registry)
    (hc : ∀ x ∈ c.calls, ∃ e, P e ∧ (x.stage = .publishing e ∨ x.stage = .calling e [] none))
    (hb : postings .begun fx = []) (hf : postings .fannedOut fx = [])
    (hs : History.scheduled fx = []) : Forwarding P r (past ++ fx) c where
  registry := hr.trans h.registry
  calls := hc
  begun := by
    rw [postings_append, hb, List.append_nil]
    exact h.begun
  scheduled := by
    rw [scheduled_append, hs, postings_append, hf, List.append_nil, List.append_nil]
    exact h.scheduled

/-- A fan-out schedules the listeners that the registry has. -/
theorem fanOut (h : Forwarding P r past b) {i : Nat} {p : Posting} :
    Forwarding P r
      (past ++ fan (some p.call) p.event (b.started (some p.call) p.event))
      ((b.setWorker i .ready).fannedOut (some p.call) p.event) where
  registry := h.registry
  calls := h.calls
  begun := by
    rw [postings_append, postings_fan]
    show ∀ q ∈ postings .begun past ++ [], P q.event
    rw [List.append_nil]
    exact h.begun
  scheduled := by
    have hall := congrArg (List.map Prod.snd) (map_invocations (some p.call) p.event
      (b.registry.listeners .async p.event.name) b.nextId)
    rw [List.map_map, List.map_map, h.registry] at hall
    rw [scheduled_append, scheduled_fan, postings_append, postings_fan, List.map_append,
      List.flatMap_append, h.scheduled, started, h.registry]
    refine congrArg _ (hall.trans ?_)
    show _ = List.flatMap _ [p]
    rw [List.flatMap_singleton]
    rfl

/-- **Steps that pass events on keep what is known.** -/
theorem step (hP : ∀ e, P e → r.listeners .sync e.name = []) (h : Forwarding P r past b)
    (ht : Transition b s c fx) (hs : s.isForward = true) (he : ∀ e, s = .publish e → P e) :
    Forwarding P r (past ++ fx) c := by
  -- A call of a bus that passes events on is at one of two stages.
  have hstage {id : Nat} {stage : CallStage H} (hc : ⟨id, stage⟩ ∈ b.calls) :
      ∃ e, P e ∧ (stage = .publishing e ∨ stage = .calling e [] none) := h.calls _ hc
  have hdrop (id : Nat) := fun x (hx : x ∈ (b.dropCall id).calls) =>
    h.calls x (List.mem_of_mem_filter hx)
  cases ht with
  | beginPublish e =>
    have hpe := he e rfl
    refine ⟨h.registry, fun x hx => ?_, fun p hp => ?_, ?_⟩
    · rcases List.mem_append.1 hx with hx | hx
      · exact h.calls x hx
      · rw [List.mem_singleton.1 hx]
        exact ⟨e, hpe, Or.inl rfl⟩
    · rw [postings_append] at hp
      rcases List.mem_append.1 hp with hp | hp
      · exact h.begun p hp
      · rw [List.mem_singleton.1 hp]
        exact hpe
    · rw [scheduled_append, postings_append]
      show ((History.scheduled past) ++ []).map _ = (postings .fannedOut past ++ []).flatMap _
      rw [List.append_nil, List.append_nil]
      exact h.scheduled
  | lookUp hc =>
    obtain ⟨e, hpe, hstage | hstage⟩ := hstage hc
    · obtain rfl := CallStage.publishing.inj hstage
      refine h.frame rfl (h.calls_setCall hpe (Or.inr ?_)) rfl rfl rfl
      rw [h.registry, hP _ hpe]
    · exact absurd hstage (by simp)
  | invoke hc | subscribe hc | dispatch hc | skipDispatch hc =>
    obtain ⟨e, -, hstage | hstage⟩ := hstage hc <;> exact absurd hstage (by simp)
  | enter | defer => exact h.frame rfl (hdrop _) rfl rfl rfl
  | fanOut => exact h.fanOut
  | beginSubscribe | beginDispatch | endListener | collectOutside | collect | collectIgnored | close
    | abandonClose => exact absurd hs (by simp [BusStep.isForward])
  | _ => exact h.frame rfl h.calls rfl rfl rfl

/-- A publishing call never has to wait. -/
theorem step_call (h : Forwarding P r past b) (hn : (b.calls.map (·.id)).Nodup) {x : Call H}
    (hx : x ∈ b.calls) : ∃ next, b.step (.call x.id) = some next := by
  have hfind := find?_id_of_mem hn hx
  obtain ⟨e, -, hstage⟩ := h.calls x hx
  rcases hstage with hstage | hstage
  · exact ⟨_, by simp only [Bus.step, callStep, hfind, hstage]; rfl⟩
  · exact ⟨_, by simp only [Bus.step, callStep, hfind, hstage]; rfl⟩

/-- A publishing call goes on to its next stage, or it leaves its event to the bus and returns. -/
theorem of_call (h : Forwarding P r past b) {id : Nat} (ht : Transition b (.call id) c fx) :
    c.running = b.running ∧
      ((∃ stage, c.calls = (b.setCall id stage).calls ∧ fx = []) ∨
        ∃ p, c.calls = (b.dropCall id).calls ∧
          (fx = [.accepted p, .entered p, .returned id] ∨ fx = [.accepted p, .returned id])) := by
  have hstage {stage : CallStage H} (hc : ⟨id, stage⟩ ∈ b.calls) :
      ∃ e, stage = .publishing e ∨ stage = .calling e [] none := by
    obtain ⟨e, -, hstage⟩ := h.calls _ hc
    exact ⟨e, hstage⟩
  cases ht with
  | lookUp hc => exact ⟨rfl, Or.inl ⟨_, rfl, rfl⟩⟩
  | enter hc hf => exact ⟨rfl, Or.inr ⟨_, rfl, Or.inl rfl⟩⟩
  | defer hc hf => exact ⟨rfl, Or.inr ⟨_, rfl, Or.inr rfl⟩⟩
  | subscribe hc | invoke hc | dispatch hc | skipDispatch hc =>
    obtain ⟨e, hstage | hstage⟩ := hstage hc <;> exact absurd hstage (by simp)

end Forwarding

/-! ## At rest -/

variable {config : DispatcherConfig} {schedule : List (BusStep H)}

/-- Events that have been fanned out have begun to be published, each on its own. -/
theorem Reached.fannedOut_subperm (h : Reached config schedule past b) :
    (postings .fannedOut past).Subperm (postings .begun past) := by
  have hsettled : (postings .fannedOut past).Sublist (b.held ++ settled past) := by
    rw [settled, List.append_assoc]
    exact (List.sublist_append_left ..).trans (List.sublist_append_right ..)
  have haccepted := hsettled.subperm.trans h.balance.symm.subperm
  have hbegun : (postings .accepted past).Sublist (b.publishing ++ postings .accepted past) :=
    List.sublist_append_right ..
  exact haccepted.trans (hbegun.subperm.trans h.calls.begun.symm.subperm)

/-- **When nobody can go on and no call is under way, whatever has been published has been fanned
out.** -/
theorem Reached.fannedOut_perm (h : Reached config schedule past b) (hc : .collect true ∈ schedule)
    (hn : .close ∉ schedule) (hw : ∀ i, b.step (.worker i) = none)
    (hd : ∀ id, b.step (.deferred id) = none) (hcalls : b.calls = []) :
    (postings .fannedOut past).Perm (postings .begun past) := by
  have hk := h.not_cancelled hn
  have hbegun := h.calls.begun
  rw [publishing, hcalls, List.filterMap_nil, List.nil_append] at hbegun
  have hlost (f : Fate) (hf : f = .abandoned ∨ f = .skipped) : postings f past = [] := by
    refine List.eq_nil_iff_forall_not_mem.2 fun p hp => ?_
    obtain ⟨x, hx, hfate⟩ := mem_postings.1 hp
    exact Bool.false_ne_true ((h.not_dropped hk hx).symm.trans (isDrop_of_fate hfate hf))
  have hbalance := h.balance
  rw [h.held_eq_nil hc hn hw hd, settled, hlost .abandoned (Or.inl rfl), hlost .skipped (Or.inr rfl),
    List.append_nil, List.append_nil, List.nil_append] at hbalance
  exact hbalance.symm.trans hbegun.symm

end Bus
end Switchboard
