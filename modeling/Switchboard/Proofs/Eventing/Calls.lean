import Switchboard.Proofs.Eventing.Numbers

/-!
# Calls

A call that has begun has not returned, and a call that has returned is gone; the same number never
stands for two calls.  A publishing call takes its event along until it leaves it to the bus, and it
returns as it does so.  Therefore the events of all publishing calls that have begun are those of
the calls that go on and those that have been accepted, each of them once (`CallsKept.begun`).
-/

namespace Switchboard

/-- The event of a publishing call. -/
def Call.posting? {H : Type} (c : Call H) : Option Posting :=
  match c.stage with
  | .publishing e => some ⟨c.id, e⟩
  | .calling e _ _ => some ⟨c.id, e⟩
  | _ => none

namespace Bus

variable {H : Type}

open History

/-- The events that publishing calls have yet to leave to the bus. -/
def publishing (b : Bus H) : List Posting :=
  b.calls.filterMap Call.posting?

/-- Calls are in order, with respect to what has happened. -/
structure CallsKept (past : History H) (b : Bus H) : Prop where
  numbered : Numbered b.nextId (b.calls.map (·.id) ++ returns past)
  begun : (postings .begun past).Perm (b.publishing ++ postings .accepted past)
  accepted : ((postings .accepted past).map (·.call)).Sublist (returns past)

variable {b : Bus H} {past : History H}

/-- Whoever is taken out of the calls takes its event along. -/
theorem publishing_perm {c : Call H} (hn : (b.calls.map (·.id)).Nodup) (hc : c ∈ b.calls) :
    b.publishing.Perm (c.posting?.toList ++ (b.dropCall c.id).publishing) := by
  have hp := (perm_cons_filter hn hc).filterMap Call.posting?
  rw [List.filterMap_cons] at hp
  cases he : c.posting? with
  | none =>
    rw [he] at hp
    exact hp
  | some p =>
    rw [he] at hp
    exact hp

/-- A call that begins brings its event along. -/
theorem publishing_begin (b : Bus H) (stage : CallStage H) :
    (b.begin stage).publishing = b.publishing ++ (⟨b.nextId, stage⟩ : Call H).posting?.toList := by
  rw [publishing, Bus.begin, List.filterMap_append, publishing]
  cases hp : (⟨b.nextId, stage⟩ : Call H).posting? with
  | none => rw [List.filterMap_cons_none hp]; rfl
  | some p => rw [List.filterMap_cons_some hp]; rfl

/-- A call that goes on keeps its event. -/
theorem publishing_setCall {c : Call H} {stage : CallStage H} (hn : (b.calls.map (·.id)).Nodup)
    (hc : c ∈ b.calls) (hs : (⟨c.id, stage⟩ : Call H).posting? = c.posting?) :
    (b.setCall c.id stage).publishing = b.publishing := by
  rw [publishing, setCall, List.filterMap_map, publishing]
  refine List.filterMap_congr fun x hx => ?_
  show Call.posting? (if x.id = c.id then _ else _) = _
  by_cases hid : x.id = c.id
  · have heq : x = c := List.inj_on_of_nodup_map hn hx hc hid
    rw [if_pos hid, heq]
    exact hs
  · rw [if_neg hid]

namespace CallsKept

/-- A call begins. -/
theorem begin (h : CallsKept past b) (stage : CallStage H) {fx : History H}
    (hb : postings .begun fx = (⟨b.nextId, stage⟩ : Call H).posting?.toList)
    (ha : postings .accepted fx = []) (hr : returns fx = []) :
    CallsKept (past ++ fx) (b.begin stage) where
  numbered := by
    rw [returns_append, hr, List.append_nil, Bus.begin, List.map_append]
    refine h.numbered.snoc.perm ?_
    rw [List.append_assoc, List.append_assoc]
    exact List.perm_append_comm.append_left _
  begun := by
    rw [postings_append, postings_append, hb, ha, List.append_nil, publishing_begin]
    refine (h.begun.append_right _).trans ?_
    rw [List.append_assoc, List.append_assoc]
    exact List.perm_append_comm.append_left _
  accepted := by
    rw [postings_append, ha, List.append_nil, returns_append, hr, List.append_nil]
    exact h.accepted

/-- A call goes on. -/
theorem goOn (h : CallsKept past b) {c : Call H} {stage : CallStage H} (hc : c ∈ b.calls)
    (hs : (⟨c.id, stage⟩ : Call H).posting? = c.posting?) {fx : History H}
    (hb : postings .begun fx = []) (ha : postings .accepted fx = []) (hr : returns fx = []) :
    CallsKept (past ++ fx) (b.setCall c.id stage) where
  numbered := by
    rw [returns_append, hr, List.append_nil, map_id_setCall]
    exact h.numbered
  begun := by
    have hn := h.numbered.1.sublist (List.sublist_append_left ..)
    rw [postings_append, postings_append, hb, ha, List.append_nil, List.append_nil,
      publishing_setCall hn hc hs]
    exact h.begun
  accepted := by
    rw [postings_append, ha, List.append_nil, returns_append, hr, List.append_nil]
    exact h.accepted

/-- A call returns, and its event is accepted if it has one. -/
theorem drop (h : CallsKept past b) {c : Call H} (hc : c ∈ b.calls) {fx : History H}
    (hb : postings .begun fx = []) (ha : postings .accepted fx = c.posting?.toList)
    (hr : returns fx = [c.id]) : CallsKept (past ++ fx) (b.dropCall c.id) where
  numbered := by
    have hn := h.numbered.1.sublist (List.sublist_append_left ..)
    have hp : (b.calls.map (·.id)).Perm (c.id :: (b.dropCall c.id).calls.map (·.id)) :=
      (perm_cons_filter hn hc).map _
    rw [returns_append, hr]
    refine h.numbered.perm ((hp.append_right _).trans ?_)
    rw [List.cons_append, ← List.append_assoc]
    exact (List.perm_append_singleton ..).symm
  begun := by
    have hn := h.numbered.1.sublist (List.sublist_append_left ..)
    have hp := publishing_perm hn hc
    rw [postings_append, postings_append, hb, ha, List.append_nil]
    refine h.begun.trans ((hp.append_right _).trans ?_)
    rw [List.append_assoc, ← List.append_assoc _ _ c.posting?.toList]
    exact List.perm_append_comm
  accepted := by
    rw [postings_append, ha, List.map_append, returns_append, hr]
    refine h.accepted.append ?_
    obtain ⟨id, stage⟩ := c
    cases stage with
    | subscribing | dispatching => exact List.nil_sublist _
    | publishing | calling => exact List.Sublist.refl _

/-- A step of which calls notice nothing. -/
theorem frame (h : CallsKept past b) {c : Bus H} {fx : History H} (hc : c.calls = b.calls)
    (hn : b.nextId ≤ c.nextId) (hb : postings .begun fx = []) (ha : postings .accepted fx = [])
    (hr : returns fx = []) : CallsKept (past ++ fx) c where
  numbered := by
    rw [returns_append, hr, List.append_nil, hc]
    exact h.numbered.mono hn
  begun := by
    rw [postings_append, postings_append, hb, ha, List.append_nil, List.append_nil, publishing, hc]
    exact h.begun
  accepted := by
    rw [postings_append, ha, List.append_nil, returns_append, hr, List.append_nil]
    exact h.accepted

end CallsKept

variable {config : DispatcherConfig} {schedule : List (BusStep H)}

/-- **Calls are in order in every state that a bus can get into.** -/
theorem Reached.calls (h : Reached config schedule past b) : CallsKept past b := by
  induction h with
  | new hb =>
    obtain ⟨hv, rfl⟩ := eq_of_new? hb
    exact ⟨.nil, List.Perm.refl _, List.Sublist.refl _⟩
  | @step _ past _ b _ _ hb ht ih =>
    cases ht with
    | beginSubscribe | beginPublish | beginDispatch => exact ih.begin _ rfl rfl rfl
    | @subscribe id l hc =>
      have hd : CallsKept (past ++ [.subscribed l, .returned id]) (b.dropCall id) :=
        ih.drop hc rfl rfl rfl
      exact ⟨hd.numbered, hd.begun, hd.accepted⟩
    | lookUp hc | invoke hc | endListener hc => refine ih.goOn hc ?_ ?_ ?_ ?_ <;> rfl
    | @enter id e hc =>
      have hd : CallsKept (past ++ [.accepted ⟨id, e⟩, .entered ⟨id, e⟩, .returned id])
        (b.dropCall id) := ih.drop hc rfl rfl rfl
      exact ⟨hd.numbered, hd.begun, hd.accepted⟩
    | @defer id e hc =>
      have hd : CallsKept (past ++ [.accepted ⟨id, e⟩, .returned id]) (b.dropCall id) :=
        ih.drop hc rfl rfl rfl
      exact ⟨hd.numbered.mono (Nat.le_succ _), hd.begun, hd.accepted⟩
    | @dispatch id e hc =>
      have hd : CallsKept (past ++ (fan none e (b.started none e) ++ [.returned id]))
          (b.dropCall id) := by
        refine ih.drop hc ?_ ?_ ?_
        · rw [postings_append, postings_fan]
          rfl
        · rw [postings_append, postings_fan]
          rfl
        · rw [returns_append, returns_fan]
          rfl
      exact ⟨hd.numbered.mono (Nat.le_add_right ..), hd.begun, hd.accepted⟩
    | skipDispatch hc => refine ih.drop hc ?_ ?_ ?_ <;> rfl
    | close =>
      refine ih.frame rfl (Nat.le_succ _) ?_ ?_ ?_ <;> split <;> rfl
    | fanOut =>
      exact ih.frame rfl (Nat.le_add_right ..) (postings_fan ..) (postings_fan ..) (returns_fan ..)
    | _ => exact ih.frame rfl (Nat.le_refl _) rfl rfl rfl

/-- No call leaves its event to the bus twice. -/
theorem Reached.nodup_accepted (h : Reached config schedule past b) :
    ((postings .accepted past).map (·.call)).Nodup :=
  (h.calls.numbered.1.sublist (List.sublist_append_right ..)).sublist h.calls.accepted

/-- The calls that publish are some of the calls. -/
theorem publishing_sublist (calls : List (Call H)) :
    ((calls.filterMap Call.posting?).map (·.call)).Sublist (calls.map (·.id)) := by
  induction calls with
  | nil => exact List.Sublist.refl _
  | cons c rest ih =>
    rw [List.filterMap_cons]
    cases hp : c.posting? with
    | none => exact ih.cons _
    | some p =>
      have hid : p.call = c.id := by
        obtain ⟨id, stage⟩ := c
        cases stage with
        | subscribing | dispatching => exact absurd hp (by simp [Call.posting?])
        | publishing | calling => exact (congrArg Posting.call (Option.some.inj hp)).symm
      rw [List.map_cons, List.map_cons, hid]
      exact ih.cons_cons _

/-- No two publishing calls have the same number. -/
theorem Reached.nodup_begun (h : Reached config schedule past b) :
    ((postings .begun past).map (·.call)).Nodup := by
  have hp := h.calls.begun.map (·.call)
  rw [hp.nodup_iff, List.map_append]
  exact h.calls.numbered.1.sublist ((publishing_sublist b.calls).append h.calls.accepted)

/-- No call begins to publish for a second time. -/
theorem Reached.not_began_before (h : Reached config schedule past b) {before after : History H}
    {n : Nat} {e : Event} (hp : past = before ++ .began n e :: after) :
    .began n e ∉ before := by
  intro hmem
  have hnodup := h.nodup_begun
  rw [hp, ← List.singleton_append, postings_append, List.map_append, List.nodup_append] at hnodup
  have hearlier : n ∈ (postings .begun before).map (·.call) :=
    List.mem_map_of_mem (f := Posting.call) (mem_postings_begun (p := ⟨n, e⟩).2 hmem)
  exact hnodup.2.2 n hearlier n List.mem_cons_self rfl

/-- The calls that have published have been given their numbers. -/
theorem Reached.lt_of_begun (h : Reached config schedule past b) {p : Posting}
    (hp : p ∈ postings .begun past) : p.call < b.nextId := by
  have hmem := List.mem_append.1 (h.calls.begun.mem_iff.1 hp)
  refine h.calls.numbered.2 p.call (List.mem_append.2 (hmem.imp (fun hp => ?_) fun hp => ?_))
  · exact (publishing_sublist b.calls).subset (List.mem_map_of_mem hp)
  · exact h.calls.accepted.subset (List.mem_map_of_mem hp)

/-- The numbers of publishing calls tell which of them began earlier. -/
theorem Reached.sorted_begun (h : Reached config schedule past b) :
    (postings .begun past).Pairwise fun p q => p.call < q.call := by
  induction h with
  | new => exact List.Pairwise.nil
  | @step _ past fx b c s hb ht ih =>
    -- A step in which no publishing call begins leaves the list as it is.
    have hkeep (hnone : postings .begun fx = []) :
        (postings .begun (past ++ fx)).Pairwise fun p q => p.call < q.call := by
      rw [postings_append, hnone, List.append_nil]
      exact ih
    cases ht with
    | @beginPublish e =>
      rw [postings_append]
      refine List.pairwise_append.2 ⟨ih, List.pairwise_singleton _ _, fun p hp q hq => ?_⟩
      rw [List.mem_singleton.1 hq]
      exact hb.lt_of_begun hp
    | dispatch =>
      refine hkeep ?_
      rw [postings_append, postings_fan]
      rfl
    | fanOut => exact hkeep (postings_fan ..)
    | close => refine hkeep ?_; split <;> rfl
    | _ => exact hkeep rfl

/-- What is accepted is the event that the call began with. -/
theorem Reached.began_of_accepted (h : Reached config schedule past b) {p : Posting}
    (hp : p ∈ postings .accepted past) : .began p.call p.event ∈ past :=
  mem_postings_begun.1 (h.calls.begun.mem_iff.2 (List.mem_append_right _ hp))

/-- A publishing call that has returned has left its event to the bus. -/
theorem Reached.accepted_of_returned (h : Reached config schedule past b) {n : Nat} {e : Event}
    (hb : .began n e ∈ past) (hr : .returned n ∈ past) : ⟨n, e⟩ ∈ postings .accepted past := by
  have hbegun : ⟨n, e⟩ ∈ postings .begun past := mem_postings_begun.2 hb
  rcases List.mem_append.1 (h.calls.begun.mem_iff.1 hbegun) with hp | hp
  · have hmem : n ∈ b.calls.map (·.id) :=
      (publishing_sublist b.calls).subset (List.mem_map_of_mem (f := Posting.call) hp)
    have hdisjoint := (List.nodup_append.1 h.calls.numbered.1).2.2
    exact absurd rfl (hdisjoint n hmem n (mem_returns.2 hr))
  · exact hp

end Bus
end Switchboard
