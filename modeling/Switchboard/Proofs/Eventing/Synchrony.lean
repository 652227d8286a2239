import Switchboard.Proofs.Eventing.Calls
import Switchboard.Proofs.Eventing.Invocations

/-!
# Synchronous listeners

A publishing call calls the synchronous listeners of its event one after the other, and then it leaves
the event to the queue and returns.  Meanwhile anything may happen: listeners subscribe others, publish
events themselves, and the bus may be closed.  `synchrony` says that none of this makes a difference to
what the call does.

## Accounts

The deeds of all calls stand on one timeline, and those of a single call are its account.  Most deeds are
effects of steps.  That a listener has ended is not; it is something that happens to the bus, and the
schedule has it.

## Scripts

The script of a call is its whole account, if it gets to the end.  It says that every listener has ended
before the next is called, or the event is left to the queue.  The listeners are those that had been
subscribed when the call got its first turn, which is when it looks them up.  At any time, what a call
has done and what it has yet to do is its script (`Story`), and what it has yet to do is settled by its
stage (`todo`).

## Calls inside calls

A listener that publishes waits for the call that it makes, so the call begins and returns before the
listener ends.  Its account is complete then, with nothing of it outside (`account_of_complete`).
-/

namespace Switchboard

/-- What a publishing call does, in so far as others notice. -/
inductive Deed (H : Type) where
  | began (event : Event)
  /-- It calls a synchronous listener. -/
  | called (listener : Listener H) (event : Event)
  /-- The listener has ended. -/
  | resumed
  /-- It leaves its event to the queue. -/
  | left (event : Event)
  | returned

/-- The call that an effect is about, and what it does. -/
def Effect.deed? {H : Type} : Effect H → Option (Nat × Deed H)
  | began n e => some (n, .began e)
  | invoke n l e => some (n, .called l e)
  | accepted p => some (p.call, .left p.event)
  | returned n => some (n, .returned)
  | _ => none

/-- The call whose listener ends with a step. -/
def BusStep.resumed? {H : Type} : BusStep H → Option (Nat × Deed H)
  | endListener n _ => some (n, .resumed)
  | _ => none

namespace Bus

variable {H : Type}

/-- Listeners are called, and every one ends before the next is called. -/
def rounds (e : Event) (ls : List (Listener H)) : List (Deed H) :=
  ls.flatMap fun l => [.called l e, .resumed]

/-- All that a publishing call does for an event with these synchronous listeners. -/
def script (e : Event) (ls : List (Listener H)) : List (Deed H) :=
  .began e :: (rounds e ls ++ [.left e, .returned])

end Bus

/-- What a call has yet to do at a stage, with this registry. -/
def CallStage.todo {H : Type} (r : Registry H) : CallStage H → List (Deed H)
  | publishing e => Bus.rounds e (r.listeners .sync e.name) ++ [.left e, .returned]
  | calling e rest none => Bus.rounds e rest ++ [.left e, .returned]
  | calling e rest (some _) => .resumed :: (Bus.rounds e rest ++ [.left e, .returned])
  | subscribing _ => [.returned]
  | dispatching _ => [.returned]

namespace Bus

variable {H : Type}

open History

/-! ## Accounts -/

/-- The deeds of a step, with the numbers of the calls. -/
def deeds (s : BusStep H) (fx : History H) : List (Nat × Deed H) :=
  s.resumed?.toList ++ fx.filterMap Effect.deed?

/-- The deeds of all calls, in order. -/
def timeline (ts : List (Taken H)) : List (Nat × Deed H) :=
  ts.flatMap fun t => deeds t.step t.effects

/-- The deeds of one call. -/
def account (n : Nat) (line : List (Nat × Deed H)) : List (Deed H) :=
  line.filterMap fun x => if x.1 = n then some x.2 else none

/-- Whether a step that has been taken is a turn of a call. -/
def Taken.isTurn (n : Nat) (t : Taken H) : Bool :=
  match t.step with
  | .call m => m == n
  | _ => false

/-- The history up to the first turn of a call. -/
def untilTurn (n : Nat) (ts : List (Taken H)) : History H :=
  (ts.takeWhile fun t => !t.isTurn n).flatMap (·.effects)

/-- What a call has yet to do; nothing if it is not there. -/
def todo (b : Bus H) (n : Nat) : List (Deed H) :=
  (b.calls.find? fun x => x.id == n).toList.flatMap fun x => x.stage.todo b.registry

variable {b c fresh : Bus H} {s : BusStep H} {fx past h : History H} {n : Nat} {e : Event}
  {ts : List (Taken H)} {config : DispatcherConfig} {schedule : List (BusStep H)}

theorem account_append (n : Nat) (first second : List (Nat × Deed H)) :
    account n (first ++ second) = account n first ++ account n second :=
  List.filterMap_append ..

theorem mem_account {d : Deed H} {line : List (Nat × Deed H)} :
    d ∈ account n line ↔ (n, d) ∈ line := by
  rw [account, List.mem_filterMap]
  constructor
  · rintro ⟨⟨m, f⟩, hx, hd⟩
    split at hd
    · rename_i hm
      obtain rfl : m = n := hm
      obtain rfl : f = d := Option.some.inj hd
      exact hx
    · exact absurd hd (by simp)
  · exact fun hx => ⟨(n, d), hx, if_pos rfl⟩

/-- A call has no account on a timeline without it. -/
theorem account_eq_nil {line : List (Nat × Deed H)} (hn : ∀ x ∈ line, x.1 ≠ n) :
    account n line = [] :=
  List.filterMap_eq_nil_iff.2 fun x hx => if_neg (hn x hx)

/-- The account of a call that is alone on a timeline. -/
theorem account_self (n : Nat) (ds : List (Deed H)) : account n (ds.map fun d => (n, d)) = ds := by
  rw [account, List.filterMap_map]
  refine (List.filterMap_congr fun d _ => ?_).trans List.filterMap_some
  exact if_pos rfl

theorem timeline_concat (ts : List (Taken H)) (t : Taken H) :
    timeline (ts ++ [t]) = timeline ts ++ deeds t.step t.effects := by
  rw [timeline, List.flatMap_append, List.flatMap_singleton]
  rfl

/-- Records for the log and parties that go on are no deeds. -/
theorem deeds_news (s : BusStep H) (fx : History H) : deeds s (news fx) = deeds s fx := by
  rw [deeds, deeds, filterMap_news]
  intro x hx
  cases x <;> first | rfl | exact Bool.noConfusion hx

theorem account_concat (ts : List (Taken H)) (t : Taken H) :
    account n (timeline (ts ++ [t])) =
      account n (timeline ts) ++ account n (deeds t.step (news t.effects)) := by
  rw [timeline_concat, account_append, deeds_news]

/-- The effects of the steps of a run are its history. -/
theorem effects_trace (hrun : b.run schedule = some (c, h)) :
    (trace schedule b).flatMap (·.effects) = h := by
  induction schedule generalizing b h with
  | nil =>
    obtain ⟨-, rfl⟩ := Prod.mk.inj (Option.some.inj hrun)
    rfl
  | cons s rest ih =>
    obtain ⟨next, effects, h', hs, hr, rfl⟩ := run_cons_eq_some.1 hrun
    rw [trace_cons hs, List.flatMap_cons, ih hr]

/-- What a call does of itself is on the timeline if and only if the history has it. -/
theorem mem_timeline {x : Effect H} {d : Deed H} (hrun : b.run schedule = some (c, h))
    (hx : x.deed? = some (n, d)) (hd : d ≠ .resumed)
    (honly : ∀ y : Effect H, y.deed? = some (n, d) → y = x) :
    (n, d) ∈ timeline (trace schedule b) ↔ x ∈ h := by
  rw [← effects_trace hrun, timeline, List.mem_flatMap, List.mem_flatMap]
  refine exists_congr fun t => and_congr_right fun _ => ?_
  rw [deeds, List.mem_append, List.mem_filterMap]
  constructor
  · rintro (hresumed | ⟨y, hy, hyd⟩)
    · cases hs : t.step with
      | endListener m o =>
        rw [hs] at hresumed
        obtain ⟨-, rfl⟩ := Prod.mk.inj (List.mem_singleton.1 hresumed)
        exact absurd rfl hd
      | _ =>
        rw [hs] at hresumed
        exact absurd hresumed List.not_mem_nil
    · rw [← honly y hyd]
      exact hy
  · exact fun hmem => Or.inr ⟨x, hmem, hx⟩

/-! ## Turns -/

theorem untilTurn_of_none (hn : ∀ t ∈ ts, t.isTurn n = false) (more : List (Taken H)) :
    untilTurn n (ts ++ more) = ts.flatMap (·.effects) ++ untilTurn n more := by
  rw [untilTurn, List.takeWhile_append_of_pos, List.flatMap_append]
  · rfl
  · intro t ht
    rw [hn t ht]
    rfl

/-- What is later than the first turn makes no difference. -/
theorem untilTurn_of_some (hn : ∃ t ∈ ts, t.isTurn n = true) (more : List (Taken H)) :
    untilTurn n (ts ++ more) = untilTurn n ts := by
  induction ts with
  | nil =>
    obtain ⟨t, ht, -⟩ := hn
    exact absurd ht List.not_mem_nil
  | cons x rest ih =>
    rw [List.cons_append, untilTurn, untilTurn, List.takeWhile_cons, List.takeWhile_cons]
    cases hx : x.isTurn n with
    | true => rfl
    | false =>
      have hrest : ∃ t ∈ rest, t.isTurn n = true := by
        obtain ⟨t, ht, hturn⟩ := hn
        rcases List.mem_cons.1 ht with rfl | ht
        · exact absurd (hx.symm.trans hturn) Bool.false_ne_true
        · exact ⟨t, ht, hturn⟩
      exact congrArg (x.effects ++ ·) (ih hrest)

/-! ## What a call has yet to do -/

theorem todo_of_mem (hn : (b.calls.map (·.id)).Nodup) {stage : CallStage H}
    (hc : ⟨n, stage⟩ ∈ b.calls) : b.todo n = stage.todo b.registry := by
  have hfind : b.calls.find? (fun x => x.id == n) = some ⟨n, stage⟩ := find?_id_of_mem hn hc
  rw [todo, hfind, Option.toList_some, List.flatMap_singleton]

theorem todo_of_not_mem (hn : n ∉ b.calls.map (·.id)) : b.todo n = [] := by
  have hfind : b.calls.find? (fun x => x.id == n) = none := by
    refine List.find?_eq_none.2 fun x hx hid => hn ?_
    exact beq_iff_eq.1 hid ▸ List.mem_map_of_mem hx
  rw [todo, hfind]
  rfl

/-- Only a call that has yet to look up its listeners depends on the registry. -/
theorem todo_congr {stage : CallStage H} (hs : ∀ e, stage ≠ .publishing e) (r r' : Registry H) :
    stage.todo r = stage.todo r' := by
  cases stage with
  | publishing e => exact absurd rfl (hs e)
  | calling e rest current => cases current <;> rfl
  | _ => rfl

/-- A call that has looked up its listeners and stays where it is has the same to do. -/
theorem todo_eq (hb : NumbersKept b) (hc : NumbersKept c)
    (hsame : ∀ stage, ⟨n, stage⟩ ∈ c.calls ↔ ⟨n, stage⟩ ∈ b.calls)
    (hpub : ∀ e, ⟨n, .publishing e⟩ ∉ b.calls) : c.todo n = b.todo n := by
  by_cases hn : n ∈ b.calls.map (·.id)
  · obtain ⟨⟨id, stage⟩, hx, rfl⟩ := List.mem_map.1 hn
    rw [todo_of_mem hb.calls.1 hx, todo_of_mem hc.calls.1 ((hsame stage).2 hx)]
    refine todo_congr (fun e hs => hpub e ?_) ..
    rw [← hs]
    exact hx
  · have hgone : n ∉ c.calls.map (·.id) := by
      intro hmem
      obtain ⟨⟨id, stage⟩, hx, rfl⟩ := List.mem_map.1 hmem
      exact hn (List.mem_map_of_mem (f := Call.id) ((hsame stage).1 hx))
    rw [todo_of_not_mem hn, todo_of_not_mem hgone]

theorem nodup_setCall (hn : (b.calls.map (·.id)).Nodup) (stage : CallStage H) :
    ((b.setCall n stage).calls.map (·.id)).Nodup := by
  rw [map_id_setCall]
  exact hn

theorem mem_setCall {id : Nat} {stage later : CallStage H} (hn : n ≠ id) :
    ⟨n, stage⟩ ∈ (b.setCall id later).calls ↔ ⟨n, stage⟩ ∈ b.calls := by
  rw [setCall, List.mem_map]
  constructor
  · rintro ⟨x, hx, heq⟩
    split at heq
    · rename_i hid
      have hxn : x.id = n := congrArg Call.id heq
      exact absurd (hxn.symm.trans hid) hn
    · exact heq ▸ hx
  · exact fun hc => ⟨_, hc, if_neg hn⟩

theorem mem_setCall_self {stage later later' : CallStage H} (hc : ⟨n, stage⟩ ∈ b.calls) :
    ⟨n, later'⟩ ∈ (b.setCall n later).calls ↔ later' = later := by
  rw [setCall, List.mem_map]
  constructor
  · rintro ⟨x, hx, heq⟩
    split at heq
    · exact (congrArg Call.stage heq).symm
    · rename_i hid
      exact absurd (congrArg Call.id heq) hid
  · rintro rfl
    exact ⟨_, hc, if_pos rfl⟩

theorem mem_dropCall {id : Nat} {stage : CallStage H} :
    ⟨n, stage⟩ ∈ (b.dropCall id).calls ↔ n ≠ id ∧ ⟨n, stage⟩ ∈ b.calls := by
  rw [dropCall, List.mem_filter, bne_iff_ne, and_comm]

/-! ## What a step does to a call -/

/-- A step concerns a call that has its turn, or whose listener ends. -/
def Concerns (s : BusStep H) (n : Nat) : Prop :=
  s = .call n ∨ ∃ o, s = .endListener n o

theorem concerns_call {id : Nat} : Concerns (.call id : BusStep H) n ↔ n = id := by
  simp [Concerns, eq_comm]

theorem concerns_endListener {id : Nat} {o : Outcome} :
    Concerns (.endListener id o : BusStep H) n ↔ n = id := by
  simp [Concerns, eq_comm]

/-- The deeds of a fan-out past the queue: the call returns. -/
theorem deeds_fan (id : Nat) (e : Event) (vs : List (Invocation H)) :
    deeds (.call id) (fan none e vs ++ [.returned id]) = [(id, .returned)] := by
  show [] ++ List.filterMap _ _ = _
  rw [List.nil_append, List.filterMap_append, filterMap_fan none e vs fun _ => rfl]
  rfl

/-- A deed is the doing of a call that the step concerns, or of one that begins. -/
theorem Transition.concerns_of_mem_deeds (ht : Transition b s c fx) {x : Nat × Deed H}
    (hx : x ∈ deeds s fx) : Concerns s x.1 ∨ x.1 = b.nextId ∧ b.nextId < c.nextId := by
  cases ht with
  | beginPublish => exact Or.inr ⟨congrArg Prod.fst (List.mem_singleton.1 hx), Nat.lt_succ_self _⟩
  | subscribe | invoke | skipDispatch =>
    exact Or.inl (concerns_call.2 (congrArg Prod.fst (List.mem_singleton.1 hx)))
  | dispatch =>
    rw [deeds_fan] at hx
    exact Or.inl (concerns_call.2 (congrArg Prod.fst (List.mem_singleton.1 hx)))
  | enter | defer =>
    refine Or.inl (concerns_call.2 ?_)
    rcases List.mem_cons.1 hx with rfl | hx
    · rfl
    · exact congrArg Prod.fst (List.mem_singleton.1 hx)
  | endListener =>
    exact Or.inl (concerns_endListener.2 (congrArg Prod.fst (List.mem_singleton.1 hx)))
  | fanOut =>
    rw [deeds, filterMap_fan _ _ _ fun _ => rfl] at hx
    exact absurd hx List.not_mem_nil
  | close => split at hx <;> exact absurd hx List.not_mem_nil
  | _ => exact absurd hx List.not_mem_nil

/-- A step that does not concern a call leaves it where it is. -/
theorem Transition.mem_calls_iff (ht : Transition b s c fx) (hn : n < b.nextId)
    (hs : ¬ Concerns s n) (stage : CallStage H) : ⟨n, stage⟩ ∈ c.calls ↔ ⟨n, stage⟩ ∈ b.calls := by
  have hbegin (later : CallStage H) :
      ⟨n, stage⟩ ∈ (b.begin later).calls ↔ ⟨n, stage⟩ ∈ b.calls := by
    rw [Bus.begin, List.mem_append, List.mem_singleton]
    refine or_iff_left fun heq => ?_
    have hid : n = b.nextId := congrArg Call.id heq
    omega
  have hother {id : Nat} (hid : ¬ Concerns (.call id : BusStep H) n) : n ≠ id := fun heq =>
    hid (Or.inl (by rw [heq]))
  have hdrop {id : Nat} (hid : ¬ Concerns (.call id : BusStep H) n) :
      ⟨n, stage⟩ ∈ (b.dropCall id).calls ↔ ⟨n, stage⟩ ∈ b.calls := by
    rw [mem_dropCall]
    exact and_iff_right (hother hid)
  cases ht with
  | beginSubscribe | beginPublish | beginDispatch => exact hbegin _
  | subscribe | enter | defer | dispatch | skipDispatch => exact hdrop hs
  | lookUp | invoke => exact mem_setCall (hother hs)
  | @endListener id _ _ _ o => exact mem_setCall fun heq => hs (Or.inr ⟨o, by rw [heq]⟩)
  | _ => exact Iff.rfl

/-- A call does the last that it has to do, and is taken out. -/
theorem todo_of_return {stage : CallStage H} {ds : List (Deed H)}
    (hn : (b.calls.map (·.id)).Nodup) (hc : ⟨n, stage⟩ ∈ b.calls)
    (hd : c.calls = (b.dropCall n).calls) (hdone : ds = stage.todo b.registry) :
    b.todo n = ds ++ c.todo n ∧ ∀ e, ⟨n, .publishing e⟩ ∉ c.calls := by
  have hnone (later : CallStage H) : ⟨n, later⟩ ∉ c.calls := by
    rw [hd, mem_dropCall]
    exact fun hmem => hmem.1 rfl
  have hgone : n ∉ c.calls.map (·.id) := by
    intro hmem
    obtain ⟨⟨id, later⟩, hx, rfl⟩ := List.mem_map.1 hmem
    exact hnone later hx
  rw [todo_of_mem hn hc, todo_of_not_mem hgone, List.append_nil, hdone]
  exact ⟨rfl, fun e => hnone _⟩

/-- A call does the first that it has to do, and what it has yet to do is settled by its later stage. -/
theorem todo_of_stage {stage later : CallStage H} {ds : List (Deed H)}
    (hn : (b.calls.map (·.id)).Nodup) (hc : ⟨n, stage⟩ ∈ b.calls)
    (hl : ∀ e, later ≠ .publishing e) (hdone : ds ++ later.todo b.registry = stage.todo b.registry) :
    b.todo n = ds ++ (b.setCall n later).todo n ∧
      ∀ e, ⟨n, .publishing e⟩ ∉ (b.setCall n later).calls := by
  rw [todo_of_mem hn hc, todo_of_mem (nodup_setCall hn later) ((mem_setCall_self hc).2 rfl)]
  exact ⟨hdone.symm, fun e hmem => hl e ((mem_setCall_self hc).1 hmem).symm⟩

/-- **A step that concerns a call does the next of what the call has yet to do.** -/
theorem Transition.todo (hn : NumbersKept b) (ht : Transition b s c fx) (hs : Concerns s n) :
    b.todo n = account n (deeds s fx) ++ c.todo n ∧ ∀ e, ⟨n, .publishing e⟩ ∉ c.calls := by
  have hnodup := hn.calls.1
  cases ht with
  | subscribe hc | skipDispatch hc =>
    obtain rfl := concerns_call.1 hs
    exact todo_of_return hnodup hc rfl (account_self n [.returned])
  | dispatch hc =>
    obtain rfl := concerns_call.1 hs
    rw [deeds_fan]
    exact todo_of_return hnodup hc rfl (account_self n [.returned])
  | @enter id e hc | @defer id e hc =>
    obtain rfl := concerns_call.1 hs
    exact todo_of_return hnodup hc rfl (account_self n [.left e, .returned])
  | lookUp hc =>
    obtain rfl := concerns_call.1 hs
    exact todo_of_stage hnodup hc (by simp) rfl
  | @invoke id e l rest hc =>
    obtain rfl := concerns_call.1 hs
    refine todo_of_stage hnodup hc (by simp) ?_
    exact congrArg (· ++ _) (account_self n [.called l e])
  | endListener hc =>
    obtain rfl := concerns_endListener.1 hs
    refine todo_of_stage hnodup hc (by simp) ?_
    exact congrArg (· ++ _) (account_self n [.resumed])
  | _ => exact absurd hs (by simp [Concerns])

/-! ## The story of a call -/

/-- A publishing call waits for the registry, or it has had a turn and does what is in its script. -/
inductive Story (n : Nat) (e : Event) (ts : List (Taken H)) (b : Bus H) : Prop
  | waits (hc : ⟨n, .publishing e⟩ ∈ b.calls) (hturn : ∀ t ∈ ts, t.isTurn n = false)
      (hdone : account n (timeline ts) = [.began e])
  | goesOn (hc : ∀ f, ⟨n, .publishing f⟩ ∉ b.calls) (hturn : ∃ t ∈ ts, t.isTurn n = true)
      (hdone : account n (timeline ts) ++ b.todo n =
        script e (registered .sync e.name (untilTurn n ts)))

theorem Transition.nextId_le (ht : Transition b s c fx) : b.nextId ≤ c.nextId := by
  cases ht with
  | beginSubscribe | beginPublish | beginDispatch | defer | close => exact Nat.le_succ _
  | dispatch | fanOut => exact Nat.le_add_right ..
  | _ => exact Nat.le_refl _

/-- A step concerns nobody but calls that are there. -/
theorem Transition.lt_of_concerns (hn : NumbersKept b) (ht : Transition b s c fx)
    (hs : Concerns s n) : n < b.nextId := by
  have hthere {stage : CallStage H} (hc : ⟨n, stage⟩ ∈ b.calls) : n < b.nextId :=
    hn.calls.2 n (List.mem_map_of_mem (f := Call.id) hc)
  cases ht with
  | subscribe hc | lookUp hc | invoke hc | enter hc | defer hc | dispatch hc | skipDispatch hc =>
    obtain rfl := concerns_call.1 hs
    exact hthere hc
  | endListener hc =>
    obtain rfl := concerns_endListener.1 hs
    exact hthere hc
  | _ => exact absurd hs (by simp [Concerns])

/-- A call that waits for the registry goes on when it has its turn. -/
theorem Transition.eq_call_of_waits (hn : NumbersKept b) (ht : Transition b s c fx)
    (hs : Concerns s n) (hc : ⟨n, .publishing e⟩ ∈ b.calls) : s = .call n := by
  rcases hs with hs | ⟨o, rfl⟩
  · exact hs
  · cases ht with
    | endListener hcalling =>
      have hsame := List.inj_on_of_nodup_map hn.calls.1 hc hcalling rfl
      exact absurd (congrArg Call.stage hsame) (by simp)

theorem Transition.of_began (ht : Transition b s c fx) (hx : .began n e ∈ fx) :
    s = .publish e ∧ n = b.nextId ∧ c = b.begin (.publishing e) ∧ fx = [.began n e] := by
  cases ht with
  | beginPublish =>
    obtain ⟨rfl, rfl⟩ := Effect.began.inj (List.mem_singleton.1 hx)
    exact ⟨rfl, rfl, rfl, rfl⟩
  | close => split at hx <;> simp at hx
  | _ => simp at hx

theorem isTurn_eq_false {t : Taken H} (hs : ¬ Concerns t.step n) : t.isTurn n = false := by
  rw [Taken.isTurn]
  split
  · rename_i m hm
    rw [hm, concerns_call] at hs
    exact beq_false_of_ne (Ne.symm hs)
  · rfl

/-- Nothing is known about a call that has not begun. -/
theorem unheard_of (hnew : new? config = .ok fresh) (hrun : fresh.run schedule = some (b, h))
    (hn : b.nextId ≤ n) : account n (timeline (trace schedule fresh)) = [] ∧
      ∀ t ∈ trace schedule fresh, t.isTurn n = false := by
  refine (Reached.new hnew).steps_induction
    (P := fun steps _ d => d.nextId ≤ n → account n (timeline (trace steps fresh)) = [] ∧
      ∀ t ∈ trace steps fresh, t.isTurn n = false)
    (fun {steps fx m s c gx} hm hr ih hs hle => ?_) hrun
    (fun _ => ⟨rfl, fun _ ht => absurd ht List.not_mem_nil⟩) hn
  have ht := transition_of_step hr.refusing hs
  obtain ⟨hdone, hturn⟩ := ih (Nat.le_trans ht.nextId_le hle)
  have hcon : ¬ Concerns s n := fun hcon => by
    have hlt := ht.lt_of_concerns hr.numbers hcon
    have hmono := ht.nextId_le
    omega
  rw [trace_concat hm hs, account_concat, hdone, List.nil_append]
  refine ⟨account_eq_nil fun x hx heq => ?_,
    List.forall_mem_append.2 ⟨hturn, List.forall_mem_singleton.2 (isTurn_eq_false hcon)⟩⟩
  rcases ht.concerns_of_mem_deeds hx with hsame | ⟨hid, hlt⟩
  · exact hcon (heq ▸ hsame)
  · omega

namespace Story

variable {gx : History H}

/-- A call does what it has to do next.  With its first turn it looks up its listeners. -/
theorem concerned (h : Story n e ts b) (hb : Reached config schedule (news past) b)
    (hts : ts.flatMap (·.effects) = past) (ht : Transition b s c (news gx)) (hs : Concerns s n) :
    Story n e (ts ++ [⟨b, s, c, gx⟩]) c := by
  obtain ⟨htodo, hpub⟩ := ht.todo hb.numbers hs
  cases h with
  | waits hc hturn hdone =>
    have hcall := ht.eq_call_of_waits hb.numbers hs hc
    have hnow : Taken.isTurn n ⟨b, s, c, gx⟩ = true := by
      rw [hcall]
      exact beq_self_eq_true n
    have huntil : untilTurn n (ts ++ [⟨b, s, c, gx⟩]) = past := by
      rw [untilTurn_of_none hturn, hts, untilTurn, List.takeWhile_cons, hnow]
      exact List.append_nil _
    have hlisteners : b.registry.listeners .sync e.name = registered .sync e.name past := by
      rw [hb.listeners, registered, registered, subscriptions_news]
    refine .goesOn hpub ⟨_, List.mem_append_right _ (List.mem_singleton_self _), hnow⟩ ?_
    rw [account_concat, hdone, List.append_assoc, ← htodo, todo_of_mem hb.numbers.calls.1 hc,
      huntil, ← hlisteners]
    rfl
  | goesOn hc hturn hdone =>
    obtain ⟨t, htmem, htn⟩ := hturn
    refine .goesOn hpub ⟨t, List.mem_append_left _ htmem, htn⟩ ?_
    rw [account_concat, List.append_assoc, ← htodo, hdone, untilTurn_of_some ⟨t, htmem, htn⟩]

/-- Nothing happens to a call that a step does not concern. -/
theorem frame (h : Story n e ts b) (hb : NumbersKept b) (hc : NumbersKept c) (hn : n < b.nextId)
    (ht : Transition b s c (news gx)) (hs : ¬ Concerns s n) :
    Story n e (ts ++ [⟨b, s, c, gx⟩]) c := by
  have hsame := ht.mem_calls_iff hn hs
  have hnone : account n (deeds s (news gx)) = [] := by
    refine account_eq_nil fun x hx heq => ?_
    rcases ht.concerns_of_mem_deeds hx with hx | ⟨hid, -⟩
    · exact hs (heq ▸ hx)
    · omega
  have hline : account n (timeline (ts ++ [⟨b, s, c, gx⟩])) = account n (timeline ts) := by
    rw [account_concat, hnone, List.append_nil]
  cases h with
  | waits hcall hturn hdone =>
    have hnever : Taken.isTurn n ⟨b, s, c, gx⟩ = false := isTurn_eq_false hs
    exact .waits ((hsame _).2 hcall)
      (List.forall_mem_append.2 ⟨hturn, List.forall_mem_singleton.2 hnever⟩) (hline.trans hdone)
  | goesOn hpub hturn hdone =>
    obtain ⟨t, htmem, htn⟩ := hturn
    refine .goesOn (fun f hf => hpub f ((hsame _).1 hf)) ⟨t, List.mem_append_left _ htmem, htn⟩ ?_
    rw [hline, todo_eq hb hc hsame hpub, hdone, untilTurn_of_some ⟨t, htmem, htn⟩]

end Story

/-- **The story of every publishing call goes on.** -/
theorem story (hnew : new? config = .ok fresh) (hrun : fresh.run schedule = some (b, h))
    (hbegan : .began n e ∈ h) : Story n e (trace schedule fresh) b := by
  refine (Reached.new hnew).steps_induction
    (P := fun steps fx d => .began n e ∈ fx → Story n e (trace steps fresh) d)
    (fun {steps fx m s c gx} hm hr ih hs hmem => ?_) hrun
    (fun hmem => absurd hmem List.not_mem_nil) hbegan
  have ht := transition_of_step hr.refusing hs
  rw [trace_concat hm hs]
  rcases List.mem_append.1 hmem with hold | hnow
  · have hbegun : ⟨n, e⟩ ∈ postings .begun (news fx) :=
      mem_postings_begun.2 ((mem_news rfl).2 hold)
    by_cases hcon : Concerns s n
    · exact (ih hold).concerned hr (effects_trace hm) ht hcon
    · exact (ih hold).frame hr.numbers (hr.step ht).numbers (hr.lt_of_begun hbegun) ht hcon
  · obtain ⟨rfl, rfl, rfl, hgx⟩ := ht.of_began ((mem_news rfl).2 hnow)
    obtain ⟨hdone, hturn⟩ := unheard_of hnew hm (Nat.le_refl _)
    refine .waits (List.mem_append_right _ (List.mem_singleton_self _))
      (List.forall_mem_append.2 ⟨hturn, List.forall_mem_singleton.2 rfl⟩) ?_
    rw [account_concat, hdone, hgx]
    exact account_self m.nextId [.began e]

/-! ## Complete accounts -/

theorem Story.isPrefix (h : Story n e ts b) : account n (timeline ts) <+:
    script e (registered .sync e.name (untilTurn n ts)) := by
  cases h with
  | waits _ _ hdone =>
    rw [hdone]
    exact ⟨_, rfl⟩
  | goesOn _ _ hdone => exact ⟨_, hdone⟩

theorem began_mem_timeline (hrun : b.run schedule = some (c, h)) :
    (n, .began e) ∈ timeline (trace schedule b) ↔ .began n e ∈ h := by
  refine mem_timeline hrun rfl (by simp) fun y hy => ?_
  cases y <;> simp [Effect.deed?] at hy
  rw [hy.1, hy.2]

theorem returned_mem_timeline (hrun : b.run schedule = some (c, h)) :
    (n, .returned) ∈ timeline (trace schedule b) ↔ .returned n ∈ h := by
  refine mem_timeline hrun rfl (by simp) fun y hy => ?_
  cases y <;> simp [Effect.deed?] at hy
  rw [hy]

/-- A call that has returned is not there. -/
theorem Reached.not_mem_of_returned (hb : Reached config schedule past b)
    (hn : .returned n ∈ past) : n ∉ b.calls.map (·.id) := fun hmem =>
  (List.nodup_append.1 hb.calls.numbered.1).2.2 n hmem n (mem_returns.2 hn) rfl

/-- The account of a call is complete if and only if the call has returned. -/
theorem account_eq_script_iff (hnew : new? config = .ok fresh)
    (hrun : fresh.run schedule = some (b, h)) (hbegan : .began n e ∈ h) :
    account n (timeline (trace schedule fresh)) =
        script e (registered .sync e.name (untilTurn n (trace schedule fresh))) ↔
      .returned n ∈ h := by
  have hb := (Reached.new hnew).run hrun
  constructor
  · intro hall
    rw [← returned_mem_timeline hrun, ← mem_account, hall]
    exact List.mem_cons_of_mem _ (List.mem_append_right _ (List.mem_cons_of_mem _ List.mem_cons_self))
  · intro hreturned
    have hgone := hb.not_mem_of_returned ((mem_news rfl).2 hreturned)
    cases story hnew hrun hbegan with
    | waits hc => exact absurd (List.mem_map_of_mem (f := Call.id) hc) hgone
    | goesOn _ _ hdone =>
      rw [todo_of_not_mem hgone, List.append_nil] at hdone
      exact hdone

/-- What stands inside a list is all of it, if it has the head and the last entry, and neither of them
is found elsewhere. -/
theorem eq_of_mem_ends {α : Type} {before inside after mid : List α} {first last head tail : α}
    (h : before ++ inside ++ after = head :: (mid ++ [tail])) (hfirst : first ∈ inside)
    (hlast : last ∈ inside) (hhead : first ∉ mid ++ [tail]) (htail : last ∉ head :: mid) :
    inside = head :: (mid ++ [tail]) := by
  cases before with
  | cons x before =>
    rw [List.cons_append, List.cons_append] at h
    have hmem : first ∈ before ++ inside ++ after :=
      List.mem_append_left _ (List.mem_append_right _ hfirst)
    rw [(List.cons.inj h).2] at hmem
    exact absurd hmem hhead
  | nil =>
    rw [List.nil_append] at h
    rcases List.eq_nil_or_concat after with rfl | ⟨rest, x, rfl⟩
    · rw [List.append_nil] at h
      exact h
    · rw [List.concat_eq_append, ← List.append_assoc, ← List.cons_append] at h
      have hinit := (List.append_inj' h rfl).1
      have hmem : last ∈ inside ++ rest := List.mem_append_left _ hlast
      rw [hinit] at hmem
      exact absurd hmem htail

theorem eq_of_mem_rounds {d : Deed H} {ls : List (Listener H)} (hd : d ∈ rounds e ls) :
    d = .resumed ∨ ∃ l, d = .called l e := by
  obtain ⟨l, -, hmem⟩ := List.mem_flatMap.1 hd
  rcases List.mem_cons.1 hmem with hd | hd
  · exact Or.inr ⟨l, hd⟩
  · exact Or.inl (List.mem_singleton.1 hd)

/-- **A call that begins and returns inside a stretch of the timeline has its whole account there.** -/
theorem account_of_complete {line before inside after : List (Nat × Deed H)} {f : Event}
    {ls : List (Listener H)} (hall : account n line = script e ls)
    (hline : line = before ++ inside ++ after) (hbegan : (n, .began f) ∈ inside)
    (hreturned : (n, .returned) ∈ inside) : account n inside = script e ls := by
  have hrounds {d : Deed H} (hd : d ∈ rounds e ls ++ [.left e]) :
      d ≠ .began f ∧ d ≠ .returned := by
    rcases List.mem_append.1 hd with hd | hd
    · rcases eq_of_mem_rounds hd with rfl | ⟨l, rfl⟩ <;> simp
    · rw [List.mem_singleton.1 hd]
      simp
  have hsplit : account n before ++ account n inside ++ account n after =
      .began e :: (rounds e ls ++ [.left e] ++ [.returned]) := by
    rw [← account_append, ← account_append, ← hline, hall, script, List.append_assoc]
    rfl
  have hinside := eq_of_mem_ends hsplit (mem_account.2 hbegan) (mem_account.2 hreturned)
    (fun hmem => ?_) (fun hmem => ?_)
  · rw [hinside, script, List.append_assoc]
    rfl
  · rcases List.mem_append.1 hmem with hmem | hmem
    · exact (hrounds hmem).1 rfl
    · exact absurd (List.mem_singleton.1 hmem) (by simp)
  · rcases List.mem_cons.1 hmem with hmem | hmem
    · exact absurd hmem (by simp)
    · exact (hrounds hmem).2 rfl

/-! ## Calls go on -/

/-- A call goes on whenever it has its turn, unless it waits for a listener, and then it goes on when the
listener ends. -/
theorem exists_step_of_mem (hn : (b.calls.map (·.id)).Nodup) {x : Call H} (hx : x ∈ b.calls) :
    (∃ r, b.step (.call x.id) = some r) ∨ ∀ o, ∃ r, b.step (.endListener x.id o) = some r := by
  have hfind := find?_id_of_mem hn hx
  show (∃ r, b.callStep x.id = some r) ∨ ∀ o, ∃ r, b.endListener x.id o = some r
  obtain ⟨id, stage⟩ := x
  simp only [callStep, endListener, hfind]
  cases stage with
  | calling e rest current =>
    cases current with
    | some l => exact Or.inr fun o => ⟨_, rfl⟩
    | none => cases rest <;> exact Or.inl ⟨_, rfl⟩
  | _ => exact Or.inl ⟨_, rfl⟩

/-- The turns of a call whose listeners end in these ways, from the time when it has looked them up. -/
def turns (n : Nat) (os : List Outcome) : List (BusStep H) :=
  (os.flatMap fun o => [.call n, .endListener n o]) ++ [.call n]

theorem find?_call (hn : (b.calls.map (·.id)).Nodup) {stage : CallStage H}
    (hc : ⟨n, stage⟩ ∈ b.calls) : b.calls.find? (fun x => x.id == n) = some ⟨n, stage⟩ :=
  find?_id_of_mem hn hc

/-- A call that has looked up its listeners gets to its end, whatever the state of the bus is. -/
theorem run_turns (hn : (b.calls.map (·.id)).Nodup) {rest : List (Listener H)}
    (hc : ⟨n, .calling e rest none⟩ ∈ b.calls) {os : List Outcome} (hos : os.length = rest.length) :
    ∃ c fx, b.run (turns n os) = some (c, fx) ∧ .returned n ∈ fx := by
  induction rest generalizing b os with
  | nil =>
    obtain rfl := List.eq_nil_of_length_eq_zero hos
    have hleave : ∃ r, b.callStep n = some r ∧ .returned n ∈ r.2 := by
      rw [callStep, find?_call hn hc]
      exact ⟨_, rfl, List.mem_append_right _ (List.mem_singleton_self _)⟩
    obtain ⟨⟨c, fx⟩, hs, hmem⟩ := hleave
    exact ⟨c, _, run_cons_eq_some.2 ⟨c, fx, [], hs, rfl, rfl⟩, List.mem_append_left _ hmem⟩
  | cons l rest ih =>
    obtain ⟨o, os, rfl⟩ := List.exists_cons_of_length_eq_add_one hos
    have hcall : b.step (.call n) =
        some (b.setCall n (.calling e rest (some l)), [.invoke n l e]) := by
      show b.callStep n = _
      rw [callStep, find?_call hn hc]
    have hcalling : ⟨n, .calling e rest (some l)⟩ ∈ (b.setCall n (.calling e rest (some l))).calls :=
      (mem_setCall_self hc).2 rfl
    have hend : (b.setCall n (.calling e rest (some l))).step (.endListener n o) =
        some ((b.setCall n (.calling e rest (some l))).setCall n (.calling e rest none),
          report l e .sync o) := by
      show endListener _ n o = _
      rw [endListener, find?_call (nodup_setCall hn _) hcalling]
    obtain ⟨c, fx, hrun, hmem⟩ := ih (nodup_setCall (nodup_setCall hn _) _)
      ((mem_setCall_self hcalling).2 rfl) (Nat.succ_inj.1 hos)
    refine ⟨c, _, run_cons_eq_some.2 ⟨_, _, _, hcall, run_cons_eq_some.2 ⟨_, _, _, hend, hrun, rfl⟩,
      rfl⟩, ?_⟩
    exact List.mem_append_right _ (List.mem_append_right _ hmem)

/-- A call that waits for the registry gets to its end, whatever the state of the bus is. -/
theorem run_call_turns (hn : (b.calls.map (·.id)).Nodup) (hc : ⟨n, .publishing e⟩ ∈ b.calls)
    {os : List Outcome} (hos : os.length = (b.registry.listeners .sync e.name).length) :
    ∃ c fx, b.run (.call n :: turns n os) = some (c, fx) ∧ .returned n ∈ fx := by
  have hcall : b.step (.call n) =
      some (b.setCall n (.calling e (b.registry.listeners .sync e.name) none), []) := by
    show b.callStep n = _
    rw [callStep, find?_call hn hc]
  obtain ⟨c, fx, hrun, hmem⟩ := run_turns (nodup_setCall hn _) ((mem_setCall_self hc).2 rfl) hos
  exact ⟨c, _, run_cons_eq_some.2 ⟨_, _, _, hcall, hrun, rfl⟩, hmem⟩

/-! ## The main result -/

/-- **Synchronous listeners.** What a publishing call does is what its script says, as far as it has got,
and it has got to the end if and only if it has returned.  The script has the synchronous listeners that
had been subscribed to the event name when the call had its first turn: each is called once, in the order
of subscription, and ends before anything else is done; after the last one the event is left to the
queue, and the call returns.  A call that begins and returns while a listener of another call runs does
all that its own script says in that time.  No call waits for anything but its listener, whatever the
state of the queue and the phase of the bus, and as many turns as the script says lead to its return. -/
theorem synchrony (hnew : new? config = .ok fresh) (hrun : fresh.run schedule = some (b, h)) :
    (∀ n e, .began n e ∈ h →
      account n (timeline (trace schedule fresh)) <+:
          script e (registered .sync e.name (untilTurn n (trace schedule fresh))) ∧
        (account n (timeline (trace schedule fresh)) =
          script e (registered .sync e.name (untilTurn n (trace schedule fresh))) ↔
            .returned n ∈ h)) ∧
    (∀ n l e before inside after,
      timeline (trace schedule fresh) =
        before ++ (n, .called l e) :: inside ++ (n, .resumed) :: after →
      ∀ m f, (m, .began f) ∈ inside → (m, .returned) ∈ inside → account m inside =
        script f (registered .sync f.name (untilTurn m (trace schedule fresh)))) ∧
    (∀ x ∈ b.calls,
      (∃ r, b.step (.call x.id) = some r) ∨ ∀ o, ∃ r, b.step (.endListener x.id o) = some r) ∧
    (∀ n e, ⟨n, .publishing e⟩ ∈ b.calls →
      ∀ os : List Outcome, os.length = (registered .sync e.name h).length →
        ∃ c fx, b.run (.call n :: turns n os) = some (c, fx) ∧ .returned n ∈ fx) := by
  have hb := (Reached.new hnew).run hrun
  have hkeys := hb.numbers.calls.1
  refine ⟨fun n e hbegan => ⟨(story hnew hrun hbegan).isPrefix,
    account_eq_script_iff hnew hrun hbegan⟩,
    fun n l e before inside after hline m f hbegan hreturned => ?_,
    fun x hx => exists_step_of_mem hkeys hx, fun n e hc os hos => ?_⟩
  · have hsplit : timeline (trace schedule fresh) =
        (before ++ [(n, .called l e)]) ++ inside ++ (n, .resumed) :: after := by
      rw [hline, List.append_cons before]
    have hmem {x : Nat × Deed H} (hx : x ∈ inside) : x ∈ timeline (trace schedule fresh) := by
      rw [hsplit]
      exact List.mem_append_left _ (List.mem_append_right _ hx)
    have hstart : .began m f ∈ h := (began_mem_timeline hrun).1 (hmem hbegan)
    have hall := (account_eq_script_iff hnew hrun hstart).2
      ((returned_mem_timeline hrun).1 (hmem hreturned))
    exact account_of_complete hall hsplit hbegan hreturned
  · refine run_call_turns hkeys hc ?_
    rw [hos, hb.listeners, registered, registered, List.nil_append, subscriptions_news]

/-- A listener publishes another event of the name that it hears of.  The inner call does all it has to
do inside the outer one and takes the only slot; the event of the outer call is deferred, and the call
returns all the same. -/
theorem synchrony_of_a_call_inside :
    let schedule : List (BusStep Unit) := [.subscribe chime, .call 0, .publish (tick 1), .call 1,
      .call 1, .publish (tick 2), .call 2, .call 2, .endListener 2 .done, .call 2,
      .endListener 1 .done, .call 1]
    ∃ (fresh b : Bus Unit) (h : History Unit) (before inside after : List (Nat × Deed Unit)),
      new? smallest = .ok fresh ∧ fresh.run schedule = some (b, h) ∧ b.pending = 1 ∧
      timeline (trace schedule fresh) =
        before ++ (1, .called chime (tick 1)) :: inside ++ (1, .resumed) :: after ∧
      account 2 inside = script (tick 2) [chime] ∧
      account 1 (timeline (trace schedule fresh)) = script (tick 1) [chime] := by
  intro schedule
  obtain ⟨fresh, b, h, hnew, hrun, hpending, hbegan, hreturned, hline, hinner, houter⟩ :
      ∃ (fresh b : Bus Unit) (h : History Unit), new? smallest = .ok fresh ∧
        fresh.run schedule = some (b, h) ∧ b.pending = 1 ∧ ⟨1, tick 1⟩ ∈ postings .begun h ∧
        1 ∈ returns h ∧
        timeline (trace schedule fresh) = [(0, .returned), (1, .began (tick 1))] ++
          (1, .called chime (tick 1)) :: [(2, .began (tick 2)), (2, .called chime (tick 2)),
            (2, .resumed), (2, .left (tick 2)), (2, .returned)] ++
          (1, .resumed) :: [(1, .left (tick 1)), (1, .returned)] ∧
        registered .sync (tick 2).name (untilTurn 2 (trace schedule fresh)) = [chime] ∧
        registered .sync (tick 1).name (untilTurn 1 (trace schedule fresh)) = [chime] := by
    refine ⟨_, _, _, rfl, rfl, rfl, List.mem_cons_self, ?_, rfl, rfl, rfl⟩
    exact List.mem_cons_of_mem _ (List.mem_cons_of_mem _ List.mem_cons_self)
  obtain ⟨haccounts, hnested, -, -⟩ := synchrony hnew hrun
  have hinside := hnested 1 chime (tick 1) _ _ _ hline 2 (tick 2) List.mem_cons_self (by simp)
  have hall := (haccounts 1 (tick 1) (mem_postings_begun.1 hbegan)).2.2 (mem_returns.1 hreturned)
  rw [hinner] at hinside
  rw [houter] at hall
  exact ⟨fresh, b, h, _, _, _, hnew, hrun, hpending, hline, hinside, hall⟩

end Bus
end Switchboard
