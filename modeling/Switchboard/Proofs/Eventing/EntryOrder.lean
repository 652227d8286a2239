import Switchboard.Proofs.Eventing.Calls
import Switchboard.Proofs.Eventing.Lifecycle
import Switchboard.Proofs.Eventing.Slots

/-!
# The order in which events enter the queue

A producer publishes events one after the other.  They do not always enter the queue in this order,
even if nobody closes the bus.  An event that finds the queue full is left with a task, and the
place of that task among those who wait is settled only when the task asks for a slot.  If a slot
becomes free before that, the next event of the producer takes it at once (`not_fifo`).

## When the order is kept

A step overtakes if an event of the producer enters the queue with it while an earlier one is still
deferred (`Overtakes`).  There are two ways: a call finds a free slot, or a deferred event gets one
before another that is older.  The events of the producer enter in order if and only if no step of
the run overtakes (`entry_order`).

## Why the condition is exact

As long as the order is kept, the events that have been accepted are those that have entered,
followed by those that are deferred, oldest first.  The next to enter is either the first of the
latter or not, and an event that has entered too early stays too early.
-/

namespace Switchboard

namespace Bus

variable {H : Type}

open History

/-- The events of some calls. -/
def own (mine : Nat → Bool) (ps : List Posting) : List Posting :=
  ps.filter fun p => mine p.call

/-- The events that are deferred. -/
def deferrals (b : Bus H) : List Posting :=
  b.overflow.map (·.posting)

/-- Each of the calls has returned before the next of them begins to publish. -/
def Sequential (mine : Nat → Bool) (h : History H) : Prop :=
  ∀ before n e after, h = before ++ .began n e :: after → mine n = true →
    ∀ m f, mine m = true → .began m f ∈ before → .returned m ∈ before

/-- The events of the calls have entered the queue in the order in which they were published. -/
def InOrder (mine : Nat → Bool) (h : History H) : Prop :=
  own mine (postings .entered h) <+: own mine (postings .begun h)

/-- A step with which an event enters the queue while an earlier one is deferred. -/
inductive Overtakes (mine : Nat → Bool) (b : Bus H) : BusStep H → Prop where
  /-- A call finds a free slot. -/
  | publish {id : Nat} {e : Event} {x : Deferred} (hc : ⟨id, .calling e [] none⟩ ∈ b.calls)
      (hf : 0 < b.free) (hm : mine id = true) (hx : x ∈ b.overflow)
      (hxm : mine x.posting.call = true) : Overtakes mine b (.call id)
  /-- A deferred event has a slot or finds a free one, and another has been published before it. -/
  | deferred {d x : Deferred} (hd : d ∈ b.overflow)
      (hs : d.stage = .granted ∨ d.stage = .fresh ∧ 0 < b.free) (hm : mine d.posting.call = true)
      (hx : x ∈ b.overflow) (hxm : mine x.posting.call = true)
      (hlt : x.posting.call < d.posting.call) : Overtakes mine b (.deferred d.id)

/-- Some step of a run overtakes. -/
def Overtaken (mine : Nat → Bool) : List (BusStep H) → Bus H → Prop
  | [], _ => False
  | s :: rest, b => Overtakes mine b s ∨ ∃ r, b.step s = some r ∧ Overtaken mine rest r.1

variable {mine : Nat → Bool} {b c : Bus H} {s : BusStep H} {fx past : History H}
  {config : DispatcherConfig} {schedule : List (BusStep H)}

/-! ## The producer -/

theorem own_append (mine : Nat → Bool) (ps qs : List Posting) :
    own mine (ps ++ qs) = own mine ps ++ own mine qs :=
  List.filter_append ..

theorem own_perm (mine : Nat → Bool) {ps qs : List Posting} (h : ps.Perm qs) :
    (own mine ps).Perm (own mine qs) :=
  h.filter _

theorem mem_own {p : Posting} {ps : List Posting} : p ∈ own mine ps ↔ p ∈ ps ∧ mine p.call = true :=
  List.mem_filter

/-- A shorter history of the same beginning is as sequential. -/
theorem Sequential.of_append {more : History H} (h : Sequential mine (past ++ more)) :
    Sequential mine past := by
  intro before n e after hp hn
  exact h before n e (after ++ more) (by rw [hp, List.append_assoc]; rfl) hn

/-- Whether the beginning of a publishing call comes in its turn. -/
def inTurn (mine : Nat → Bool) (past : History H) : Effect H → Bool
  | .began n _ =>
    !mine n || (postings .begun past).all fun p => !mine p.call || (returns past).contains p.call
  | _ => true

/-- Whether what follows on a history comes in its turn. -/
def allInTurn (mine : Nat → Bool) : History H → History H → Bool
  | _, [] => true
  | past, x :: rest => inTurn mine past x && allInTurn mine (past ++ [x]) rest

theorem inTurn_began {n : Nat} {e : Event} : inTurn mine past (.began n e) = true ↔
    (mine n = true → ∀ m f, mine m = true → .began m f ∈ past → .returned m ∈ past) := by
  rw [inTurn, Bool.or_eq_true, Bool.not_eq_true', List.all_eq_true]
  constructor
  · intro h hn m f hm hbegan
    rcases h with h | h
    · rw [hn] at h
      exact absurd h (by simp)
    · have hall := h ⟨m, f⟩ (mem_postings_begun.2 hbegan)
      rw [Bool.or_eq_true, Bool.not_eq_true', List.contains_iff_mem] at hall
      rcases hall with hall | hall
      · exact absurd (hm.symm.trans hall) (by simp)
      · exact mem_returns.1 hall
  · intro h
    cases hn : mine n with
    | false => exact Or.inl rfl
    | true =>
      refine Or.inr fun p hp => ?_
      rw [Bool.or_eq_true, Bool.not_eq_true', List.contains_iff_mem]
      cases hm : mine p.call with
      | false => exact Or.inl rfl
      | true => exact Or.inr (mem_returns.2 (h hn p.call p.event hm (mem_postings_begun.1 hp)))

/-- One more effect keeps a history sequential if and only if it comes in its turn. -/
theorem sequential_append_singleton {x : Effect H} :
    Sequential mine (past ++ [x]) ↔ Sequential mine past ∧ inTurn mine past x = true := by
  constructor
  · intro h
    refine ⟨h.of_append, ?_⟩
    cases x with
    | began n e => exact inTurn_began.2 fun hn => h past n e [] rfl hn
    | _ => rfl
  · rintro ⟨h, hx⟩ before n e after hp hn
    rcases List.append_eq_append_iff.1 hp with ⟨rest, hbefore, hlast⟩ | ⟨rest, hpast, hlast⟩
    · cases rest with
      | nil =>
        rw [List.append_nil] at hbefore
        obtain ⟨rfl, -⟩ := List.cons.inj hlast
        rw [hbefore]
        exact inTurn_began.1 hx hn
      | cons y rest => exact absurd (congrArg List.length hlast) (by simp)
    · cases rest with
      | nil =>
        rw [List.append_nil] at hpast
        obtain ⟨rfl, -⟩ := List.cons.inj hlast
        rw [← hpast]
        exact inTurn_began.1 hx hn
      | cons y rest =>
        obtain ⟨rfl, -⟩ := List.cons.inj hlast
        exact h before n e rest hpast hn

/-- A history is sequential if and only if all of it comes in its turn. -/
theorem allInTurn_iff (hp : Sequential mine past) (rest : History H) :
    allInTurn mine past rest = true ↔ Sequential mine (past ++ rest) := by
  induction rest generalizing past with
  | nil =>
    rw [List.append_nil]
    exact iff_of_true rfl hp
  | cons x rest ih =>
    rw [allInTurn, Bool.and_eq_true, List.append_cons past x rest]
    constructor
    · rintro ⟨hx, hall⟩
      exact (ih (sequential_append_singleton.2 ⟨hp, hx⟩)).1 hall
    · intro hall
      have hone := hall.of_append
      exact ⟨(sequential_append_singleton.1 hone).2, (ih hone).2 hall⟩

theorem sequential_nil : Sequential mine ([] : History H) := by
  intro before n e after hp
  exact absurd hp (by simp)

instance : Decidable (Sequential mine past) :=
  decidable_of_iff (allInTurn mine [] past = true) (allInTurn_iff sequential_nil past)

/-- Records for the log and parties that go on make no difference. -/
theorem Sequential.news (h : Sequential mine past) : Sequential mine (History.news past) := by
  intro before n e after hp hn m f hm hbegan
  obtain ⟨first, second, hpast, rfl, hsecond⟩ := List.filter_eq_append_iff.1 hp
  obtain ⟨skipped, rest, rfl, hskipped, -, -⟩ := List.filter_eq_cons_iff.1 hsecond
  have hfull : past = (first ++ skipped) ++ .began n e :: rest := by
    rw [hpast, List.append_assoc]
  have hnone : History.news skipped = [] := List.filter_eq_nil_iff.2 hskipped
  have hreturned := h _ n e rest hfull hn m f hm (List.mem_append_left _ ((mem_news rfl).1 hbegan))
  rw [← mem_news rfl, news_append, hnone, List.append_nil] at hreturned
  exact hreturned

/-- What a producer has published has been accepted, but for the last event at most. -/
structure Producing (mine : Nat → Bool) (past : History H) (b : Bus H) : Prop where
  begun : own mine (postings .begun past) =
    own mine (postings .accepted past) ++ own mine b.publishing
  single : (own mine b.publishing).length ≤ 1

/-- Rearranging at most one entry changes nothing. -/
theorem eq_of_perm_of_length_le_one {α : Type} {xs ys : List α} (h : xs.Perm ys)
    (hl : xs.length ≤ 1) : xs = ys := by
  match xs, hl with
  | [], _ => exact h.nil_eq
  | [x], _ => exact (List.singleton_perm.1 h)

namespace Producing

/-- A step with which none of the calls begins or leaves its event to the bus. -/
theorem frame (h : Producing mine past b) (hp : c.publishing = b.publishing)
    (hb : postings .begun fx = []) (ha : postings .accepted fx = []) :
    Producing mine (past ++ fx) c where
  begun := by
    rw [postings_append, postings_append, hb, ha, List.append_nil, List.append_nil, hp]
    exact h.begun
  single := by
    rw [hp]
    exact h.single

/-- A call leaves its event to the bus, if it has one, and is gone. -/
theorem drop (h : Producing mine past b) {p : Option Posting}
    (hp : b.publishing.Perm (p.toList ++ c.publishing)) (hb : postings .begun fx = [])
    (ha : postings .accepted fx = p.toList) : Producing mine (past ++ fx) c := by
  have hown := own_perm mine hp
  rw [own_append] at hown
  have heq := eq_of_perm_of_length_le_one hown h.single
  have hlength := congrArg List.length heq
  rw [List.length_append] at hlength
  refine ⟨?_, ?_⟩
  · rw [postings_append, postings_append, hb, ha, List.append_nil, own_append, List.append_assoc,
      ← heq]
    exact h.begun
  · have hsingle := h.single
    omega

/-- A call that is about to leave an event to the bus is the only one that still has one. -/
theorem eq_singleton (h : Producing mine past b) {id : Nat} {e : Event}
    (hc : ⟨id, .calling e [] none⟩ ∈ b.calls) (hm : mine id = true) :
    own mine b.publishing = [⟨id, e⟩] := by
  have hmem : (⟨id, e⟩ : Posting) ∈ own mine b.publishing :=
    mem_own.2 ⟨List.mem_filterMap.2 ⟨_, hc, rfl⟩, hm⟩
  have hlength : (own mine b.publishing).length = 1 := by
    have hpos := List.length_pos_of_mem hmem
    have hsingle := h.single
    omega
  obtain ⟨q, hq⟩ := List.length_eq_one_iff.1 hlength
  rw [hq] at hmem ⊢
  rw [List.mem_singleton.1 hmem]

end Producing

/-- When a call of a sequential producer begins to publish, those before it have returned, so none
of them has an event left. -/
theorem Reached.own_publishing_eq_nil (h : Reached config schedule past b) {n : Nat} {e : Event}
    (hs : Sequential mine (past ++ [.began n e])) (hm : mine n = true) :
    own mine b.publishing = [] := by
  rw [List.eq_nil_iff_forall_not_mem]
  intro p hp
  obtain ⟨hmem, hpm⟩ := mem_own.1 hp
  have hbegan : .began p.call p.event ∈ past :=
    mem_postings_begun.1 (h.calls.begun.mem_iff.2 (List.mem_append_left _ hmem))
  have hreturned := mem_returns.2 (hs past n e [] rfl hm p.call p.event hpm hbegan)
  have hcall := (publishing_sublist b.calls).subset (List.mem_map_of_mem hmem)
  exact (List.nodup_append.1 h.calls.numbered.1).2.2 _ hcall _ hreturned rfl

/-- **A sequential producer has at most one event that is not accepted yet**, the last. -/
theorem Reached.producing (h : Reached config schedule past b) (hs : Sequential mine past) :
    Producing mine past b := by
  induction h with
  | new hb =>
    obtain ⟨hv, rfl⟩ := eq_of_new? hb
    exact ⟨rfl, Nat.zero_le 1⟩
  | @step _ past fx b c _ hb ht ih =>
    have hprev := ih hs.of_append
    have hn := hb.numbers.calls.1
    cases ht with
    | beginSubscribe | beginDispatch =>
      refine hprev.frame ?_ rfl rfl
      rw [publishing_begin]
      exact List.append_nil _
    | @beginPublish e =>
      have hpub : (b.begin (.publishing e)).publishing = b.publishing ++ [⟨b.nextId, e⟩] :=
        publishing_begin ..
      have hbegun : postings .begun [(.began b.nextId e : Effect H)] = [⟨b.nextId, e⟩] := rfl
      have haccepted : postings .accepted [(.began b.nextId e : Effect H)] = [] := rfl
      refine ⟨?_, ?_⟩
      · rw [postings_append, postings_append, hbegun, haccepted, List.append_nil, own_append, hpub,
          own_append, hprev.begun, List.append_assoc]
      · rw [hpub, own_append, List.length_append]
        by_cases hm : mine b.nextId = true
        · rw [hb.own_publishing_eq_nil hs hm, List.length_nil, Nat.zero_add]
          exact List.length_filter_le ..
        · have hskip : own mine [⟨b.nextId, e⟩] = [] := List.filter_cons_of_neg hm
          rw [hskip]
          exact hprev.single
    | subscribe hc => exact hprev.drop (publishing_perm hn hc) rfl rfl
    | lookUp hc | invoke hc | endListener hc =>
      refine hprev.frame (publishing_setCall hn hc ?_) ?_ ?_ <;> rfl
    | enter hc => exact hprev.drop (publishing_perm hn hc) rfl rfl
    | defer hc => exact hprev.drop (publishing_perm hn hc) rfl rfl
    | dispatch hc =>
      refine hprev.drop (publishing_perm hn hc) ?_ ?_ <;> rw [postings_append, postings_fan] <;> rfl
    | skipDispatch hc => exact hprev.drop (publishing_perm hn hc) rfl rfl
    | close => refine hprev.frame rfl ?_ ?_ <;> split <;> rfl
    | fanOut => exact hprev.frame rfl (postings_fan ..) (postings_fan ..)
    | _ => exact hprev.frame rfl rfl rfl

/-! ## The events that are still to enter -/

/-- A deferred event is one of those that are deferred. -/
theorem deferrals_perm (hn : (b.overflow.map (·.id)).Nodup) {d : Deferred} (hd : d ∈ b.overflow) :
    b.deferrals.Perm
      (d.posting :: (b.overflow.filter fun x => x.id != d.id).map (·.posting)) :=
  (perm_cons_filter hn hd).map Deferred.posting

/-- **Before cancellation, an event that is accepted enters the queue or is deferred with the same
step, and a deferred event goes nowhere but into the queue.** -/
theorem Transition.entered (hn : (b.overflow.map (·.id)).Nodup) (ht : Transition b s c fx)
    (hk : c.cancelled = false) :
    (b.deferrals ++ postings .accepted fx).Perm (postings .entered fx ++ c.deferrals) := by
  -- A step that neither list notices.
  have hkeep (ha : postings .accepted fx = []) (he : postings .entered fx = [])
      (ho : b.deferrals.Perm c.deferrals) :
      (b.deferrals ++ postings .accepted fx).Perm (postings .entered fx ++ c.deferrals) := by
    rw [ha, he, List.append_nil]
    exact ho
  cases ht with
  | enter => exact List.perm_append_comm
  | @defer id e =>
    have hlast : (b.overflow ++ [(⟨b.nextId, ⟨id, e⟩, .fresh⟩ : Deferred)]).map Deferred.posting =
        b.deferrals ++ [⟨id, e⟩] := List.map_append
    exact List.Perm.of_eq hlast.symm
  | close => exact Bool.noConfusion hk
  | dispatch =>
    refine hkeep ?_ ?_ (List.Perm.refl _) <;> rw [postings_append, postings_fan] <;> rfl
  | fanOut => exact hkeep (postings_fan ..) (postings_fan ..) (List.Perm.refl _)
  | receive => exact hkeep rfl rfl (List.Perm.of_eq (map_granted (fun _ => rfl) _).symm)
  | enterFresh hd | enterGranted hd =>
    refine List.Perm.trans ?_ (deferrals_perm hn hd)
    exact List.Perm.of_eq (List.append_nil _)
  | wait hd => exact hkeep rfl rfl (perm_filter_append hn hd rfl)
  | abandon _ _ hc | abandonGranted _ _ hc => exact absurd (hc.symm.trans hk) (by simp)
  | _ => exact hkeep rfl rfl (List.Perm.refl _)

/-- Before cancellation, what has been accepted has entered the queue or is deferred. -/
theorem Reached.entered (h : Reached config schedule past b) (hk : b.cancelled = false) :
    (postings .accepted past).Perm (postings .entered past ++ b.deferrals) := by
  induction h with
  | new hb =>
    obtain ⟨hv, rfl⟩ := eq_of_new? hb
    exact List.Perm.refl _
  | @step _ past fx b c s hb ht ih =>
    have hclose := mt (hb.step ht).cancelled_iff_close_mem.2 (Bool.eq_false_iff.1 hk)
    have hbefore := ih (hb.not_cancelled fun hmem => hclose (List.mem_append_left _ hmem))
    have hstep := ht.entered hb.numbers.overflow.1 hk
    rw [postings_append, postings_append, List.append_assoc]
    refine (hbefore.append_right _).trans ?_
    rw [List.append_assoc]
    exact hstep.append_left _

/-- As long as the order is kept, the events of the producer that have been accepted are those that
have entered the queue, followed by those that are deferred, oldest first. -/
theorem Reached.exists_rest (h : Reached config schedule past b) (hk : b.cancelled = false)
    (hp : Producing mine past b) (ho : InOrder mine past) :
    ∃ rest, own mine (postings .accepted past) = own mine (postings .entered past) ++ rest ∧
      rest.Perm (own mine b.deferrals) ∧ rest.Pairwise fun p q => p.call < q.call := by
  have hperm := own_perm mine (h.entered hk)
  rw [own_append] at hperm
  have hlength := hperm.length_eq
  rw [List.length_append] at hlength
  have hentered : own mine (postings .entered past) <+: own mine (postings .accepted past) := by
    refine List.prefix_of_prefix_length_le ho ?_ (by omega)
    rw [hp.begun]
    exact List.prefix_append ..
  obtain ⟨rest, hrest⟩ := hentered
  refine ⟨rest, hrest.symm, ?_, ?_⟩
  · rw [← hrest] at hperm
    exact (List.perm_append_left_iff _).1 hperm
  · have hsorted := h.sorted_begun.sublist (List.filter_sublist (p := fun p => mine p.call))
    have hbegun := hp.begun
    unfold own at hbegun hrest
    rw [hbegun, ← hrest, List.append_assoc] at hsorted
    exact (List.pairwise_append.1 (List.pairwise_append.1 hsorted).2.1).1

/-- Whether there is an event left of the producer that is deferred. -/
theorem mem_own_deferrals {p : Posting} :
    p ∈ own mine b.deferrals ↔
      ∃ d ∈ b.overflow, d.posting = p ∧ mine p.call = true := by
  rw [mem_own, deferrals, List.mem_map]
  constructor
  · rintro ⟨⟨d, hd, hp⟩, hm⟩
    exact ⟨d, hd, hp, hm⟩
  · rintro ⟨d, hd, hp, hm⟩
    exact ⟨⟨d, hd, hp⟩, hm⟩

/-! ## Steps that overtake -/

/-- A call that is not about to leave its event to the bus does not overtake. -/
theorem not_overtakes_call (hn : (b.calls.map (·.id)).Nodup) {id : Nat} {stage : CallStage H}
    (hc : ⟨id, stage⟩ ∈ b.calls) (hs : ∀ e, stage ≠ .calling e [] none) :
    ¬ Overtakes mine b (.call id) := by
  intro h
  cases h with
  | @publish _ e _ hc' =>
    have heq := List.inj_on_of_nodup_map hn hc hc' rfl
    exact hs e (congrArg Call.stage heq)

/-- A deferred event that overtakes has a slot, or finds a free one, and is younger than another. -/
theorem overtakes_deferred_iff (hn : (b.overflow.map (·.id)).Nodup) {d : Deferred}
    (hd : d ∈ b.overflow) :
    Overtakes mine b (.deferred d.id) ↔
      (d.stage = .granted ∨ d.stage = .fresh ∧ 0 < b.free) ∧ mine d.posting.call = true ∧
        ∃ p ∈ own mine b.deferrals, p.call < d.posting.call := by
  constructor
  · intro h
    generalize hid : d.id = id at h
    cases h with
    | @deferred y x hy hs hm hx hxm hlt =>
      obtain rfl : d = y := List.inj_on_of_nodup_map hn hd hy hid
      exact ⟨hs, hm, x.posting, mem_own_deferrals.2 ⟨x, hx, rfl, hxm⟩, hlt⟩
  · rintro ⟨hs, hm, p, hp, hlt⟩
    obtain ⟨x, hx, rfl, hxm⟩ := mem_own_deferrals.1 hp
    exact .deferred hd hs hm hx hxm hlt

/-- One event is the beginning of some that are in order if and only if none of them is older. -/
theorem singleton_prefix_iff {p : Posting} {rest more : List Posting} (hp : p ∈ rest)
    (hr : rest.Pairwise fun p q => p.call < q.call) :
    [p] <+: rest ++ more ↔ ∀ q ∈ rest, ¬ q.call < p.call := by
  cases rest with
  | nil => exact absurd hp List.not_mem_nil
  | cons r rest =>
    obtain ⟨hfirst, -⟩ := List.pairwise_cons.1 hr
    rw [List.cons_append, List.cons_prefix_cons, and_iff_left List.nil_prefix]
    constructor
    · rintro rfl q hq hlt
      rcases List.mem_cons.1 hq with rfl | hq
      · exact Nat.lt_irrefl _ hlt
      · exact Nat.lt_asymm hlt (hfirst q hq)
    · intro hnone
      rcases List.mem_cons.1 hp with rfl | hp
      · rfl
      · exact absurd (hfirst p hp) (hnone r List.mem_cons_self)

/-- An event that enters next keeps the order if and only if it is the first of those left. -/
theorem inOrder_iff_of_entered (hp : Producing mine past b) {rest : List Posting}
    (hrest : own mine (postings .accepted past) = own mine (postings .entered past) ++ rest)
    {p : Posting} (hm : mine p.call = true) (hb : postings .begun fx = [])
    (he : postings .entered fx = [p]) :
    InOrder mine (past ++ fx) ↔ [p] <+: rest ++ own mine b.publishing := by
  have hself : own mine [p] = [p] := List.filter_cons_of_pos hm
  rw [InOrder, postings_append, postings_append, hb, he, List.append_nil, own_append, hself,
    hp.begun, hrest, List.append_assoc, List.prefix_append_right_inj]

/-- A step with which no event of the producer enters keeps the order. -/
theorem InOrder.append (ho : InOrder mine past) (he : own mine (postings .entered fx) = []) :
    InOrder mine (past ++ fx) := by
  rw [InOrder, postings_append, postings_append, own_append, own_append, he, List.append_nil]
  exact ho.trans (List.prefix_append ..)

/-- A call that leaves its event to the bus while there is a free slot keeps the order if and only
if nothing of the producer is deferred. -/
theorem Reached.inOrder_enter_iff (hb : Reached config schedule past b) (hk : b.cancelled = false)
    (hp : Producing mine past b) (ho : InOrder mine past) {id : Nat} {e : Event}
    (hc : ⟨id, .calling e [] none⟩ ∈ b.calls) (hf : 0 < b.free) :
    InOrder mine (past ++ [.accepted ⟨id, e⟩, .entered ⟨id, e⟩, .returned id]) ↔
      ¬ Overtakes mine b (.call id) := by
  by_cases hm : mine id = true
  · obtain ⟨rest, hrest, hperm, hsorted⟩ := hb.exists_rest hk hp ho
    have hpublishing := hp.eq_singleton hc hm
    have hyounger : ∀ q ∈ rest, q.call < id := by
      have hall := hb.sorted_begun.sublist (List.filter_sublist (p := fun p => mine p.call))
      have hbegun := hp.begun
      unfold own at hbegun hrest hpublishing
      rw [hbegun, hrest, hpublishing] at hall
      intro q hq
      exact (List.pairwise_append.1 hall).2.2 q (List.mem_append_right _ hq) _
        (List.mem_singleton_self _)
    rw [inOrder_iff_of_entered hp hrest hm rfl rfl, hpublishing]
    constructor
    · intro hprefix hover
      cases hover with
      | @publish _ _ x _ _ _ hx hxm =>
        have hmem : x.posting ∈ rest := hperm.mem_iff.2 (mem_own_deferrals.2 ⟨x, hx, rfl, hxm⟩)
        cases rest with
        | nil => exact List.not_mem_nil hmem
        | cons r rest =>
          rw [List.cons_append, List.cons_prefix_cons] at hprefix
          have hlt := hyounger r List.mem_cons_self
          rw [← hprefix.1] at hlt
          exact Nat.lt_irrefl _ hlt
    · intro hnot
      have hnil : rest = [] := by
        rw [List.eq_nil_iff_forall_not_mem]
        intro q hq
        obtain ⟨x, hx, rfl, hxm⟩ := mem_own_deferrals.1 (hperm.mem_iff.1 hq)
        exact hnot (.publish hc hf hm hx hxm)
      rw [hnil]
      exact List.prefix_refl _
  · have hnone : own mine [(⟨id, e⟩ : Posting)] = [] := List.filter_cons_of_neg hm
    refine iff_of_true (ho.append hnone) fun hover => ?_
    cases hover with
    | publish _ _ hm' => exact hm hm'

/-- A deferred event that enters the queue keeps the order if and only if none of the producer that
is deferred is older. -/
theorem Reached.inOrder_deferred_iff (hb : Reached config schedule past b)
    (hk : b.cancelled = false) (hp : Producing mine past b) (ho : InOrder mine past)
    {d : Deferred} (hd : d ∈ b.overflow)
    (hs : d.stage = .granted ∨ d.stage = .fresh ∧ 0 < b.free) :
    InOrder mine (past ++ [.entered d.posting]) ↔ ¬ Overtakes mine b (.deferred d.id) := by
  rw [overtakes_deferred_iff hb.numbers.overflow.1 hd]
  by_cases hm : mine d.posting.call = true
  · obtain ⟨rest, hrest, hperm, hsorted⟩ := hb.exists_rest hk hp ho
    have hmem : d.posting ∈ rest := hperm.mem_iff.2 (mem_own_deferrals.2 ⟨d, hd, rfl, hm⟩)
    rw [inOrder_iff_of_entered hp hrest hm rfl rfl, singleton_prefix_iff hmem hsorted]
    constructor
    · rintro hnone ⟨-, -, p, hpd, hlt⟩
      exact hnone p (hperm.mem_iff.2 hpd) hlt
    · intro hnot q hq hlt
      exact hnot ⟨hs, hm, q, hperm.mem_iff.1 hq, hlt⟩
  · have hnone : own mine [d.posting] = [] := List.filter_cons_of_neg hm
    exact iff_of_true (ho.append hnone) fun h => hm h.2.1

/-- **A step before closing keeps the order if and only if it does not overtake.** -/
theorem Reached.inOrder_step_iff (hb : Reached config schedule past b) (ht : Transition b s c fx)
    (hk : b.cancelled = false) (hp : Producing mine past b) (ho : InOrder mine past) :
    InOrder mine (past ++ fx) ↔ ¬ Overtakes mine b s := by
  have hn := hb.numbers.calls.1
  have hno := hb.numbers.overflow.1
  cases ht with
  | enter hc hf => exact hb.inOrder_enter_iff hk hp ho hc hf
  | enterFresh hd hs _ hf => exact hb.inOrder_deferred_iff hk hp ho hd (Or.inr ⟨hs, hf⟩)
  | enterGranted hd hs => exact hb.inOrder_deferred_iff hk hp ho hd (Or.inl hs)
  | subscribe hc | lookUp hc | invoke hc | skipDispatch hc =>
    exact iff_of_true (ho.append rfl) (not_overtakes_call hn hc fun e => by simp)
  | dispatch hc =>
    refine iff_of_true (ho.append ?_) (not_overtakes_call hn hc fun e => by simp)
    rw [postings_append, postings_fan]
    rfl
  | defer hc hf =>
    refine iff_of_true (ho.append rfl) fun hover => ?_
    cases hover with
    | publish _ hf' => omega
  | wait hd hs _ hf =>
    refine iff_of_true (ho.append rfl) fun hover => ?_
    obtain ⟨hcan, -⟩ := (overtakes_deferred_iff hno hd).1 hover
    rcases hcan with hg | ⟨-, hf'⟩
    · exact absurd (hs.symm.trans hg) (by simp)
    · omega
  | abandon _ _ hc | abandonGranted _ _ hc => exact absurd (hc.symm.trans hk) (by simp)
  | fanOut =>
    refine iff_of_true (ho.append ?_) nofun
    rw [postings_fan]
    rfl
  | close =>
    refine iff_of_true (ho.append ?_) nofun
    split <;> rfl
  | _ => exact iff_of_true (ho.append rfl) nofun

/-- An event that has entered too early stays too early. -/
theorem Reached.inOrder_of_append (hb : Reached config schedule past b) (hk : b.cancelled = false)
    (hp : Producing mine past b) {more : History H} (ho : InOrder mine (past ++ more)) :
    InOrder mine past := by
  have hentered :
      own mine (postings .entered past) <+: own mine (postings .begun (past ++ more)) := by
    refine List.IsPrefix.trans ?_ ho
    rw [postings_append, own_append]
    exact List.prefix_append ..
  have hbegun : own mine (postings .begun past) <+: own mine (postings .begun (past ++ more)) := by
    rw [postings_append, own_append]
    exact List.prefix_append ..
  have hperm := (own_perm mine (hb.entered hk)).length_eq
  refine List.prefix_of_prefix_length_le hentered hbegun ?_
  rw [hp.begun, List.length_append, hperm, own_append, List.length_append]
  omega

/-- Along a run before closing the order is kept if and only if no step overtakes. -/
theorem Reached.inOrder_run_iff (hb : Reached config schedule past b) {more : List (BusStep H)}
    {later : History H} (hrun : b.run more = some (c, later)) (hn : .close ∉ schedule ++ more)
    (hs : Sequential mine (past ++ news later)) (ho : InOrder mine past) :
    InOrder mine (past ++ news later) ↔ ¬ Overtaken mine more b := by
  induction more generalizing schedule past b later with
  | nil =>
    obtain ⟨-, rfl⟩ := Prod.mk.inj (Option.some.inj hrun)
    refine iff_of_true ?_ (fun h => h)
    rw [news_nil, List.append_nil]
    exact ho
  | cons s rest ih =>
    obtain ⟨next, effects, h', hstep, hrest, rfl⟩ := run_cons_eq_some.1 hrun
    have ht := transition_of_step hb.refusing hstep
    have hk := hb.not_cancelled fun hmem => hn (List.mem_append_left _ hmem)
    rw [List.append_cons] at hn
    rw [news_append, ← List.append_assoc] at hs ⊢
    have hnext := hb.step ht
    have hk' := hnext.not_cancelled fun hmem => hn (List.mem_append_left _ hmem)
    have hiff := hb.inOrder_step_iff ht hk (hb.producing hs.of_append.of_append) ho
    have hcons : Overtaken mine (s :: rest) b ↔ Overtakes mine b s ∨ Overtaken mine rest next := by
      rw [Overtaken, hstep]
      simp
    rw [hcons, not_or, ← hiff]
    constructor
    · intro hall
      have hnow := hnext.inOrder_of_append hk' (hnext.producing hs.of_append) hall
      exact ⟨hnow, (ih hnext hrest hn hs hnow).1 hall⟩
    · rintro ⟨hnow, hlater⟩
      exact (ih hnext hrest hn hs hnow).2 hlater

/-- **The events of a sequential producer enter the queue in order if and only if no step
overtakes**, as long as nobody closes the bus. -/
theorem entry_order {fresh : Bus H} {h : History H} (hnew : new? config = .ok fresh)
    (hrun : fresh.run schedule = some (b, h)) (hn : .close ∉ schedule) (hs : Sequential mine h) :
    InOrder mine h ↔ ¬ Overtaken mine schedule fresh := by
  have hiff := (Reached.new hnew).inOrder_run_iff hrun hn hs.news (List.prefix_refl _)
  rw [List.nil_append] at hiff
  rw [← hiff, InOrder, InOrder, postings_news, postings_news]

/-- An event is deferred, waits for a slot and enters the queue before the next is published: no
step overtakes, and the order is kept. -/
theorem entry_order_of_waiting : ∃ (fresh b : Bus Unit) (h : History Unit),
    new? smallest = .ok fresh ∧
    fresh.run [.publish (tick 1), .call 0, .call 0, .publish (tick 2), .call 1, .call 1,
      .deferred 2, .collect true, .worker 0, .worker 0, .deferred 2] = some (b, h) ∧
    (postings .entered h).map (·.call) = [0, 1] ∧
    ¬ Overtaken (fun _ => true) [.publish (tick 1), .call 0, .call 0, .publish (tick 2), .call 1,
      .call 1, .deferred 2, .collect true, .worker 0, .worker 0, .deferred 2] fresh := by
  obtain ⟨fresh, b, h, hnew, hrun, hentered, hs, ho⟩ : ∃ (fresh b : Bus Unit) (h : History Unit),
      new? smallest = .ok fresh ∧
      fresh.run [.publish (tick 1), .call 0, .call 0, .publish (tick 2), .call 1, .call 1,
        .deferred 2, .collect true, .worker 0, .worker 0, .deferred 2] = some (b, h) ∧
      (postings .entered h).map (·.call) = [0, 1] ∧ Sequential (fun _ => true) h ∧
      own (fun _ => true) (postings .entered h) = own (fun _ => true) (postings .begun h) := by
    refine ⟨_, _, _, rfl, rfl, rfl, ?_, rfl⟩
    decide
  have horder : InOrder (fun _ => true) h := ⟨[], by rw [List.append_nil, ho]⟩
  exact ⟨fresh, b, h, hnew, hrun, hentered, (entry_order hnew hrun (by simp) hs).1 horder⟩

/-- **Events of one producer and one name may enter the queue in another order than they were
published in**: the second is deferred, a worker takes the first, and the third is published before
the task of the second has asked for a slot. -/
theorem not_fifo : ¬ ∀ (config : DispatcherConfig) (schedule : List (BusStep Unit)) (b : Bus Unit)
    (h : History Unit) (mine : Nat → Bool) (name : String), Reaches config schedule b h →
      .close ∉ schedule → Sequential mine h →
      (∀ p ∈ own mine (postings .begun h), p.event.name = name) →
      (own mine (postings .entered h)).Sublist (own mine (postings .begun h)) := by
  intro hfifo
  obtain ⟨b, h, hb, hs, hbegun, hentered⟩ : ∃ (b : Bus Unit) (h : History Unit),
      Reaches smallest [.collect true, .worker 0, .publish (tick 1), .call 0, .call 0,
        .publish (tick 2), .call 1, .call 1, .worker 0, .publish (tick 3), .call 3, .call 3,
        .worker 0, .worker 0, .worker 0, .deferred 2] b h ∧ Sequential (fun _ => true) h ∧
      postings .begun h = [⟨0, tick 1⟩, ⟨1, tick 2⟩, ⟨3, tick 3⟩] ∧
      postings .entered h = [⟨0, tick 1⟩, ⟨3, tick 3⟩, ⟨1, tick 2⟩] := by
    refine ⟨_, _, ⟨_, rfl, rfl⟩, ?_, rfl, rfl⟩
    decide
  have hsublist := hfifo smallest _ b h (fun _ => true) "tick" hb (by simp) hs (by
    rw [hbegun]
    decide)
  rw [hbegun, hentered] at hsublist
  have hcalls := hsublist.map Posting.call
  revert hcalls
  decide

end Bus
end Switchboard
