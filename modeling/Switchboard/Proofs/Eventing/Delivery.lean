import Switchboard.Proofs.Eventing.Conservation
import Switchboard.Proofs.Eventing.Reader

/-!
# Every event is delivered

A bus that collects comes to rest only when nothing is left to do (`delivery`): if no worker and no
deferred event can take a step, then the queue is empty, no event is deferred, and whatever has been
published has been scheduled for all of its listeners.

## Why nothing gets stuck

A worker that has to wait either reads from an empty queue or stands in line, and a line needs a
reader: so somebody reads, and the queue is empty (`Reached.queue_eq_nil`).  A deferred event that
has to wait has no slot, and then there is no free slot either.  But no event in the queue has one,
and no granted event is there, so all slots are free, and there is at least one
(`Reached.overflow_eq_nil`).
-/

namespace Switchboard

namespace Bus

variable {H : Type}

open History

variable {b c : Bus H} {config : DispatcherConfig} {schedule : List (BusStep H)} {past : History H}

/-! ## Who has to wait -/

/-- A worker that has to wait before cancellation stands in line without having its turn, or reads
from an empty queue. -/
theorem of_workerStep_eq_none (hk : b.cancelled = false) {i : Nat} {w : WorkerState}
    (hi : b.crew[i]? = some w) (hw : w ≠ .stopped) (hnone : b.step (.worker i) = none) :
    w = .inLine ∧ b.holder ≠ some i ∨ w = .reading ∧ b.queue = [] := by
  have hstep : b.workerStep i = none := hnone
  cases w with
  | ready =>
    rw [workerStep, hi] at hstep
    simp only [hk, Bool.false_eq_true, if_false] at hstep
    split at hstep <;> exact absurd hstep (by simp)
  | inLine =>
    refine Or.inl ⟨rfl, fun hh => ?_⟩
    rw [workerStep, hi] at hstep
    simp only [hk, Bool.false_eq_true, if_false, if_pos hh] at hstep
    exact absurd hstep (by simp)
  | reading =>
    refine Or.inr ⟨rfl, ?_⟩
    cases hq : b.queue with
    | nil => rfl
    | cons p rest =>
      rw [workerStep, hi] at hstep
      simp only [hk, Bool.false_eq_true, if_false, hq] at hstep
      exact absurd hstep (by simp)
  | carrying p =>
    rw [workerStep, hi] at hstep
    exact absurd hstep (by simp)
  | stopped => exact absurd rfl hw

/-- A deferred event that has to wait before cancellation waits for a slot. -/
theorem of_deferredStep_eq_none (hr : b.refusing = false) (hk : b.cancelled = false)
    (hn : (b.overflow.map (·.id)).Nodup) {d : Deferred} (hd : d ∈ b.overflow)
    (hnone : b.step (.deferred d.id) = none) : d.stage = .waiting := by
  have hstep : b.deferredStep d.id = none := hnone
  cases hfind : b.overflow.find? fun x => x.id == d.id with
  | none =>
    have hself := List.find?_eq_none.1 hfind d hd
    exact absurd (beq_self_eq_true d.id) hself
  | some x =>
    obtain ⟨hx, hid⟩ := mem_of_find?_id hfind
    obtain rfl : x = d := List.inj_on_of_nodup_map hn hx hd hid
    rw [deferredStep, hfind] at hstep
    simp only [hk, hr, Bool.false_eq_true, if_false] at hstep
    cases hs : x.stage with
    | waiting => rfl
    | fresh =>
      rw [hs] at hstep
      simp only at hstep
      split at hstep <;> exact absurd hstep (by simp)
    | granted =>
      rw [hs] at hstep
      exact absurd hstep (by simp)

/-! ## A bus at rest -/

/-- A bus that collects and has not been closed has all its workers, and none has stopped. -/
theorem Reached.collecting (h : Reached config schedule past b) (hc : .collect true ∈ schedule)
    (hn : .close ∉ schedule) : b.cancelled = false ∧ b.crew.length = config.workers ∧
      ∀ w ∈ b.crew, w ≠ .stopped := by
  have hk := h.not_cancelled hn
  have hphase : b.phase = .collecting := by
    have hstarted := h.phase_ne_constructed hc
    have hopen : ¬ (b.phase = .closing ∨ b.phase = .closed) := by
      rw [← h.life.cancelled_iff, hk]
      exact Bool.false_ne_true
    cases hp : b.phase with
    | constructed => exact absurd hp hstarted
    | collecting => rfl
    | closing => exact absurd (Or.inl hp) hopen
    | closed => exact absurd (Or.inr hp) hopen
  have hcrew := h.life.manned hphase
  rw [h.config_eq] at hcrew
  exact ⟨hk, hcrew, h.life.alive hk⟩

/-- A bus has at least one worker once they have been started. -/
theorem workers_pos (b : Bus H) : 0 < b.config.workers :=
  (DispatcherConfig.validate_eq_ok_iff.1 b.valid).2.2

section Rest

variable (h : Reached config schedule past b) (hc : .collect true ∈ schedule)
  (hn : .close ∉ schedule) (hw : ∀ i, b.step (.worker i) = none)
include h hc hn hw

/-- If no worker can go on, then one of them reads. -/
theorem Reached.exists_reading : ∃ i : Nat, b.crew[i]? = some .reading := by
  obtain ⟨hk, hlength, halive⟩ := h.collecting hc hn
  have hstate (i : Nat) (w : WorkerState) (hi : b.crew[i]? = some w) :
      w = .inLine ∧ b.holder ≠ some i ∨ w = .reading ∧ b.queue = [] :=
    of_workerStep_eq_none hk hi (halive w (List.mem_of_getElem? hi)) (hw i)
  have hpos : 0 < b.crew.length := by
    have hworkers := b.workers_pos
    rw [h.config_eq] at hworkers
    omega
  obtain ⟨w, hfirst⟩ : ∃ w, b.crew[0]? = some w := ⟨b.crew[0], List.getElem?_eq_getElem hpos⟩
  rcases hstate 0 w hfirst with ⟨rfl, hne⟩ | ⟨rfl, -⟩
  · -- The first worker is in line, so the place of the reader is not free.
    have hmem := (h.reading.mem_of_inLine 0 hfirst).resolve_left hne
    have hholder : b.holder ≠ none := by
      intro hfree
      rw [h.reading.empty_of_free hfree] at hmem
      exact List.not_mem_nil hmem
    obtain ⟨j, hj⟩ := Option.ne_none_iff_exists'.1 hholder
    rcases h.reading.present_of_holder j hj with hr | hr
    · exact ⟨j, hr⟩
    · rcases hstate j _ hr with ⟨-, hnot⟩ | ⟨hreading, -⟩
      · exact absurd hj hnot
      · exact absurd hreading (by simp)
  · exact ⟨0, hfirst⟩

/-- If no worker can go on, then the queue is empty. -/
theorem Reached.queue_eq_nil : b.queue = [] := by
  obtain ⟨hk, -, -⟩ := h.collecting hc hn
  obtain ⟨i, hi⟩ := h.exists_reading hc hn hw
  rcases of_workerStep_eq_none hk hi (by simp) (hw i) with ⟨hline, -⟩ | ⟨-, hq⟩
  · exact absurd hline (by simp)
  · exact hq

/-- If no worker can go on, then none of them holds an event. -/
theorem Reached.carried_eq_nil : carried b.crew = [] := by
  obtain ⟨hk, -, halive⟩ := h.collecting hc hn
  refine List.filterMap_eq_nil_iff.2 fun w hmem => ?_
  obtain ⟨i, hi⟩ := List.mem_iff_getElem?.1 hmem
  rcases of_workerStep_eq_none hk hi (halive w hmem) (hw i) with ⟨rfl, -⟩ | ⟨rfl, -⟩ <;> rfl

variable (hd : ∀ id, b.step (.deferred id) = none)
include hd

/-- If nobody can go on, then no event is deferred. -/
theorem Reached.overflow_eq_nil : b.overflow = [] := by
  obtain ⟨hk, -, -⟩ := h.collecting hc hn
  have hwaiting (d : Deferred) (hmem : d ∈ b.overflow) : d.stage = .waiting :=
    of_deferredStep_eq_none h.refusing hk h.numbers.overflow.1 hmem (hd d.id)
  cases hover : b.overflow with
  | nil => rfl
  | cons d rest =>
    have hmem : d ∈ b.overflow := by
      rw [hover]
      exact List.mem_cons_self
    have hfree := h.slots.full d hmem (hwaiting d hmem)
    have hgranted : b.overflow.countP isGranted = 0 := by
      rw [List.countP_eq_zero]
      intro x hx
      rw [isGranted, hwaiting x hx]
      simp
    have hcounted := h.slots.counted
    have hcapacity := b.capacity_pos
    rw [hfree, h.queue_eq_nil hc hn hw, hgranted, List.length_nil] at hcounted
    omega

/-- If nobody can go on, then the bus has no events. -/
theorem Reached.held_eq_nil : b.held = [] := by
  rw [held, h.queue_eq_nil hc hn hw, h.overflow_eq_nil hc hn hw hd, h.carried_eq_nil hc hn hw]
  rfl

end Rest

/-- Before cancellation nothing has been dropped. -/
theorem Reached.not_dropped (h : Reached config schedule past b) (hk : b.cancelled = false)
    {x : Effect H} (hx : x ∈ past) : x.isDrop = false := by
  by_contra hd
  obtain ⟨before, after, hcut⟩ := List.append_of_mem hx
  have hcancelled := h.cancelled_before_drop hcut (by simpa using hd)
  have hmem : .cancelled ∈ past := by
    rw [hcut]
    exact List.mem_append_left _ hcancelled
  rw [← h.cancelled_iff_mem, hk] at hmem
  exact Bool.false_ne_true hmem

/-- An effect that makes an event abandoned or skipped is the loss of it. -/
theorem isDrop_of_fate {x : Effect H} {f : Fate} {p : Posting} (hx : x.fate? = some (f, p))
    (hf : f = .abandoned ∨ f = .skipped) : x.isDrop = true := by
  cases x with
  | abandoned | skipped => rfl
  | fannedOut source =>
    cases source with
    | none => exact absurd hx (by simp [Effect.fate?])
    | some n =>
      obtain ⟨rfl, -⟩ := Prod.mk.inj (Option.some.inj hx)
      exact absurd hf (by simp)
  | began | accepted | refused | entered =>
    obtain ⟨rfl, -⟩ := Prod.mk.inj (Option.some.inj hx)
    exact absurd hf (by simp)
  | _ => exact absurd hx (by simp [Effect.fate?])

/-- An event that has been left to a bus which is not closing is with the bus or has been fanned
out. -/
theorem Reached.held_or_fannedOut (h : Reached config schedule past b) (hk : b.cancelled = false)
    {p : Posting} (hp : p ∈ postings .accepted past) :
    p ∈ b.held ∨ p ∈ postings .fannedOut past := by
  have hkept (f : Fate) (hf : f = .abandoned ∨ f = .skipped) : p ∉ postings f past := by
    intro hmem
    obtain ⟨x, hx, hfate⟩ := mem_postings.1 hmem
    exact Bool.false_ne_true ((h.not_dropped hk hx).symm.trans (isDrop_of_fate hfate hf))
  rcases List.mem_append.1 (h.balance.mem_iff.1 hp) with hheld | hsettled
  · exact Or.inl hheld
  · rw [settled, List.mem_append, List.mem_append] at hsettled
    rcases hsettled with (hf | ha) | hs
    · exact Or.inr hf
    · exact absurd ha (hkept _ (Or.inl rfl))
    · exact absurd hs (hkept _ (Or.inr rfl))

/-! ## What is scheduled for an event -/

/-- The beginning of a publishing call is the only news of its step. -/
theorem Transition.eq_of_began_mem {s : BusStep H} {fx : History H} {n : Nat} {e : Event}
    (ht : Transition b s c fx) (hx : .began n e ∈ fx) : fx = [.began n e] := by
  cases ht with
  | beginPublish => rw [List.mem_singleton.1 hx]
  | close => split at hx <;> simp at hx
  | _ => simp at hx

/-- No event is fanned out twice. -/
theorem Reached.nodup_fannedOut (h : Reached config schedule past b) :
    ((postings .fannedOut past).map (·.call)).Nodup := by
  have hnodup := (h.balance.map (·.call)).nodup_iff.1 h.nodup_accepted
  have hpart : (postings .fannedOut past).Sublist (b.held ++ settled past) := by
    rw [settled, List.append_assoc]
    exact (List.sublist_append_left ..).trans (List.sublist_append_right ..)
  exact hnodup.sublist (hpart.map _)

/-- Nothing is scheduled for an event that has not been fanned out. -/
theorem Reached.scheduledFor_eq_nil (h : Reached config schedule past b) {n : Nat}
    (hn : n ∉ (postings .fannedOut past).map (·.call)) : scheduledFor n past = [] := by
  rw [scheduledFor, List.filter_eq_nil_iff]
  intro v hv hsource
  have hfanned := h.fannedOut_of_source hv (of_decide_eq_true hsource)
  exact hn (List.mem_map_of_mem (f := Posting.call) hfanned)

/-- What the step that fans out the event of a call schedules for it, and that other steps schedule
nothing for it. -/
theorem Transition.scheduledFor {s : BusStep H} {fx : History H} (ht : Transition b s c fx)
    (n : Nat) :
    (n ∉ (postings .fannedOut fx).map (·.call) ∧ scheduledFor n fx = []) ∨
      ∃ e, postings .fannedOut fx = [⟨n, e⟩] ∧ scheduledFor n fx = b.started (some n) e := by
  have hsources (source : Option Nat) (e : Event) (v : Invocation H) (hv : v ∈ b.started source e) :
      v.source = source := (eq_of_mem_invocations hv).1
  cases ht with
  | @fanOut i p =>
    by_cases hp : p.call = n
    · refine Or.inr ⟨p.event, ?_, ?_⟩
      · rw [postings_fan, ← hp]
        rfl
      · rw [History.scheduledFor, scheduled_fan, hp, List.filter_eq_self]
        exact fun v hv => decide_eq_true (hsources _ _ v hv)
    · refine Or.inl ⟨?_, ?_⟩
      · rw [postings_fan]
        exact fun hmem => hp (List.mem_singleton.1 hmem).symm
      · rw [History.scheduledFor, scheduled_fan, List.filter_eq_nil_iff]
        intro v hv hmem
        exact hp (Option.some.inj ((hsources _ _ v hv).symm.trans (of_decide_eq_true hmem)))
  | @dispatch id e =>
    refine Or.inl ⟨?_, ?_⟩
    · rw [postings_append, postings_fan]
      exact List.not_mem_nil
    · rw [History.scheduledFor, scheduled_append, scheduled_fan, List.filter_eq_nil_iff]
      intro v hv hmem
      rcases List.mem_append.1 hv with hv | hv
      · exact absurd ((hsources _ _ v hv).symm.trans (of_decide_eq_true hmem)) (by simp)
      · exact List.not_mem_nil hv
  | close =>
    refine Or.inl ⟨?_, ?_⟩ <;> split
    · exact List.not_mem_nil
    · exact List.not_mem_nil
    · rfl
    · rfl
  | _ => exact Or.inl ⟨List.not_mem_nil, rfl⟩

/-- **An event that has been fanned out has been scheduled once for everyone who heard of it then**,
and it had been published before. -/
theorem Reached.scheduledFor_of_fannedOut (h : Reached config schedule past b) {n : Nat} {e : Event}
    (hp : ⟨n, e⟩ ∈ postings .fannedOut past) :
    ∃ mid rest, past = mid ++ rest ∧ .began n e ∈ mid ∧
      (scheduledFor n past).map (fun v => (v.listener, v.event)) =
        (hearers e.name mid).map fun l => (l, e) := by
  induction h with
  | new => exact absurd hp List.not_mem_nil
  | @step _ past fx b _ _ hb ht ih =>
    have hnext := hb.step ht
    have hsplit : scheduledFor n (past ++ fx) = scheduledFor n past ++ scheduledFor n fx := by
      rw [scheduledFor, scheduled_append, List.filter_append, scheduledFor, scheduledFor]
    have hnodup := hnext.nodup_fannedOut
    rw [postings_append, List.map_append, List.nodup_append] at hnodup
    have hsettled : ⟨n, e⟩ ∈ settled (past ++ fx) :=
      List.mem_append_left _ (List.mem_append_left _ hp)
    rw [postings_append] at hp
    rcases List.mem_append.1 hp with hbefore | hnow
    · obtain ⟨mid, rest, hpast, hbegan, hall⟩ := ih hbefore
      refine ⟨mid, rest ++ fx, ?_, hbegan, ?_⟩
      · rw [hpast, List.append_assoc]
      · have hmem : n ∈ (postings .fannedOut past).map (·.call) :=
          List.mem_map_of_mem (f := Posting.call) hbefore
        rcases ht.scheduledFor n with ⟨-, hnone⟩ | ⟨e', hf, -⟩
        · rw [hsplit, hnone, List.append_nil]
          exact hall
        · exact absurd rfl (hnodup.2.2 n hmem n (by rw [hf]; exact List.mem_singleton_self n))
    · have hmem : n ∈ (postings .fannedOut fx).map (·.call) :=
        List.mem_map_of_mem (f := Posting.call) hnow
      have hfresh : n ∉ (postings .fannedOut past).map (·.call) := fun hold =>
        hnodup.2.2 n hold n hmem rfl
      rcases ht.scheduledFor n with ⟨hnot, -⟩ | ⟨e', hf, hs⟩
      · exact absurd hmem hnot
      · rw [hf] at hnow
        obtain rfl : e = e' := congrArg Posting.event (List.mem_singleton.1 hnow)
        refine ⟨past, fx, rfl, ?_, ?_⟩
        · have hbegan := hnext.began_of_accepted
            (hnext.balance.mem_iff.2 (List.mem_append_right _ hsettled))
          rcases List.mem_append.1 hbegan with hbegan | hbegan
          · exact hbegan
          · rw [ht.eq_of_began_mem hbegan] at hf
            exact absurd hf (by simp [postings, Effect.posting?, Effect.fate?])
        · have hall := congrArg (List.map Prod.snd)
            (map_invocations (some n) e (b.registry.listeners .async e.name) b.nextId)
          rw [List.map_map, List.map_map] at hall
          have hheard : hearers e.name past = b.registry.listeners .async e.name :=
            (hb.listeners .async e.name).symm
          rw [hsplit, hb.scheduledFor_eq_nil hfresh, List.nil_append, hs, hheard]
          exact hall

/-! ## The main result -/

/-- Two ways to part a list at an entry that is there once. -/
theorem exists_of_append_cons_eq {α : Type} {x : α} {before after mid rest : List α}
    (h : before ++ x :: after = mid ++ rest) (hx : x ∈ mid) (hn : x ∉ before) :
    ∃ between, mid = before ++ x :: between ∧ after = between ++ rest := by
  rcases List.append_eq_append_iff.1 h with ⟨between, hmid, hafter⟩ | ⟨between, hbefore, -⟩
  · cases between with
    | nil =>
      rw [List.append_nil] at hmid
      rw [hmid] at hx
      exact absurd hx hn
    | cons y between =>
      obtain ⟨rfl, rfl⟩ := List.cons.inj hafter
      exact ⟨between, hmid, rfl⟩
  · rw [hbefore] at hn
    exact absurd (List.mem_append_left _ hx) hn

/-- **No event is stranded.** If the workers of a bus have been started, nobody has closed it and
neither a worker nor a deferred event can take a step, then the queue is empty, no event is deferred
and all workers are there.  And for every publishing call that has returned, its event has been
scheduled exactly once for each asynchronous listener of its name that had subscribed before the
call began, and further only for listeners that subscribed in the time after that. -/
theorem delivery {h : History H} (hb : Reaches config schedule b h) (hc : .collect true ∈ schedule)
    (hn : .close ∉ schedule) (hw : ∀ i, b.step (.worker i) = none)
    (hd : ∀ id, b.step (.deferred id) = none) :
    b.queue = [] ∧ b.overflow = [] ∧ b.pending = 0 ∧
    b.crew.length = config.workers ∧ (∀ w ∈ b.crew, w ≠ .stopped) ∧
    ∀ before n e after, h = before ++ .began n e :: after → .returned n ∈ h →
      ∃ mid rest, after = mid ++ rest ∧
        (scheduledFor n h).map (fun v => (v.listener, v.event)) =
          (hearers e.name before ++ hearers e.name mid).map fun l => (l, e) := by
  have hr := hb.reached
  obtain ⟨hk, hlength, halive⟩ := hr.collecting hc hn
  have hoverflow := hr.overflow_eq_nil hc hn hw hd
  refine ⟨hr.queue_eq_nil hc hn hw, hoverflow, ?_, hlength, halive,
    fun before n e after hh hret => ?_⟩
  · have hpending := hr.slots.pending
    rw [hoverflow] at hpending
    exact hpending
  · have hcut : news h = news before ++ .began n e :: news after := by
      rw [hh, news_append_cons rfl]
    have hbegan : .began n e ∈ news h := by
      rw [hcut]
      exact List.mem_append_right _ List.mem_cons_self
    have haccepted := hr.accepted_of_returned hbegan ((mem_news rfl).2 hret)
    have hfanned : ⟨n, e⟩ ∈ postings .fannedOut (news h) := by
      rcases hr.held_or_fannedOut hk haccepted with hheld | hf
      · rw [hr.held_eq_nil hc hn hw hd] at hheld
        exact absurd hheld List.not_mem_nil
      · exact hf
    obtain ⟨mid, rest, hsplit, hmid, hall⟩ := hr.scheduledFor_of_fannedOut hfanned
    -- The event was published once, so the fan-out has come after the call began.
    obtain ⟨between, hbetween, hafter⟩ :=
      exists_of_append_cons_eq (hcut.symm.trans hsplit) hmid (hr.not_began_before hcut)
    obtain ⟨later, others, rfl, hlater, -⟩ := List.filter_eq_append_iff.1 hafter
    refine ⟨later, others, rfl, ?_⟩
    have hhearers : hearers e.name mid = hearers e.name before ++ hearers e.name later := by
      have hsubscriptions : subscriptions mid = subscriptions before ++ subscriptions later := by
        rw [hbetween, ← hlater, ← List.singleton_append, subscriptions_append, subscriptions_append,
          subscriptions_news]
        exact congrArg _ (subscriptions_news later)
      rw [hearers, hsubscriptions, List.filter_append, hearers, hearers]
    rw [scheduledFor, scheduled_news] at hall
    rw [← hhearers]
    exact hall

/-- A bus with one listener comes to rest after an event has been published, and the listener has
been scheduled for it. -/
theorem delivery_to_one_listener : ∃ (b : Bus Unit) (h before after : History Unit),
    Reaches smallest [.subscribe clock, .call 0, .collect true, .worker 0, .publish (tick 1),
      .call 1, .call 1, .worker 0, .worker 0, .worker 0] b h ∧
    b.queue = [] ∧ b.crew.length = 1 ∧ h = before ++ .began 1 (tick 1) :: after ∧
    ∃ mid rest, after = mid ++ rest ∧
      (scheduledFor 1 h).map (fun v => (v.listener, v.event)) =
        (hearers "tick" before ++ hearers "tick" mid).map fun l => (l, tick 1) := by
  obtain ⟨b, h, hb, hw, hd, hbegun, hreturned⟩ : ∃ (b : Bus Unit) (h : History Unit),
      Reaches smallest [.subscribe clock, .call 0, .collect true, .worker 0, .publish (tick 1),
        .call 1, .call 1, .worker 0, .worker 0, .worker 0] b h ∧
      (∀ i, b.step (.worker i) = none) ∧ (∀ id, b.step (.deferred id) = none) ∧
      postings .begun h = [⟨1, tick 1⟩] ∧ returns h = [0, 1] :=
    ⟨_, _, ⟨_, rfl, rfl⟩, fun i => by cases i <;> rfl, fun _ => rfl, rfl, rfl⟩
  have hbegan : .began 1 (tick 1) ∈ h :=
    (mem_postings_begun (p := ⟨1, tick 1⟩)).1 (by rw [hbegun]; exact List.mem_singleton_self _)
  have hreturn : .returned 1 ∈ h := mem_returns.1 (by rw [hreturned]; decide)
  obtain ⟨before, after, hcut⟩ := List.append_of_mem hbegan
  obtain ⟨hqueue, -, -, hcrew, -, hall⟩ := delivery hb (by simp) (by simp) hw hd
  exact ⟨b, h, before, after, hb, hqueue, hcrew, hcut, hall before 1 (tick 1) after hcut hreturn⟩

end Bus
end Switchboard
