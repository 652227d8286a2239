import Switchboard.Proofs.Eventing.Conservation

/-!
# Closing a bus

After cancellation has begun nothing is scheduled any more, and a call to close returns only when
all that went on before has come to its end: the workers have stopped, the listeners have ended and
so have the events that were deferred when cancellation began (`shutdown`).  What is in the queue
then is never delivered.

## What a call to close knows

A call to close waits for the workers first.  While it waits for tasks, or no longer waits, all
workers have stopped; and once it no longer waits, no listener has been at work and no event that
was deferred when cancellation began has been left (`Closing`).  Neither comes back: workers are
started only before closing, listeners are scheduled only before cancellation, and an event that is
deferred later is another one.
-/

namespace Switchboard

namespace Bus

variable {H : Type}

open History

variable {b c : Bus H} {s : BusStep H} {fx past : History H} {live : List Nat}

/-- What the calls to close know, when so many deferred events were there as cancellation began. -/
structure Closing (live : List Nat) (b : Bus H) : Prop where
  stopped : ∀ x ∈ b.closers, x.stage ≠ .workers → b.crewStopped = true
  ended : ∀ x ∈ b.closers, x.stage = .nothing → b.running = [] ∧ ∀ d ∈ b.overflow, d.id ∉ live
  given : ∀ i ∈ live, i < b.nextId

/-- Calls to close after tasks have been looked at: they are as before, or no task is left. -/
theorem mem_relieve {idle : Bool} {closers : List Closer} {x : Closer}
    (hx : x ∈ relieve idle closers) :
    x ∈ closers ∨ idle = true ∧ ∃ y ∈ closers, y.stage = .tasks := by
  cases idle with
  | false => exact Or.inl hx
  | true =>
    obtain ⟨y, hy, rfl⟩ := List.mem_map.1 hx
    by_cases hs : y.stage = .tasks
    · exact Or.inr ⟨rfl, y, hy, hs⟩
    · rw [if_neg hs]
      exact Or.inl hy

/-- No task is left if and only if no listener is at work and no event is deferred. -/
theorem idle_iff : b.idle = true ↔ b.running = [] ∧ b.overflow = [] := by
  rw [idle, Bool.and_eq_true, List.isEmpty_iff, List.isEmpty_iff]

namespace Closing

/-- There is nothing to know if nobody closes. -/
theorem of_nil (hc : c.closers = []) (hg : ∀ i ∈ live, i < c.nextId) : Closing live c where
  stopped x hx := by
    rw [hc] at hx
    exact absurd hx List.not_mem_nil
  ended x hx := by
    rw [hc] at hx
    exact absurd hx List.not_mem_nil
  given := hg

/-- Nothing is added to those who close, to the listeners at work and to the deferred events. -/
theorem shrink (h : Closing live b) (hc : ∀ x ∈ c.closers, x ∈ b.closers) (hw : c.crew = b.crew)
    (hr : ∀ v ∈ c.running, v ∈ b.running)
    (ho : ∀ d ∈ c.overflow, d.id ∈ b.overflow.map (·.id)) (hn : b.nextId ≤ c.nextId) :
    Closing live c where
  stopped x hx hs := by
    rw [crewStopped, hw]
    exact h.stopped x (hc x hx) hs
  ended x hx hs := by
    obtain ⟨hrun, hlive⟩ := h.ended x (hc x hx) hs
    refine ⟨List.eq_nil_iff_forall_not_mem.2 fun v hv => ?_, fun d hd => ?_⟩
    · have hmem := hr v hv
      rw [hrun] at hmem
      exact absurd hmem List.not_mem_nil
    · obtain ⟨x, hx, hid⟩ := List.mem_map.1 (ho d hd)
      rw [← hid]
      exact hlive x hx
  given i hi := Nat.lt_of_lt_of_le (h.given i hi) hn

/-- As long as a worker goes on, everybody who closes waits for the workers. -/
theorem worker (h : Closing live b) {i : Nat} {v : WorkerState} (hv : b.crew[i]? = some v)
    (hne : v ≠ .stopped) (hc : c.closers = b.closers) (hn : b.nextId ≤ c.nextId) :
    Closing live c := by
  have hunstopped : b.crewStopped ≠ true := by
    intro hstopped
    have hall := List.all_eq_true.1 hstopped v (List.mem_of_getElem? hv)
    exact hne (beq_iff_eq.1 hall)
  have hwaiting (x : Closer) (hx : x ∈ c.closers) : x.stage = .workers := by
    rw [hc] at hx
    by_contra hs
    exact hunstopped (h.stopped x hx hs)
  refine ⟨fun x hx hs => absurd (hwaiting x hx) hs, fun x hx hs => ?_, fun i hi => ?_⟩
  · rw [hwaiting x hx] at hs
    exact absurd hs (by simp)
  · exact Nat.lt_of_lt_of_le (h.given i hi) hn

/-- A task ends. -/
theorem taskEnded (h : Closing live b) : Closing live b.taskEnded where
  stopped x hx hs := by
    rcases mem_relieve hx with hx | ⟨-, y, hy, hys⟩
    · exact h.stopped x hx hs
    · exact h.stopped y hy (by rw [hys]; simp)
  ended x hx hs := by
    rcases mem_relieve hx with hx | ⟨hidle, -⟩
    · exact h.ended x hx hs
    · obtain ⟨hrunning, hoverflow⟩ := idle_iff.1 hidle
      refine ⟨hrunning, fun d hd => ?_⟩
      have hnone : d ∈ b.overflow := hd
      rw [hoverflow] at hnone
      exact absurd hnone List.not_mem_nil
  given := h.given

/-- Another call to close begins. -/
theorem close (h : Closing live b) (phase : Phase) :
    Closing live { b with
      phase := phase
      cancelled := true
      closers := b.closers ++ [⟨b.nextId, .workers⟩]
      nextId := b.nextId + 1 } where
  stopped x hx hs := by
    rcases List.mem_append.1 hx with hx | hx
    · exact h.stopped x hx hs
    · rw [List.mem_singleton.1 hx] at hs
      exact absurd rfl hs
  ended x hx hs := by
    rcases List.mem_append.1 hx with hx | hx
    · exact h.ended x hx hs
    · rw [List.mem_singleton.1 hx] at hs
      exact absurd hs (by simp)
  given i hi := Nat.lt_succ_of_lt (h.given i hi)

/-- A call to close goes on to wait for tasks. -/
theorem awaitTasks (h : Closing live b) (id : Nat) (hw : b.crewStopped = true) :
    Closing live { b with
      closers := b.closers.map fun x => if x.id = id then { x with stage := .tasks } else x } where
  stopped _ _ _ := hw
  ended x hx hs := by
    obtain ⟨y, hy, rfl⟩ := List.mem_map.1 hx
    by_cases hid : y.id = id
    · rw [if_pos hid] at hs
      exact absurd hs (by simp)
    · rw [if_neg hid] at hs
      exact h.ended y hy hs
  given := h.given

/-- An event is deferred that was not when cancellation began. -/
theorem defer (h : Closing live b) (hc : c.closers = b.closers) (hw : c.crew = b.crew)
    (hr : c.running = b.running) {p : Posting}
    (ho : c.overflow = b.overflow ++ [⟨b.nextId, p, .fresh⟩]) (hn : b.nextId ≤ c.nextId) :
    Closing live c where
  stopped x hx hs := by
    rw [hc] at hx
    rw [crewStopped, hw]
    exact h.stopped x hx hs
  ended x hx hs := by
    rw [hc] at hx
    obtain ⟨hrun, hlive⟩ := h.ended x hx hs
    refine ⟨hr.trans hrun, fun d hd => ?_⟩
    rw [ho] at hd
    rcases List.mem_append.1 hd with hd | hd
    · exact hlive d hd
    · rw [List.mem_singleton.1 hd]
      exact fun hmem => Nat.lt_irrefl _ (h.given _ hmem)
  given i hi := Nat.lt_of_lt_of_le (h.given i hi) hn

end Closing

variable {config : DispatcherConfig} {schedule : List (BusStep H)}

/-- **Every step keeps what the calls to close know.** -/
theorem Closing.step (hb : Reached config schedule past b) (h : Closing live b)
    (ht : Transition b s c fx) : Closing live c := by
  have hself (d : Deferred) (hd : d ∈ b.overflow) : d.id ∈ b.overflow.map (·.id) :=
    List.mem_map_of_mem hd
  cases ht with
  | beginSubscribe | beginPublish | beginDispatch =>
    exact h.shrink (fun _ hx => hx) rfl (fun _ hv => hv) hself (Nat.le_succ _)
  | defer => exact h.defer rfl rfl rfl rfl (Nat.le_succ _)
  | dispatch _ hk =>
    exact .of_nil (hb.closers_eq_nil hk) fun i hi =>
      Nat.lt_of_lt_of_le (h.given i hi) (Nat.le_add_right ..)
  | collect hp =>
    have hk : b.cancelled = false := by
      rw [Bool.eq_false_iff, Ne, hb.life.cancelled_iff, hp]
      simp
    exact .of_nil (hb.closers_eq_nil hk) h.given
  | close => exact h.close _
  | abandonClose | closed =>
    exact h.shrink (fun _ hx => (List.mem_filter.1 hx).1) rfl (fun _ hv => hv) hself (Nat.le_refl _)
  | awaitTasks _ _ hw => exact h.awaitTasks _ hw
  | takeReader hw | lineUp hw | becomeReader hw | receive hw | skipFanOut hw | stop hw
  | stopInLine hw =>
    exact h.worker hw (by simp) rfl (Nat.le_refl _)
  | fanOut hw => exact h.worker hw (by simp) rfl (Nat.le_add_right ..)
  | stopReader hw =>
    rcases hw with hw | ⟨hw, -⟩ <;> exact h.worker hw (by simp) rfl (Nat.le_refl _)
  | wait _ _ hk => exact .of_nil (hb.closers_eq_nil hk) h.given
  | enterFresh _ _ hk | enterGranted _ _ hk =>
    refine Closing.taskEnded (.of_nil ?_ h.given)
    exact hb.closers_eq_nil hk
  | abandon =>
    refine Closing.taskEnded
      (h.shrink (fun _ hx => hx) rfl (fun _ hv => hv) (fun d hd => ?_) (Nat.le_refl _))
    exact hself d (List.mem_filter.1 hd).1
  | @abandonGranted d =>
    refine Closing.taskEnded
      (h.shrink (fun _ hx => hx) rfl (fun _ hv => hv) (fun x hx => ?_) (Nat.le_refl _))
    have hmem : x.id ∈ (granted (b.dropDeferred d.id).overflow).map (·.id) := List.mem_map_of_mem hx
    rw [map_granted fun _ => rfl] at hmem
    exact (map_filter_sublist ..).subset hmem
  | finish =>
    refine Closing.taskEnded (h.shrink (fun _ hx => hx) rfl (fun _ hv => ?_) hself (Nat.le_refl _))
    exact (List.mem_filter.1 hv).1
  | _ => exact h.shrink (fun _ hx => hx) rfl (fun _ hv => hv) hself (Nat.le_refl _)

/-- Whatever a call to close knows of the workers and the listeners, it knows in every state that a
bus can get into. -/
theorem Reached.closing (h : Reached config schedule past b) : Closing [] b := by
  induction h with
  | new hb =>
    obtain ⟨hv, rfl⟩ := eq_of_new? hb
    exact .of_nil rfl fun _ hi => absurd hi List.not_mem_nil
  | step hb ht ih => exact ih.step hb ht

/-! ## After cancellation -/

/-- Once cancellation has begun it does not end, nothing is scheduled or leaves the queue. -/
theorem Transition.of_cancelled (hk : b.cancelled = true) (ht : Transition b s c fx) :
    c.cancelled = true ∧ scheduled fx = [] ∧ ∃ added, c.queue = b.queue ++ added := by
  have hsame : ∃ added, b.queue = b.queue ++ added := ⟨[], (List.append_nil _).symm⟩
  cases ht with
  | enter => exact ⟨hk, rfl, _, rfl⟩
  | close =>
    refine ⟨rfl, ?_, hsame⟩
    rw [if_pos hk]
    rfl
  | dispatch _ hn | takeReader _ hn | lineUp _ hn | becomeReader _ hn | receive _ hn | fanOut _ hn
  | enterFresh _ _ hn | wait _ _ hn | enterGranted _ _ hn =>
    rw [hk] at hn
    exact absurd hn (by simp)
  | _ => exact ⟨hk, rfl, hsame⟩

/-- Cancellation is the only news of the step with which it begins. -/
theorem Transition.eq_of_cancelled_mem (ht : Transition b s c fx) (hx : .cancelled ∈ fx) :
    fx = [.cancelled] := by
  cases ht with
  | close =>
    split
    · rename_i hk
      rw [if_pos hk] at hx
      exact absurd hx List.not_mem_nil
    · rfl
  | _ => simp at hx

/-- Nothing is scheduled after cancellation in any history. -/
theorem Reached.scheduled_after_cancelled (h : Reached config schedule past b)
    {before after : History H} (hp : past = before ++ .cancelled :: after) :
    scheduled after = [] := by
  induction h generalizing after with
  | new hb => exact absurd hp (by simp)
  | @step _ past fx b _ _ hb ht ih =>
    rcases List.append_eq_append_iff.1 hp with ⟨rest, -, hfx⟩ | ⟨middle, hpast, hafter⟩
    · have hmem : .cancelled ∈ fx := by
        rw [hfx]
        exact List.mem_append_right _ List.mem_cons_self
      have hlength := congrArg List.length (hfx.symm.trans (ht.eq_of_cancelled_mem hmem))
      rw [List.length_append, List.length_cons, List.length_singleton] at hlength
      rw [List.eq_nil_of_length_eq_zero (by omega : after.length = 0)]
      rfl
    · cases middle with
      | nil =>
        have hmem : .cancelled ∈ fx := by
          rw [List.nil_append] at hafter
          rw [← hafter]
          exact List.mem_cons_self
        have heq := hafter.trans (ht.eq_of_cancelled_mem hmem)
        rw [(List.cons.inj heq).2]
        rfl
      | cons y others =>
        obtain ⟨rfl, rfl⟩ := List.cons.inj hafter
        have hk : b.cancelled = true := by
          rw [hb.cancelled_iff_mem, hpast]
          exact List.mem_append_right _ List.mem_cons_self
        show scheduled (others ++ fx) = []
        rw [scheduled_append, ih hpast, (ht.of_cancelled hk).2.1]
        rfl

/-- Along a run that begins after cancellation, nothing is scheduled or leaves the queue. -/
theorem Reached.run_of_cancelled (hb : Reached config schedule past b) (hk : b.cancelled = true)
    {more : List (BusStep H)} {later : History H} (hrun : b.run more = some (c, later)) :
    scheduled later = [] ∧ ∃ added, c.queue = b.queue ++ added := by
  have hall := hb.run_induction (P := fun fx d => d.cancelled = true ∧ scheduled fx = [] ∧
    ∃ added, d.queue = b.queue ++ added) ?_ hrun ⟨hk, rfl, [], (List.append_nil _).symm⟩
  · rw [scheduled_news] at hall
    exact hall.1.2
  · intro _ _ d s e fx gx _ hd ht
    obtain ⟨hk, hnone, added, hq⟩ := hd
    obtain ⟨hk', hnone', added', hq'⟩ := ht.of_cancelled hk
    refine ⟨hk', ?_, added ++ added', ?_⟩
    · rw [scheduled_append, hnone, hnone', List.append_nil]
    · rw [hq', hq, List.append_assoc]

/-- What is in the queue has not been scheduled for any listener. -/
theorem Reached.scheduledFor_of_queued (h : Reached config schedule past b) {p : Posting}
    (hp : p ∈ b.queue) : scheduledFor p.call past = [] := by
  rw [scheduledFor, List.filter_eq_nil_iff]
  intro v hv hsource
  have hfanned := h.fannedOut_of_source hv (of_decide_eq_true hsource)
  have hheld : p ∈ b.held := List.mem_append_left _ (List.mem_append_left _ hp)
  have hsettled : ⟨p.call, v.event⟩ ∈ settled past :=
    List.mem_append_left _ (List.mem_append_left _ hfanned)
  exact h.apart hheld hsettled rfl

/-! ## The return of a call to close -/

/-- A call to close that returns does so when it no longer waits, or when there is nothing to wait
for; it closes the bus and changes nothing else that matters here. -/
theorem Transition.of_closed {k : Nat} (ht : Transition b s c fx) (hx : .closed k ∈ fx) :
    (∃ x ∈ b.closers,
      x.stage = .workers ∧ b.crewStopped = true ∧ b.idle = true ∨ x.stage = .nothing) ∧
      c.phase = .closed ∧ c.crew = b.crew ∧ c.running = b.running ∧ c.overflow = b.overflow := by
  cases ht with
  | @closed x hc hs => exact ⟨⟨x, hc, hs⟩, rfl, rfl, rfl, rfl⟩
  | close => split at hx <;> simp at hx
  | _ => simp at hx

/-- What a call to close finds when it returns: the workers have stopped, no listener is at work,
and the deferred events that it knew of have ended. -/
theorem Closing.of_closed {k : Nat} (h : Closing live b) (ht : Transition b s c fx)
    (hx : .closed k ∈ fx) : (∀ w ∈ c.crew, w = .stopped) ∧ c.running = [] ∧
      ∀ d ∈ c.overflow, d.id ∉ live := by
  obtain ⟨⟨x, hc, hs⟩, -, hcrew, hrunning, hoverflow⟩ := ht.of_closed hx
  have hstopped : b.crewStopped = true := by
    rcases hs with ⟨-, hw, -⟩ | hs
    · exact hw
    · exact h.stopped x hc (by rw [hs]; simp)
  have hended : b.running = [] ∧ ∀ d ∈ b.overflow, d.id ∉ live := by
    rcases hs with ⟨-, -, hidle⟩ | hs
    · obtain ⟨hnone, hempty⟩ := idle_iff.1 hidle
      refine ⟨hnone, fun d hd => ?_⟩
      rw [hempty] at hd
      exact absurd hd List.not_mem_nil
    · exact h.ended x hc hs
  rw [hcrew, hrunning, hoverflow]
  exact ⟨fun w hw => beq_iff_eq.1 (List.all_eq_true.1 hstopped w hw), hended⟩

/-- The calls to close know of the events that were deferred when the first of them began. -/
theorem Reaches.closing {before during : List (BusStep H)} {first : Bus H} {h early : History H}
    (hb : Reaches config (before ++ .close :: during) b h) (hf : Reaches config before first early)
    (hn : .close ∉ before) : Closing (first.overflow.map (·.id)) b := by
  obtain ⟨mid, _, _, hmid, hrun, -⟩ := reaches_append.1 hb
  obtain ⟨rfl, -⟩ := hf.unique hmid
  have hfirst := hf.reached
  have hk := hfirst.not_cancelled hn
  obtain ⟨next, effects, h', hs, hrest, -⟩ := run_cons_eq_some.1 hrun
  have ht := transition_of_step hfirst.refusing hs
  have hstart : Closing (first.overflow.map (·.id)) first :=
    .of_nil (hfirst.closers_eq_nil hk) hfirst.numbers.overflow.2
  exact ((hfirst.step ht).run_induction (P := fun _ b => Closing _ b)
    (fun hb h ht => h.step hb ht) hrest (hstart.step hfirst ht)).1

/-- **Nothing goes on behind the back of a call to close.** After cancellation has begun nothing is
scheduled.  What has been scheduled is at work until its listener ends by itself.  Whenever a call
to close returns, the bus is closed, all workers have stopped, all listeners that had been scheduled
have ended, the events that were deferred when cancellation began have left the deferred events, and
whatever happens next, nothing is scheduled, and an event in the queue stays there and is never
scheduled for a listener. -/
theorem shutdown {h : History H} (hb : Reaches config schedule b h) :
    (∀ before after, h = before ++ .cancelled :: after → scheduled after = []) ∧
    (scheduled h).Perm (b.running ++ finished h) ∧
    (∀ s c fx v o, b.step s = some (c, fx) → .finished v o ∈ fx → s = .finish v.id o) ∧
    (∀ s c fx k, b.step s = some (c, fx) → .closed k ∈ fx →
      c.phase = .closed ∧ (∀ w ∈ c.crew, w = .stopped) ∧ (∀ v ∈ scheduled h, v ∈ finished h) ∧
      (∀ before during first early, schedule = before ++ .close :: during → .close ∉ before →
        Reaches config before first early →
          ∀ d ∈ first.overflow, ∀ x ∈ c.overflow, x.id ≠ d.id) ∧
      ∀ more d later, c.run more = some (d, later) → scheduled later = [] ∧
        ∀ p ∈ c.queue, p ∈ d.queue ∧ scheduledFor p.call (h ++ fx ++ later) = []) := by
  have hr := hb.reached
  have hinvocations : (scheduled h).Perm (b.running ++ finished h) := by
    have hnews := hr.invocations
    rw [scheduled_news, finished_news] at hnews
    exact hnews
  refine ⟨fun before after hp => ?_, hinvocations, fun s c fx v o hs hx => ?_,
    fun s c fx k hs hx => ?_⟩
  · have hcut : news h = news before ++ .cancelled :: news after := by
      rw [hp, news_append_cons rfl]
    have hnone := hr.scheduled_after_cancelled hcut
    rw [scheduled_news] at hnone
    exact hnone
  · exact (transition_of_step hr.refusing hs).finish_of_finished ((mem_news rfl).2 hx)
  · have ht := transition_of_step hr.refusing hs
    have hnews : .closed k ∈ news fx := (mem_news rfl).2 hx
    obtain ⟨⟨x, hxc, -⟩, hphase, -, hsame, -⟩ := ht.of_closed hnews
    obtain ⟨hstopped, hrunning, -⟩ := hr.closing.of_closed ht hnews
    have hrun : b.running = [] := hsame.symm.trans hrunning
    have hk : b.cancelled = true := by
      by_contra hk
      rw [hr.closers_eq_nil (Bool.eq_false_iff.2 hk)] at hxc
      exact List.not_mem_nil hxc
    refine ⟨hphase, hstopped, fun v hv => ?_,
      fun before during first early hsched hn hf d hd x hx hid => ?_, fun more d later hlater => ?_⟩
    · have hmem := hinvocations.mem_iff.1 hv
      rw [hrun] at hmem
      exact hmem
    · rw [hsched] at hb
      have hlive := ((hb.closing hf hn).of_closed ht hnews).2.2 x hx
      exact hlive (hid ▸ List.mem_map_of_mem hd)
    · have hc := hr.step ht
      obtain ⟨hnone, added, hq⟩ := hc.run_of_cancelled (ht.of_cancelled hk).1 hlater
      refine ⟨hnone, fun p hp => ⟨?_, ?_⟩⟩
      · rw [hq]
        exact List.mem_append_left _ hp
      · have hbefore := hc.scheduledFor_of_queued hp
        rw [scheduledFor, scheduled_append, scheduled_news, scheduled_news] at hbefore
        rw [scheduledFor, scheduled_append, hnone, List.append_nil, scheduled_append]
        exact hbefore

/-- A bus is closed while a listener is at work and an event is in the queue.  When the call
returns, the listener has ended, and the event is never scheduled. -/
theorem shutdown_with_an_event_left : ∃ (b c : Bus Unit) (h fx : History Unit),
    Reaches smallest [.subscribe clock, .call 0, .collect true, .worker 0, .publish (tick 1),
      .call 1, .call 1, .worker 0, .worker 0, .worker 0, .publish (tick 2), .call 3, .call 3,
      .close, .worker 0, .closer 4, .finish 2 .done] b h ∧
    b.step (.closer 4) = some (c, fx) ∧ c.phase = .closed ∧ (∀ v ∈ scheduled h, v ∈ finished h) ∧
    (scheduled h).length = 1 ∧ c.queue = [⟨3, tick 2⟩] ∧
    ∀ more d later, c.run more = some (d, later) → scheduledFor 3 (h ++ fx ++ later) = [] := by
  obtain ⟨b, c, h, fx, hb, hs, hclosed, hlength, hqueue⟩ : ∃ (b c : Bus Unit) (h fx : History Unit),
      Reaches smallest [.subscribe clock, .call 0, .collect true, .worker 0, .publish (tick 1),
        .call 1, .call 1, .worker 0, .worker 0, .worker 0, .publish (tick 2), .call 3, .call 3,
        .close, .worker 0, .closer 4, .finish 2 .done] b h ∧
      b.step (.closer 4) = some (c, fx) ∧ fx = [.closed 4] ∧ (scheduled h).length = 1 ∧
      c.queue = [⟨3, tick 2⟩] := ⟨_, _, _, _, ⟨_, rfl, rfl⟩, rfl, rfl, rfl, rfl⟩
  have hmem : .closed 4 ∈ fx := by
    rw [hclosed]
    exact List.mem_singleton_self _
  obtain ⟨hphase, -, hended, -, hlater⟩ := (shutdown hb).2.2.2 _ c fx 4 hs hmem
  refine ⟨b, c, h, fx, hb, hs, hphase, hended, hlength, hqueue, fun more d later hrun => ?_⟩
  have hqueued : (⟨3, tick 2⟩ : Posting) ∈ c.queue := by
    rw [hqueue]
    exact List.mem_singleton_self _
  exact ((hlater more d later hrun).2 ⟨3, tick 2⟩ hqueued).2

end Bus
end Switchboard
