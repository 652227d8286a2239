import Switchboard.Proofs.Session.Desk
import Switchboard.Proofs.Session.Stage

/-!
# Announcing sessions

While sessions are announced on a stage, the bus passes events on and the listeners do their work.
`Serving` is what is known all the time: the bus has got to where it is by steps that pass events on
(`Hosted`), and what has come of the announcements is what is due to the listeners that have ended,
jobs seeing to the rest (`Attended`).

A turn of any party keeps it.  The agents of the bus schedule listeners and do nothing else that
concerns jobs (`Serving.agent`).  A job takes one of the steps below, and it never has to wait
(`Serving.job`): a publishing call goes on because nobody hears of sessions synchronously, the audit
and the relay find in the hub what they need, and a broadcast finds room in the next inbox.  There is
room because a relay that still broadcasts has been scheduled for an event of its own, so that fewer
messages have been sent to that client than events have been published (`Serving.room`).
-/

namespace Switchboard

/-- An event about a session. -/
inductive Event.IsSession : Event → Prop where
  | created (s : Session) : IsSession (.sessionCreated s)
  | deleted (s : Session) (time : Instant) : IsSession (.sessionDeleted s time)

/-- The audit has something to write about every session. -/
theorem Event.IsSession.record {e : Event} (he : e.IsSession) :
    ∃ data, Audit.record e = .ok ⟨.info, "session audit", data⟩ := by
  cases he <;> exact ⟨_, rfl⟩

namespace Scenario

open Bus (Transition Reached Forwarding)
open History

variable {g : Stage} {past : History Handler} {b : Bus Handler} {w v : World}

/-- Audit and relay, and nobody else, hear of sessions. -/
theorem Stage.Ready.hearers_of_isSession (hg : g.Ready) {e : Event} (he : e.IsSession) :
    (g.bus.registry.listeners .async e.name).Perm [auditOf e.name, relayOf e.name] ∧
      g.bus.registry.listeners .sync e.name = [] := by
  cases he with
  | created s => exact hg.hearers _ (Or.inl rfl)
  | deleted s time => exact hg.hearers _ (Or.inr rfl)

/-! ## The bus of a stage -/

/-- A world has the parts that the stage has, and the bus has passed on events about sessions. -/
structure Hosted (g : Stage) (past : History Handler) (b : Bus Handler) (w : World) : Prop where
  hub : w.app.hub = g.world.app.hub
  buses : w.app.buses = [⟨b, g.busLogger⟩]
  centers : w.app.centers = g.world.app.centers
  due : w.app.due = []
  reached : ∃ config schedule, Reached config schedule past b ∧ .collect true ∈ schedule ∧
    .close ∉ schedule
  forwarding : Forwarding Event.IsSession g.bus.registry past b

namespace Hosted

theorem congr (h : Hosted g past b w) (hs : Application.SameParts w.app v.app) :
    Hosted g past b v :=
  { h with
    hub := hs.hub.trans h.hub
    buses := hs.buses.trans h.buses
    centers := hs.centers.trans h.centers
    due := hs.due.trans h.due }

theorem setFrames (h : Hosted g past b w) (id : Nat) (frames : List Frame) :
    Hosted g past b (w.setFrames id frames) := by
  have hparts : Application.SameParts w.app (w.setFrames id frames).app := by
    rw [World.app_setFrames]
    exact ⟨rfl, rfl, rfl, rfl⟩
  exact h.congr hparts

theorem getElem?_buses (h : Hosted g past b w) :
    w.app.buses[0]? = some ⟨b, g.busLogger⟩ := by
  rw [h.buses]
  rfl

/-- A step that the bus can take it can take in the world. -/
theorem stepBus?_isSome (h : Hosted g past b w) {s : BusStep Handler} {r : Bus Handler × History Handler}
    (hs : b.step s = some r) : ∃ v, w.stepBus? 0 s = some v := by
  rw [World.stepBus?_eq h.getElem?_buses h.due, hs]
  exact ⟨_, rfl⟩

/-- What a step of the bus leaves alone in the world, and what it does to jobs. -/
theorem step (h : Hosted g past b w) (hg : g.Ready) {s : BusStep Handler}
    (hs : s.isForward = true) (hp : ∀ e, s = .publish e → e.IsSession)
    (hv : w.stepBus? 0 s = some v) :
    ∃ c fx, Transition b s c fx ∧ Hosted g (past ++ fx) c v ∧
      World.SameJobs (w.absorbAll 0 fx) v ∧ v.app.inboxes = w.app.inboxes ∧
      ∀ kept, w.app.Logs g.logger g.log.level Stage.subject kept →
        v.app.Logs g.logger g.log.level Stage.subject kept := by
  obtain ⟨config, schedule, hreached, hcollect, hclose⟩ := h.reached
  rw [World.stepBus?_eq h.getElem?_buses h.due] at hv
  obtain ⟨⟨c, effects⟩, hstep, rfl⟩ := Option.map_eq_some_iff.1 hv
  have ht := Bus.transition_of_step hreached.refusing hstep
  have hset : w.app.buses.set 0 ⟨c, g.busLogger⟩ = [⟨c, g.busLogger⟩] := by
    rw [h.buses]
    rfl
  -- The application is the same but for the bus, and for what the bus has written.
  obtain ⟨loggers, trace, happ⟩ := Application.transcribe_eq g.busLogger effects
    ({ w.app with buses := w.app.buses.set 0 ⟨c, g.busLogger⟩ } : Application Handler)
  have hsync : ∀ e : Event, e.IsSession → g.bus.registry.listeners .sync e.name = [] :=
    fun e he => (hg.hearers_of_isSession he).2
  have hnot : s ≠ .close := by
    intro heq
    rw [heq] at hs
    exact Bool.noConfusion hs
  refine ⟨c, news effects, ht, ⟨?_, ?_, ?_, ?_, ?_, ?_⟩, ?_, ?_, fun kept hkept => ?_⟩
  · rw [World.app_absorbAll, happ]
    exact h.hub
  · rw [World.app_absorbAll, happ]
    exact hset
  · rw [World.app_absorbAll, happ]
    exact h.centers
  · rw [World.app_absorbAll, happ]
    exact h.due
  · refine ⟨config, schedule ++ [s], hreached.step ht, List.mem_append_left _ hcollect, ?_⟩
    intro hmem
    rcases List.mem_append.1 hmem with hmem | hmem
    · exact hclose hmem
    · exact hnot (List.mem_singleton.1 hmem).symm
  · exact h.forwarding.step hsync ht hs hp
  · have hsame : World.SameJobs w
        { w with app := ({ w.app with buses := w.app.buses.set 0 ⟨c, g.busLogger⟩ } :
          Application Handler).transcribe g.busLogger effects } := ⟨rfl, rfl⟩
    exact hsame.absorbAll_news 0 effects
  · rw [World.app_absorbAll, happ]
  · rw [World.app_absorbAll]
    have hsubject : Stage.subject ∉ Bus.messages := by decide
    have hbefore : ({ w.app with buses := w.app.buses.set 0 ⟨c, g.busLogger⟩ } :
        Application Handler).Logs g.logger g.log.level Stage.subject kept := hkept.of_eq rfl
    exact hbefore.transcribe_step hsubject g.busLogger hstep

/-! ## What is scheduled -/

/-- Events that have been fanned out are about sessions. -/
theorem isSession_of_fannedOut (h : Hosted g past b w) {p : Posting}
    (hp : p ∈ postings .fannedOut past) : p.event.IsSession := by
  obtain ⟨config, schedule, hreached, -⟩ := h.reached
  exact h.forwarding.begun p (hreached.fannedOut_subperm.subset hp)

/-- The audit and the relay are scheduled, for events about sessions. -/
theorem of_scheduled (h : Hosted g past b w) (hg : g.Ready) {i : Invocation Handler}
    (hi : i ∈ scheduled past) :
    i.event.IsSession ∧ (i.listener.handler = .audit ∨ i.listener.handler = .relay) := by
  have hpair := List.mem_map_of_mem (f := fun i : Invocation Handler => (i.listener, i.event)) hi
  rw [h.forwarding.scheduled] at hpair
  obtain ⟨p, hp, hpair⟩ := List.mem_flatMap.1 hpair
  obtain ⟨l, hl, heq⟩ := List.mem_map.1 hpair
  obtain ⟨rfl, hevent⟩ := Prod.mk.inj heq
  have hsession := h.isSession_of_fannedOut hp
  have hlisteners := (hg.hearers_of_isSession hsession).1.mem_iff.1 hl
  refine ⟨hevent ▸ hsession, ?_⟩
  rcases List.mem_cons.1 hlisteners with heq | hlisteners
  · exact Or.inl (congrArg Listener.handler heq)
  · exact Or.inr (congrArg Listener.handler (List.mem_singleton.1 hlisteners))

/-- What comes of everything that has been scheduled: of each event that has been fanned out, what the
audit makes of it, and what the relay does. -/
theorem filterMap_scheduled (h : Hosted g past b w) (hg : g.Ready) {β : Type}
    (f : Handler → Event → Option β) :
    ((scheduled past).filterMap fun i => f i.listener.handler i.event).Perm
      ((postings .fannedOut past).flatMap fun p =>
        (f .audit p.event).toList ++ (f .relay p.event).toList) := by
  have hpairs : ((scheduled past).filterMap fun i => f i.listener.handler i.event) =
      ((scheduled past).map fun i => (i.listener, i.event)).filterMap
        fun x => f x.1.handler x.2 := by
    rw [List.filterMap_map]
    rfl
  rw [hpairs, h.forwarding.scheduled, List.filterMap_flatMap]
  refine List.Perm.flatMap_left _ fun p hp => ?_
  have hboth := (hg.hearers_of_isSession (h.isSession_of_fannedOut hp)).1.map fun l => (l, p.event)
  refine (hboth.filterMap fun x => f x.1.handler x.2).trans (List.Perm.of_eq ?_)
  rw [List.map_cons, List.map_cons, List.map_nil, Bus.filterMap_cons_toList,
    Bus.filterMap_cons_toList, List.filterMap_nil, List.append_nil]
  rfl

/-- As many messages are due in all as events have been fanned out. -/
theorem length_messagesOf (h : Hosted g past b w) (hg : g.Ready) :
    (messagesOf (scheduled past)).length = (postings .fannedOut past).length := by
  have hall := (h.filterMap_scheduled hg Handler.message?).length_eq
  have hone : ∀ p ∈ postings .fannedOut past, ((Handler.audit.message? p.event).toList ++
      (Handler.relay.message? p.event).toList).length = 1 := fun _ _ => rfl
  rw [List.length_flatMap, List.map_congr_left hone, List.map_const', List.sum_replicate_nat,
    Nat.mul_one] at hall
  exact hall

end Hosted

/-! ## Turns -/

/-- What is known while sessions are announced. -/
structure Serving (g : Stage) (past : History Handler) (b : Bus Handler) (w : World) : Prop where
  hosted : Hosted g past b w
  attended : Attended g (finished past) (Duty.all b) w

/-- What is known goes on to be known in a world that comes next, and no event has begun to be published
meanwhile. -/
def GoesOn (g : Stage) (past : History Handler) (v : World) : Prop :=
  ∃ c fx, Serving g (past ++ fx) c v ∧ postings .begun fx = []

namespace Serving

/-- What is not the business of the bus adds nothing to its history. -/
theorem goesOn (h : Serving g past b w) : GoesOn g past w := by
  refine ⟨b, [], ?_, rfl⟩
  rw [List.append_nil]
  exact h

/-- Every job sees to a call of the bus or to a listener that is running. -/
theorem mem_all (h : Serving g past b w) {j : Job} (hj : j ∈ w.jobs) {d : Duty}
    (hd : j.duty? = some d) : d ∈ Duty.all b :=
  h.attended.staffed.duties.mem_iff.1 (List.mem_filterMap.2 ⟨j, hj, hd⟩)

/-- The invocation that a job is for. -/
theorem running_of_duty (h : Serving g past b w) {j : Job} (hj : j ∈ w.jobs) {n : Nat}
    {handler : Handler} {e : Event} (hd : j.duty? = some (.hear n handler e)) :
    ∃ i ∈ b.running, i.id = n ∧ i.listener.handler = handler ∧ i.event = e := by
  rcases List.mem_append.1 (h.mem_all hj hd) with hmem | hmem
  · obtain ⟨c, -, hc⟩ := List.mem_map.1 hmem
    exact absurd hc (by simp)
  · obtain ⟨i, hi, hrun⟩ := List.mem_map.1 hmem
    exact ⟨i, hi, Duty.hear.inj hrun⟩

/-- The call that a job is for. -/
theorem calls_of_duty (h : Serving g past b w) {j : Job} (hj : j ∈ w.jobs) {n : Nat}
    (hd : j.duty? = some (.publish n)) : ∃ c ∈ b.calls, c.id = n := by
  rcases List.mem_append.1 (h.mem_all hj hd) with hmem | hmem
  · obtain ⟨c, hc, hpublish⟩ := List.mem_map.1 hmem
    exact ⟨c, hc, Duty.publish.inj hpublish⟩
  · obtain ⟨i, -, hi⟩ := List.mem_map.1 hmem
    exact absurd hi (by simp [Duty.run])

/-- Listeners that run have been scheduled. -/
theorem scheduled_of_running (h : Serving g past b w) {i : Invocation Handler}
    (hi : i ∈ b.running) : i ∈ scheduled past := by
  obtain ⟨config, schedule, hreached, -⟩ := h.hosted.reached
  exact hreached.invocations.mem_iff.2 (List.mem_append_left _ hi)

/-- An agent of the bus goes on. -/
theorem agent (h : Serving g past b w) (hg : g.Ready) {s : BusStep Handler} (hs : s.isAgent = true)
    (hv : w.stepBus? 0 s = some v) :
    GoesOn g past v := by
  have hforward : s.isForward = true := by cases s <;> first | rfl | exact Bool.noConfusion hs
  have hpublish : ∀ e, s = .publish e → e.IsSession := by
    intro e heq
    rw [heq] at hs
    exact Bool.noConfusion hs
  obtain ⟨c, fx, ht, hosted, hjobs, hin, hlog⟩ := h.hosted.step hg hforward hpublish hv
  obtain ⟨hcalls, hrunning, hfinished, hbegun, hcaller⟩ := ht.of_agent hs
  have hhandlers : ∀ i ∈ scheduled fx,
      i.listener.handler = .audit ∨ i.listener.handler = .relay := by
    intro i hi
    have hmem : i ∈ scheduled (past ++ fx) := by
      rw [scheduled_append]
      exact List.mem_append_right _ hi
    exact (hosted.of_scheduled hg hmem).2
  have hduties : Duty.all c = Duty.all b ++ (scheduled fx).map Duty.run := by
    rw [Duty.all, Duty.all, hcalls, hrunning, List.map_append, List.append_assoc]
  have hsame : World.SameJobs (w.hireAll 0 (scheduled fx)) v :=
    (World.sameJobs_hireAll hcaller ⟨rfl, rfl⟩).trans hjobs
  refine ⟨c, fx, ⟨hosted, ?_⟩, hbegun⟩
  rw [finished_append, hfinished, List.append_nil, hduties]
  refine (h.attended.hireAll hhandlers).congr hsame ?_ (hlog _ h.attended.log)
  rw [World.app_hireAll, hin]

/-- A publishing call goes on. -/
theorem publishing (h : Serving g past b w) (hg : g.Ready) {j : Job} (hj : j ∈ w.jobs) {call : Nat}
    (hframes : j.frames = [.publishing 0 call]) :
    ∃ v, w.advanceJob j = (v, true) ∧ GoesOn g past v := by
  obtain ⟨config, schedule, hreached, -⟩ := h.hosted.reached
  have hduty : j.duty? = some (.publish call) := by
    rw [Job.duty?, hframes]
    rfl
  obtain ⟨x, hx, rfl⟩ := h.calls_of_duty hj hduty
  obtain ⟨r, hr⟩ := h.hosted.forwarding.step_call hreached.numbers.calls.1 hx
  obtain ⟨v, hv⟩ := h.hosted.stepBus?_isSome hr
  have hadvance : w.advanceJob j = (v, true) := by
    rw [World.advanceJob, hframes]
    simp only [hv]
  obtain ⟨c, fx, ht, hosted, hjobs, hin, hlog⟩ :=
    h.hosted.step hg rfl (fun e heq => absurd heq (by simp)) hv
  have hlogged := hlog _ h.attended.log
  refine ⟨v, hadvance, c, fx, ?_⟩
  obtain ⟨hrunning, ⟨stage, hcalls, rfl⟩ | ⟨p, hcalls, hfx⟩⟩ := h.hosted.forwarding.of_call ht
  · have hduties : Duty.all c = Duty.all b := by
      rw [← Duty.all_setCall b x.id stage, Duty.all, Duty.all, hcalls, hrunning]
      rfl
    rw [List.append_nil] at hosted ⊢
    refine ⟨⟨hosted, ?_⟩, rfl⟩
    rw [hduties]
    exact h.attended.congr hjobs hin hlogged
  · have hduties : Duty.all c = Duty.all (b.dropCall x.id) := by
      rw [Duty.all, Duty.all, hcalls, hrunning]
      rfl
    have hrest : (Duty.all b).Perm (.publish x.id :: Duty.all c) := by
      rw [hduties]
      exact Duty.all_dropCall hreached.numbers.calls.1 hx
    have hreturned : (w.absorb 0 (.returned x.id)).app = w.app := World.app_absorb ..
    -- The other news of the step do nothing to jobs.
    have hquiet : finished fx = [] ∧ postings .begun fx = [] ∧
        w.absorbAll 0 fx = w.absorb 0 (.returned x.id) := by
      rcases hfx with rfl | rfl <;> exact ⟨rfl, rfl, rfl⟩
    obtain ⟨hfinished, hbegun, habsorbed⟩ := hquiet
    rw [habsorbed] at hjobs
    refine ⟨⟨hosted, ?_⟩, hbegun⟩
    rw [finished_append, hfinished, List.append_nil]
    refine (h.attended.returned hrest).congr hjobs ?_ hlogged
    rw [hreturned, hin]

/-- A listener ends well. -/
theorem finish {u : World} {i : Invocation Handler} (hosted : Hosted g past b u) (hg : g.Ready)
    (hi : i ∈ b.running)
    (hu : Attended g (finished past ++ [i])
      (Duty.all { b with running := b.running.filter fun x => x.id != i.id }) u) :
    GoesOn g past (u.stepBus 0 (.finish i.id .done)) := by
  obtain ⟨config, schedule, hreached, -⟩ := hosted.reached
  have hfind := Bus.find?_id_of_mem hreached.numbers.running.1 hi
  have hstep : ∃ r, b.step (.finish i.id .done) = some r :=
    ⟨_, by simp only [Bus.step, Bus.finish, hfind]; rfl⟩
  obtain ⟨r, hr⟩ := hstep
  obtain ⟨v, hv⟩ := hosted.stepBus?_isSome hr
  obtain ⟨c, fx, ht, hosted', hjobs, hin, hlog⟩ :=
    hosted.step hg rfl (fun e heq => absurd heq (by simp)) hv
  have hall : Attended g (finished (past ++ fx)) (Duty.all c) v ∧ postings .begun fx = [] := by
    generalize hid : i.id = id at ht
    cases ht with
    | @finish x o hx =>
      obtain rfl : i = x := List.inj_on_of_nodup_map hreached.numbers.running.1 hi hx hid
      rw [finished_append]
      exact ⟨hu.congr hjobs hin (hlog _ hu.log), rfl⟩
  rw [World.stepBus, hv, Option.getD_some]
  exact ⟨c, fx, ⟨hosted', hall.1⟩, hall.2⟩

/-- The job of a listener ends with its listener, which has written what it has to write and has got
through what it has to give out. -/
theorem finishJob (h : Serving g past b w) (hg : g.Ready) {j : Job} (hj : j ∈ w.jobs)
    {i : Invocation Handler} (hi : i ∈ b.running) (hd : j.duty? = some (Duty.run i))
    (hp : ∀ client ∈ g.center.clients, j.passed? client = i.listener.handler.message? i.event)
    {u : World} (hsame : World.SameJobs w u) (hparts : Application.SameParts w.app u.app)
    (hin : u.app.inboxes = w.app.inboxes)
    (hlog : u.app.Logs g.logger g.log.level Stage.subject
      (g.before ++ recordsOf (finished past ++ [i]))) :
    GoesOn g past ((u.setFrames j.id []).stepBus 0 (.finish i.id .done)) := by
  obtain ⟨config, schedule, hreached, -⟩ := h.hosted.reached
  have hrest := Duty.all_finish hreached.numbers.running.1 hi
  have hattended := h.attended.finish hj hd hrest hp hsame hin hlog
  exact finish ((h.hosted.congr hparts).setFrames j.id []) hg hi hattended

/-- The audit writes its record and ends. -/
theorem audit (h : Serving g past b w) (hg : g.Ready) {j : Job} (hj : j ∈ w.jobs) {n : Nat} {e : Event}
    (hframes : j.frames = [.handling ⟨0, .scheduled n, .audit, e, false, []⟩]) :
    ∃ v, w.advanceJob j = (v, true) ∧ GoesOn g past v := by
  have hduty : j.duty? = some (.hear n .audit e) := by
    rw [Job.duty?, hframes]
    rfl
  obtain ⟨i, hi, rfl, hhandler, rfl⟩ := h.running_of_duty hj hduty
  have hsession : i.event.IsSession := (h.hosted.of_scheduled hg (h.scheduled_of_running hi)).1
  obtain ⟨data, hrecord⟩ := hsession.record
  have hneed : w.app.hub.need .logger = .ok g.logger := by
    rw [h.hosted.hub]
    exact hg.needLogger
  let u : World := { w with app := w.app.write g.logger .info "session audit" data }
  have hadvance : w.advanceJob j =
      ((u.setFrames j.id []).stepBus 0 (.finish i.id .done), true) := by
    rw [World.advanceJob, hframes]
    simp only [World.advanceHandling, World.begin, World.runAudit, hneed, hrecord, World.endHandling]
    rfl
  obtain ⟨loggers, trace, hwrite⟩ := w.app.write_eq g.logger .info "session audit" data
  have hparts : Application.SameParts w.app u.app := by
    show Application.SameParts w.app (w.app.write g.logger .info "session audit" data)
    rw [hwrite]
    exact ⟨rfl, rfl, rfl, rfl⟩
  have hin : u.app.inboxes = w.app.inboxes := by
    show (w.app.write g.logger .info "session audit" data).inboxes = _
    rw [hwrite]
  have hpassed : ∀ client ∈ g.center.clients,
      j.passed? client = i.listener.handler.message? i.event := by
    intro client _
    rw [Job.passed?, hframes, hhandler]
    rfl
  have hlevel : (Level.info < Level.error && Level.info < g.log.level) = false := by
    have hle : g.log.level.rank ≤ Level.info.rank := hg.level
    have hnot : ¬Level.info < g.log.level := Nat.not_lt_of_le hle
    simp [hnot]
  have hone : recordsOf [i] = [⟨.info, "session audit", data⟩] := by
    simp [recordsOf, hhandler, Handler.record?, hrecord, Except.toOption]
  have hlog : u.app.Logs g.logger g.log.level Stage.subject
      (g.before ++ recordsOf (finished past ++ [i])) := by
    rw [recordsOf_append, hone, ← List.append_assoc]
    exact h.attended.log.write_subject hlevel data
  have hrun : Duty.run i = .hear i.id .audit i.event := by rw [Duty.run, hhandler]
  have hsame : World.SameJobs w u := ⟨rfl, rfl⟩
  have hnext := h.finishJob hg hj hi (hduty.trans (congrArg some hrun.symm)) hpassed hsame hparts hin hlog
  exact ⟨_, hadvance, hnext⟩

/-- The relay begins to broadcast. -/
theorem relay (h : Serving g past b w) (hg : g.Ready) {j : Job} (hj : j ∈ w.jobs) {n : Nat} {e : Event}
    (hframes : j.frames = [.handling ⟨0, .scheduled n, .relay, e, false, []⟩]) :
    ∃ v, w.advanceJob j = (v, true) ∧ GoesOn g past v := by
  obtain ⟨i, hneed, hcenter⟩ := hg.needCenter
  rw [← h.hosted.hub] at hneed
  rw [← h.hosted.centers] at hcenter
  let below : List Frame := [.handling ⟨0, .scheduled n, .relay, e, true, []⟩]
  let frame : Frame := .sending (.start j.id g.center (Relay.message e))
  have hadvance : w.advanceJob j = (w.setFrames j.id (frame :: below), true) := by
    rw [World.advanceJob, hframes]
    simp only [World.advanceHandling, World.begin, World.broadcastInside, hneed, bind, Except.bind,
      hcenter]
    rfl
  have hpassed : ∀ client ∈ g.center.clients,
      (⟨j.id, frame :: below⟩ : Job).passed? client = j.passed? client := by
    intro client hclient
    have hnone : j.passed? client = none := by
      rw [Job.passed?, hframes]
    rw [hnone]
    exact if_pos hclient
  have hduty : (⟨j.id, frame :: below⟩ : Job).duty? = j.duty? := by
    rw [Job.duty?, Job.duty?, hframes]
    rfl
  have hshape : Shape 0 g.center (frame :: below) := .sending n e j.id List.suffix_rfl
  have hattended := h.attended.change hj hshape hduty hpassed
  have hnext : Serving g past b (w.setFrames j.id (frame :: below)) :=
    ⟨h.hosted.setFrames j.id (frame :: below), hattended⟩
  exact ⟨_, hadvance, hnext.goesOn⟩

/-- While a relay has yet to reach a client, fewer messages have been sent to that client than events
have been published: the event of the relay is not among those that it has heard of. -/
theorem room (h : Serving g past b w) (hg : g.Ready) {j : Job} (hj : j ∈ w.jobs) {client : Client}
    (hnone : j.passed? client = none) {n : Nat} {e : Event}
    (hduty : j.duty? = some (.hear n .relay e)) :
    (messagesOf (finished past) ++ w.passed client).length < (postings .begun past).length := by
  obtain ⟨config, schedule, hreached, -⟩ := h.hosted.reached
  have hscheduled := h.hosted.length_messagesOf hg
  have hfanned : (postings .fannedOut past).length ≤ (postings .begun past).length :=
    hreached.fannedOut_subperm.length_le
  have hparts : (messagesOf (scheduled past)).length =
      (messagesOf b.running).length + (messagesOf (finished past)).length := by
    have hperm := (hreached.invocations.filterMap fun i : Invocation Handler =>
      i.listener.handler.message? i.event).length_eq
    rw [List.filterMap_append, List.length_append] at hperm
    exact hperm
  have hpassed := h.attended.staffed.length_passed_lt hj hnone hduty
  rw [filterMap_message_all] at hpassed
  rw [List.length_append]
  omega

/-- A broadcast goes on: to the next client, or back to its relay. -/
theorem sending (h : Serving g past b w) (hg : g.Ready) {j : Job} (hj : j ∈ w.jobs) {n sender : Nat}
    {e : Event} {rest : List Client} (hsuffix : rest <:+ g.center.clients)
    (hframes : j.frames = [.sending ⟨sender, g.center, Relay.message e, rest, none⟩,
      .handling ⟨0, .scheduled n, .relay, e, true, []⟩])
    (hroom : g.HasRoom (postings .begun past).length) :
    ∃ v, w.advanceJob j = (v, true) ∧ GoesOn g past v := by
  have hduty : j.duty? = some (.hear n .relay e) := by
    rw [Job.duty?, hframes]
    rfl
  cases rest with
  | cons client others =>
    have hclient : client ∈ g.center.clients := hsuffix.subset List.mem_cons_self
    have hnone : j.passed? client = none := by
      rw [Job.passed?, hframes]
      exact if_pos List.mem_cons_self
    have hless := h.room hg hj hnone hduty
    have hfree : ∀ box, g.world.box? client = some box →
        (messagesOf (finished past) ++ w.passed client).length < box.free := by
      intro box hbox
      exact Nat.lt_of_lt_of_le hless (hroom client hclient box hbox)
    obtain ⟨u, hadvance, hparts, hattended⟩ := h.attended.deliver hg hj hsuffix hframes hfree
    have hnext : Serving g past b u := ⟨h.hosted.congr hparts, hattended⟩
    exact ⟨u, hadvance, hnext.goesOn⟩
  | nil =>
    let frame : Frame := .handling ⟨0, .scheduled n, .relay, e, true, []⟩
    have hadvance : w.advanceJob j = (w.setFrames j.id [frame], true) := by
      rw [World.advanceJob, hframes]
      rfl
    have hpassed : ∀ client ∈ g.center.clients,
        (⟨j.id, [frame]⟩ : Job).passed? client = j.passed? client := by
      intro client _
      rw [Job.passed?, Job.passed?, hframes]
      exact (if_neg List.not_mem_nil).symm
    have hsame : (⟨j.id, [frame]⟩ : Job).duty? = j.duty? := by
      rw [hduty]
      rfl
    have hattended := h.attended.change hj (.relayed n e) hsame hpassed
    have hnext : Serving g past b (w.setFrames j.id [frame]) :=
      ⟨h.hosted.setFrames j.id [frame], hattended⟩
    exact ⟨_, hadvance, hnext.goesOn⟩

/-- A relay that has broadcast ends. -/
theorem relayed (h : Serving g past b w) (hg : g.Ready) {j : Job} (hj : j ∈ w.jobs) {n : Nat}
    {e : Event} (hframes : j.frames = [.handling ⟨0, .scheduled n, .relay, e, true, []⟩]) :
    ∃ v, w.advanceJob j = (v, true) ∧ GoesOn g past v := by
  have hduty : j.duty? = some (.hear n .relay e) := by
    rw [Job.duty?, hframes]
    rfl
  obtain ⟨i, hi, rfl, hhandler, rfl⟩ := h.running_of_duty hj hduty
  have hadvance : w.advanceJob j =
      ((w.setFrames j.id []).stepBus 0 (.finish i.id .done), true) := by
    rw [World.advanceJob, hframes]
    rfl
  have hpassed : ∀ client ∈ g.center.clients,
      j.passed? client = i.listener.handler.message? i.event := by
    intro client _
    rw [Job.passed?, hframes, hhandler]
  have hlog : w.app.Logs g.logger g.log.level Stage.subject
      (g.before ++ recordsOf (finished past ++ [i])) := by
    have hnone : recordsOf [i] = [] := by simp [recordsOf, hhandler, Handler.record?]
    rw [recordsOf_append, hnone, List.append_nil]
    exact h.attended.log
  have hrun : Duty.run i = .hear i.id .relay i.event := by rw [Duty.run, hhandler]
  have hnext := h.finishJob hg hj hi (hduty.trans (congrArg some hrun.symm)) hpassed ⟨rfl, rfl⟩
    ⟨rfl, rfl, rfl, rfl⟩ rfl hlog
  exact ⟨_, hadvance, hnext⟩

/-- **No job has to wait**, as long as there is room for a message about every event. -/
theorem job (h : Serving g past b w) (hg : g.Ready)
    (hroom : g.HasRoom (postings .begun past).length) {j : Job} (hj : j ∈ w.jobs) :
    ∃ v, w.advance (.job j.id) = (v, true) ∧ GoesOn g past v := by
  have hadvance : w.advance (.job j.id) = w.advanceJob j := by
    have hfind : w.job? j.id = some j := Bus.find?_id_of_mem h.attended.staffed.numbered.1 hj
    rw [World.advance, hfind]
  have hshape := h.attended.staffed.shapes j hj
  rw [hadvance]
  generalize hframes : j.frames = frames at hshape
  cases hshape with
  | publishing call => exact h.publishing hg hj hframes
  | fresh n hhandler e =>
    rcases hhandler with rfl | rfl
    · exact h.audit hg hj hframes
    · exact h.relay hg hj hframes
  | sending n e sender hsuffix => exact h.sending hg hj hsuffix hframes hroom
  | relayed n e => exact h.relayed hg hj hframes

/-- **A turn of any party keeps what is known.** -/
theorem advance (h : Serving g past b w) (hg : g.Ready)
    (hroom : g.HasRoom (postings .begun past).length) (p : Party) :
    GoesOn g past (w.advance p).1 := by
  cases p with
  | job id =>
    cases hfind : w.job? id with
    | none =>
      rw [World.advance, hfind]
      exact h.goesOn
    | some j =>
      obtain ⟨hj, rfl⟩ := Bus.mem_of_find?_id hfind
      obtain ⟨v, hadvance, hnext⟩ := h.job hg hroom hj
      rw [hadvance]
      exact hnext
  | agent bus agent =>
    rw [World.advance]
    split
    · rename_i v hv
      obtain ⟨s, hs, hstep⟩ := Option.bind_eq_some_iff.1 hv
      have hagent : s.isAgent = true := by
        cases agent with
        | invocation n => exact absurd hs (by simp [World.agentStep?])
        | _ =>
          rw [← Option.some.inj hs]
          rfl
      -- There is no other bus.
      have hbus : bus = 0 := by
        obtain ⟨a, ha, -⟩ := Option.map_eq_some_iff.1 hstep
        rw [Application.stepBus?, h.hosted.buses] at ha
        cases bus with
        | zero => rfl
        | succ n => exact absurd ha (by simp)
      subst hbus
      exact h.agent hg hagent hstep
    · exact h.goesOn

/-- An event about a session begins to be published. -/
theorem publish (h : Serving g past b w) (hg : g.Ready) {e : Event} (he : e.IsSession) :
    ∃ c fx, Serving g (past ++ fx) c (w.beginPublishing 0 e) ∧
      (postings .begun fx).map Posting.event = [e] := by
  have hcall : w.nextCall 0 = b.nextId := by
    rw [World.nextCall, Application.bus?, h.hosted.buses]
    rfl
  have hosted : Hosted g past b (w.startJob (.publishing 0 b.nextId)) :=
    h.hosted.congr ⟨rfl, rfl, rfl, rfl⟩
  have hattended := h.attended.publish b.nextId
  have hstep : b.step (.publish e) = some (b.begin (.publishing e), [.began b.nextId e]) := rfl
  obtain ⟨v, hv⟩ := hosted.stepBus?_isSome hstep
  have hpublish : ∀ other, BusStep.publish e = (.publish other : BusStep Handler) →
      other.IsSession := by
    intro other heq
    rw [← BusStep.publish.inj heq]
    exact he
  obtain ⟨c, fx, ht, hosted', hjobs, hin, hlog⟩ := hosted.step hg rfl hpublish hv
  rw [World.beginPublishing, hcall, World.stepBus, hv, Option.getD_some]
  cases ht with
  | beginPublish =>
    refine ⟨_, _, ⟨hosted', ?_⟩, rfl⟩
    have hfinished : finished (past ++ [.began b.nextId e]) = finished past := by
      rw [finished_append]
      exact List.append_nil _
    have hall := hattended.congr hjobs hin (hlog _ hattended.log)
    rw [hfinished]
    refine hall.perm ?_
    rw [Duty.all, Duty.all, Bus.begin, List.map_append, List.append_assoc, List.append_assoc]
    exact List.perm_append_comm.append_left _

/-- The store changes, and that concerns nobody here. -/
theorem file (h : Serving g past b w) (r : Receipt Reply) : Serving g past b (w.file r) where
  hosted := h.hosted.congr ⟨rfl, rfl, rfl, rfl⟩
  attended := h.attended.congr ⟨rfl, rfl⟩ rfl (h.attended.log.of_eq rfl)

end Serving

/-! ## The beginning -/

/-- Nothing has been announced on a stage that is ready. -/
theorem Stage.Ready.serving (hg : g.Ready) :
    ∃ past, Serving g past g.bus g.world ∧ postings .begun past = [] := by
  obtain ⟨config, schedule, h, hreaches, hcollect, hclose, hbegun, hscheduled⟩ := hg.reached
  have hreached := hreaches.reached
  rw [← postings_news] at hbegun
  rw [← scheduled_news] at hscheduled
  have hfanned : postings .fannedOut (news h) = [] := by
    have hle := hreached.fannedOut_subperm.length_le
    rw [hbegun] at hle
    exact List.length_eq_zero_iff.1 (Nat.le_zero.1 hle)
  have hinvocations := hreached.invocations
  rw [hscheduled, List.nil_perm, List.append_eq_nil_iff] at hinvocations
  obtain ⟨hrunning, hfinished⟩ := hinvocations
  have hduties : Duty.all g.bus = [] := by
    rw [Duty.all, hg.calls, hrunning]
    rfl
  have hforwarding : Forwarding Event.IsSession g.bus.registry (news h) g.bus := by
    refine ⟨rfl, fun c hc => ?_, fun p hp => ?_, ?_⟩
    · rw [hg.calls] at hc
      exact absurd hc List.not_mem_nil
    · rw [hbegun] at hp
      exact absurd hp List.not_mem_nil
    · rw [hscheduled, hfanned]
      rfl
  refine ⟨news h, ⟨⟨rfl, hg.buses, rfl, hg.due, ⟨config, schedule, hreached, hcollect, hclose⟩,
    hforwarding⟩, ?_⟩, hbegun⟩
  rw [hfinished, hduties]
  refine ⟨⟨?_, ?_, ?_⟩, ?_, fun client hclient box hbox => ?_⟩
  · rw [hg.jobs]
    exact .nil
  · rw [hg.jobs]
    exact fun j hj => absurd hj List.not_mem_nil
  · rw [hg.jobs]
    exact List.Perm.refl _
  · exact ⟨g.log, hg.log, rfl, (List.append_nil _).symm⟩
  · obtain ⟨now, hnow, hlive, hwaiting, hgranted⟩ := hg.connected client hclient
    obtain rfl := Option.some.inj (hnow.symm.trans hbox)
    have hpassed : g.world.passed client = [] := by
      rw [World.passed, hg.jobs]
      rfl
    rw [hpassed]
    refine ⟨now, hbox, ?_, rfl, hlive, hwaiting, hgranted⟩
    exact List.Perm.of_eq (List.append_nil _).symm

end Scenario
end Switchboard
