import Switchboard.Proofs.Session.Accounting
import Switchboard.Proofs.Session.Serving

/-!
# What comes of the announcements

The session service publishes what it has done, the bus passes it on, the audit writes a record and
the relay broadcasts a message.  `announcements` says what there is in the end, when all requests have
been answered and no party can go on: one record, and one message to each client, for every session
that has been opened and for every one that has been closed by request.

Three balances lead there.  What has been published is what is owed for the sessions that have been
stored and removed (`Kept.events`).  What has been fanned out is what has been published, since the bus
has come to rest (`Bus.Reached.fannedOut_perm`).  And what has ended is what has been scheduled, since
no job has to wait (`Serving.job`); `Serving.at_rest` puts the last two together.

Which sessions have been opened is read off the answers (`Minutes.opened`).  That these are the
sessions that have been stored is one more entry in the books (`Desk.opened_of_run`).
-/

namespace Switchboard
namespace Scenario

open History

/-- The session that an answer says has been opened. -/
def Reply.opened? : Reply → Option Session
  | .opened s => some s
  | _ => none

/-- The sessions that have been opened, as those have been told who asked for it. -/
def Minutes.opened (k : Minutes) : List Session :=
  k.filterMap fun
    | .answered _ _ reply => reply.opened?
    | _ => none

/-! ## Answers -/

/-- Whoever changes the store says whether a session has been opened. -/
theorem Fulfilled.stored_eq {q : Request} {reply : Reply} {stored : List Session}
    {removed : List (Session × Instant)} {published : List Event}
    (h : Fulfilled q reply stored removed published) (hsession : ∀ id, q ≠ .session id)
    (huser : ∀ user, q ≠ .userSessions user) : stored = reply.opened?.toList := by
  cases h with
  | found => exact absurd rfl (hsession _)
  | listed => exact absurd rfl (huser _)
  | _ => rfl

/-- What is stored is what the answer says has been opened. -/
theorem World.stored_serve (w : World) (q : Request) (now : Instant) :
    (w.serve q now).repository.minus w.app.repository =
      (w.serve q now).answer.opened?.toList := by
  have hanswer := w.fulfilled_serve q now
  have hself := w.app.repository.minus_self
  cases q with
  | session id =>
    have hnot : (w.serve (.session id) now).answer.opened? = none := by
      simp only [World.serve]
      cases SessionService.session w.app.repository id now <;> rfl
    rw [hnot]
    exact hself
  | userSessions user => exact hself
  | _ => exact hanswer.stored_eq (by simp) (by simp)

theorem Minutes.opened_append (k l : Minutes) : (k ++ l).opened = k.opened ++ l.opened :=
  List.filterMap_append ..

/-- A change of the store is no answer. -/
theorem Minutes.opened_changes (n : Nat) (q : Request) (now : Instant) (before after : Repository) :
    Minutes.opened (Desk.changes n q now before after) = [] := by
  rw [Minutes.opened, List.filterMap_eq_nil_iff]
  intro x hx
  cases x with
  | answered m r reply => exact absurd rfl ((Minutes.call_of_mem_changes hx).2 m r reply)
  | _ => rfl

namespace Desk

variable {d f : Desk} {s : DeskStep} {k past : Minutes}

/-- The sessions that have been opened but are yet to be answered for. -/
def opening (d : Desk) : List Session :=
  d.errands.filterMap fun x => x.reply.opened?

/-- **What has been stored has been answered for, or will be.** -/
theorem Move.opened (hm : Move d s f k) (hnodup : (d.errands.map Errand.call).Nodup)
    (h : past.stored.Perm (past.opened ++ d.opening)) :
    (past ++ k).stored.Perm ((past ++ k).opened ++ f.opening) := by
  rw [Minutes.stored_append, Minutes.opened_append]
  cases hm with
  | ask q now =>
    have hstored := (Minutes.changes_eq d.nextCall q now d.world.app.repository
      (d.world.serve q now).repository).1
    have hnew : opening ⟨d.world.file (d.world.serve q now),
        d.errands ++ [⟨d.nextCall, q, (d.world.serve q now).answer, (d.world.serve q now).events,
          none⟩], d.nextCall + 1⟩ = d.opening ++ (d.world.serve q now).answer.opened?.toList := by
      rw [opening, List.filterMap_append, Bus.filterMap_cons_toList, List.filterMap_nil,
        List.append_nil]
      rfl
    rw [hstored, d.world.stored_serve, Minutes.opened_changes, List.append_nil, hnew,
      ← List.append_assoc]
    exact h.append_right _
  | @publish x bus e rest hx hbus he hfree =>
    have hsame : opening { d with
        world := d.world.beginPublishing bus e
        errands := d.errands.map fun y =>
          if y.call = x.call then { x with events := rest, job := some d.world.nextId } else y } =
        d.opening := by
      rw [opening, opening, List.filterMap_map]
      refine List.filterMap_congr fun y hy => ?_
      show Reply.opened? (Errand.reply (if y.call = x.call then _ else y)) = _
      by_cases hcall : y.call = x.call
      · rw [if_pos hcall, List.inj_on_of_nodup_map hnodup hy hx hcall]
      · rw [if_neg hcall]
    rw [hsame]
    show (past.stored ++ []).Perm (past.opened ++ [] ++ d.opening)
    rw [List.append_nil, List.append_nil]
    exact h
  | @answer x hx he hfree =>
    have hothers := Bus.filterMap_perm (f := fun x : Errand => x.reply.opened?) hnodup hx
    have hone : Minutes.opened [.answered x.call x.request x.reply] = x.reply.opened?.toList :=
      (Bus.filterMap_cons_toList ..).trans (List.append_nil _)
    rw [hone, List.append_assoc]
    show (past.stored ++ []).Perm _
    rw [List.append_nil]
    exact h.trans (hothers.append_left _)
  | party p | command c =>
    show (past.stored ++ []).Perm (past.opened ++ [] ++ d.opening)
    rw [List.append_nil, List.append_nil]
    exact h

end Desk

/-! ## While sessions are announced -/

variable {g : Stage}

/-- What is known of a desk on a stage: the books are kept, and what has begun to be published is what
the minutes say. -/
structure Announcing (g : Stage) (k : Minutes) (d : Desk) : Prop where
  kept : Kept g.world.app.repository k d
  opened : k.stored.Perm (k.opened ++ d.opening)
  serving : ∃ past b, Serving g past b d.world ∧
    (postings .begun past).map Posting.event = k.published

namespace Announcing

variable {k : Minutes} {d f : Desk} {deeds : Minutes} {s : DeskStep}

/-- The events that errands have to publish are about sessions. -/
theorem isSession_of_mem (h : Announcing g k d) {x : Errand} (hx : x ∈ d.errands) {e : Event}
    (he : e ∈ x.events) : e.IsSession := by
  have hevents := (h.kept.promised x hx).events
  have hmem : e ∈ k.publishedBy x.call ++ x.events := List.mem_append_right _ he
  rw [hevents, owed, List.mem_append, List.mem_map, List.mem_map] at hmem
  rcases hmem with ⟨s, -, rfl⟩ | ⟨y, -, rfl⟩
  · exact .created s
  · exact .deleted y.1 y.2

/-- **Every step at the desk keeps what is known**, if nobody uses the bus by commands and there is room
for a message about every event. -/
theorem move (h : Announcing g k d) (hg : g.Ready) (hservice : d.world.serviceBus = some 0)
    (hroom : g.HasRoom k.published.length)
    (hs : ∀ c, s ≠ .command c) (hm : Desk.Move d s f deeds) : Announcing g (k ++ deeds) f := by
  obtain ⟨past, b, hserving, hpublished⟩ := h.serving
  have hcount : (postings .begun past).length = k.published.length := by
    rw [← hpublished, List.length_map]
  -- Whoever publishes nothing leaves the published events as they are.
  have hquiet : deeds.published = [] → GoesOn g past f.world →
      ∃ past b, Serving g past b f.world ∧
        (postings .begun past).map Posting.event = (k ++ deeds).published := by
    rintro hnone ⟨c, fx, hnext, hbegun⟩
    refine ⟨past ++ fx, c, hnext, ?_⟩
    rw [postings_append, hbegun, List.append_nil, Minutes.published_append, hnone, List.append_nil]
    exact hpublished
  refine ⟨h.kept.move hm, hm.opened h.kept.numbered.1 h.opened, ?_⟩
  cases hm with
  | ask q now =>
    have hnone := (Minutes.changes_eq d.nextCall q now d.world.app.repository
      (d.world.serve q now).repository).2.2.1
    exact hquiet hnone (hserving.file _).goesOn
  | @publish x bus e rest hx hbus he hfree =>
    obtain rfl : bus = 0 := Option.some.inj (hbus.symm.trans hservice)
    have hsession : e.IsSession := h.isSession_of_mem hx (by rw [he]; exact List.mem_cons_self)
    obtain ⟨c, fx, hnext, hbegun⟩ := hserving.publish hg hsession
    refine ⟨past ++ fx, c, hnext, ?_⟩
    rw [postings_append, List.map_append, hbegun, hpublished, Minutes.published_append]
    rfl
  | answer => exact hquiet rfl hserving.goesOn
  | party p =>
    rw [← hcount] at hroom
    exact hquiet rfl (hserving.advance hg hroom p)
  | command c => exact absurd rfl (hs c)

end Announcing

/-- What is known holds all along a run. -/
theorem Desk.announcing_of_run (hg : g.Ready) {schedule : List DeskStep} {d : Desk} {k : Minutes}
    (hcommand : ∀ c, .command c ∉ schedule) (hrun : (Desk.tidy g.world).run schedule = some (d, k))
    (hroom : g.HasRoom k.published.length) : Announcing g k d := by
  have hstart : Announcing g [] (Desk.tidy g.world) := by
    obtain ⟨past, hserving, hbegun⟩ := hg.serving
    refine ⟨.tidy g.world, List.Perm.refl _, past, g.bus, hserving, ?_⟩
    rw [hbegun]
    rfl
  -- Neither commands nor published events become fewer as the run goes on.
  have hall := Desk.run_induction (d := Desk.tidy g.world)
    (P := fun schedule k d => (∀ c, .command c ∉ schedule) → g.HasRoom k.published.length →
      Announcing g k d) hg.service ?_ hrun
  · exact hall (fun _ _ => hstart) hcommand hroom
  · intro past deeds d s f k hservice ih hm hcommand hroom
    have hbefore : g.HasRoom deeds.published.length := by
      rw [Minutes.published_append, List.length_append] at hroom
      exact hroom.mono (Nat.le_add_right ..)
    refine (ih (fun c hc => ?_) hbefore).move hg hservice hbefore (fun c heq => ?_) hm
    · exact hcommand c (List.mem_append_left _ hc)
    · exact hcommand c (List.mem_append_right _ (heq ▸ List.mem_singleton_self _))

/-! ## In the end -/

namespace Serving

variable {past : History Handler} {b : Bus Handler} {w : World}

/-- When no party can go on, no job is left. -/
theorem jobs_eq_nil (h : Serving g past b w) (hg : g.Ready)
    (hroom : g.HasRoom (postings .begun past).length)
    (hrest : ∀ p, (w.advance p).2 = false) : w.jobs = [] := by
  rw [List.eq_nil_iff_forall_not_mem]
  intro j hj
  obtain ⟨v, hadvance, -⟩ := h.job hg hroom hj
  have hwaits := hrest (.job j.id)
  rw [hadvance] at hwaits
  exact Bool.noConfusion hwaits

/-- **At rest, everybody has heard of everything**: what comes of the listeners that have ended is what
audit and relay make of the events that have been published. -/
theorem at_rest (h : Serving g past b w) (hg : g.Ready) (hjobs : w.jobs = [])
    (hrest : ∀ p, (w.advance p).2 = false) {β : Type} (f : Handler → Event → Option β) :
    ((finished past).filterMap fun i => f i.listener.handler i.event).Perm
      (((postings .begun past).map Posting.event).flatMap fun e =>
        (f .audit e).toList ++ (f .relay e).toList) := by
  obtain ⟨config, schedule, hreached, hcollect, hclose⟩ := h.hosted.reached
  -- Without jobs the bus waits for nobody.
  have hduties : Duty.all b = [] := by
    have hperm := h.attended.staffed.duties
    rw [hjobs] at hperm
    exact List.nil_perm.1 hperm
  obtain ⟨hcalls, hrunning⟩ := List.append_eq_nil_iff.1 hduties
  rw [List.map_eq_nil_iff] at hcalls hrunning
  -- The parties of the bus cannot go on in it, since they cannot in the world.
  have hblocked : ∀ (a : Agent) (s : BusStep Handler), World.agentStep? a = some s →
      b.step s = none := by
    intro a s ha
    cases hstep : b.step s with
    | none => rfl
    | some r =>
      obtain ⟨v, hv⟩ := h.hosted.stepBus?_isSome hstep
      have hwaits := hrest (.agent 0 a)
      rw [World.advance, ha, Option.bind_some, hv] at hwaits
      exact Bool.noConfusion hwaits
  have hfanned : (postings .fannedOut past).Perm (postings .begun past) :=
    hreached.fannedOut_perm hcollect hclose (fun i => hblocked (.worker i) _ rfl)
      (fun id => hblocked (.deferred id) _ rfl) hcalls
  have hended : (scheduled past).Perm (finished past) := by
    have hinvocations := hreached.invocations
    rw [hrunning] at hinvocations
    exact hinvocations
  have hheard := h.hosted.filterMap_scheduled hg f
  rw [List.flatMap_map]
  calc (finished past).filterMap fun i => f i.listener.handler i.event
    List.Perm _ ((scheduled past).filterMap fun i => f i.listener.handler i.event) :=
      (hended.filterMap _).symm
    List.Perm _ ((postings .fannedOut past).flatMap fun p =>
        (f .audit p.event).toList ++ (f .relay p.event).toList) := hheard
    List.Perm _ ((postings .begun past).flatMap fun p =>
        (f .audit p.event).toList ++ (f .relay p.event).toList) := hfanned.flatMap_right _

end Serving

/-- The record that the audit writes about a session. -/
def auditRecord (action event : String) (s : Session) (time : Instant) : LogRecord :=
  ⟨.info, "session audit",
    .object [("action", .str action), ("event", .str event), ("session_id", .str s.sessionId),
      ("user_id", .str s.userId), ("ip_address", .str s.ipAddress),
      ("occurred_at", .str (Rfc3339.offsetForm time))]⟩

/-- The message to clients about a session. -/
def announcement (event : String) (s : Session) (time : Instant) : Message :=
  ⟨event, (Json.object [("occurred_at", .str (Rfc3339.offsetForm time)),
    ("session_id", .str s.sessionId), ("user_id", .str s.userId)]).compact⟩

/-- What comes of events that are owed, session by session. -/
theorem flatMap_owed {β : Type} {f : Event → List β} {opened : Session → β}
    {closed : Session × Instant → β} (hopened : ∀ s, f (.sessionCreated s) = [opened s])
    (hclosed : ∀ x, f (.sessionDeleted x.1 x.2) = [closed x]) (stored : List Session)
    (announced : List (Session × Instant)) :
    (owed stored announced).flatMap f = stored.map opened ++ announced.map closed := by
  have hone {α : Type} (xs : List α) (h : α → β) : xs.flatMap (fun x => [h x]) = xs.map h :=
    List.flatMap_pure_eq_map ..
  rw [owed, List.flatMap_append, List.flatMap_map, List.flatMap_map]
  simp only [hopened, hclosed, hone]

/-- **Audit and relay are complete and exact.**  Let requests be served on a stage that is ready, in any
order and with any schedule of the parties, until all requests have been answered and nobody can go on.
Nobody uses the bus otherwise, and the inboxes of clients have room for a message about every event.
Then the audit has written one record for every session that has been opened, with its particulars and
the time at which it was created, one for every session that has been closed by request, with its
particulars and the time of that, and no others.  And every client has got one message for each of
these events, and no others. -/
theorem announcements {schedule : List DeskStep} {d : Desk} {k : Minutes} (hg : g.Ready)
    (hcommand : ∀ c, .command c ∉ schedule) (hrun : (Desk.tidy g.world).run schedule = some (d, k))
    (hroom : g.HasRoom k.published.length)
    (hdone : d.errands = []) (hrest : ∀ p, (d.world.advance p).2 = false) :
    (∃ log, d.world.app.loggers[g.logger]? = some (.memory log) ∧
      (log.records.filter fun r => r.message == "session audit").Perm
        ((g.log.records.filter fun r => r.message == "session audit") ++
          (k.opened.map (fun s => auditRecord "opened" "auth.session.created" s s.createdAt) ++
            k.announced.map fun x => auditRecord "closed" "auth.session.deleted" x.1 x.2))) ∧
    ∀ client ∈ g.center.clients, ∃ before after, g.world.box? client = some before ∧
      d.world.box? client = some after ∧
      after.held.Perm (before.held ++
        (k.opened.map (fun s => announcement "auth.session.created" s s.createdAt) ++
          k.announced.map fun x => announcement "auth.session.deleted" x.1 x.2)) := by
  have hknown := Desk.announcing_of_run hg hcommand hrun hroom
  obtain ⟨past, b, hserving, hpublished⟩ := hknown.serving
  have hspace : g.HasRoom (postings .begun past).length := by
    rwa [← hpublished, List.length_map] at hroom
  have hjobs := hserving.jobs_eq_nil hg hspace hrest
  -- What has been published is what is owed for the sessions opened and closed.
  have hstored : k.stored.Perm k.opened := by
    have hopened := hknown.opened
    rw [Desk.opening, hdone, List.filterMap_nil, List.append_nil] at hopened
    exact hopened
  have howed : ((postings .begun past).map Posting.event).Perm (owed k.opened k.announced) := by
    have hevents := hknown.kept.events
    rw [hdone, List.flatMap_nil, List.append_nil] at hevents
    rw [hpublished]
    exact hevents.trans ((hstored.map _).append_right _)
  refine ⟨?_, fun client hclient => ?_⟩
  · have hrecords : (recordsOf (finished past)).Perm
        (k.opened.map (fun s => auditRecord "opened" "auth.session.created" s s.createdAt) ++
          k.announced.map fun x => auditRecord "closed" "auth.session.deleted" x.1 x.2) := by
      refine (hserving.at_rest hg hjobs hrest Handler.record?).trans ?_
      refine (howed.flatMap_right _).trans (List.Perm.of_eq ?_)
      exact flatMap_owed (fun s => rfl) (fun x => rfl) k.opened k.announced
    obtain ⟨log, hlog, -, hkept⟩ := hserving.attended.log
    refine ⟨log, hlog, ?_⟩
    exact (List.Perm.of_eq hkept).trans (hrecords.append_left _)
  · have hmessages : (messagesOf (finished past)).Perm
        (k.opened.map (fun s => announcement "auth.session.created" s s.createdAt) ++
          k.announced.map fun x => announcement "auth.session.deleted" x.1 x.2) := by
      refine (hserving.at_rest hg hjobs hrest Handler.message?).trans ?_
      refine (howed.flatMap_right _).trans (List.Perm.of_eq ?_)
      exact flatMap_owed (fun s => rfl) (fun x => rfl) k.opened k.announced
    have hpassed : d.world.passed client = [] := by
      rw [World.passed, hjobs]
      rfl
    obtain ⟨before, hbefore, -⟩ := hg.connected client hclient
    obtain ⟨after, hafter, hreceived⟩ := hserving.attended.served client hclient before hbefore
    rw [hpassed, List.append_nil] at hreceived
    exact ⟨before, after, hbefore, hafter, hreceived.held.trans (hmessages.append_left _)⟩

/-! ## A session that is opened and closed -/

/-- A bus with one slot and one worker, which has been started after audit and relay have subscribed. -/
def prepared : Bus Handler where
  config := Bus.smallest
  valid := rfl
  registry := (audits ++ relays).foldl (fun r l => (r.insert l).1) .empty
  queue := []
  free := 1
  refusing := false
  calls := []
  overflow := []
  pending := 0
  crew := [.ready]
  holder := none
  line := []
  running := []
  closers := []
  phase := .collecting
  cancelled := false
  nextId := 4

/-- A centre with one client. -/
def hall : Center := ⟨"hall", [⟨"ada", .inbox 0⟩], by decide⟩

/-- A stage with that bus and that centre. -/
def firstNight : Stage where
  world :=
    let a := (Application.bare.addLogger (.memory (.new .info))).addServerEvents "hall"
    let b : Application Handler := { a with centers := [hall], inboxes := [.new 2] }
    { World.empty .epoch (b.addBus prepared 0) 0 none with serviceBus := some 0 }
  bus := prepared
  busLogger := 0
  logger := 0
  log := .new .info
  center := hall

/-- The bus has got there by the steps of a new one, and everything else is in its place. -/
theorem firstNight_ready : firstNight.Ready where
  buses := rfl
  service := rfl
  due := rfl
  jobs := rfl
  needLogger := rfl
  log := rfl
  level := by decide
  needCenter := ⟨0, rfl, rfl⟩
  apart := by decide
  connected := fun client hclient => by
    rw [List.mem_singleton.1 hclient]
    exact ⟨.new 2, rfl, rfl, rfl, rfl⟩
  reached :=
    ⟨Bus.smallest, [.subscribe (auditOf Event.createdName), .call 0,
      .subscribe (auditOf Event.deletedName), .call 1, .subscribe (relayOf Event.createdName), .call 2,
      .subscribe (relayOf Event.deletedName), .call 3, .collect true], _, ⟨_, rfl, rfl⟩,
      by simp, by simp, rfl, rfl⟩
  calls := rfl
  hearers := by
    rintro name (rfl | rfl)
    · exact ⟨List.Perm.refl _, rfl⟩
    · exact ⟨List.Perm.refl _, rfl⟩

/-- A session is opened and closed.  In between and afterwards, worker and listeners do their work. -/
def openedAndClosed : List DeskStep :=
  let worker : DeskStep := .party (.agent 0 (.worker 0))
  let job (n : Nat) : DeskStep := .party (.job n)
  [.ask (.openSession ⟨"u1", "ada", "access", "refresh", .epoch, "agent", "::1"⟩ "s1") .epoch,
    .publish 0, job 0, job 0, .answer 0, worker, worker, worker, worker,
    job 1, job 2, job 2, job 2, job 2,
    .ask (.invalidate "s1") .epoch, .publish 1, job 3, job 3, .answer 1, worker, worker, worker,
    job 5, job 5, job 4, job 5, job 5]

/-- The audit has two records, and the client has two messages. -/
theorem announcements_of_a_session : ∃ (d : Desk) (k : Minutes) (s : Session) (log : MemoryLog)
    (after : Inbox), firstNight.Ready ∧ (∀ c, .command c ∉ openedAndClosed) ∧
    (Desk.tidy firstNight.world).run openedAndClosed = some (d, k) ∧
    firstNight.HasRoom k.published.length ∧
    d.errands = [] ∧ (∀ p, (d.world.advance p).2 = false) ∧
    d.world.app.loggers[firstNight.logger]? = some (.memory log) ∧
    (log.records.filter fun r => r.message == "session audit").Perm
      [auditRecord "opened" "auth.session.created" s s.createdAt,
        auditRecord "closed" "auth.session.deleted" s .epoch] ∧
    d.world.box? ⟨"ada", .inbox 0⟩ = some after ∧
    after.held.Perm [announcement "auth.session.created" s s.createdAt,
      announcement "auth.session.deleted" s .epoch] := by
  obtain ⟨d, k, hrun, hdone, hcount, hopened, hclosed, hrest⟩ :
      ∃ (d : Desk) (k : Minutes), (Desk.tidy firstNight.world).run openedAndClosed = some (d, k) ∧
        d.errands = [] ∧ k.published.length = 2 ∧ k.opened.length = 1 ∧
        k.announced = k.opened.map (·, .epoch) ∧ ∀ p, (d.world.advance p).2 = false := by
    refine ⟨_, _, rfl, rfl, rfl, rfl, rfl, ?_⟩
    intro p
    rcases p with ⟨bus, agent⟩ | id
    · rcases bus with _ | n
      · rcases agent with (_ | i) | id | id | id <;> rfl
      · cases agent <;> rfl
    · rfl
  have hcommand : ∀ c, .command c ∉ openedAndClosed := by
    intro c hc
    simp [openedAndClosed] at hc
  have hroom : firstNight.HasRoom k.published.length := by
    intro client hclient box hbox
    rw [List.mem_singleton.1 hclient] at hbox
    obtain rfl : .new 2 = box := Option.some.inj hbox
    rw [hcount]
    exact Nat.le_refl 2
  obtain ⟨⟨log, hlog, hrecords⟩, hclients⟩ :=
    announcements firstNight_ready hcommand hrun hroom hdone hrest
  obtain ⟨before, after, hbefore, hafter, hheld⟩ :=
    hclients ⟨"ada", .inbox 0⟩ List.mem_cons_self
  obtain rfl : .new 2 = before := Option.some.inj hbefore
  obtain ⟨s, hs⟩ := List.length_eq_one_iff.1 hopened
  rw [hclosed, hs] at hrecords hheld
  exact ⟨d, k, s, log, after, firstNight_ready, hcommand, hrun, hroom, hdone, hrest, hlog, hrecords,
    hafter, hheld⟩

end Scenario
end Switchboard
