import Switchboard.Proofs.Eventing.Forwarding
import Switchboard.Proofs.Scenario.Duties
import Switchboard.Proofs.Scenario.Subject

/-!
# A stage on which sessions are announced

A `Stage` is a world with one bus, on which the session service announces what it does, and with the
audit and the relay listening.  The audit writes to a memory log, and the relay broadcasts to clients
each of which has an inbox of its own.

What comes of the announcements is what listeners that have ended have written and given out, and in
the case of messages, what relays have got through so far.  `Attended` keeps that together with the
duties that jobs see to.  It does not look at the bus: what has ended and what is to be done are given
to it as lists.  So the lemmas about it speak of jobs only, one for each way in which a job goes on.
-/

namespace Switchboard

/-- The parts of an application that only its buses and those who set it up change. -/
structure Application.SameParts {H : Type} (a c : Application H) : Prop where
  hub : c.hub = a.hub
  buses : c.buses = a.buses
  centers : c.centers = a.centers
  due : c.due = a.due

namespace Inbox

/-- An inbox has come from another one by being sent messages. -/
structure Received (before after : Inbox) (messages : List Message) : Prop where
  held : after.held.Perm (before.held ++ messages)
  free : after.free + messages.length = before.free
  live : after.live = true
  waiting : after.waiting = []
  granted : after.granted = []

namespace Received

variable {before after : Inbox} {messages others : List Message}

theorem perm (h : Received before after messages) (hp : messages.Perm others) :
    Received before after others :=
  { h with
    held := h.held.trans (hp.append_left _)
    free := hp.length_eq ▸ h.free }

/-- As long as there is room, nobody has to wait. -/
theorem send (h : Received before after messages) (hroom : messages.length < before.free)
    (sender : Nat) (m : Message) :
    ∃ next, after.send sender m = (next, .sent) ∧ Received before next (messages ++ [m]) := by
  have hfree : 0 < after.free := by
    have := h.free
    omega
  refine ⟨{ after with held := after.held ++ [m], free := after.free - 1 }, ?_, ?_⟩
  · simp [Inbox.send, h.live, h.granted, h.waiting, hfree]
  · refine { h with held := ?_, free := ?_ }
    · rw [← List.append_assoc]
      exact h.held.append_right _
    · have := h.free
      rw [List.length_append, List.length_singleton]
      show after.free - 1 + _ = _
      omega

end Received
end Inbox

namespace Scenario

/-- The records that listeners have written. -/
def recordsOf (vs : List (Invocation Handler)) : List LogRecord :=
  vs.filterMap fun v => v.listener.handler.record? v.event

/-- The messages that listeners have given out. -/
def messagesOf (vs : List (Invocation Handler)) : List Message :=
  vs.filterMap fun v => v.listener.handler.message? v.event

theorem recordsOf_append (vs us : List (Invocation Handler)) :
    recordsOf (vs ++ us) = recordsOf vs ++ recordsOf us :=
  List.filterMap_append ..

theorem messagesOf_append (vs us : List (Invocation Handler)) :
    messagesOf (vs ++ us) = messagesOf vs ++ messagesOf us :=
  List.filterMap_append ..

/-- Only listeners that run have messages to give out. -/
theorem filterMap_message_all (b : Bus Handler) :
    (Duty.all b).filterMap Duty.message? = messagesOf b.running := by
  have hcalls : (b.calls.map fun c => Duty.publish c.id).filterMap Duty.message? = [] := by
    rw [List.filterMap_map, List.filterMap_eq_nil_iff]
    intro c _
    rfl
  have hrunning : (b.running.map Duty.run).filterMap Duty.message? = messagesOf b.running := by
    rw [List.filterMap_map]
    rfl
  rw [Duty.all, List.filterMap_append, hcalls, hrunning, List.nil_append]

theorem messagesOf_singleton (v : Invocation Handler) :
    messagesOf [v] = (v.listener.handler.message? v.event).toList :=
  (Bus.filterMap_cons_toList ..).trans (List.append_nil _)

namespace World

/-- The inbox of a client. -/
def box? (w : World) (client : Client) : Option Inbox :=
  match client.outlet with
  | .inbox i => w.app.inboxes[i]?
  | .broken => none

theorem box?_congr {w v : World} (h : v.app.inboxes = w.app.inboxes) (client : Client) :
    v.box? client = w.box? client := by
  rw [box?, box?, h]

theorem box?_eq_some {w : World} {client : Client} {box : Inbox} :
    w.box? client = some box ↔ ∃ i, client.outlet = .inbox i ∧ w.app.inboxes[i]? = some box := by
  rw [box?]
  cases client.outlet <;> simp

/-- A broadcast goes on at once if the next client can be sent to. -/
theorem advanceBroadcast_of_sent {w : World} {b : Broadcast} {client : Client} {rest : List Client}
    {i : Nat} {box next : Inbox} (hb : b.remaining = client :: rest) (ho : client.outlet = .inbox i)
    (hi : w.app.inboxes[i]? = some box) (hs : box.send b.sender b.message = (next, .sent)) (job : Nat)
    (below : List Frame) :
    w.advanceBroadcast job b below =
      (({ w with app := { w.app with inboxes := w.app.inboxes.set i next, trace := w.app.trace ++ [] } }
        : World).setFrames job (.sending { b with remaining := rest } :: below), true) := by
  have hadvance : b.advance? w.app.inboxes =
      (w.app.inboxes.set i next, some ({ b with remaining := rest }, [])) := by
    simp only [Broadcast.advance?, hb, ho, hi, hs]
  rw [advanceBroadcast, hb, hadvance]
  rfl

end World

/-- A world with a bus and two listeners, the loggers of both, and the clients of the centre. -/
structure Stage where
  world : World
  bus : Bus Handler
  /-- The logger that the bus writes to. -/
  busLogger : Nat
  /-- The logger that the audit writes to. -/
  logger : Nat
  log : MemoryLog
  center : Center

namespace Stage

/-- The message of the records that the audit writes. -/
def subject : String := "session audit"

/-- What the audit has written before. -/
def before (g : Stage) : List LogRecord :=
  g.log.records.filter fun r => r.message == subject

open History in
/-- A stage on which nothing has been announced.  The bus is the only one, and it is collecting; the
hub holds the logger, which keeps records from `INFO` or below on, and the centre, each of whose
clients can be reached through an inbox of its own; and audit and relay, and nobody else, hear of
sessions. -/
structure Ready (g : Stage) : Prop where
  buses : g.world.app.buses = [⟨g.bus, g.busLogger⟩]
  service : g.world.serviceBus = some 0
  due : g.world.app.due = []
  jobs : g.world.jobs = []
  needLogger : g.world.app.hub.need .logger = .ok g.logger
  log : g.world.app.loggers[g.logger]? = some (.memory g.log)
  level : g.log.level ≤ .info
  needCenter : ∃ i : Nat, g.world.app.hub.need .serverEvents = .ok i ∧
    g.world.app.centers[i]? = some g.center
  apart : (g.center.clients.map Client.outlet).Nodup
  connected : ∀ client ∈ g.center.clients, ∃ box, g.world.box? client = some box ∧
    box.live = true ∧ box.waiting = [] ∧ box.granted = []
  reached : ∃ config schedule h, Bus.Reaches config schedule g.bus h ∧ .collect true ∈ schedule ∧
    .close ∉ schedule ∧ postings .begun h = [] ∧ scheduled h = []
  calls : g.bus.calls = []
  hearers : ∀ name, name = Event.createdName ∨ name = Event.deletedName →
    (g.bus.registry.listeners .async name).Perm [auditOf name, relayOf name] ∧
      g.bus.registry.listeners .sync name = []

/-- The inboxes of all clients have room for so many messages. -/
def HasRoom (g : Stage) (n : Nat) : Prop :=
  ∀ client ∈ g.center.clients, ∀ box, g.world.box? client = some box → n ≤ box.free

theorem HasRoom.mono {g : Stage} {m n : Nat} (h : g.HasRoom n) (hm : m ≤ n) : g.HasRoom m :=
  fun client hclient box hbox => Nat.le_trans hm (h client hclient box hbox)

end Stage

/-- What has come of the announcements on a stage, when some invocations have ended and jobs see to
some duties. -/
structure Attended (g : Stage) (ended : List (Invocation Handler)) (duties : List Duty)
    (w : World) : Prop where
  staffed : Staffed 0 g.center w duties
  log : w.app.Logs g.logger g.log.level Stage.subject (g.before ++ recordsOf ended)
  served : ∀ client ∈ g.center.clients, ∀ box, g.world.box? client = some box →
    ∃ now, w.box? client = some now ∧ box.Received now (messagesOf ended ++ w.passed client)

namespace Attended

variable {g : Stage} {ended : List (Invocation Handler)} {duties rest : List Duty} {w v : World}

/-- Messages may be counted in any order, and the inboxes may be those of another world. -/
theorem served_congr (h : Attended g ended duties w) (hin : v.app.inboxes = w.app.inboxes)
    {client : Client} (hc : client ∈ g.center.clients) {messages : List Message}
    (hm : (messagesOf ended ++ w.passed client).Perm messages) :
    ∀ box, g.world.box? client = some box →
      ∃ now, v.box? client = some now ∧ box.Received now messages := by
  intro box hbox
  obtain ⟨now, hnow, hreceived⟩ := h.served client hc box hbox
  exact ⟨now, (World.box?_congr hin client).trans hnow, hreceived.perm hm⟩

/-- The jobs are the same, or what they see to and have got through is. -/
theorem jobs (h : Attended g ended duties w) (hs : Staffed 0 g.center v rest)
    (hp : ∀ client ∈ g.center.clients, (w.passed client).Perm (v.passed client))
    (hin : v.app.inboxes = w.app.inboxes)
    (hlog : v.app.Logs g.logger g.log.level Stage.subject (g.before ++ recordsOf ended)) :
    Attended g ended rest v where
  staffed := hs
  log := hlog
  served := fun client hc => h.served_congr hin hc ((hp client hc).append_left _)

theorem congr (h : Attended g ended duties w) (hs : World.SameJobs w v)
    (hin : v.app.inboxes = w.app.inboxes)
    (hlog : v.app.Logs g.logger g.log.level Stage.subject (g.before ++ recordsOf ended)) :
    Attended g ended duties v :=
  h.jobs (h.staffed.congr hs)
    (fun client _ => by rw [World.passed, World.passed, hs.jobs]) hin hlog

/-- The order of duties does not matter. -/
theorem perm (h : Attended g ended duties w) (hp : duties.Perm rest) : Attended g ended rest w :=
  { h with staffed := { h.staffed with duties := h.staffed.duties.trans hp } }

/-- Somebody begins to publish. -/
theorem publish (h : Attended g ended duties w) (call : Nat) :
    Attended g ended (duties ++ [.publish call]) (w.startJob (.publishing 0 call)) :=
  h.jobs (h.staffed.start (.publishing call) rfl)
    (fun client _ => by rw [World.passed_startJob w rfl]) rfl h.log

/-- A publishing call returns. -/
theorem returned (h : Attended g ended duties w) {call : Nat}
    (hrest : duties.Perm (.publish call :: rest)) :
    Attended g ended rest (w.absorb 0 (.returned call)) := by
  obtain ⟨hstaffed, hpassed⟩ := h.staffed.returned hrest
  have happ : (w.absorb 0 (.returned call)).app = w.app := World.app_absorb ..
  refine h.jobs hstaffed (fun client _ => (hpassed client).symm) (by rw [happ]) ?_
  rw [happ]
  exact h.log

/-- Listeners are scheduled. -/
theorem hireAll (h : Attended g ended duties w) {vs : List (Invocation Handler)}
    (hvs : ∀ v ∈ vs, v.listener.handler = .audit ∨ v.listener.handler = .relay) :
    Attended g ended (duties ++ vs.map Duty.run) (w.hireAll 0 vs) := by
  have happ := World.app_hireAll 0 vs w
  refine h.jobs (h.staffed.hireAll hvs) (fun client _ => ?_) (by rw [happ]) (by rw [happ]; exact h.log)
  rw [World.passed_hireAll]

/-- A job goes on: it sees to the same duty, and has got the same through. -/
theorem change (h : Attended g ended duties w) {j : Job} (hj : j ∈ w.jobs) {frame : Frame}
    {below : List Frame} (hs : Shape 0 g.center (frame :: below))
    (hd : (⟨j.id, frame :: below⟩ : Job).duty? = j.duty?)
    (hp : ∀ client ∈ g.center.clients,
      (⟨j.id, frame :: below⟩ : Job).passed? client = j.passed? client) :
    Attended g ended duties (w.setFrames j.id (frame :: below)) := by
  refine h.jobs (h.staffed.change hj hs hd) (fun client hc => ?_) ?_ ?_
  · have hall := World.filterMap_setFrames (f := Job.passed? client) (fun _ => rfl)
      h.staffed.numbered.1 hj (frame :: below)
    rw [hp client hc] at hall
    exact ((List.perm_append_right_iff _).1 hall).symm
  · rw [World.app_setFrames]
  · rw [World.app_setFrames]
    exact h.log

/-- The job of a listener ends, and what it has got through is what the listener gives out. -/
theorem finish (h : Attended g ended duties w) {j : Job} (hj : j ∈ w.jobs) {i : Invocation Handler}
    (hd : j.duty? = some (Duty.run i)) (hrest : duties.Perm (Duty.run i :: rest))
    (hp : ∀ client ∈ g.center.clients,
      j.passed? client = i.listener.handler.message? i.event)
    (hs : World.SameJobs w v) (hin : v.app.inboxes = w.app.inboxes)
    (hlog : v.app.Logs g.logger g.log.level Stage.subject
      (g.before ++ recordsOf (ended ++ [i]))) :
    Attended g (ended ++ [i]) rest (v.setFrames j.id []) := by
  have hjv : j ∈ v.jobs := by rwa [hs.jobs]
  have hstaffed := h.staffed.congr hs
  refine ⟨hstaffed.finish hjv hd hrest, ?_, fun client hc => ?_⟩
  · rw [World.app_setFrames]
    exact hlog
  · refine h.served_congr (by rw [World.app_setFrames, hin]) hc ?_
    have hall := World.filterMap_setFrames (f := Job.passed? client) (fun _ => rfl)
      hstaffed.numbered.1 hjv []
    rw [hp client hc, hs.jobs] at hall
    rw [messagesOf_append, messagesOf_singleton, List.append_assoc]
    refine List.Perm.append_left _ ?_
    refine (List.Perm.of_eq (List.append_nil _)).symm.trans (hall.symm.trans ?_)
    exact List.perm_append_comm

/-- A relay reaches its next client. -/
theorem deliver (h : Attended g ended duties w) (hg : g.Ready) {j : Job} (hj : j ∈ w.jobs)
    {n sender : Nat} {e : Event} {client : Client} {others : List Client}
    (hsuffix : client :: others <:+ g.center.clients)
    (hframes : j.frames = [.sending ⟨sender, g.center, Relay.message e, client :: others, none⟩,
      .handling ⟨0, .scheduled n, .relay, e, true, []⟩])
    (hroom : ∀ box, g.world.box? client = some box →
      (messagesOf ended ++ w.passed client).length < box.free) :
    ∃ u, w.advanceJob j = (u, true) ∧ Application.SameParts w.app u.app ∧
      Attended g ended duties u := by
  have hclient : client ∈ g.center.clients := hsuffix.subset List.mem_cons_self
  obtain ⟨box, hbox, -⟩ := hg.connected client hclient
  obtain ⟨now, hnow, hreceived⟩ := h.served client hclient box hbox
  obtain ⟨i, ho, hi⟩ := World.box?_eq_some.1 hnow
  obtain ⟨next, hsend, hnext⟩ := hreceived.send (hroom box hbox) sender (Relay.message e)
  have hlt : i < w.app.inboxes.length := (List.getElem?_eq_some_iff.1 hi).1
  -- The client is reached once: it is not among those that are left.
  have hnodup : (client :: others).Nodup :=
    (List.Nodup.of_map _ g.center.distinct).sublist hsuffix.sublist
  have hnot : client ∉ others := (List.nodup_cons.1 hnodup).1
  let b : Broadcast := ⟨sender, g.center, Relay.message e, client :: others, none⟩
  let below : List Frame := [.handling ⟨0, .scheduled n, .relay, e, true, []⟩]
  let frames : List Frame := .sending { b with remaining := others } :: below
  let w₁ : World :=
    { w with app := { w.app with inboxes := w.app.inboxes.set i next, trace := w.app.trace ++ [] } }
  have hadvance : w.advanceJob j = (w₁.setFrames j.id frames, true) := by
    rw [World.advanceJob, hframes]
    exact World.advanceBroadcast_of_sent rfl ho hi hsend j.id below
  have hparts : Application.SameParts w.app (w₁.setFrames j.id frames).app := by
    rw [World.app_setFrames]
    exact ⟨rfl, rfl, rfl, rfl⟩
  have hstaffed : Staffed 0 g.center (w₁.setFrames j.id frames) duties := by
    have hsame : World.SameJobs w w₁ := ⟨rfl, rfl⟩
    refine (h.staffed.congr hsame).change hj (.sending n e sender ?_) ?_
    · exact (List.suffix_cons client others).trans hsuffix
    · rw [Job.duty?, Job.duty?, hframes]
      rfl
  have hlog : (w₁.setFrames j.id frames).app.Logs g.logger g.log.level Stage.subject
      (g.before ++ recordsOf ended) := by
    rw [World.app_setFrames]
    exact h.log.of_eq rfl
  refine ⟨w₁.setFrames j.id frames, hadvance, hparts, hstaffed, hlog, ?_⟩
  intro other hother box₁ hbox₁
  have hpassed := World.passed_sent (w := w₁) (b := b) h.staffed.numbered.1 hj hframes rfl hnot other
  rw [World.box?_congr (w := w₁) (by rw [World.app_setFrames])]
  by_cases heq : other = client
  · subst heq
    obtain rfl := Option.some.inj (hbox.symm.trans hbox₁)
    refine ⟨next, World.box?_eq_some.2 ⟨i, ho, List.getElem?_set_self hlt⟩, hnext.perm ?_⟩
    rw [if_pos rfl] at hpassed
    rw [List.append_assoc]
    exact hpassed.symm.append_left _
  · obtain ⟨now₁, hnow₁, hreceived₁⟩ := h.served other hother box₁ hbox₁
    obtain ⟨k, hk, hbox⟩ := World.box?_eq_some.1 hnow₁
    -- Clients do not share inboxes.
    have hik : i ≠ k := fun hik => heq
      (List.inj_on_of_nodup_map hg.apart hother hclient (by rw [hk, ho, hik]))
    refine ⟨now₁, World.box?_eq_some.2 ⟨k, hk, (List.getElem?_set_ne hik).trans hbox⟩, ?_⟩
    rw [if_neg heq, List.append_nil] at hpassed
    exact hreceived₁.perm (hpassed.symm.append_left _)

end Attended
end Scenario
end Switchboard
