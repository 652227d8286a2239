import Switchboard.Proofs.Session.Accounting

/-!
# Requests that are refused, and the order of what is not

A request that is refused leaves everything as it was: not only the store, but the whole world, so
nothing is published on its behalf, nobody is called and nothing is put into a queue.  `Refused` lists
the reasons for a refusal, and `Unstorable` those of the store itself; there are no others.

A request that is granted changes the store before anything is published about it.  So as long as nobody
makes another request, whoever is called about a session finds the store as the event has it: a session
that has been opened is in it, and one that has been closed is not (`Repository.Reflects`).

`refusals` says both of one desk, after any steps of anybody.
-/

namespace Switchboard

namespace Repository

/-- A store that is as an event about a session has it. -/
def Reflects (r : Repository) : Event → Prop
  | .sessionCreated s => s ∈ r.sessions
  | .sessionDeleted s _ => s.sessionId ∉ r.sessions.map Session.sessionId
  | _ => True

/-- A session that is gone has taken its id with it. -/
theorem id_not_mem_of_minus {r t : Repository} {s : Session} (hnew : t.minus r = [])
    (hs : s ∈ r.minus t) : s.sessionId ∉ t.sessions.map Session.sessionId := by
  intro hid
  obtain ⟨hbefore, hgone⟩ := mem_minus.1 hs
  obtain ⟨x, hx, hxs⟩ := List.mem_map.1 hid
  have hxr : x ∈ r.sessions := by
    by_contra hnot
    exact absurd (mem_minus.2 ⟨hx, hnot⟩) (hnew ▸ List.not_mem_nil)
  obtain rfl := List.inj_on_of_nodup_map r.distinct hxr hbefore hxs
  exact hgone hx

end Repository

namespace Scenario

/-! ## Reasons for refusals -/

/-- Why a request is refused by a service with some store, at some time. -/
inductive Refused (v : SessionService) (r : Repository) (now : Instant) :
    Request → ServiceError → Prop
  /-- There is no instant at which the refresh token would expire. -/
  | noExpiry {c : OpenSession} {id : String} (h : now.add? v.refreshTtl = none) :
      Refused v r now (.openSession c id) (.setup (.invalidConfig (.refreshSpan v.refreshTtl)))
  /-- The new id is in use. -/
  | idInUse {c : OpenSession} {id : String} {expiry : Instant}
      (h : now.add? v.refreshTtl = some expiry)
      (hid : id ∈ r.sessions.map Session.sessionId) :
      Refused v r now (.openSession c id) (.repository (.duplicateSession id))
  /-- There is no session to be closed. -/
  | notOpen {id : String} (hid : id ∉ r.sessions.map Session.sessionId) :
      Refused v r now (.invalidate id) (.sessionNotFound id)
  /-- There is no such session. -/
  | unknown {id : String} (hid : id ∉ r.sessions.map Session.sessionId) :
      Refused v r now (.session id) (.sessionNotFound id)
  /-- Its refresh token has expired. -/
  | expired {s : Session} {id : String} (hs : s ∈ r.sessions) (hid : s.sessionId = id)
      (h : s.refreshExpiry < now) : Refused v r now (.session id) (.sessionExpired id)

/-- Why a store refuses to store a session. -/
inductive Unstorable (r : Repository) : StoreCommand → ServiceError → Prop
  /-- Its id is in use. -/
  | create {s : Session} (hid : s.sessionId ∈ r.sessions.map Session.sessionId) :
      Unstorable r (.create s) (.repository (.duplicateSession s.sessionId))
  /-- There is none of its id to be replaced. -/
  | update {s : Session} (hid : s.sessionId ∉ r.sessions.map Session.sessionId) :
      Unstorable r (.update s) (.sessionNotFound s.sessionId)

theorem unstorable_create_iff {r : Repository} {s : Session} {e : ServiceError} :
    Unstorable r (.create s) e ↔ r.create s = .error e := by
  rw [Repository.create_eq_error_iff]
  constructor
  · intro h
    cases h with
    | create hid => exact ⟨hid, rfl⟩
  · rintro ⟨hid, rfl⟩
    exact .create hid

theorem unstorable_update_iff {r : Repository} {s : Session} {e : ServiceError} :
    Unstorable r (.update s) e ↔ r.update s = .error e := by
  rw [Repository.update_eq_error_iff]
  constructor
  · intro h
    cases h with
    | update hid => exact ⟨hid, rfl⟩
  · rintro ⟨hid, rfl⟩
    exact .update hid

section Service

variable {v : SessionService} {r : Repository} {now : Instant} {id : String} {e : ServiceError}

theorem openSession_eq_error_iff {c : OpenSession} :
    v.openSession r c id now = .error e ↔ Refused v r now (.openSession c id) e := by
  rw [SessionService.openSession, SessionService.sessionFor?]
  cases hexpiry : now.add? v.refreshTtl with
  | none =>
    constructor
    · intro h
      obtain rfl := Except.error.inj h
      exact .noExpiry hexpiry
    · intro h
      cases h with
      | noExpiry => rfl
      | idInUse h => exact absurd (hexpiry.symm.trans h) (by simp)
  | some expiry =>
    let s : Session := ⟨id, c.userId, c.username, c.accessToken, c.refreshToken, c.expiresAt, expiry,
      c.userAgent, c.ipAddress, now⟩
    have hcreate : (r.create s >>= fun stored => Except.ok
        (⟨s, stored, [SessionService.openedLine s], [.sessionCreated s]⟩ : Receipt Session)) = .error e ↔
          r.create s = .error e := by
      cases r.create s <;> simp [bind, Except.bind]
    refine hcreate.trans (Repository.create_eq_error_iff.trans ⟨?_, fun h => ?_⟩)
    · rintro ⟨hid, rfl⟩
      exact .idInUse hexpiry hid
    · cases h with
      | noExpiry h => exact absurd (hexpiry.symm.trans h) (by simp)
      | idInUse _ hid => exact ⟨hid, rfl⟩

theorem invalidate_eq_error_iff :
    SessionService.invalidate r id now = .error e ↔ Refused v r now (.invalidate id) e := by
  have hid : r.find? id = none ↔ id ∉ r.sessions.map Session.sessionId := Repository.find?_eq_none_iff
  rw [SessionService.invalidate, Repository.deleteId]
  cases hfind : r.find? id with
  | none =>
    constructor
    · intro h
      obtain rfl := Except.error.inj h
      exact .notOpen (hid.1 hfind)
    · intro h
      cases h
      rfl
  | some s =>
    refine iff_of_false (by simp) fun h => ?_
    cases h with
    | notOpen hnot => exact absurd (hfind.symm.trans (hid.2 hnot)) (by simp)

theorem session_eq_error_iff :
    SessionService.session r id now = .error e ↔ Refused v r now (.session id) e := by
  have hid : r.find? id = none ↔ id ∉ r.sessions.map Session.sessionId := Repository.find?_eq_none_iff
  rw [SessionService.session]
  cases hfind : r.find? id with
  | none =>
    constructor
    · intro h
      obtain rfl := Except.error.inj h
      exact .unknown (hid.1 hfind)
    · intro h
      cases h with
      | unknown => rfl
      | expired hs heq => exact absurd (heq ▸ List.mem_map_of_mem hs) (hid.1 hfind)
  | some s =>
    obtain ⟨hs, hsid⟩ := Repository.find?_eq_some_iff.1 hfind
    show (if s.isRefreshExpiredAt now then Except.error (.sessionExpired id) else Except.ok s) =
      .error e ↔ _
    constructor
    · intro h
      split at h
      · rename_i hexpired
        obtain rfl := Except.error.inj h
        exact .expired hs hsid (of_decide_eq_true hexpired)
      · exact absurd h (by simp)
    · intro h
      cases h with
      | unknown hnot => exact absurd (hsid ▸ List.mem_map_of_mem hs) hnot
      | @expired t _ ht htid hexpired =>
        obtain rfl := List.inj_on_of_nodup_map r.distinct ht hs (htid.trans hsid.symm)
        exact if_pos (decide_eq_true hexpired)

end Service

/-! ## Refusals leave everything as it was -/

namespace World

variable (w : World)

/-- **Requests are refused for these reasons and no others.** -/
theorem serve_failed_iff (q : Request) (now : Instant) (e : ServiceError) :
    (w.serve q now).answer = .failed e ↔ Refused w.service w.app.repository now q e := by
  cases q with
  | openSession c id =>
    rw [← openSession_eq_error_iff, serve]
    cases w.service.openSession w.app.repository c id now <;> simp [receipt, Receipt.map]
  | invalidate id =>
    rw [← invalidate_eq_error_iff, serve]
    cases SessionService.invalidate w.app.repository id now <;> simp [receipt, Receipt.map]
  | session id =>
    rw [← session_eq_error_iff, serve]
    cases SessionService.session w.app.repository id now <;> simp [Reply.ofExcept]
  | userSessions user => exact iff_of_false (by simp [serve]) (by rintro ⟨⟩)
  | invalidateUser user => exact iff_of_false (by simp [serve, Receipt.map]) (by rintro ⟨⟩)
  | cleanExpired => exact iff_of_false (by simp [serve, Receipt.map]) (by rintro ⟨⟩)

variable {w}

theorem receipt_of_failed {α : Type} {r : Repository} {ok : α → Reply} {e : ServiceError}
    {x : Except ServiceError (Receipt α)} (hok : ∀ y, ok y ≠ .failed e)
    (h : (receipt r ok x).answer = .failed e) : receipt r ok x = ⟨.failed e, r, [], []⟩ := by
  cases x with
  | error f =>
    obtain rfl := Reply.failed.inj h
    rfl
  | ok y => exact absurd h (hok y.answer)

/-- Nothing comes of a request that is refused. -/
theorem serve_of_failed {q : Request} {now : Instant} {e : ServiceError}
    (h : (w.serve q now).answer = .failed e) : w.serve q now = ⟨.failed e, w.app.repository, [], []⟩ := by
  cases q with
  | openSession c id => exact receipt_of_failed (by simp) h
  | invalidate id => exact receipt_of_failed (by simp) h
  | session id =>
    rw [← h]
    rfl
  | userSessions user => exact absurd h (by simp [serve])
  | invalidateUser user => exact absurd h (by simp [serve, Receipt.map])
  | cleanExpired => exact absurd h (by simp [serve, Receipt.map])

/-- **A command of the service that fails leaves the world as it was.** -/
theorem runSession_failed_iff {v : World} {q : Request} {e : ServiceError} :
    w.runSession q.command = (v, .failed e) ↔
      v = w ∧ Refused w.service w.app.repository w.now q e := by
  rw [runSession_command, Prod.mk.injEq, serve_failed_iff]
  refine and_congr_left fun hrefused => ?_
  have hserve := serve_of_failed ((w.serve_failed_iff q w.now e).2 hrefused)
  rw [hserve, accept_unchanged, eq_comm]

/-- **A command of the store that fails leaves the world as it was.** -/
theorem runStore_failed_iff {v : World} {c : StoreCommand} {e : ServiceError} :
    w.runStore c = (v, .failed e) ↔ v = w ∧ Unstorable w.app.repository c e := by
  cases c with
  | create s =>
    rw [unstorable_create_iff, runStore]
    cases w.app.repository.create s <;> simp [eq_comm]
  | update s =>
    rw [unstorable_update_iff, runStore]
    cases w.app.repository.update s <;> simp [eq_comm]
  | _ => exact iff_of_false (by simp [runStore]) (by rintro ⟨-, ⟨⟩⟩)

/-- A receipt that says nothing leaves the world as it was. -/
theorem file_unchanged (w : World) (reply : Reply) :
    w.file ⟨reply, w.app.repository, [], []⟩ = w := by
  rw [file, Application.addTrace, List.append_nil]

end World

/-! ## What is granted is in the store first -/

/-- After what an answer says has been done, the store is as the events have it. -/
theorem Fulfilled.reflects {q : Request} {reply : Reply} {r t : Repository} {now : Instant}
    {published : List Event} (h : Fulfilled q reply (t.minus r) ((r.minus t).map (·, now)) published)
    {e : Event} (he : e ∈ published) : t.Reflects e := by
  generalize hstored : t.minus r = stored at h
  generalize hremoved : (r.minus t).map (·, now) = removed at h
  -- Whatever has been removed is gone with its id, if nothing has been stored.
  have hgone (hnew : stored = []) {s : Session} {later : Instant} (hs : (s, later) ∈ removed) :
      t.Reflects (.sessionDeleted s later) := by
    rw [← hremoved] at hs
    obtain ⟨x, hx, hxs⟩ := List.mem_map.1 hs
    obtain ⟨rfl, -⟩ := Prod.mk.inj hxs
    exact Repository.id_not_mem_of_minus (hstored.trans hnew) hx
  cases h with
  | @opened c s =>
    obtain rfl := List.mem_singleton.1 he
    exact (Repository.mem_minus.1 (hstored ▸ List.mem_singleton_self s)).1
  | closed =>
    obtain rfl := List.mem_singleton.1 he
    exact hgone rfl (List.mem_singleton_self _)
  | closedAll =>
    obtain ⟨s, hs, rfl⟩ := List.mem_map.1 he
    exact hgone rfl (List.mem_map_of_mem hs)
  | _ => exact absurd he List.not_mem_nil

/-- What has failed has stored, removed and published nothing. -/
theorem Fulfilled.of_failed {q : Request} {e : ServiceError} {stored : List Session}
    {removed : List (Session × Instant)} {published : List Event}
    (h : Fulfilled q (.failed e) stored removed published) :
    stored = [] ∧ removed = [] ∧ published = [] := by
  cases h <;> exact ⟨rfl, rfl, rfl⟩

namespace Desk

variable {d f : Desk} {s : DeskStep} {k : Minutes}

/-- Only requests change the store. -/
theorem Move.repository (hm : Move d s f k) (hs : ∀ q now, s ≠ .ask q now) :
    f.world.app.repository = d.world.app.repository := by
  cases hm with
  | ask q now => exact absurd rfl (hs q now)
  | publish => exact ((World.leads_startJob ..).trans (World.leads_stepBus ..)).app.repository
  | answer => rfl
  | party p => exact (World.leads_advance d.world p).app.repository
  | command c => exact (World.leads_runBus d.world c).app.repository

/-- The bus that announces sessions stays the same. -/
theorem serviceBus_of_run {bus : Nat} {steps : List DeskStep} (hservice : d.world.serviceBus = some bus)
    (hrun : d.run steps = some (f, k)) : f.world.serviceBus = some bus :=
  run_induction (P := fun _ _ f => f.world.serviceBus = some bus) hservice
    (fun _ hpast hm => hm.service.1.trans hpast) hrun hservice

/-- As long as nobody makes a request the store stays as it is. -/
theorem repository_of_run {bus : Nat} {steps : List DeskStep} (hservice : d.world.serviceBus = some bus)
    (hrun : d.run steps = some (f, k)) (hno : ∀ q now, .ask q now ∉ steps) :
    f.world.app.repository = d.world.app.repository := by
  refine run_induction (P := fun past _ f => (∀ q now, .ask q now ∉ past) →
    f.world.app.repository = d.world.app.repository) hservice ?_ hrun (fun _ => rfl) hno
  rintro past deeds b s f k - hpast hm hno
  have hs : ∀ q now, s ≠ .ask q now := fun q now heq =>
    hno q now (heq ▸ List.mem_append_right past (List.mem_singleton_self s))
  exact (hm.repository hs).trans (hpast fun q now hmem => hno q now (List.mem_append_left _ hmem))

end Desk

/-! ## The main result -/

/-- **What is refused changes nothing, and what is granted is in the store before anybody hears of it.**
A command of the session service, or of its store, that fails leaves the whole world as it was, and it
fails for the reasons that are listed.

Let any requests be served in any order, by a service that announces sessions.  An errand that is answered
with a failure has stored, removed and published nothing.  A request changes the store in one step, in
which nothing begins to be published and which leaves the world alone if the request is refused; and from
then on, until the next request is made, the store is as the events of the request have it. -/
theorem refusals (w : World) :
    (∀ q v e, w.runSession q.command = (v, .failed e) ↔
      v = w ∧ Refused w.service w.app.repository w.now q e) ∧
    (∀ c v e, w.runStore c = (v, .failed e) ↔ v = w ∧ Unstorable w.app.repository c e) ∧
    ∀ bus schedule d k, w.serviceBus = some bus → (Desk.tidy w).run schedule = some (d, k) →
      (∀ n q e, .answered n q (.failed e) ∈ k →
        k.storedBy n = [] ∧ k.removedBy n = [] ∧ k.publishedBy n = []) ∧
      ∀ q now f l, d.step (.ask q now) = some (f, l) →
        f.world.jobs = d.world.jobs ∧ f.world.app.buses = d.world.app.buses ∧
        (∀ e, Refused d.world.service d.world.app.repository now q e →
          f.world = d.world ∧ l = [] ∧ f.errands = d.errands ++ [⟨d.nextCall, q, .failed e, [], none⟩]) ∧
        ∃ reply events, f.errands = d.errands ++ [⟨d.nextCall, q, reply, events, none⟩] ∧
          Fulfilled q reply (l.storedBy d.nextCall) (l.removedBy d.nextCall) events ∧
          ∀ steps g m, (∀ q' now', .ask q' now' ∉ steps) → f.run steps = some (g, m) →
            ∀ e ∈ events, g.world.app.repository.Reflects e := by
  refine ⟨fun q v e => World.runSession_failed_iff, fun c v e => World.runStore_failed_iff,
    fun bus schedule d k hservice hrun => ⟨fun n q e hmem => ?_, fun q now f l hask => ?_⟩⟩
  · obtain ⟨hkept, -⟩ := Desk.kept_of_run hservice hrun
    exact ((hkept.answered n q _ hmem).2).of_failed
  · have hbus := Desk.serviceBus_of_run (d := .tidy w) hservice hrun
    have hm := Desk.move_of_step (by rw [hbus]; simp) hask
    have hserve := d.world.fulfilled_serve q now
    have hkept : ∀ steps g m, f.run steps = some (g, m) → (∀ q' now', .ask q' now' ∉ steps) →
        g.world.app.repository = f.world.app.repository := fun steps g m hsteps hno =>
      Desk.repository_of_run (hm.service.1.trans hbus) hsteps hno
    cases hm
    refine ⟨rfl, rfl, fun e hrefused => ?_, _, _, rfl, ?_, fun steps g m hno hsteps e he => ?_⟩
    · have hfailed := World.serve_of_failed ((d.world.serve_failed_iff q now e).2 hrefused)
      rw [hfailed]
      refine ⟨d.world.file_unchanged _, ?_, rfl⟩
      rw [Desk.changes, Repository.minus_self]
      rfl
    · obtain ⟨-, -, -, -, hstored, hremoved, -⟩ := Minutes.changes_eq d.nextCall q now
        d.world.app.repository (d.world.serve q now).repository
      rw [hstored, hremoved]
      exact hserve
    · rw [hkept steps g m hsteps hno]
      exact hserve.reflects he

/-! ## A listener that hears of a session -/

/-- A synchronous listener subscribes to the events of opened sessions. -/
def attended : List DeskStep :=
  [.command (.subscribe [scripted "greeter" "greeter" Event.createdName .sync [.describe]])]

/-- The event of an opened session begins to be published, the bus calls the listener, and the listener
begins. -/
def greeting : List DeskStep :=
  [.publish 0, .party (.job 0), .party (.job 0), .party (.job 0)]

/-- A request to open a session. -/
def arrival : Request :=
  .openSession ⟨"u1", "ada", "access", "refresh", .epoch, "agent", "::1"⟩ "s1"

/-- When the listener begins, the session is in the store. -/
theorem refusals_at_a_greeting : ∃ (d f g : Desk) (k l m : Minutes) (h : Handling) (s : Session),
    announcing.serviceBus = some 0 ∧ (Desk.tidy announcing).run attended = some (d, k) ∧
    d.step (.ask arrival .epoch) = some (f, l) ∧ f.run greeting = some (g, m) ∧
    g.world.jobs = [⟨0, [.handling h, .publishing 0 1]⟩] ∧
    h.begun = true ∧ h.site = .publishing 1 ∧ h.event = .sessionCreated s ∧
    s ∈ g.world.app.repository.sessions := by
  obtain ⟨d, f, g, k, l, m, h, s, hrun, hask, hgreeting, hnone, herrands, hjobs, hbegun, hsite, hevent⟩ :
      ∃ (d f g : Desk) (k l m : Minutes) (h : Handling) (s : Session),
        (Desk.tidy announcing).run attended = some (d, k) ∧
        d.step (.ask arrival .epoch) = some (f, l) ∧ f.run greeting = some (g, m) ∧
        d.errands = [] ∧ f.errands = [⟨0, arrival, .opened s, [.sessionCreated s], none⟩] ∧
        g.world.jobs = [⟨0, [.handling h, .publishing 0 1]⟩] ∧
        h.begun = true ∧ h.site = .publishing 1 ∧ h.event = .sessionCreated s :=
    ⟨_, _, _, _, _, _, _, _, rfl, rfl, rfl, rfl, rfl, rfl, rfl, rfl, rfl⟩
  obtain ⟨-, -, hdesk⟩ := refusals announcing
  obtain ⟨-, hrequest⟩ := hdesk 0 attended d k rfl hrun
  obtain ⟨-, -, -, reply, events, hlast, -, hreflects⟩ := hrequest arrival .epoch f l hask
  rw [herrands, hnone, List.nil_append] at hlast
  obtain ⟨-, -, -, hevents, -⟩ := Errand.mk.inj (List.head_eq_of_cons_eq hlast)
  have hno : ∀ q now, .ask q now ∉ greeting := by simp [greeting]
  have hstored := hreflects greeting g m hno hgreeting (.sessionCreated s)
    (hevents ▸ List.mem_singleton_self _)
  exact ⟨d, f, g, k, l, m, h, s, rfl, hrun, hask, hgreeting, hjobs, hbegun, hsite, hevent, hstored⟩

end Scenario
end Switchboard
