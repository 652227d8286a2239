import Switchboard.Proofs.Eventing.Veiling
import Switchboard.Scenario.Command

/-!
# Without tokens

Veiling a session takes its tokens away, and veiling an application takes them from every session in
it: in the store, in the events that are on their way, in the events that scripts are about to publish,
and in the effects that nobody has acted on yet.  Loggers, the trace, inboxes and broadcast centres hold
no sessions, and stay as they are.

What the store, the session service and an application do can be done after veiling too, with the same
result up to veiling.  There is one lemma for each of their functions.
-/

namespace Switchboard

/-! ## What is veiled -/

/-- A session without its tokens. -/
def Session.veil (s : Session) : Session :=
  { s with accessToken := "", refreshToken := "" }

/-- An event whose session has no tokens. -/
def Event.veil : Event → Event
  | plain n t tag hops => plain n t tag hops
  | orderPlaced id t => orderPlaced id t
  | orderClosed id t => orderClosed id t
  | sessionCreated s => sessionCreated s.veil
  | sessionDeleted s t => sessionDeleted s.veil t

/-- A store of sessions without tokens. -/
def Repository.veil (r : Repository) : Repository where
  sessions := r.sessions.map Session.veil
  distinct := by
    rw [List.map_map]
    exact r.distinct

/-- What is known of a user without the tokens. -/
def OpenSession.veil (c : OpenSession) : OpenSession :=
  { c with accessToken := "", refreshToken := "" }

namespace Scenario

mutual

/-- What a listener does, where the events in its script have no tokens. -/
def Handler.veil : Handler → Handler
  | .audit => .audit
  | .relay => .relay
  | .script label acts => .script label (veilActs acts)

/-- Acts, where events have no tokens. -/
def veilActs : List Act → List Act
  | [] => []
  | act :: rest => act.veil :: veilActs rest

/-- An act, where an event has no tokens. -/
def Act.veil : Act → Act
  | .note value => .note value
  | .describe => .describe
  | .gate name => .gate name
  | .waitCancel => .waitCancel
  | .publish event => .publish event.veil
  | .dispatch event => .dispatch event.veil
  | .subscribe listeners => .subscribe (veilListeners listeners)
  | .republish => .republish
  | .broadcast message => .broadcast message
  | .log request => .log request
  | .need slot => .need slot
  | .fail error => .fail error
  | .panic text => .panic text

/-- Listeners, where events in their scripts have no tokens. -/
def veilListeners : List (Listener Handler) → List (Listener Handler)
  | [] => []
  | ⟨event, delivery, name, handler⟩ :: rest =>
    ⟨event, delivery, name, handler.veil⟩ :: veilListeners rest

end

/-- Taking the tokens away changes nothing that a bus looks at. -/
def tokenless : Veiling Handler Handler where
  event := Event.veil
  handler := Handler.veil
  name_event e := by cases e <;> rfl
  occurredAt_event e := by cases e <;> rfl

theorem veilActs_eq (acts : List Act) : veilActs acts = acts.map Act.veil := by
  induction acts with
  | nil => rfl
  | cons act rest ih => rw [veilActs, ih, List.map_cons]

theorem veilListeners_eq (ls : List (Listener Handler)) :
    veilListeners ls = ls.map (Listener.veil tokenless) := by
  induction ls with
  | nil => rfl
  | cons l rest ih =>
    rw [veilListeners, ih, List.map_cons]
    rfl

end Scenario

/-! ## Events and sessions -/

theorem Event.relayed?_veil (e : Event) : e.veil.relayed? = e.relayed?.map Event.veil := by
  cases e with
  | plain n t tag hops => cases hops <;> rfl
  | _ => rfl

/-- **The audit shows no token.** -/
theorem Audit.record_veil (e : Event) : record e.veil = record e := by
  cases e <;> rfl

/-- **The relay shows no token.** -/
theorem Relay.message_veil (e : Event) : message e.veil = message e := by
  cases e <;> rfl

theorem Scenario.particulars_veil (e : Event) : particulars e.veil = particulars e := by
  cases e <;> rfl

namespace Repository

variable (r : Repository)

theorem eq_of_sessions {r t : Repository} (h : r.sessions = t.sessions) : r = t := by
  cases r
  cases t
  cases h
  rfl

theorem find?_veil (id : String) : r.veil.find? id = (r.find? id).map Session.veil := by
  show (r.sessions.map Session.veil).find? _ = _
  rw [List.find?_map]
  rfl

theorem ids_veil : r.veil.sessions.map Session.sessionId = r.sessions.map Session.sessionId := by
  show (r.sessions.map Session.veil).map _ = _
  rw [List.map_map]
  rfl

theorem create_veil (s : Session) : r.veil.create s.veil = (r.create s).map veil := by
  rw [create, create]
  by_cases h : s.sessionId ∈ r.sessions.map Session.sessionId
  · rw [dif_pos h, dif_pos (show s.veil.sessionId ∈ _ by rw [ids_veil]; exact h)]
    rfl
  · rw [dif_neg h, dif_neg (show ¬ s.veil.sessionId ∈ _ by rw [ids_veil]; exact h)]
    refine congrArg Except.ok (eq_of_sessions ?_)
    show r.sessions.map Session.veil ++ [s.veil] = (r.sessions ++ [s]).map Session.veil
    rw [List.map_append, List.map_singleton]

theorem update_veil (s : Session) : r.veil.update s.veil = (r.update s).map veil := by
  rw [update, update]
  by_cases h : s.sessionId ∈ r.sessions.map Session.sessionId
  · rw [if_pos h, if_pos (show s.veil.sessionId ∈ _ by rw [ids_veil]; exact h)]
    refine congrArg Except.ok (eq_of_sessions ?_)
    show (r.sessions.map Session.veil).map _ = (r.sessions.map _).map Session.veil
    rw [List.map_map, List.map_map]
    refine List.map_congr_left fun t _ => ?_
    exact ite_eq_apply_ite Session.veil Iff.rfl rfl rfl
  · rw [if_neg h, if_neg (show ¬ s.veil.sessionId ∈ _ by rw [ids_veil]; exact h)]
    rfl

/-- Sessions are kept for what veiling leaves alone. -/
theorem keep_veil {stays : Session → Bool} (h : ∀ s, stays s.veil = stays s) :
    r.veil.keep stays = (r.keep stays).veil := by
  refine eq_of_sessions ?_
  show (r.sessions.map Session.veil).filter stays = (r.sessions.filter stays).map Session.veil
  rw [List.filter_map]
  exact congrArg (fun p => (r.sessions.filter p).map Session.veil) (funext h)

theorem removeWhere_veil {gone : Session → Bool} (h : ∀ s, gone s.veil = gone s) :
    r.veil.removeWhere gone =
      ((r.removeWhere gone).1.map Session.veil, (r.removeWhere gone).2.veil) := by
  refine Prod.ext ?_ (keep_veil r fun s => congrArg not (h s))
  show (r.sessions.map Session.veil).filter gone = (r.sessions.filter gone).map Session.veil
  rw [List.filter_map]
  exact congrArg (fun p => (r.sessions.filter p).map Session.veil) (funext h)

theorem deleteId_veil (id : String) :
    r.veil.deleteId id = ((r.deleteId id).1.map Session.veil, (r.deleteId id).2.veil) :=
  Prod.ext (r.find?_veil id) (keep_veil r fun _ => rfl)

theorem findUser_veil (user : String) :
    r.veil.findUser user = (r.findUser user).map Session.veil := by
  have hsort (ss : List Session) : (ss.mergeSort createdBefore).map Session.veil =
      (ss.map Session.veil).mergeSort createdBefore := List.map_mergeSort fun _ _ _ _ => rfl
  rw [findUser, findUser, hsort]
  show ((r.sessions.map Session.veil).filter _).mergeSort createdBefore = _
  rw [List.filter_map]
  rfl

theorem deleteUser_veil (user : String) : r.veil.deleteUser user =
    ((r.deleteUser user).1.map Session.veil, (r.deleteUser user).2.veil) :=
  removeWhere_veil r fun _ => rfl

theorem findExpired_veil (now : Instant) :
    r.veil.findExpired now = (r.findExpired now).map Session.veil :=
  congrArg Prod.fst
    (removeWhere_veil r fun s => (rfl : expiredBefore now s.veil = expiredBefore now s))

theorem deleteExpired_veil (now : Instant) :
    r.veil.deleteExpired now = ((r.deleteExpired now).1, (r.deleteExpired now).2.veil) := by
  have h := removeWhere_veil r fun s => (rfl : expiredBefore now s.veil = expiredBefore now s)
  simp only [deleteExpired, h, List.length_map]

end Repository

/-- A receipt about sessions without tokens; the answer changes as it is told to. -/
def Receipt.veil {α : Type} (f : α → α) (r : Receipt α) : Receipt α :=
  ⟨f r.answer, r.repository.veil, r.trace, r.events.map Event.veil⟩

namespace SessionService

theorem openSession_veil (v : SessionService) (r : Repository) (c : OpenSession) (id : String)
    (now : Instant) : v.openSession r.veil c.veil id now =
      (v.openSession r c id now).map (Receipt.veil Session.veil) := by
  have hsession : v.sessionFor? c.veil id now = (v.sessionFor? c id now).map Session.veil := by
    rw [sessionFor?, sessionFor?, Option.map_map]
    rfl
  rw [openSession, openSession, hsession]
  cases v.sessionFor? c id now with
  | none => rfl
  | some s =>
    simp only [Option.map_some, Repository.create_veil]
    cases r.create s <;> rfl

theorem invalidate_veil (r : Repository) (id : String) (now : Instant) :
    invalidate r.veil id now = (invalidate r id now).map (Receipt.veil Session.veil) := by
  rw [invalidate, invalidate, Repository.deleteId_veil]
  obtain ⟨found, rest⟩ := r.deleteId id
  cases found <;> rfl

theorem session_veil (r : Repository) (id : String) (now : Instant) :
    session r.veil id now = (session r id now).map Session.veil := by
  rw [session, session, Repository.find?_veil]
  cases r.find? id with
  | none => rfl
  | some s => exact ite_eq_apply_ite (Except.map Session.veil) Iff.rfl rfl rfl

theorem invalidateUser_veil (r : Repository) (user : String) (now : Instant) :
    invalidateUser r.veil user now = (invalidateUser r user now).veil id := by
  simp only [invalidateUser, Repository.deleteUser_veil, Receipt.veil, List.length_map,
    List.map_map, id_eq]
  rfl

theorem cleanExpired_veil (r : Repository) (now : Instant) :
    cleanExpired r.veil now = (cleanExpired r now).veil id := by
  simp only [cleanExpired, Repository.deleteExpired_veil, Receipt.veil, List.map_nil, id_eq]

end SessionService

/-! ## Applications -/

namespace Application

open Scenario

/-- An application without tokens. -/
def veil (a : Application Handler) : Application Handler :=
  { a with
    buses := a.buses.map fun hosted => ⟨hosted.bus.veil tokenless, hosted.logger⟩
    repository := a.repository.veil
    due := a.due.map fun d => (d.1, d.2.veil tokenless) }

variable (a : Application Handler)

@[simp] theorem hub_veil : a.veil.hub = a.hub := rfl
@[simp] theorem loggers_veil : a.veil.loggers = a.loggers := rfl
@[simp] theorem centers_veil : a.veil.centers = a.centers := rfl
@[simp] theorem inboxes_veil : a.veil.inboxes = a.inboxes := rfl
@[simp] theorem repository_veil : a.veil.repository = a.repository.veil := rfl

/-- **Records do not depend on tokens.** -/
theorem write_veil (logger : Nat) (level : Level) (message : String) (data : Json) :
    a.veil.write logger level message data = (a.write logger level message data).veil := by
  rw [write, write, loggers_veil]
  cases a.loggers[logger]? <;> rfl

theorem absorb_veil (bus logger : Nat) (effects : List (Effect Handler)) :
    absorb bus logger (effects.map (Effect.veil tokenless)) a.veil =
      (absorb bus logger effects a).veil := by
  induction effects generalizing a with
  | nil => rfl
  | cons x rest ih =>
    have hdue : ({ a.veil with
          due := a.veil.due ++ [(bus, x.veil tokenless)] } : Application Handler) =
        ({ a with due := a.due ++ [(bus, x)] } : Application Handler).veil := by
      simp only [veil, List.map_append, List.map_cons, List.map_nil]
    cases x with
    | log level message data =>
      rw [List.map_cons, Effect.veil, absorb, absorb, write_veil]
      exact ih _
    | _ => exact (congrArg (absorb bus logger _) hdue).trans (ih _)

theorem stepBus?_veil (bus : Nat) (s : BusStep Handler) :
    a.veil.stepBus? bus (s.veil tokenless) = (a.stepBus? bus s).map veil := by
  have hbus : a.veil.buses[bus]? = a.buses[bus]?.map fun hosted =>
      ⟨hosted.bus.veil tokenless, hosted.logger⟩ := List.getElem?_map
  rw [stepBus?, stepBus?, hbus]
  cases a.buses[bus]? with
  | none => rfl
  | some hosted =>
    simp only [Option.map_some, Bus.step_veil, Option.map_map]
    refine congrArg (fun f => (hosted.bus.step s).map f) (funext fun r => ?_)
    have hset : ({ a.veil with
          buses := a.veil.buses.set bus
            ⟨r.1.veil tokenless, hosted.logger⟩ } : Application Handler) =
        ({ a with buses := a.buses.set bus ⟨r.1, hosted.logger⟩ } : Application Handler).veil := by
      simp only [veil, List.map_set]
    exact (congrArg (absorb bus hosted.logger _) hset).trans (absorb_veil _ bus hosted.logger r.2)

theorem bus?_veil (bus : Nat) : a.veil.bus? bus = (a.bus? bus).map (Bus.veil tokenless) := by
  show (a.buses.map _)[bus]?.map HostedBus.bus = _
  rw [List.getElem?_map, bus?, Option.map_map, Option.map_map]
  rfl

theorem request_veil (q : LogRequest) :
    a.veil.request q = (a.request q).map fun r => (r.1.veil, r.2) := by
  rw [request, request]
  refine bind_eq_map_bind (a.hub.need .logger) fun (i : Nat) => ?_
  rw [loggers_veil]
  cases a.loggers[i]? with
  | none => rfl
  | some l => exact bind_eq_map_bind (l.act q) fun r => rfl

theorem addBus_veil (b : Bus Handler) (logger : Nat) :
    a.veil.addBus (b.veil tokenless) logger = (a.addBus b logger).veil := by
  simp only [addBus, veil, register, List.map_append, List.map_cons, List.map_nil, List.length_map]

/-- There is nothing to veil in a new bus. -/
theorem veil_of_new {config : DispatcherConfig} {b : Bus Handler} (h : Bus.new? config = .ok b) :
    b.veil tokenless = b := by
  rw [Bus.new?] at h
  split at h
  · obtain rfl := Except.ok.inj h
    rfl
  · cases h

theorem addHubBus_veil (config : DispatcherConfig) :
    a.veil.addHubBus config = (a.addHubBus config).map veil := by
  rw [addHubBus, addHubBus]
  refine bind_eq_map_bind (a.hub.need .logger) fun (logger : Nat) => ?_
  cases hb : (Bus.new? config : Except SetupError (Bus Handler)) with
  | error e => rfl
  | ok b =>
    have hadd := addBus_veil a b logger
    rw [veil_of_new hb] at hadd
    exact congrArg Except.ok hadd

end Application
end Switchboard
