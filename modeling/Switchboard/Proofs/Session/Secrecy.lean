import Switchboard.Proofs.Scenario.VeiledCommand
import Switchboard.Proofs.Session.Announcements

/-!
# Tokens stay secret

Sessions travel whole: in the events that are announced, through the queue of a bus and past every
listener, and to those who ask for them.  None of what can be seen along the way depends on the tokens
in them.

That is shown for two runs.  In each something happens at a desk on one occasion after the other, and
the occasions of the two are the same but for tokens.  Then the same is seen in both (`Desk.secrecy`):
the records of all loggers, the trace, what is in the inboxes of clients, the journal, how broadcasts
have ended, how the buses are, and every answer, the errors to the letter.  Only the tokens of sessions
that are given back may differ.

## Occasions

At a desk the session service serves many requests at once, and parties go on one step at a time.  An
occasion is a step at the desk, or any command of a scenario at any time.  So there may be any number
of listeners besides audit and relay, clients may come, go and be out of reach, the queue may be full,
and a bus may be closed at any moment.
-/

namespace Switchboard

namespace Scenario

/-- A request without tokens. -/
def Request.veil : Request → Request
  | openSession c id => openSession c.veil id
  | invalidate id => invalidate id
  | session id => session id
  | userSessions user => userSessions user
  | invalidateUser user => invalidateUser user
  | cleanExpired => cleanExpired

/-- A request under way without tokens. -/
def Errand.veil (x : Errand) : Errand :=
  ⟨x.call, x.request.veil, x.reply.veil, x.events.map Event.veil, x.job⟩

/-- A step at a desk without tokens. -/
def DeskStep.veil : DeskStep → DeskStep
  | ask q now => ask q.veil now
  | publish call => publish call
  | answer call => answer call
  | party p => party p
  | command c => command c.veil

/-- Something that happens where sessions are served. -/
inductive Occasion where
  /-- A step is taken at the desk. -/
  | step (s : DeskStep)
  /-- Somebody gives a command, at some time. -/
  | command (c : Command) (now : Instant)

/-- An occasion without tokens. -/
def Occasion.veil : Occasion → Occasion
  | step s => step s.veil
  | command c now => command c.veil now

/-- The answers that have been given, in order. -/
def Minutes.replies (k : Minutes) : List Reply :=
  k.filterMap fun
    | .answered _ _ reply => some reply
    | _ => none

/-- What can be seen of a desk. -/
structure Observation where
  /-- The hub, which says what is in use: which logger, which bus, which broadcast centre. -/
  hub : AppHub
  /-- The loggers with their records. -/
  loggers : List Logger
  trace : List TraceLine
  /-- The inboxes of clients, with the messages they have got. -/
  inboxes : List Inbox
  journal : List Json
  /-- How broadcasts have ended. -/
  broadcasts : List (Nat × Except ServiceError Unit)
  /-- The phase of each bus, how many slots of its queue are taken and how many events are deferred. -/
  buses : List (Phase × Nat × Nat)
  /-- The answers, without the tokens of sessions that are given back. -/
  replies : List Reply

namespace World

variable (w : World)

theorem serve_veil (q : Request) (now : Instant) :
    w.veil.serve q.veil now = (w.serve q now).veil Reply.veil := by
  cases q with
  | openSession c id =>
    simp only [Request.veil, serve, app_veil, Application.repository_veil, service_veil,
      SessionService.openSession_veil]
    cases w.service.openSession w.app.repository c id now <;> rfl
  | invalidate id =>
    simp only [Request.veil, serve, app_veil, Application.repository_veil,
      SessionService.invalidate_veil]
    cases SessionService.invalidate w.app.repository id now <;> rfl
  | session id =>
    simp only [Request.veil, serve, app_veil, Application.repository_veil,
      SessionService.session_veil]
    cases SessionService.session w.app.repository id now <;> rfl
  | userSessions user =>
    simp only [Request.veil, serve, app_veil, Application.repository_veil,
      Repository.findUser_veil]
    rfl
  | invalidateUser user =>
    simp only [Request.veil, serve, app_veil, Application.repository_veil,
      SessionService.invalidateUser_veil]
    rfl
  | cleanExpired =>
    simp only [Request.veil, serve, app_veil, Application.repository_veil,
      SessionService.cleanExpired_veil]
    rfl

theorem beginPublishing_veil (bus : Nat) (e : Event) :
    w.veil.beginPublishing bus e.veil = (w.beginPublishing bus e).veil := by
  have hstart := startJob_veil w (.publishing bus (w.nextCall bus))
  rw [beginPublishing, nextCall_veil]
  exact (congrArg (stepBus · bus (.publish e.veil)) hstart).trans (stepBus_veil _ bus (.publish e))

end World

namespace Desk

/-- A desk without tokens. -/
def veil (d : Desk) : Desk :=
  ⟨d.world.veil, d.errands.map Errand.veil, d.nextCall⟩

/-- What happens on an occasion, and the answers that are given; `none` if an errand has to wait or does
not exist. -/
def occur (d : Desk) : Occasion → Option (Desk × List Reply)
  | .step s => (d.step s).map fun r => (r.1, r.2.replies)
  | .command c now =>
    let r := ({ d.world with now := now } : World).run c
    some ({ d with world := r.1 }, [r.2])

/-- What happens on one occasion after the other. -/
def attend : List Occasion → Desk → Option (Desk × List Reply)
  | [], d => some (d, [])
  | x :: rest, d =>
    match d.occur x with
    | none => none
    | some (next, replies) => (attend rest next).map fun r => (r.1, replies ++ r.2)

/-- What can be seen of a desk after some answers. -/
def observation (r : Desk × List Reply) : Observation where
  hub := r.1.world.app.hub
  loggers := r.1.world.app.loggers
  trace := r.1.world.app.trace
  inboxes := r.1.world.app.inboxes
  journal := r.1.world.journal
  broadcasts := r.1.world.endedBroadcasts
  buses := r.1.world.app.buses.map fun hosted =>
    (hosted.bus.phase, hosted.bus.queued, hosted.bus.pending)
  replies := r.2.map Reply.veil

/-- A desk and answers without tokens. -/
def veilReplies (r : Desk × List Reply) : Desk × List Reply :=
  (r.1.veil, r.2.map Reply.veil)

variable (d : Desk)

@[simp] theorem world_veil : d.veil.world = d.world.veil := rfl

theorem errand?_veil (n : Nat) : d.veil.errand? n = (d.errand? n).map Errand.veil :=
  List.find?_map ..

theorem isFree_veil (x : Errand) : d.veil.isFree x.veil = d.isFree x := by
  obtain ⟨call, q, reply, events, job⟩ := x
  cases job with
  | none => rfl
  | some j =>
    simp only [Errand.veil, isFree, world_veil, World.job?_veil, Option.isNone_map]

/-- One errand takes the place of another with its number. -/
theorem map_errand_veil (xs : List Errand) (x : Errand) :
    ((xs.map Errand.veil).map fun y => if y.call = x.call then x.veil else y) =
      (xs.map fun y => if y.call = x.call then x else y).map Errand.veil := by
  rw [List.map_map, List.map_map]
  exact List.map_congr_left fun y _ => ite_eq_apply_ite Errand.veil Iff.rfl rfl rfl

theorem replies_changes (n : Nat) (q : Request) (now : Instant) (before after : Repository) :
    (changes n q now before after).replies = [] := by
  simp [changes, Minutes.replies]

/-- An errand publishes the same event, but for tokens. -/
theorem occur_publish_veil (n : Nat) :
    d.veil.occur (.step (.publish n)) = (d.occur (.step (.publish n))).map veilReplies := by
  simp only [occur, step, errand?_veil, world_veil, World.serviceBus_veil]
  cases d.errand? n with
  | none => rfl
  | some x =>
    cases d.world.serviceBus with
    | none => rfl
    | some bus =>
      obtain ⟨call, q, reply, events, job⟩ := x
      cases events with
      | nil => rfl
      | cons e rest =>
        have hfree := isFree_veil d ⟨call, q, reply, e :: rest, job⟩
        have hworld := World.beginPublishing_veil d.world bus e
        simp only [Option.map_some, Errand.veil, List.map_cons] at hfree ⊢
        rw [hfree, hworld]
        by_cases h : d.isFree ⟨call, q, reply, e :: rest, job⟩ = true
        · have herrands := map_errand_veil d.errands ⟨call, q, reply, rest, some d.world.nextId⟩
          rw [if_pos h, if_pos h]
          exact congrArg (fun errands =>
            some ((⟨(d.world.beginPublishing bus e).veil, errands, d.nextCall⟩ : Desk), []))
            herrands
        · rw [if_neg h, if_neg h]
          rfl

/-- An errand gets the same answer, but for tokens. -/
theorem occur_answer_veil (n : Nat) :
    d.veil.occur (.step (.answer n)) = (d.occur (.step (.answer n))).map veilReplies := by
  simp only [occur, step, errand?_veil]
  cases d.errand? n with
  | none => rfl
  | some x =>
    have hevents : x.veil.events.isEmpty = x.events.isEmpty := List.isEmpty_map
    simp only [Option.map_some, hevents, isFree_veil]
    by_cases h : (x.events.isEmpty && d.isFree x) = true
    · have herrands := Bus.filter_id_veil Errand.call Errand.call Errand.veil (fun _ => rfl)
        d.errands x.call
      rw [if_pos h, if_pos h]
      exact congrArg (fun errands =>
        some ((⟨d.world.veil, errands, d.nextCall⟩ : Desk), [x.reply.veil])) herrands
    · rw [if_neg h, if_neg h]
      rfl

/-- A step at a desk, with the answers it gives, is the same without tokens. -/
theorem occur_step_veil (s : DeskStep) :
    d.veil.occur (.step s.veil) = (d.occur (.step s)).map veilReplies := by
  cases s with
  | ask q now =>
    simp only [DeskStep.veil, occur, step, world_veil, World.serve_veil, World.serviceBus_veil,
      Option.map_some, replies_changes]
    refine congrArg (fun errands => some ((⟨_, errands, _⟩ : Desk), [])) ?_
    show d.errands.map Errand.veil ++ [_] = (d.errands ++ [_]).map Errand.veil
    rw [List.map_append, List.map_singleton]
    cases d.world.serviceBus <;> rfl
  | publish n => exact occur_publish_veil d n
  | answer n => exact occur_answer_veil d n
  | party p =>
    have hadvance := World.advance_veil d.world p
    exact congrArg (fun r : World × Bool => some (({ d.veil with world := r.1 } : Desk), []))
      hadvance
  | command c =>
    have hrun := World.runBus_veil d.world c
    exact congrArg (fun r : World × Reply => some (({ d.veil with world := r.1 } : Desk), [])) hrun

/-- **On every occasion** the same happens without tokens. -/
theorem occur_veil (x : Occasion) : d.veil.occur x.veil = (d.occur x).map veilReplies := by
  cases x with
  | step s => exact occur_step_veil d s
  | command c now =>
    have hrun := World.run_veil { d.world with now := now } c
    exact congrArg (fun r : World × Reply => some (({ d.veil with world := r.1 } : Desk), [r.2]))
      hrun

/-- The same happens without tokens on one occasion after the other. -/
theorem attend_veil (xs : List Occasion) :
    d.veil.attend (xs.map Occasion.veil) = (d.attend xs).map veilReplies := by
  induction xs generalizing d with
  | nil => rfl
  | cons x rest ih =>
    rw [List.map_cons, attend, attend, occur_veil]
    cases d.occur x with
    | none => rfl
    | some r =>
      simp only [Option.map_some, veilReplies, ih, Option.map_map]
      refine congrArg (fun f => (attend rest r.1).map f) (funext fun s => ?_)
      exact congrArg (Prod.mk s.1.veil) (List.map_append ..).symm

/-- Nothing that can be seen is veiled. -/
theorem observation_veilReplies (r : Desk × List Reply) :
    observation (veilReplies r) = observation r := by
  have hreplies : (r.2.map Reply.veil).map Reply.veil = r.2.map Reply.veil := by
    rw [List.map_map]
    exact List.map_congr_left fun reply _ => Reply.veil_veil reply
  have hbuses : (r.1.veil.world.app.buses.map fun hosted =>
        (hosted.bus.phase, hosted.bus.queued, hosted.bus.pending)) =
      r.1.world.app.buses.map fun hosted =>
        (hosted.bus.phase, hosted.bus.queued, hosted.bus.pending) := List.map_map
  simp only [observation, veilReplies, hreplies, hbuses]
  rfl

/-- **Tokens stay secret.**  If the occasions of two runs are the same but for tokens, then either both
runs can go on to the end or neither can, and the same is seen in both: records, trace, messages to
clients, journal, and all answers, up to the tokens of sessions that are given back. -/
theorem secrecy {xs ys : List Occasion} (h : xs.map Occasion.veil = ys.map Occasion.veil) :
    (d.attend xs).map observation = (d.attend ys).map observation := by
  have hseen (xs : List Occasion) : (d.attend xs).map observation =
      (d.veil.attend (xs.map Occasion.veil)).map observation := by
    rw [attend_veil, Option.map_map]
    exact congrArg (fun f => (d.attend xs).map f) (funext fun r => (observation_veilReplies r).symm)
  rw [hseen xs, hseen ys, h]

/-- The first night, where the session has other tokens. -/
def otherNight : List DeskStep :=
  .ask (.openSession ⟨"u1", "ada", "other access", "other refresh", .epoch, "agent", "::1"⟩ "s1")
    .epoch :: openedAndClosed.tail

/-- Those who open the session get other tokens, and nothing else is seen of it. -/
theorem secrecy_on_the_first_night : ∃ (d e : Desk) (s t : Session) (k l : List Reply),
    (openedAndClosed.map Occasion.step).map Occasion.veil =
      (otherNight.map Occasion.step).map Occasion.veil ∧
    (tidy firstNight.world).attend (openedAndClosed.map .step) = some (d, .opened s :: k) ∧
    (tidy firstNight.world).attend (otherNight.map .step) = some (e, .opened t :: l) ∧
    s.accessToken ≠ t.accessToken ∧
    observation (d, .opened s :: k) = observation (e, .opened t :: l) := by
  have halike : (openedAndClosed.map Occasion.step).map Occasion.veil =
      (otherNight.map Occasion.step).map Occasion.veil := rfl
  obtain ⟨d, e, s, t, k, l, hone, hother, htokens⟩ :
      ∃ (d e : Desk) (s t : Session) (k l : List Reply),
        (tidy firstNight.world).attend (openedAndClosed.map .step) = some (d, .opened s :: k) ∧
        (tidy firstNight.world).attend (otherNight.map .step) = some (e, .opened t :: l) ∧
        s.accessToken = "access" ∧ t.accessToken = "other access" :=
    ⟨_, _, _, _, _, _, rfl, rfl, rfl, rfl⟩
  have hsame := secrecy (tidy firstNight.world) halike
  rw [hone, hother] at hsame
  refine ⟨d, e, s, t, k, l, halike, hone, hother, ?_, Option.some.inj hsame⟩
  rw [htokens.1, htokens.2]
  decide

end Desk
end Scenario
end Switchboard
