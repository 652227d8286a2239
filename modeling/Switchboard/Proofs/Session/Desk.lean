import Switchboard.Proofs.Eventing.Numbers
import Switchboard.Proofs.Scenario.Footing
import Switchboard.Proofs.Session.Store

/-!
# The desk of the session service

In a scenario the session service carries out one command after the other, each with all that comes of
it.  Here many requests are under way at the same time.  They are kept at a *desk*, where a request is
an errand that goes through three kinds of step: it is asked for, and the store changes at once; what
it has to announce is published, one event after the other, when each before it has been left to the
bus; and it is answered.  In between anybody may do anything: other errands, the parties of the world,
and those who use a bus by commands.

The parts of an errand are those of the command (`World.runSession_command`), so what is shown of desks
concerns the service of a scenario.

## Minutes

The minutes say what has happened at a desk.  What a request has stored and removed is not taken from
what the service says but read off the store, as the difference between before and after.
-/

namespace Switchboard

/-- A receipt with another answer. -/
def Receipt.map {α β : Type} (f : α → β) (r : Receipt α) : Receipt β :=
  ⟨f r.answer, r.repository, r.trace, r.events⟩

namespace Scenario

/-- A request to the session service. -/
inductive Request where
  /-- Open a session under a new id. -/
  | openSession (c : OpenSession) (id : String)
  | invalidate (id : String)
  | session (id : String)
  | userSessions (user : String)
  | invalidateUser (user : String)
  | cleanExpired
  deriving DecidableEq

namespace Request

/-- The command that makes a request. -/
def command : Request → SessionCommand
  | openSession c id => .openSession c id
  | invalidate id => .invalidate id
  | session id => .session id
  | userSessions user => .userSessions user
  | invalidateUser user => .invalidateUser user
  | cleanExpired => .cleanExpired

/-- Whether it is announced which sessions a request removes. -/
def announces : Request → Bool
  | cleanExpired => false
  | _ => true

/-- The ids under which a request opens sessions. -/
def opens : Request → List String
  | openSession _ id => [id]
  | _ => []

end Request

/-- The receipt of an operation that may fail, and then changes nothing. -/
def receipt {α : Type} (r : Repository) (ok : α → Reply) :
    Except ServiceError (Receipt α) → Receipt Reply
  | .ok x => x.map ok
  | .error e => ⟨.failed e, r, [], []⟩

namespace World

/-- What comes of a request at some time. -/
def serve (w : World) (q : Request) (now : Instant) : Receipt Reply :=
  let r := w.app.repository
  match q with
  | .openSession c id => receipt r .opened (w.service.openSession r c id now)
  | .invalidate id => receipt r (fun _ => .done) (SessionService.invalidate r id now)
  | .session id =>
    ⟨.ofExcept (fun s => .session (some s)) (SessionService.session r id now), r, [], []⟩
  | .userSessions user => ⟨.sessions (r.findUser user), r, [], []⟩
  | .invalidateUser user => (SessionService.invalidateUser r user now).map .number
  | .cleanExpired => (SessionService.cleanExpired r now).map .number

/-- The world after the store has changed as a receipt says. -/
def file (w : World) (r : Receipt Reply) : World :=
  { w with app := { w.app with repository := r.repository }.addTrace r.trace }

/-- Begin to publish an event on its own. -/
def beginPublishing (w : World) (bus : Nat) (e : Event) : World :=
  (w.startJob (.publishing bus (w.nextCall bus))).stepBus bus (.publish e)

/-- Nothing comes of a receipt that says nothing. -/
theorem accept_unchanged (w : World) (reply : Reply) :
    w.accept ⟨reply, w.app.repository, [], []⟩ = w := by
  have hsame : ({ w with app := { w.app with repository := w.app.repository }.addTrace [] } : World) =
      w := by
    rw [Application.addTrace, List.append_nil]
  rw [accept]
  split <;> exact hsame

/-- **A command of the session service is a request**, and then its events are published one after the
other. -/
theorem runSession_command (w : World) (q : Request) :
    w.runSession q.command = (w.accept (w.serve q w.now), (w.serve q w.now).answer) := by
  cases q with
  | openSession c id =>
    rw [Request.command, runSession, serve]
    cases h : w.service.openSession w.app.repository c id w.now with
    | ok r => rfl
    | error e => exact Prod.ext (w.accept_unchanged _).symm rfl
  | invalidate id =>
    rw [Request.command, runSession, serve]
    cases h : SessionService.invalidate w.app.repository id w.now with
    | ok r => rfl
    | error e => exact Prod.ext (w.accept_unchanged _).symm rfl
  | session id | userSessions user => exact Prod.ext (w.accept_unchanged _).symm rfl
  | invalidateUser user | cleanExpired => rfl

end World

/-! ## Errands -/

/-- A request that has been asked for and has not been answered. -/
structure Errand where
  call : Nat
  request : Request
  reply : Reply
  /-- The events that have yet to be published. -/
  events : List Event
  /-- The job that publishes the one before them. -/
  job : Option Nat

/-- A world, and the requests that are under way in it. -/
structure Desk where
  world : World
  errands : List Errand
  nextCall : Nat

/-- A step at a desk. -/
inductive DeskStep where
  /-- Somebody makes a request, at some time. -/
  | ask (q : Request) (now : Instant)
  /-- The next event of an errand begins to be published. -/
  | publish (call : Nat)
  /-- An errand is answered. -/
  | answer (call : Nat)
  /-- A party of the world goes on. -/
  | party (p : Party)
  /-- Somebody uses a bus. -/
  | command (c : BusCommand)

/-- Something that has happened at a desk, with the number of the errand. -/
inductive Deed where
  | stored (call : Nat) (s : Session)
  | removed (call : Nat) (q : Request) (s : Session) (now : Instant)
  | published (call : Nat) (e : Event)
  | answered (call : Nat) (q : Request) (reply : Reply)

/-- What has happened at a desk, in order. -/
abbrev Minutes := List Deed

namespace Minutes

/-- The sessions that have been stored, in order. -/
def stored (k : Minutes) : List Session :=
  k.filterMap fun
    | .stored _ s => some s
    | _ => none

/-- The sessions that have been removed, in order. -/
def removed (k : Minutes) : List Session :=
  k.filterMap fun
    | .removed _ _ s _ => some s
    | _ => none

/-- The sessions whose removal is to be announced, and when they were removed. -/
def announced (k : Minutes) : List (Session × Instant) :=
  k.filterMap fun
    | .removed _ q s now => if q.announces then some (s, now) else none
    | _ => none

/-- The events that have begun to be published, in order. -/
def published (k : Minutes) : List Event :=
  k.filterMap fun
    | .published _ e => some e
    | _ => none

/-- What an errand has stored. -/
def storedBy (n : Nat) (k : Minutes) : List Session :=
  k.filterMap fun
    | .stored m s => if m = n then some s else none
    | _ => none

/-- What an errand has removed, and when. -/
def removedBy (n : Nat) (k : Minutes) : List (Session × Instant) :=
  k.filterMap fun
    | .removed m _ s now => if m = n then some (s, now) else none
    | _ => none

/-- What an errand has published. -/
def publishedBy (n : Nat) (k : Minutes) : List Event :=
  k.filterMap fun
    | .published m e => if m = n then some e else none
    | _ => none

end Minutes

namespace Desk

/-- A desk at which nothing is under way. -/
def tidy (w : World) : Desk := ⟨w, [], 0⟩

/-- An errand. -/
def errand? (d : Desk) (n : Nat) : Option Errand :=
  d.errands.find? fun x => x.call == n

/-- Whether the event that an errand has published last has been left to the bus. -/
def isFree (d : Desk) (x : Errand) : Bool :=
  match x.job with
  | none => true
  | some j => (d.world.job? j).isNone

/-- What is put into the minutes about a change of the store. -/
def changes (n : Nat) (q : Request) (now : Instant) (before after : Repository) : Minutes :=
  (after.minus before).map (.stored n) ++ (before.minus after).map (.removed n q · now)

/-- One step; `none` if an errand has to wait or does not exist. -/
def step (d : Desk) : DeskStep → Option (Desk × Minutes)
  | .ask q now =>
    let r := d.world.serve q now
    let events := if d.world.serviceBus.isSome then r.events else []
    let after := d.world.file r
    some (⟨after, d.errands ++ [⟨d.nextCall, q, r.answer, events, none⟩], d.nextCall + 1⟩,
      changes d.nextCall q now d.world.app.repository after.app.repository)
  | .publish n =>
    match d.errand? n, d.world.serviceBus with
    | some x, some bus =>
      match x.events with
      | [] => none
      | e :: rest =>
        if d.isFree x then
          let after : Errand := { x with events := rest, job := some d.world.nextId }
          some ({ d with
              world := d.world.beginPublishing bus e
              errands := d.errands.map fun y => if y.call = x.call then after else y },
            [.published n e])
        else none
    | _, _ => none
  | .answer n =>
    match d.errand? n with
    | none => none
    | some x =>
      if x.events.isEmpty && d.isFree x then
        some ({ d with errands := d.errands.filter fun y => y.call != x.call },
          [.answered n x.request x.reply])
      else none
  | .party p => some ({ d with world := (d.world.advance p).1 }, [])
  | .command c => some ({ d with world := (d.world.runBus c).1 }, [])

/-- Take steps one after the other, and keep minutes; `none` if one cannot be taken. -/
def run : List DeskStep → Desk → Option (Desk × Minutes)
  | [], d => some (d, [])
  | s :: rest, d =>
    match d.step s with
    | none => none
    | some (next, deeds) => (run rest next).map fun r => (r.1, deeds ++ r.2)

/-- The ids under which sessions are to be opened in a schedule, in order. -/
def opens (schedule : List DeskStep) : List String :=
  schedule.flatMap fun
    | .ask q _ => q.opens
    | _ => []

/-- The first step of a run. -/
theorem run_cons_eq_some {d f : Desk} {s : DeskStep} {rest : List DeskStep} {k : Minutes} :
    d.run (s :: rest) = some (f, k) ↔
      ∃ next deeds k', d.step s = some (next, deeds) ∧ next.run rest = some (f, k') ∧
        k = deeds ++ k' := by
  rw [run]
  cases hs : d.step s with
  | none => simp
  | some r =>
    obtain ⟨next, deeds⟩ := r
    simp only [Option.map_eq_some_iff, Option.some.injEq, Prod.mk.injEq, Prod.exists]
    constructor
    · rintro ⟨g, k', hr, rfl, rfl⟩
      exact ⟨next, deeds, k', ⟨rfl, rfl⟩, hr, rfl⟩
    · rintro ⟨_, _, k', ⟨rfl, rfl⟩, hr, rfl⟩
      exact ⟨f, k', hr, rfl, rfl⟩

/-! ## What a step can do -/

/-- What a step at a desk of a service that announces can do: the step, the desk after it, and the
minutes. -/
inductive Move (d : Desk) : DeskStep → Desk → Minutes → Prop where
  | ask (q : Request) (now : Instant) :
      Move d (.ask q now)
        ⟨d.world.file (d.world.serve q now),
          d.errands ++ [⟨d.nextCall, q, (d.world.serve q now).answer, (d.world.serve q now).events,
            none⟩],
          d.nextCall + 1⟩
        (changes d.nextCall q now d.world.app.repository (d.world.serve q now).repository)
  | publish {x : Errand} {bus : Nat} {e : Event} {rest : List Event} (hx : x ∈ d.errands)
      (hbus : d.world.serviceBus = some bus) (he : x.events = e :: rest)
      (hfree : d.isFree x = true) :
      Move d (.publish x.call)
        { d with
          world := d.world.beginPublishing bus e
          errands := d.errands.map fun y =>
            if y.call = x.call then { x with events := rest, job := some d.world.nextId } else y }
        [.published x.call e]
  | answer {x : Errand} (hx : x ∈ d.errands) (he : x.events = []) (hfree : d.isFree x = true) :
      Move d (.answer x.call) { d with errands := d.errands.filter fun y => y.call != x.call }
        [.answered x.call x.request x.reply]
  | party (p : Party) : Move d (.party p) { d with world := (d.world.advance p).1 } []
  | command (c : BusCommand) : Move d (.command c) { d with world := (d.world.runBus c).1 } []

theorem move_of_step {d f : Desk} {s : DeskStep} {k : Minutes}
    (hannounce : d.world.serviceBus ≠ none) (h : d.step s = some (f, k)) : Move d s f k := by
  have hmem {n : Nat} {x : Errand} (hx : d.errand? n = some x) : x ∈ d.errands ∧ x.call = n :=
    Bus.mem_of_find?_id hx
  cases s with
  | ask q now =>
    simp only [step, if_pos (Option.isSome_iff_ne_none.2 hannounce), Option.some.injEq,
      Prod.mk.injEq] at h
    obtain ⟨rfl, rfl⟩ := h
    exact .ask q now
  | publish n =>
    rw [step] at h
    split at h
    · rename_i x bus hfind hbus
      obtain ⟨hx, rfl⟩ := hmem hfind
      split at h
      · exact absurd h (by simp)
      · rename_i e rest he
        split at h
        · rename_i hfree
          obtain ⟨rfl, rfl⟩ := Prod.mk.inj (Option.some.inj h)
          exact .publish hx hbus he hfree
        · exact absurd h (by simp)
    · exact absurd h (by simp)
  | answer n =>
    rw [step] at h
    split at h
    · exact absurd h (by simp)
    · rename_i x hfind
      obtain ⟨hx, rfl⟩ := hmem hfind
      split at h
      · rename_i hready
        obtain ⟨he, hfree⟩ := Bool.and_eq_true_iff.1 hready
        obtain ⟨rfl, rfl⟩ := Prod.mk.inj (Option.some.inj h)
        exact .answer hx (List.isEmpty_iff.1 he) hfree
      · exact absurd h (by simp)
  | party p =>
    obtain ⟨rfl, rfl⟩ := Prod.mk.inj (Option.some.inj h)
    exact .party p
  | command c =>
    obtain ⟨rfl, rfl⟩ := Prod.mk.inj (Option.some.inj h)
    exact .command c

/-- No step changes which bus announces sessions, or the service. -/
theorem Move.service {d f : Desk} {s : DeskStep} {k : Minutes} (hm : Move d s f k) :
    f.world.serviceBus = d.world.serviceBus ∧ f.world.service = d.world.service := by
  cases hm with
  | ask => exact ⟨rfl, rfl⟩
  | @publish x bus e =>
    have hl := (World.leads_startJob d.world (.publishing bus (d.world.nextCall bus))).trans
      (World.leads_stepBus _ bus (.publish e))
    exact ⟨hl.serviceBus, hl.service⟩
  | answer => exact ⟨rfl, rfl⟩
  | party p =>
    have hl := World.leads_advance d.world p
    exact ⟨hl.serviceBus, hl.service⟩
  | command c =>
    have hl := World.leads_runBus d.world c
    exact ⟨hl.serviceBus, hl.service⟩

/-- What holds at the beginning of a run and is kept by every step holds at its end. -/
theorem run_induction {P : List DeskStep → Minutes → Desk → Prop} {d f : Desk}
    {schedule : List DeskStep} {k : Minutes} {bus : Nat} (hbus : d.world.serviceBus = some bus)
    (keep : ∀ {past deeds d s f k}, d.world.serviceBus = some bus → P past deeds d → Move d s f k →
      P (past ++ [s]) (deeds ++ k) f)
    (hrun : d.run schedule = some (f, k)) (start : P [] [] d) : P schedule k f := by
  induction schedule generalizing d k P with
  | nil =>
    obtain ⟨rfl, rfl⟩ := Prod.mk.inj (Option.some.inj hrun)
    exact start
  | cons s rest ih =>
    obtain ⟨next, deeds, k', hs, hr, rfl⟩ := run_cons_eq_some.1 hrun
    have hm := move_of_step (by rw [hbus]; simp) hs
    refine ih (P := fun past k => P (s :: past) (deeds ++ k)) (hm.service.1.trans hbus)
      (fun hb hp hm => ?_) hr ?_
    · rw [← List.append_assoc]
      exact keep hb hp hm
    · rw [List.append_nil]
      exact keep hbus start hm

end Desk
end Scenario
end Switchboard
