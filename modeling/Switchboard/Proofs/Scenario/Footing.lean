import Switchboard.Proofs.Eventing.Run
import Switchboard.Scenario.Command

/-!
# What the parties of a world leave alone

Workers, deferred events, listeners with their acts, broadcasts and whoever uses a bus by commands
all change the world, and most of what they change is nobody else's business.  Two things are.  The
store of sessions belongs to the session service, and no party touches it.  And a bus is changed by
its own steps only, so whatever is known of runs of a bus is known of the bus in a world.

`World.Leads` says both.  It holds of one turn of a party (`World.leads_advance`) and of a command
about a bus (`World.leads_runBus`), because it holds of the operations that they are made of and can
be composed.
-/

namespace Switchboard

namespace Application

variable {H : Type}

/-- The store is the same, and every bus has got to where it is by steps of its own. -/
structure Leads (a c : Application H) : Prop where
  repository : c.repository = a.repository
  buses : ∀ i b, a.bus? i = some b →
    ∃ steps after h, b.run steps = some (after, h) ∧ c.bus? i = some after

theorem Leads.of_eq {a c : Application H} (hr : c.repository = a.repository)
    (hb : c.buses = a.buses) : Leads a c where
  repository := hr
  buses := fun i b h => ⟨[], b, [], rfl, by rw [bus?, hb]; exact h⟩

theorem Leads.refl (a : Application H) : Leads a a :=
  .of_eq rfl rfl

theorem Leads.trans {a c d : Application H} (h : Leads a c) (k : Leads c d) : Leads a d where
  repository := k.repository.trans h.repository
  buses := fun i b hb => by
    obtain ⟨first, mid, h₁, hfirst, hmid⟩ := h.buses i b hb
    obtain ⟨second, last, h₂, hsecond, hlast⟩ := k.buses i mid hmid
    exact ⟨first ++ second, last, h₁ ++ h₂,
      Bus.run_append_eq_some.2 ⟨mid, h₁, h₂, hfirst, hsecond, rfl⟩, hlast⟩

/-- A record in a log concerns neither the store nor a bus. -/
theorem leads_write (a : Application H) (logger : Nat) (l : Level) (message : String)
    (data : Json) : Leads a (a.write logger l message data) := by
  rw [write]
  split
  · exact .refl a
  · exact .of_eq rfl rfl

theorem leads_absorb (bus logger : Nat) (effects : List (Effect H)) (a : Application H) :
    Leads a (absorb bus logger effects a) := by
  induction effects generalizing a with
  | nil => exact .refl a
  | cons x rest ih =>
    cases x with
    | log l message data => exact (leads_write a logger l message data).trans (ih _)
    | _ =>
      refine Leads.trans ?_ (ih _)
      exact .of_eq rfl rfl

theorem bus?_eq_some {a : Application H} {i : Nat} {b : Bus H} :
    a.bus? i = some b ↔ ∃ logger, a.buses[i]? = some ⟨b, logger⟩ := by
  rw [bus?, Option.map_eq_some_iff]
  constructor
  · rintro ⟨hosted, h, rfl⟩
    exact ⟨hosted.logger, h⟩
  · rintro ⟨logger, h⟩
    exact ⟨_, h, rfl⟩

/-- A step of a bus in an application is a step of that bus, and the others do not notice. -/
theorem leads_of_stepBus? {a c : Application H} {i : Nat} {s : BusStep H}
    (h : a.stepBus? i s = some c) : Leads a c := by
  rw [stepBus?] at h
  split at h
  · exact absurd h (by simp)
  · rename_i hosted hi
    obtain ⟨⟨after, effects⟩, hs, rfl⟩ := Option.map_eq_some_iff.1 h
    refine Leads.trans ?_ (leads_absorb ..)
    refine ⟨rfl, fun j b hb => ?_⟩
    obtain ⟨logger, hj⟩ := bus?_eq_some.1 hb
    by_cases hij : i = j
    · obtain rfl := hij
      obtain rfl := Option.some.inj (hi.symm.trans hj)
      have hlt : i < a.buses.length := (List.getElem?_eq_some_iff.1 hi).1
      refine ⟨[s], after, effects, ?_, ?_⟩
      · exact Bus.run_cons_eq_some.2 ⟨after, effects, [], hs, rfl, (List.append_nil _).symm⟩
      · exact bus?_eq_some.2 ⟨logger, by rw [List.getElem?_set_self hlt]⟩
    · exact ⟨[], b, [], rfl, bus?_eq_some.2 ⟨logger, by rw [List.getElem?_set_ne hij, hj]⟩⟩

end Application

namespace Scenario
namespace World

/-- The store and the session service are the same, and every bus has got to where it is by steps of
its own. -/
structure Leads (w v : World) : Prop where
  app : Application.Leads w.app v.app
  service : v.service = w.service
  serviceBus : v.serviceBus = w.serviceBus

/-- Nothing of the kind is touched. -/
theorem Leads.of_eq {w v : World} (ha : v.app = w.app) (hs : v.service = w.service)
    (hb : v.serviceBus = w.serviceBus) : Leads w v :=
  ⟨.of_eq (congrArg _ ha) (congrArg _ ha), hs, hb⟩

theorem Leads.refl (w : World) : Leads w w := .of_eq rfl rfl rfl

theorem Leads.trans {w v u : World} (h : Leads w v) (k : Leads v u) : Leads w u :=
  ⟨h.app.trans k.app, k.service.trans h.service, k.serviceBus.trans h.serviceBus⟩

/-- Whatever is changed by steps that leave something alone leaves it alone. -/
theorem Leads.foldl {α : Type} {f : World → α → World} (hf : ∀ w x, Leads w (f w x)) (xs : List α)
    (w : World) : Leads w (xs.foldl f w) := by
  induction xs generalizing w with
  | nil => exact .refl w
  | cons x rest ih => exact (hf w x).trans (ih _)

theorem Leads.foldr {α : Type} {f : α → World → World} (hf : ∀ x w, Leads w (f x w)) (xs : List α)
    (w : World) : Leads w (xs.foldr f w) := by
  induction xs with
  | nil => exact .refl w
  | cons x rest ih => exact ih.trans (hf x _)

/-! ## Keeping the books of a world -/

theorem leads_wake (w : World) (p : Party) : Leads w (w.wake p) := by
  rw [wake]
  split <;> exact .of_eq rfl rfl rfl

theorem leads_note (w : World) (entry : Json) : Leads w (w.note entry) := .of_eq rfl rfl rfl

theorem leads_startJob (w : World) (frame : Frame) : Leads w (w.startJob frame) :=
  .of_eq rfl rfl rfl

theorem leads_setFrames (w : World) (id : Nat) (frames : List Frame) :
    Leads w (w.setFrames id frames) := by
  rw [setFrames]
  split <;> exact .of_eq rfl rfl rfl

theorem leads_absorb (w : World) (bus : Nat) (x : Effect Handler) : Leads w (w.absorb bus x) := by
  cases x with
  | wake agent => exact leads_wake w _
  | cancelled =>
    refine Leads.trans ?_ (Leads.foldr (fun p v => leads_wake v _) _ _)
    exact .of_eq rfl rfl rfl
  | invoke call listener event =>
    rw [absorb]
    split
    · exact .refl w
    · exact leads_setFrames w _ _
  | returned call =>
    rw [absorb]
    split
    · exact .refl w
    · exact leads_setFrames w _ _
  | scheduled v => exact (leads_startJob w _).trans (leads_wake _ _)
  | _ => exact .of_eq rfl rfl rfl

theorem leads_settleDue (w : World) : Leads w w.settleDue := by
  refine Leads.trans ?_
    (Leads.foldl (fun v (d : Nat × Effect Handler) => leads_absorb v d.1 d.2) _ _)
  exact ⟨.of_eq rfl rfl, rfl, rfl⟩

theorem leads_of_stepBus? {w v : World} {bus : Nat} {s : BusStep Handler}
    (h : w.stepBus? bus s = some v) : Leads w v := by
  obtain ⟨a, ha, rfl⟩ := Option.map_eq_some_iff.1 h
  exact Leads.trans (v := { w with app := a }) ⟨Application.leads_of_stepBus? ha, rfl, rfl⟩
    (leads_settleDue _)

theorem leads_stepBus (w : World) (bus : Nat) (s : BusStep Handler) :
    Leads w (w.stepBus bus s) := by
  rw [stepBus]
  cases h : w.stepBus? bus s with
  | none => exact .refl w
  | some v => exact leads_of_stepBus? h

theorem leads_callBus (w : World) (bus : Nat) (s : BusStep Handler) : Leads w (w.callBus bus s) :=
  (leads_stepBus w bus s).trans (leads_stepBus _ bus _)

/-! ## Turns of the parties -/

theorem leads_endHandling (w : World) (job : Nat) (h : Handling) (below : List Frame)
    (o : Outcome) : Leads w (w.endHandling job h below o) := by
  rw [endHandling]
  split <;> exact (leads_setFrames w job below).trans (leads_stepBus _ _ _)

theorem leads_publishInside (w : World) (bus job : Nat) (frames : List Frame) (e : Event) :
    Leads w (w.publishInside bus job frames e) :=
  (leads_setFrames w job _).trans (leads_stepBus _ _ _)

theorem leads_of_broadcastInside {w v : World} {job : Nat} {frames : List Frame} {m : Message}
    (h : w.broadcastInside job frames m = .ok v) : Leads w v := by
  rw [broadcastInside] at h
  cases hn : w.app.hub.need .serverEvents with
  | error e => rw [hn] at h; exact absurd h (by simp [bind, Except.bind])
  | ok i =>
    rw [hn] at h
    simp only [bind, Except.bind] at h
    split at h
    · exact absurd h (by simp)
    · rw [← Except.ok.inj h]
      exact leads_setFrames w job _

theorem leads_runAudit (w : World) (e : Event) : Leads w (w.runAudit e).1 := by
  rw [runAudit]
  split
  · exact .refl w
  · split
    · exact .refl w
    · exact ⟨Application.leads_write .., rfl, rfl⟩

theorem leads_begin (w : World) (job : Nat) (h : Handling) (below : List Frame) :
    Leads w (w.begin job h below) := by
  rw [begin]
  split
  · exact (leads_runAudit w h.event).trans (leads_endHandling ..)
  · split
    · rename_i v hv
      exact leads_of_broadcastInside hv
    · exact leads_endHandling ..
  · exact (leads_note w _).trans (leads_setFrames ..)

theorem leads_request {w : World} {q : LogRequest} {r : Application Handler × Level}
    (h : w.app.request q = .ok r) : Leads w { w with app := r.1 } := by
  refine ⟨?_, rfl, rfl⟩
  rw [Application.request] at h
  cases hn : w.app.hub.need .logger with
  | error e => rw [hn] at h; exact absurd h (by simp [bind, Except.bind])
  | ok i =>
    rw [hn] at h
    simp only [bind, Except.bind] at h
    split at h
    · exact absurd h (by simp)
    · rename_i l _
      cases ha : l.act q with
      | error e => rw [ha] at h; exact absurd h (by simp)
      | ok s =>
        rw [ha] at h
        rw [← Except.ok.inj h]
        exact .of_eq rfl rfl

theorem leads_perform (w : World) (job : Nat) (h : Handling) (below : List Frame) (act : Act) :
    Leads w (w.perform job h below act).1 := by
  -- Most acts end with the frames of the job put back.
  have back {v : World} (hv : Leads w v) : Leads w (v.setFrames job (.handling h :: below)) :=
    hv.trans (leads_setFrames ..)
  cases act with
  | note value => exact back (leads_note w _)
  | describe => exact back (leads_note w _)
  | gate name =>
    simp only [perform]
    split
    · exact back (.refl w)
    · rw [waitAtGate]
      split <;> exact .of_eq rfl rfl rfl
  | waitCancel =>
    simp only [perform]
    split
    · exact back (.refl w)
    · rw [waitForCancel]
      split <;> exact .of_eq rfl rfl rfl
  | publish e =>
    simp only [perform]
    split
    · exact leads_publishInside ..
    · exact leads_endHandling ..
  | republish =>
    simp only [perform]
    split
    · exact back (.refl w)
    · split
      · exact leads_publishInside ..
      · exact leads_endHandling ..
  | dispatch e =>
    simp only [perform]
    split
    · exact (leads_setFrames ..).trans (leads_callBus ..)
    · exact leads_endHandling ..
  | subscribe ls =>
    simp only [perform]
    split
    · exact back (Leads.foldl (fun v l => leads_callBus v _ _) ls w)
    · exact leads_endHandling ..
  | broadcast m =>
    simp only [perform]
    split
    · rename_i v hv
      exact leads_of_broadcastInside hv
    · exact leads_endHandling ..
  | log q =>
    simp only [perform]
    split
    · rename_i r hr
      exact back (leads_request hr)
    · exact leads_endHandling ..
  | need slot =>
    simp only [perform]
    split
    · exact back (.refl w)
    · exact leads_endHandling ..
  | fail text => exact leads_endHandling ..
  | panic text => exact leads_endHandling ..

theorem leads_advanceHandling (w : World) (job : Nat) (h : Handling) (below : List Frame) :
    Leads w (w.advanceHandling job h below).1 := by
  rw [advanceHandling]
  split
  · exact leads_begin ..
  · split
    · exact leads_endHandling ..
    · exact leads_perform ..

theorem leads_endBroadcast (w : World) (job : Nat) (below : List Frame)
    (r : Except ServiceError Unit) : Leads w (w.endBroadcast job below r) := by
  cases below with
  | nil => exact (leads_setFrames w job []).trans (.of_eq rfl rfl rfl)
  | cons frame rest =>
    cases frame with
    | handling h =>
      cases r with
      | ok => exact leads_setFrames ..
      | error e => exact leads_endHandling ..
    | _ => exact leads_setFrames ..

theorem leads_advanceBroadcast (w : World) (job : Nat) (b : Broadcast) (below : List Frame) :
    Leads w (w.advanceBroadcast job b below).1 := by
  have sent (inboxes : List Inbox) :
      Leads w { w with app := { w.app with inboxes := inboxes } } := ⟨.of_eq rfl rfl, rfl, rfl⟩
  rw [advanceBroadcast]
  split
  · exact leads_endBroadcast ..
  · simp only
    split
    · exact sent _
    · rename_i next lines _
      refine Leads.trans ?_ (leads_setFrames _ job (.sending next :: below))
      exact ⟨.of_eq rfl rfl, rfl, rfl⟩

theorem leads_advanceJob (w : World) (j : Job) : Leads w (w.advanceJob j).1 := by
  rw [advanceJob]
  split
  · exact .refl w
  · split
    · rename_i v hv
      exact leads_of_stepBus? hv
    · exact .refl w
  · exact leads_advanceHandling ..
  · exact leads_advanceBroadcast ..

/-- **A turn of a party leaves the store alone, and buses go on by their own steps.** -/
theorem leads_advance (w : World) (p : Party) : Leads w (w.advance p).1 := by
  cases p with
  | agent bus agent =>
    rw [advance]
    split
    · rename_i v hv
      obtain ⟨s, -, hs⟩ := Option.bind_eq_some_iff.1 hv
      exact leads_of_stepBus? hs
    · exact .refl w
  | job id =>
    rw [advance]
    split
    · exact leads_advanceJob ..
    · exact .refl w

/-! ## Many turns, and commands about a bus -/

theorem leads_of_tick? {w v : World} (h : w.tick? = some v) : Leads w v := by
  rw [tick?] at h
  split at h
  · rename_i p _
    have hp := leads_advance w p
    split at h
    · rename_i hv
      rw [hv] at hp
      rw [← Option.some.inj h]
      exact hp
    · rename_i hv
      rw [hv] at hp
      rw [← Option.some.inj h]
      exact hp.trans (.of_eq rfl rfl rfl)
  · split at h
    · exact absurd h (by simp)
    · rw [← Option.some.inj h]
      exact .of_eq rfl rfl rfl

theorem leads_settle (n : Nat) (w : World) : Leads w (settle n w) := by
  induction n generalizing w with
  | zero => exact .refl w
  | succ n ih =>
    rw [settle]
    split
    · rename_i v hv
      exact (leads_of_tick? hv).trans (ih v)
    · exact .refl w

theorem leads_runJob (id n : Nat) (w : World) : Leads w (runJob id n w) := by
  induction n generalizing w with
  | zero => exact .refl w
  | succ n ih =>
    have hp := leads_advance w (.job id)
    rw [runJob]
    split
    · rename_i v hv
      rw [hv] at hp
      exact hp.trans (ih v)
    · rename_i v hv
      rw [hv] at hp
      exact hp

theorem leads_publishNow (w : World) (bus : Nat) (e : Event) : Leads w (w.publishNow bus e) :=
  ((leads_startJob w _).trans (leads_stepBus ..)).trans (leads_runJob ..)

theorem leads_publishAll (w : World) (bus : Nat) (es : List Event) :
    Leads w (w.publishAll bus es) := by
  induction es generalizing w with
  | nil => exact .refl w
  | cons e rest ih => exact (leads_publishNow w bus e).trans (ih _)

theorem leads_openGate (w : World) (gate : String) : Leads w (w.openGate gate) := by
  refine Leads.trans ?_ (Leads.foldl (fun v p => leads_wake v _) _ _)
  exact .of_eq rfl rfl rfl

theorem leads_closeBus (w : World) (bus : Nat) : Leads w (w.closeBus bus) := by
  have counted : Leads w { w with closesBegun := w.closesBegun + 1 } := .of_eq rfl rfl rfl
  have begun := counted.trans (leads_stepBus _ bus .close)
  refine Leads.trans ?_ (leads_settle ..)
  exact begun.trans (.of_eq rfl rfl rfl)

theorem leads_withBus {w : World} {f : Nat → World} (hf : ∀ bus, Leads w (f bus)) :
    Leads w (w.withBus f).1 := by
  rw [withBus]
  split
  · exact hf _
  · exact .refl w

/-- **Whoever uses a bus by commands leaves the store alone, and buses go on by their own steps.** -/
theorem leads_runBus (w : World) (c : BusCommand) : Leads w (w.runBus c).1 := by
  cases c with
  | subscribe ls =>
    exact leads_withBus fun bus => Leads.foldl (fun v l => leads_callBus v _ _) ls w
  | publish e times => exact leads_withBus fun bus => leads_publishAll w bus _
  | dispatch e => exact leads_withBus fun bus => leads_callBus w bus _
  | collect inRuntime => exact leads_withBus fun bus => leads_stepBus w bus _
  | settle => exact leads_settle ..
  | openGate gate => exact (leads_openGate w gate).trans (leads_settle ..)
  | close => exact leads_withBus (leads_closeBus w)
  | closes => exact .refl w
  | count event =>
    rw [runBus]
    split <;> exact .refl w
  | config =>
    rw [runBus]
    split <;> exact .refl w

end World
end Scenario
end Switchboard
