import Switchboard.Proofs.Scenario.Footing

/-!
# A step of a bus in a world

When a bus takes a step in a world, its records are written to its logger at once, and its other
effects are put aside for the world to act on when the step is over.  `World.stepBus?_eq` says the same
without the detour: the records are written (`Application.transcribe`), and then the world acts on one
effect after the other (`World.absorbAll`).  Acting on effects concerns jobs and turns and never the
application, so what the application is after the step depends on the records alone.
-/

namespace Switchboard

namespace Application

variable {H : Type}

/-- Write the records among some effects to a logger. -/
def transcribe (logger : Nat) : List (Effect H) → Application H → Application H
  | [], a => a
  | .log level message data :: rest, a => transcribe logger rest (a.write logger level message data)
  | _ :: rest, a => transcribe logger rest a

/-- Writing a record concerns loggers and the trace. -/
theorem write_eq (a : Application H) (logger : Nat) (l : Level) (message : String) (data : Json) :
    ∃ loggers trace, a.write logger l message data =
      { a with loggers := loggers, trace := trace } := by
  rw [write]
  split
  · exact ⟨a.loggers, a.trace, rfl⟩
  · exact ⟨_, _, rfl⟩

/-- So does writing many. -/
theorem transcribe_eq (logger : Nat) (effects : List (Effect H)) (a : Application H) :
    ∃ loggers trace, a.transcribe logger effects =
      { a with loggers := loggers, trace := trace } := by
  induction effects generalizing a with
  | nil => exact ⟨a.loggers, a.trace, rfl⟩
  | cons x rest ih =>
    cases x with
    | log l message data =>
      obtain ⟨loggers, trace, hw⟩ := a.write_eq logger l message data
      obtain ⟨others, later, hrest⟩ := ih (a.write logger l message data)
      exact ⟨others, later, by rw [transcribe, hrest, hw]⟩
    | _ => exact ih a

/-- Writing does not depend on what is put aside. -/
theorem write_setDue (a : Application H) (due : List (Nat × Effect H)) (logger : Nat) (l : Level)
    (message : String) (data : Json) :
    ({ a with due := due } : Application H).write logger l message data =
      { a.write logger l message data with due := due } := by
  rw [write, write]
  cases a.loggers[logger]? <;> rfl

theorem transcribe_setDue (a : Application H) (due : List (Nat × Effect H)) (logger : Nat)
    (effects : List (Effect H)) :
    ({ a with due := due } : Application H).transcribe logger effects =
      { a.transcribe logger effects with due := due } := by
  induction effects generalizing a with
  | nil => rfl
  | cons x rest ih =>
    cases x with
    | log l message data =>
      rw [transcribe, transcribe, write_setDue, ih]
    | _ => exact ih a

/-- Records are written, and the other effects are put aside. -/
theorem absorb_eq (bus logger : Nat) (effects : List (Effect H)) (a : Application H) :
    absorb bus logger effects a =
      { a.transcribe logger effects with
        due := a.due ++ (effects.filter fun x => !x.isRecord).map (bus, ·) } := by
  induction effects generalizing a with
  | nil =>
    rw [absorb, transcribe, List.filter_nil, List.map_nil, List.append_nil]
  | cons x rest ih =>
    cases x with
    | log l message data =>
      have hdue : (a.write logger l message data).due = a.due := by
        obtain ⟨_, _, hw⟩ := a.write_eq logger l message data
        rw [hw]
      rw [absorb, ih, transcribe, hdue]
      rfl
    | _ =>
      simp only [absorb]
      rw [ih, transcribe_setDue]
      simp only [transcribe, List.append_assoc]
      rfl

end Application

namespace Scenario
namespace World

/-- Act on effects one after the other. -/
def absorbAll (bus : Nat) (effects : List (Effect Handler)) (w : World) : World :=
  effects.foldl (fun v x => v.absorb bus x) w

theorem app_wake (w : World) (p : Party) : (w.wake p).app = w.app := by
  rw [wake]
  split <;> rfl

theorem app_setFrames (w : World) (id : Nat) (frames : List Frame) :
    (w.setFrames id frames).app = w.app := by
  rw [setFrames]
  split <;> rfl

theorem app_foldr_wake {α : Type} (party : α → Party) (xs : List α) (w : World) :
    (xs.foldr (fun x v => v.wake (party x)) w).app = w.app := by
  induction xs with
  | nil => rfl
  | cons x rest ih => exact (app_wake _ _).trans ih

/-- To act on an effect does not concern the application. -/
theorem app_absorb (w : World) (bus : Nat) (x : Effect Handler) : (w.absorb bus x).app = w.app := by
  cases x with
  | wake agent => exact app_wake _ _
  | cancelled => exact app_foldr_wake (fun p : Nat × Nat => .job p.2) _ _
  | invoke call listener event =>
    rw [absorb]
    split
    · rfl
    · exact app_setFrames ..
  | returned call =>
    rw [absorb]
    split
    · rfl
    · exact app_setFrames ..
  | scheduled v => exact app_wake ..
  | _ => rfl

theorem app_absorbAll (bus : Nat) (effects : List (Effect Handler)) (w : World) :
    (w.absorbAll bus effects).app = w.app := by
  induction effects generalizing w with
  | nil => rfl
  | cons x rest ih => exact (ih _).trans (app_absorb w bus x)

/-- Records have been written before. -/
theorem absorbAll_filter (bus : Nat) (effects : List (Effect Handler)) (w : World) :
    w.absorbAll bus (effects.filter fun x => !x.isRecord) = w.absorbAll bus effects := by
  induction effects generalizing w with
  | nil => rfl
  | cons x rest ih => cases x <;> exact ih _

/-- **A step of a bus in a world**: the bus takes the step, the records are written, and the world acts
on the effects. -/
theorem stepBus?_eq {w : World} {bus : Nat} {hosted : HostedBus Handler}
    (hbus : w.app.buses[bus]? = some hosted) (hdue : w.app.due = []) (s : BusStep Handler) :
    w.stepBus? bus s = (hosted.bus.step s).map fun r =>
      ({ w with app := ({ w.app with buses := w.app.buses.set bus { hosted with bus := r.1 } } :
        Application Handler).transcribe hosted.logger r.2 } : World).absorbAll bus r.2 := by
  have hstep : w.app.stepBus? bus s = (hosted.bus.step s).map fun r =>
      Application.absorb bus hosted.logger r.2
        { w.app with buses := w.app.buses.set bus { hosted with bus := r.1 } } := by
    rw [Application.stepBus?, hbus]
  rw [stepBus?, hstep, Option.map_map]
  refine congrArg (fun f => (hosted.bus.step s).map f) (funext fun r => ?_)
  show settleDue { w with app := Application.absorb bus hosted.logger r.2 _ } = _
  obtain ⟨loggers, trace, htranscribe⟩ := Application.transcribe_eq hosted.logger r.2
    ({ w.app with buses := w.app.buses.set bus { hosted with bus := r.1 } } : Application Handler)
  rw [settleDue, Application.absorb_eq, htranscribe, ← absorbAll_filter, absorbAll]
  simp only [hdue, List.nil_append, List.foldl_map]

/-- When the world has acted on all effects, none is put aside. -/
theorem app_settleDue (w : World) : w.settleDue.app = { w.app with due := [] } := by
  have hall (due : List (Nat × Effect Handler)) (v : World) :
      (due.foldl (fun v d => v.absorb d.1 d.2) v).app = v.app := by
    induction due generalizing v with
    | nil => rfl
    | cons d rest ih => exact (ih _).trans (app_absorb v d.1 d.2)
  exact hall _ _

/-- A bus that takes a step in a world has taken it. -/
theorem bus?_stepBus {w : World} {bus : Nat} {b c : Bus Handler} {s : BusStep Handler}
    {effects : History Handler} (hbus : w.app.bus? bus = some b) (hs : b.step s = some (c, effects)) :
    (w.stepBus bus s).app.bus? bus = some c := by
  obtain ⟨logger, hhosted⟩ := Application.bus?_eq_some.1 hbus
  have hlt : bus < w.app.buses.length := (List.getElem?_eq_some_iff.1 hhosted).1
  have hstep : w.app.stepBus? bus s = some (Application.absorb bus logger effects
      { w.app with buses := w.app.buses.set bus ⟨c, logger⟩ }) := by
    rw [Application.stepBus?, hhosted]
    simp only [hs, Option.map_some]
  rw [stepBus, stepBus?, hstep, Option.map_some, Option.getD_some, app_settleDue,
    Application.bus?_eq_some]
  refine ⟨logger, ?_⟩
  obtain ⟨loggers, trace, htranscribe⟩ := Application.transcribe_eq logger effects
    ({ w.app with buses := w.app.buses.set bus ⟨c, logger⟩ } : Application Handler)
  simp only [Application.absorb_eq, htranscribe]
  rw [List.getElem?_set_self hlt]

/-! ## Jobs

What a step does to the jobs of a world depends on its news only. -/

/-- The jobs of two worlds are the same, and the numbers that are next. -/
structure SameJobs (w v : World) : Prop where
  jobs : v.jobs = w.jobs
  nextId : v.nextId = w.nextId

theorem SameJobs.trans {w v u : World} (h : SameJobs w v) (k : SameJobs v u) : SameJobs w u :=
  ⟨k.jobs.trans h.jobs, k.nextId.trans h.nextId⟩

theorem SameJobs.symm {w v : World} (h : SameJobs w v) : SameJobs v w :=
  ⟨h.jobs.symm, h.nextId.symm⟩

theorem sameJobs_wake (w : World) (p : Party) : SameJobs w (w.wake p) := by
  rw [wake]
  split <;> exact ⟨rfl, rfl⟩

theorem sameJobs_foldr_wake {α : Type} (party : α → Party) (xs : List α) (w : World) :
    SameJobs w (xs.foldr (fun x v => v.wake (party x)) w) := by
  induction xs with
  | nil => exact ⟨rfl, rfl⟩
  | cons x rest ih => exact ih.trans (sameJobs_wake ..)

theorem SameJobs.setFrames {w v : World} (h : SameJobs w v) (id : Nat) (frames : List Frame) :
    SameJobs (w.setFrames id frames) (v.setFrames id frames) := by
  rw [World.setFrames, World.setFrames]
  split
  · exact ⟨congrArg (List.filter fun j => j.id != id) h.jobs, h.nextId⟩
  · exact ⟨congrArg (List.map fun j => if j.id = id then ⟨id, frames⟩ else j) h.jobs, h.nextId⟩

/-- An effect does the same to the same jobs. -/
theorem SameJobs.absorb {w v : World} (h : SameJobs w v) (bus : Nat) (x : Effect Handler) :
    SameJobs (w.absorb bus x) (v.absorb bus x) := by
  have hpublisher (call : Nat) : v.publisher? bus call = w.publisher? bus call := by
    rw [publisher?, publisher?, h.jobs]
  cases x with
  | wake agent => exact ((sameJobs_wake w _).symm.trans h).trans (sameJobs_wake v _)
  | cancelled =>
    have hdrop (u : World) (line : List (Nat × Nat)) : SameJobs u { u with cancelLine := line } :=
      ⟨rfl, rfl⟩
    have hall (u : World) : SameJobs u (u.absorb bus .cancelled) :=
      (hdrop u _).trans (sameJobs_foldr_wake (fun p : Nat × Nat => .job p.2) _ _)
    exact ((hall w).symm.trans h).trans (hall v)
  | invoke call listener event =>
    rw [World.absorb, World.absorb, hpublisher]
    split
    · exact h
    · exact h.setFrames ..
  | returned call =>
    rw [World.absorb, World.absorb, hpublisher]
    split
    · exact h
    · exact h.setFrames ..
  | scheduled i =>
    have hstart : SameJobs
        (w.startJob (.handling ⟨bus, .scheduled i.id, i.listener.handler, i.event, false, []⟩))
        (v.startJob (.handling ⟨bus, .scheduled i.id, i.listener.handler, i.event, false, []⟩)) := by
      refine ⟨?_, congrArg (· + 1) h.nextId⟩
      rw [startJob, startJob, h.jobs, h.nextId]
    exact ((sameJobs_wake ..).symm.trans hstart).trans (sameJobs_wake ..)
  | _ => exact ⟨h.jobs, h.nextId⟩

/-- What is no news does nothing to jobs. -/
theorem sameJobs_absorb_of_not_news (w : World) (bus : Nat) {x : Effect Handler}
    (hx : x.isNews = false) : SameJobs w (w.absorb bus x) := by
  cases x with
  | log => exact ⟨rfl, rfl⟩
  | wake agent => exact sameJobs_wake ..
  | _ => exact Bool.noConfusion hx

/-- **Jobs depend on the news of a step.** -/
theorem SameJobs.absorbAll_news {w v : World} (h : SameJobs w v) (bus : Nat)
    (effects : History Handler) :
    SameJobs (w.absorbAll bus (History.news effects)) (v.absorbAll bus effects) := by
  induction effects generalizing w v with
  | nil => exact h
  | cons x rest ih =>
    cases hx : x.isNews with
    | true =>
      rw [History.news, List.filter_cons_of_pos hx]
      exact ih (h.absorb bus x)
    | false =>
      rw [History.news, List.filter_cons_of_neg (by rw [hx]; exact Bool.false_ne_true)]
      exact ih (h.trans (sameJobs_absorb_of_not_news v bus hx))

end World
end Scenario
end Switchboard
