import Switchboard.Eventing.Bus

/-!
# A bus does not look into events

A bus looks at the name and the time of an event, and at nothing else of it; of a listener it looks at
the name, the event it hears and the way of delivery, and never at what describes it to those who run
it.  So if other particulars are put in the place of those of every event, and other descriptions in
the place of those of every listener, the bus takes the same steps as before, with the same records in
the log (`Bus.step_veil`).

Such a change is a *veiling*.  Every part of a bus has its veiled counterpart, and every function of the
bus gets one lemma, which says that veiling may be done before or after.
-/

namespace Switchboard

/-- A change of events that leaves their names and times alone, and a change of what describes
listeners. -/
structure Veiling (H K : Type) where
  event : Event → Event
  handler : H → K
  name_event : ∀ e, (event e).name = e.name
  occurredAt_event : ∀ e, (event e).occurredAt = e.occurredAt

variable {H K : Type} (v : Veiling H K)

theorem Veiling.timeText_event (e : Event) : (v.event e).timeText = e.timeText := by
  rw [Event.timeText, v.occurredAt_event, Event.timeText]

/-- Branches may be compared one by one, if the conditions agree. -/
theorem ite_eq_apply_ite {α β : Type} (f : α → β) {c d : Prop} [Decidable c] [Decidable d]
    (hcond : c ↔ d) {x y : β} {x' y' : α} (hx : x = f x') (hy : y = f y') :
    (if c then x else y) = f (if d then x' else y') := by
  by_cases hd : d
  · rw [if_pos hd, if_pos (hcond.2 hd), hx]
  · rw [if_neg hd, if_neg fun hc => hd (hcond.1 hc), hy]

/-- What follows a first part may be compared for each of its results. -/
theorem bind_eq_map_bind {ε α β γ : Type} {f : α → Except ε γ} {g : β → γ} {k : α → Except ε β}
    (x : Except ε α) (h : ∀ v, f v = (k v).map g) : (x >>= f) = (x >>= k).map g := by
  cases x with
  | error e => rfl
  | ok v => exact h v

/-! ## What is veiled -/

/-- A veiled listener. -/
def Listener.veil (l : Listener H) : Listener K :=
  ⟨l.event, l.delivery, l.name, v.handler l.handler⟩

/-- Veiled listeners by event name. -/
def ListenerTable.veil (t : ListenerTable H) : ListenerTable K :=
  t.map fun row => (row.1, row.2.map (Listener.veil v))

/-- A veiled registry. -/
def Registry.veil (r : Registry H) : Registry K :=
  ⟨ListenerTable.veil v r.sync, ListenerTable.veil v r.async⟩

/-- A veiled event on its way. -/
def Posting.veil (p : Posting) : Posting :=
  ⟨p.call, v.event p.event⟩

/-- A worker with a veiled event. -/
def WorkerState.veil : WorkerState → WorkerState
  | ready => ready
  | inLine => inLine
  | reading => reading
  | carrying p => carrying (p.veil v)
  | stopped => stopped

/-- A veiled deferred event. -/
def Deferred.veil (d : Deferred) : Deferred :=
  ⟨d.id, d.posting.veil v, d.stage⟩

/-- A veiled stage of a call. -/
def CallStage.veil : CallStage H → CallStage K
  | subscribing l => subscribing (l.veil v)
  | publishing e => publishing (v.event e)
  | calling e remaining current =>
    calling (v.event e) (remaining.map (Listener.veil v)) (current.map (Listener.veil v))
  | dispatching e => dispatching (v.event e)

/-- A veiled call. -/
def Call.veil (c : Call H) : Call K :=
  ⟨c.id, c.stage.veil v⟩

/-- A veiled listener at work. -/
def Invocation.veil (i : Invocation H) : Invocation K :=
  ⟨i.id, i.source, i.listener.veil v, v.event i.event⟩

/-- A veiled effect. -/
def Effect.veil : Effect H → Effect K
  | log level message data => log level message data
  | wake agent => wake agent
  | cancelled => cancelled
  | subscribed l => subscribed (l.veil v)
  | began call e => began call (v.event e)
  | invoke call l e => invoke call (l.veil v) (v.event e)
  | accepted p => accepted (p.veil v)
  | returned call => returned call
  | refused p => refused (p.veil v)
  | entered p => entered (p.veil v)
  | abandoned p => abandoned (p.veil v)
  | fannedOut source e => fannedOut source (v.event e)
  | skipped source e => skipped source (v.event e)
  | scheduled i => scheduled (i.veil v)
  | finished i outcome => finished (i.veil v) outcome
  | closed closer => closed closer

/-- A veiled step. -/
def BusStep.veil : BusStep H → BusStep K
  | subscribe l => subscribe (l.veil v)
  | publish e => publish (v.event e)
  | dispatch e => dispatch (v.event e)
  | call id => call id
  | endListener id outcome => endListener id outcome
  | collect inRuntime => collect inRuntime
  | close => close
  | abandonClose id => abandonClose id
  | worker index => worker index
  | deferred id => deferred id
  | closer id => closer id
  | finish id outcome => finish id outcome

namespace Bus

/-- A veiled bus. -/
def veil (b : Bus H) : Bus K where
  config := b.config
  valid := b.valid
  registry := b.registry.veil v
  queue := b.queue.map (Posting.veil v)
  free := b.free
  refusing := b.refusing
  calls := b.calls.map (Call.veil v)
  overflow := b.overflow.map (Deferred.veil v)
  pending := b.pending
  crew := b.crew.map (WorkerState.veil v)
  holder := b.holder
  line := b.line
  running := b.running.map (Invocation.veil v)
  closers := b.closers
  phase := b.phase
  cancelled := b.cancelled
  nextId := b.nextId

/-- A veiled bus after a step, with veiled effects. -/
def veilResult (r : Bus H × List (Effect H)) : Bus K × List (Effect K) :=
  (r.1.veil v, r.2.map (Effect.veil v))

end Bus

/-! ## The registry -/

theorem ListenerTable.find_veil (event : String) (t : ListenerTable H) :
    find event (veil v t) = (find event t).map (Listener.veil v) := by
  induction t with
  | nil => rfl
  | cons row rest ih =>
    rw [veil, List.map_cons, find, find]
    split
    · rfl
    · exact ih

theorem ListenerTable.add_veil (l : Listener H) (t : ListenerTable H) :
    add (l.veil v) (veil v t) = veil v (add l t) := by
  induction t with
  | nil => rfl
  | cons row rest ih =>
    rw [veil, List.map_cons, add, add]
    show (if row.1 = l.event then _ else _) = _
    split
    · simp only [veil, List.map_cons, List.map_append, List.map_nil]
    · rw [veil, List.map_cons]
      exact congrArg _ ih

namespace Registry

theorem insert_veil (r : Registry H) (l : Listener H) :
    ((r.veil v).insert (l.veil v)).1 = (r.insert l).1.veil v := by
  obtain ⟨event, delivery, name, handler⟩ := l
  cases delivery with
  | sync => exact congrArg (fun t => Registry.mk t _) (ListenerTable.add_veil v _ r.sync)
  | async => exact congrArg (Registry.mk _) (ListenerTable.add_veil v _ r.async)

theorem listeners_veil (r : Registry H) (d : Delivery) (event : String) :
    (r.veil v).listeners d event = (r.listeners d event).map (Listener.veil v) := by
  cases d <;> exact ListenerTable.find_veil v event _

end Registry

/-! ## Parts of a step -/

theorem WorkerState.veil_eq_iff {w s : WorkerState} (hs : ∀ p, s ≠ .carrying p) :
    w.veil v = s ↔ w = s := by
  cases w with
  | carrying p => exact iff_of_false (fun h => hs _ h.symm) (fun h => hs _ h.symm)
  | _ => rfl

namespace Bus

variable (b : Bus H)

@[simp] theorem registry_veil : (b.veil v).registry = b.registry.veil v := rfl
@[simp] theorem queue_veil : (b.veil v).queue = b.queue.map (Posting.veil v) := rfl
@[simp] theorem free_veil : (b.veil v).free = b.free := rfl
@[simp] theorem refusing_veil : (b.veil v).refusing = b.refusing := rfl
@[simp] theorem calls_veil : (b.veil v).calls = b.calls.map (Call.veil v) := rfl
@[simp] theorem overflow_veil : (b.veil v).overflow = b.overflow.map (Deferred.veil v) := rfl
@[simp] theorem crew_veil : (b.veil v).crew = b.crew.map (WorkerState.veil v) := rfl
@[simp] theorem holder_veil : (b.veil v).holder = b.holder := rfl
@[simp] theorem line_veil : (b.veil v).line = b.line := rfl
@[simp] theorem running_veil : (b.veil v).running = b.running.map (Invocation.veil v) := rfl
@[simp] theorem closers_veil : (b.veil v).closers = b.closers := rfl
@[simp] theorem cancelled_veil : (b.veil v).cancelled = b.cancelled := rfl

theorem getElem?_crew_veil {i : Nat} {s : WorkerState} (hs : ∀ p, s ≠ .carrying p) :
    (b.veil v).crew[i]? = some s ↔ b.crew[i]? = some s := by
  rw [crew_veil, List.getElem?_map]
  cases b.crew[i]? with
  | none => exact Iff.rfl
  | some w =>
    rw [Option.map_some, Option.some.injEq, Option.some.injEq]
    exact WorkerState.veil_eq_iff v hs

theorem idle_veil : (b.veil v).idle = b.idle := by
  rw [idle, idle, running_veil, overflow_veil, List.isEmpty_map, List.isEmpty_map]

theorem crewStopped_veil : (b.veil v).crewStopped = b.crewStopped := by
  rw [crewStopped, crewStopped, crew_veil, List.all_map]
  refine congrArg b.crew.all (funext fun w => ?_)
  cases w <;> rfl

theorem report_veil (l : Listener H) (e : Event) (d : Delivery) (o : Outcome) :
    report (l.veil v) (v.event e) d o = (report l e d o).map (Effect.veil v) := by
  cases o <;>
    simp only [report, Listener.veil, v.name_event, List.map_cons, List.map_nil, Effect.veil]

theorem wakeReader_veil : (b.veil v).wakeReader = b.wakeReader.map (Effect.veil v) := by
  rw [wakeReader, wakeReader, holder_veil]
  cases b.holder with
  | none => rfl
  | some i =>
    dsimp only
    by_cases h : b.crew[i]? = some .reading
    · rw [if_pos h, if_pos ((b.getElem?_crew_veil v (by simp)).2 h)]
      rfl
    · rw [if_neg h, if_neg fun h' => h ((b.getElem?_crew_veil v (by simp)).1 h')]
      rfl

theorem enter_veil (p : Posting) : (b.veil v).enter (p.veil v) = veilResult v (b.enter p) := by
  rw [enter, enter, wakeReader_veil]
  simp only [veilResult, veil, List.map_append, List.map_cons, List.map_nil, Effect.veil]

theorem grantFirst_veil (ds : List Deferred) :
    grantFirst (ds.map (Deferred.veil v)) =
      (grantFirst ds).map fun r => (r.1.map (Deferred.veil v), r.2) := by
  induction ds with
  | nil => rfl
  | cons d rest ih =>
    rw [List.map_cons, grantFirst, grantFirst, ih]
    by_cases h : d.stage = .waiting
    · rw [if_pos h, if_pos (show (d.veil v).stage = .waiting from h)]
      rfl
    · rw [if_neg h, if_neg (show ¬ (d.veil v).stage = .waiting from h)]
      cases grantFirst rest <;> rfl

theorem releaseSlot_veil : (b.veil v).releaseSlot = veilResult v b.releaseSlot := by
  rw [releaseSlot, releaseSlot, overflow_veil, grantFirst_veil]
  cases grantFirst b.overflow <;> rfl

theorem releaseReader_veil : (b.veil v).releaseReader = veilResult v b.releaseReader := by
  rw [releaseReader, releaseReader, line_veil]
  cases b.line <;> rfl

theorem tasksEnded_veil : (b.veil v).tasksEnded = veilResult v b.tasksEnded := by
  rw [tasksEnded, tasksEnded, idle_veil]
  split
  · simp only [veilResult, veil, List.map_map]
    rfl
  · rfl

theorem offer_veil (p : Posting) : (b.veil v).offer (p.veil v) = veilResult v (b.offer p) := by
  rw [offer, offer, refusing_veil, free_veil]
  split
  · rfl
  · split
    · exact enter_veil v { b with free := b.free - 1 } p
    · simp only [veilResult, veil, List.map_append, List.map_cons, List.map_nil, Effect.veil,
        Posting.veil, Deferred.veil, v.name_event, v.timeText_event]

theorem invocations_veil (source : Option Nat) (e : Event) (id : Nat) (ls : List (Listener H)) :
    invocations source (v.event e) id (ls.map (Listener.veil v)) =
      (invocations source e id ls).map (Invocation.veil v) := by
  induction ls generalizing id with
  | nil => rfl
  | cons l rest ih =>
    rw [List.map_cons, invocations, invocations, ih]
    rfl

theorem fanOut_veil (source : Option Nat) (e : Event) :
    (b.veil v).fanOut source (v.event e) = veilResult v (b.fanOut source e) := by
  rw [fanOut, fanOut, cancelled_veil]
  split
  · simp only [veilResult, List.map_cons, List.map_nil, Effect.veil, v.name_event]
  · simp only [v.name_event, Registry.listeners_veil, invocations_veil,
      List.length_map, veilResult, veil, List.map_append, List.map_cons, Effect.veil, List.map_map]
    rfl

theorem setWorker_veil (i : Nat) (w : WorkerState) :
    (b.veil v).setWorker i (w.veil v) = (b.setWorker i w).veil v := by
  simp only [setWorker, veil, List.map_set]

theorem stopWorker_veil (i : Nat) : (b.veil v).stopWorker i = veilResult v (b.stopWorker i) := by
  have hset : (b.veil v).setWorker i .stopped = (b.setWorker i .stopped).veil v :=
    setWorker_veil v b i .stopped
  simp only [stopWorker, hset, crewStopped_veil, closers_veil, veilResult, List.map_cons,
    Effect.veil]
  split
  · simp only [List.map_map]
    rfl
  · rfl

theorem stopAfter_veil (left : Bus H × List (Effect H)) (i : Nat) :
    stopAfter (veilResult v left) i = veilResult v (stopAfter left i) := by
  simp only [stopAfter, veilResult, stopWorker_veil, List.map_append]

theorem leaveLine_veil (i : Nat) : (b.veil v).leaveLine i = veilResult v (b.leaveLine i) := by
  rw [leaveLine, leaveLine, holder_veil]
  split
  · exact releaseReader_veil v b
  · rfl

theorem find?_id_veil {α β : Type} (key : α → Nat) (other : β → Nat) (f : α → β)
    (hkey : ∀ x, other (f x) = key x) (xs : List α) (id : Nat) :
    ((xs.map f).find? fun y => other y == id) = (xs.find? fun x => key x == id).map f := by
  rw [List.find?_map]
  refine congrArg (Option.map f) (congrArg (fun p => xs.find? p) (funext fun x => ?_))
  rw [Function.comp_apply, hkey]

theorem filter_id_veil {α β : Type} (key : α → Nat) (other : β → Nat) (f : α → β)
    (hkey : ∀ x, other (f x) = key x) (xs : List α) (id : Nat) :
    ((xs.map f).filter fun y => other y != id) = (xs.filter fun x => key x != id).map f := by
  rw [List.filter_map]
  refine congrArg (List.map f) (congrArg (fun p => xs.filter p) (funext fun x => ?_))
  rw [Function.comp_apply, hkey]

/-! ## Steps -/

/-- The reader gives a slot back, and its place, and holds an event from then on. -/
theorem take_veil (i : Nat) (p : Posting) :
    ((b.veil v).releaseSlot.1.releaseReader.1.setWorker i (.carrying (p.veil v)),
        (b.veil v).releaseSlot.2 ++ (b.veil v).releaseSlot.1.releaseReader.2) =
      veilResult v (b.releaseSlot.1.releaseReader.1.setWorker i (.carrying p),
        b.releaseSlot.2 ++ b.releaseSlot.1.releaseReader.2) := by
  rw [releaseSlot_veil, veilResult, releaseReader_veil, veilResult, veilResult, List.map_append]
  exact congrArg (fun c => (c, _)) (setWorker_veil v _ i (.carrying p))

theorem workerStep_veil (i : Nat) :
    (b.veil v).workerStep i = (b.workerStep i).map (veilResult v) := by
  rw [workerStep, workerStep, crew_veil, List.getElem?_map]
  cases b.crew[i]? with
  | none => rfl
  | some w =>
    cases w with
    | ready =>
      refine ite_eq_apply_ite (Option.map (veilResult v)) Iff.rfl
        (congrArg some (stopWorker_veil v b i)) ?_
      refine ite_eq_apply_ite (Option.map (veilResult v)) Iff.rfl ?_ ?_
      · exact congrArg (fun c => some (c, []))
          (setWorker_veil v { b with holder := some i } i .reading)
      · exact congrArg (fun c => some (c, []))
          (setWorker_veil v { b with line := b.line ++ [i] } i .inLine)
    | inLine =>
      refine ite_eq_apply_ite (Option.map (veilResult v)) Iff.rfl ?_ ?_
      · exact congrArg some ((congrArg (stopAfter · i) (leaveLine_veil v b i)).trans
          (stopAfter_veil v _ i))
      · exact ite_eq_apply_ite (Option.map (veilResult v)) Iff.rfl
          (congrArg (fun c => some (c, [])) (setWorker_veil v b i .reading)) rfl
    | reading =>
      have hrelease : stopAfter (b.veil v).releaseReader i =
          veilResult v (stopAfter b.releaseReader i) :=
        (congrArg (stopAfter · i) (releaseReader_veil v b)).trans (stopAfter_veil v _ i)
      refine ite_eq_apply_ite (Option.map (veilResult v)) Iff.rfl (congrArg some hrelease) ?_
      rw [queue_veil]
      cases b.queue with
      | nil =>
        exact ite_eq_apply_ite (Option.map (veilResult v)) Iff.rfl (congrArg some hrelease) rfl
      | cons p rest =>
        exact congrArg some (take_veil v { b with queue := rest } i p)
    | carrying p =>
      refine congrArg some ?_
      exact (congrArg (fun c : Bus K => c.fanOut _ _) (setWorker_veil v b i .ready)).trans
        (fanOut_veil v _ _ _)
    | stopped => rfl

theorem dropDeferred_veil (id : Nat) : (b.veil v).dropDeferred id = (b.dropDeferred id).veil v := by
  simp only [dropDeferred, veil]
  rw [filter_id_veil Deferred.id Deferred.id (Deferred.veil v) fun _ => rfl]

theorem endDeferred_veil (id : Nat) :
    (b.veil v).endDeferred id = veilResult v (b.endDeferred id) := by
  rw [endDeferred, dropDeferred_veil, tasksEnded_veil, endDeferred]

/-- A deferred event that enters the queue ends. -/
theorem enter_endDeferred_veil (p : Posting) (id : Nat) :
    ((((b.veil v).enter (p.veil v)).1.endDeferred id).1,
        ((b.veil v).enter (p.veil v)).2 ++ (((b.veil v).enter (p.veil v)).1.endDeferred id).2) =
      veilResult v (((b.enter p).1.endDeferred id).1,
        (b.enter p).2 ++ ((b.enter p).1.endDeferred id).2) := by
  rw [enter_veil, veilResult, endDeferred_veil, veilResult, veilResult, List.map_append]

theorem deferredStep_veil (id : Nat) :
    (b.veil v).deferredStep id = (b.deferredStep id).map (veilResult v) := by
  rw [deferredStep, deferredStep, overflow_veil,
    find?_id_veil Deferred.id Deferred.id (Deferred.veil v) fun _ => rfl]
  cases b.overflow.find? fun d => d.id == id with
  | none => rfl
  | some d =>
    obtain ⟨number, p, stage⟩ := d
    refine ite_eq_apply_ite (Option.map (veilResult v)) Iff.rfl (congrArg some ?_) ?_
    · have hslot : (if stage = .granted then ((b.veil v).dropDeferred id).releaseSlot
          else ((b.veil v).dropDeferred id, [])) =
          veilResult v (if stage = .granted then (b.dropDeferred id).releaseSlot
            else (b.dropDeferred id, [])) := by
        rw [dropDeferred_veil]
        exact ite_eq_apply_ite (veilResult v) Iff.rfl (releaseSlot_veil v _) rfl
      refine (congrArg (fun r : Bus K × List (Effect K) => (r.1.tasksEnded.1,
        .log .debug "overflow enqueue abandoned"
            (.object [("event", .str (v.event p.event).name)]) ::
          .abandoned (p.veil v) :: (r.2 ++ r.1.tasksEnded.2))) hslot).trans ?_
      simp only [veilResult, tasksEnded_veil, List.map_cons, List.map_append, Effect.veil,
        v.name_event]
    · refine ite_eq_apply_ite (Option.map (veilResult v)) Iff.rfl (congrArg some ?_) ?_
      · rw [endDeferred_veil]
        rfl
      · cases stage with
        | fresh =>
          refine ite_eq_apply_ite (Option.map (veilResult v)) Iff.rfl (congrArg some ?_)
            (congrArg some ?_)
          · exact enter_endDeferred_veil v { b with free := b.free - 1 } p id
          · rw [filter_id_veil Deferred.id Deferred.id (Deferred.veil v) fun _ => rfl]
            simp only [veilResult, veil, List.map_append, List.map_cons, List.map_nil,
              Deferred.veil]
        | waiting => rfl
        | granted => exact congrArg some (enter_endDeferred_veil v b p id)

theorem closerStep_veil (id : Nat) :
    (b.veil v).closerStep id = (b.closerStep id).map (veilResult v) := by
  rw [closerStep, closerStep, closers_veil]
  cases b.closers.find? fun c => c.id == id with
  | none => rfl
  | some c =>
    obtain ⟨number, stage⟩ := c
    cases stage with
    | workers =>
      refine ite_eq_apply_ite (Option.map (veilResult v)) (by rw [crewStopped_veil]) rfl ?_
      exact ite_eq_apply_ite (Option.map (veilResult v)) (by rw [idle_veil]) rfl rfl
    | tasks => rfl
    | nothing => rfl

theorem dropCall_veil (id : Nat) : (b.veil v).dropCall id = (b.dropCall id).veil v := by
  simp only [dropCall, veil]
  rw [filter_id_veil Call.id Call.id (Call.veil v) fun _ => rfl]

theorem setCall_veil (id : Nat) (stage : CallStage H) :
    (b.veil v).setCall id (stage.veil v) = (b.setCall id stage).veil v := by
  have hcalls : ((b.calls.map (Call.veil v)).map fun c =>
        if c.id = id then { c with stage := stage.veil v } else c) =
      (b.calls.map fun c =>
        if c.id = id then { c with stage := stage } else c).map (Call.veil v) := by
    rw [List.map_map, List.map_map]
    exact List.map_congr_left fun c _ => ite_eq_apply_ite (Call.veil v) Iff.rfl rfl rfl
  simp only [setCall, veil, hcalls]

theorem begin_veil (stage : CallStage H) :
    (b.veil v).begin (stage.veil v) = (b.begin stage).veil v := by
  simp only [begin, veil, List.map_append, List.map_cons, List.map_nil, Call.veil]

theorem callStep_veil (id : Nat) :
    (b.veil v).callStep id = (b.callStep id).map (veilResult v) := by
  rw [callStep, callStep, calls_veil, find?_id_veil Call.id Call.id (Call.veil v) fun _ => rfl]
  cases b.calls.find? fun c => c.id == id with
  | none => rfl
  | some c =>
    obtain ⟨number, stage⟩ := c
    cases stage with
    | subscribing l =>
      refine congrArg some ?_
      simp only [dropCall_veil, registry_veil]
      rw [Registry.insert_veil]
      rfl
    | publishing e =>
      have hset := setCall_veil v b id (.calling e (b.registry.listeners .sync e.name) none)
      refine congrArg (fun c => some (c, [])) (Eq.trans ?_ hset)
      rw [registry_veil, v.name_event, Registry.listeners_veil]
      rfl
    | calling e remaining current =>
      cases current with
      | some l => rfl
      | none =>
        cases remaining with
        | nil =>
          have hoffer := offer_veil v (b.dropCall id) ⟨id, e⟩
          rw [← dropCall_veil] at hoffer
          refine congrArg some ?_
          refine (congrArg (fun r : Bus K × List (Effect K) =>
            (r.1, .accepted ⟨id, v.event e⟩ :: r.2 ++ [.returned id])) hoffer).trans ?_
          simp only [veilResult, List.map_append, List.map_cons, List.map_nil, Effect.veil,
            Posting.veil]
        | cons l rest =>
          exact congrArg (fun c => some (c, [Effect.invoke id (l.veil v) (v.event e)]))
            (setCall_veil v b id (.calling e rest (some l)))
    | dispatching e =>
      refine congrArg some ?_
      simp only [dropCall_veil, fanOut_veil, veilResult, List.map_append, List.map_cons,
        List.map_nil, Effect.veil]

theorem endListener_veil (id : Nat) (o : Outcome) :
    (b.veil v).endListener id o = (b.endListener id o).map (veilResult v) := by
  rw [endListener, endListener, calls_veil,
    find?_id_veil Call.id Call.id (Call.veil v) fun _ => rfl]
  cases b.calls.find? fun c => c.id == id with
  | none => rfl
  | some c =>
    obtain ⟨number, stage⟩ := c
    cases stage with
    | calling e remaining current =>
      cases current with
      | none => rfl
      | some l =>
        refine congrArg some (Prod.ext ?_ (report_veil v l e .sync o))
        exact setCall_veil v b id (.calling e remaining none)
    | _ => rfl

theorem finish_veil (id : Nat) (o : Outcome) :
    (b.veil v).finish id o = (b.finish id o).map (veilResult v) := by
  rw [finish, finish, running_veil,
    find?_id_veil Invocation.id Invocation.id (Invocation.veil v) fun _ => rfl]
  cases b.running.find? fun i => i.id == id with
  | none => rfl
  | some i =>
    have hended := tasksEnded_veil v { b with running := b.running.filter fun i => i.id != id }
    refine congrArg some ?_
    rw [filter_id_veil Invocation.id Invocation.id (Invocation.veil v) fun _ => rfl]
    refine (congrArg (fun r : Bus K × List (Effect K) => (r.1, .finished (i.veil v) o ::
      report (i.listener.veil v) (v.event i.event) .async o ++ r.2)) hended).trans ?_
    simp only [veilResult, report_veil, List.map_cons, List.map_append, Effect.veil]

theorem collect_veil (inRuntime : Bool) :
    (b.veil v).collect inRuntime = veilResult v (b.collect inRuntime) := by
  refine ite_eq_apply_ite (veilResult v) Iff.rfl rfl ?_
  refine ite_eq_apply_ite (veilResult v) Iff.rfl ?_ rfl
  simp only [veilResult, veil, List.map_replicate, List.map_map]
  rfl

theorem close_veil : (b.veil v).close = veilResult v b.close := by
  refine Prod.ext rfl (ite_eq_apply_ite (List.map (Effect.veil v)) Iff.rfl rfl ?_)
  simp only [crew_veil, overflow_veil, List.length_map, List.map_map, List.map_cons,
    List.map_append]
  rfl

/-- **A bus does not look into events.**  Veiling before a step is as good as veiling after it: the step
can be taken or not, and its records are the same. -/
theorem step_veil (s : BusStep H) :
    (b.veil v).step (s.veil v) = (b.step s).map (veilResult v) := by
  cases s with
  | subscribe l =>
    exact congrArg (fun c => some (c, [subscription (l.veil v)])) (begin_veil v b (.subscribing l))
  | publish e =>
    exact congrArg (fun c => some (c, [Effect.began b.nextId (v.event e)]))
      (begin_veil v b (.publishing e))
  | dispatch e => exact congrArg (fun c => some (c, [])) (begin_veil v b (.dispatching e))
  | call id => exact callStep_veil v b id
  | endListener id o => exact endListener_veil v b id o
  | collect inRuntime => exact congrArg some (collect_veil v b inRuntime)
  | close => exact congrArg some (close_veil v b)
  | abandonClose id => rfl
  | worker i => exact workerStep_veil v b i
  | deferred id => exact deferredStep_veil v b id
  | closer id => exact closerStep_veil v b id
  | finish id o => exact finish_veil v b id o

end Bus
end Switchboard
