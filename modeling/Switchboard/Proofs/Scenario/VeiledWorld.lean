import Switchboard.Proofs.Scenario.Veil

/-!
# Turns in a world without tokens

What a party does when it is its turn does not depend on tokens: a world may be veiled before or after
(`World.advance_veil`, `World.settle_veil`).  The functions of a world are gone through in the order in
which they are defined, each with one lemma.
-/

namespace Switchboard
namespace Scenario

/-! ## What is veiled -/

/-- A call of a listener without tokens. -/
def Handling.veil (h : Handling) : Handling :=
  { h with
    handler := h.handler.veil
    event := h.event.veil
    acts := h.acts.map Act.veil }

/-- A call inside a job without tokens. -/
def Frame.veil : Frame → Frame
  | publishing bus call => publishing bus call
  | handling h => handling h.veil
  | sending b => sending b

/-- A job without tokens. -/
def Job.veil (j : Job) : Job :=
  ⟨j.id, j.frames.map Frame.veil⟩

namespace World

/-- A world without tokens. -/
def veil (w : World) : World :=
  { w with
    app := w.app.veil
    jobs := w.jobs.map Job.veil }

variable (w : World)

@[simp] theorem app_veil : w.veil.app = w.app.veil := rfl
@[simp] theorem now_veil : w.veil.now = w.now := rfl
@[simp] theorem service_veil : w.veil.service = w.service := rfl
@[simp] theorem serviceBus_veil : w.veil.serviceBus = w.serviceBus := rfl
@[simp] theorem directBus_veil : w.veil.directBus = w.directBus := rfl
@[simp] theorem clients_veil : w.veil.clients = w.clients := rfl
@[simp] theorem inboxOf_veil : w.veil.inboxOf = w.inboxOf := rfl
@[simp] theorem active_veil : w.veil.active = w.active := rfl
@[simp] theorem queue_veil : w.veil.queue = w.queue := rfl

/-! ## Jobs and effects -/

theorem wake_veil (p : Party) : w.veil.wake p = (w.wake p).veil :=
  ite_eq_apply_ite veil Iff.rfl rfl rfl

theorem wakeAll_veil {α : Type} (party : α → Party) (xs : List α) :
    xs.foldl (fun w x => w.wake (party x)) w.veil =
      (xs.foldl (fun w x => w.wake (party x)) w).veil :=
  List.foldl_hom veil fun v x => wake_veil v (party x)

theorem startJob_veil (frame : Frame) :
    w.veil.startJob frame.veil = (w.startJob frame).veil := by
  simp only [startJob, veil, List.map_append, List.map_cons, List.map_nil, Job.veil]

theorem job?_veil (id : Nat) : w.veil.job? id = (w.job? id).map Job.veil := by
  rw [job?, job?]
  exact List.find?_map ..

theorem setFrames_veil (id : Nat) (frames : List Frame) :
    w.veil.setFrames id (frames.map Frame.veil) = (w.setFrames id frames).veil := by
  refine ite_eq_apply_ite veil (by rw [List.isEmpty_map]) ?_ ?_
  · simp only [veil, List.filter_map]
    rfl
  · simp only [veil, List.map_map]
    refine congrArg (fun jobs => { w with app := w.app.veil, jobs := jobs })
      (List.map_congr_left fun j _ => ?_)
    exact ite_eq_apply_ite Job.veil Iff.rfl rfl rfl

theorem publisher?_veil (bus call : Nat) :
    w.veil.publisher? bus call = (w.publisher? bus call).map Job.veil := by
  rw [publisher?, publisher?]
  refine (List.find?_map ..).trans (congrArg (Option.map Job.veil)
    (congrArg (fun p => w.jobs.find? p) (funext fun j => ?_)))
  obtain ⟨id, frames⟩ := j
  cases frames with
  | nil => rfl
  | cons frame rest => cases frame <;> rfl

theorem absorb_veil (bus : Nat) (x : Effect Handler) :
    w.veil.absorb bus (x.veil tokenless) = (w.absorb bus x).veil := by
  cases x with
  | wake agent => exact wake_veil w _
  | cancelled =>
    simp only [Effect.veil, absorb]
    rw [List.foldr_eq_foldl_reverse, List.foldr_eq_foldl_reverse]
    exact wakeAll_veil { w with cancelLine := w.cancelLine.filter fun p => p.1 != bus }
      (fun p : Nat × Nat => .job p.2) _
  | invoke call listener event =>
    simp only [Effect.veil, absorb, publisher?_veil]
    cases w.publisher? bus call with
    | none => rfl
    | some j =>
      exact setFrames_veil w j.id
        (.handling ⟨bus, .publishing call, listener.handler, event, false, []⟩ :: j.frames)
  | returned call =>
    simp only [Effect.veil, absorb, publisher?_veil]
    cases w.publisher? bus call with
    | none => rfl
    | some j =>
      simp only [Option.map_some, Job.veil, ← List.map_tail]
      exact setFrames_veil w j.id j.frames.tail
  | scheduled i =>
    have hstart := startJob_veil w
      (.handling ⟨bus, .scheduled i.id, i.listener.handler, i.event, false, []⟩)
    exact (congrArg (wake · (.job w.nextId)) hstart).trans (wake_veil _ _)
  | _ => rfl

theorem settleDue_veil : w.veil.settleDue = w.settleDue.veil := by
  have hfold (due : List (Nat × Effect Handler)) (v : World) :
      (due.map fun d => (d.1, d.2.veil tokenless)).foldl (fun w d => w.absorb d.1 d.2) v.veil =
        (due.foldl (fun w d => w.absorb d.1 d.2) v).veil := by
    rw [List.foldl_map]
    exact List.foldl_hom veil fun v d => absorb_veil v d.1 d.2
  exact hfold w.app.due { w with app := { w.app with due := [] } }

theorem stepBus?_veil (bus : Nat) (s : BusStep Handler) :
    w.veil.stepBus? bus (s.veil tokenless) = (w.stepBus? bus s).map veil := by
  rw [stepBus?, stepBus?, app_veil, Application.stepBus?_veil, Option.map_map, Option.map_map]
  exact congrArg (fun f => (w.app.stepBus? bus s).map f)
    (funext fun a => settleDue_veil { w with app := a })

theorem stepBus_veil (bus : Nat) (s : BusStep Handler) :
    w.veil.stepBus bus (s.veil tokenless) = (w.stepBus bus s).veil := by
  rw [stepBus, stepBus, stepBus?_veil, Option.getD_map]

theorem isClosing_veil (bus : Nat) : w.veil.isClosing bus = w.isClosing bus := by
  rw [isClosing, isClosing, app_veil, Application.bus?_veil]
  cases w.app.bus? bus <;> rfl

theorem nextCall_veil (bus : Nat) : w.veil.nextCall bus = w.nextCall bus := by
  rw [nextCall, nextCall, app_veil, Application.bus?_veil]
  cases w.app.bus? bus <;> rfl

theorem callBus_veil (bus : Nat) (s : BusStep Handler) :
    w.veil.callBus bus (s.veil tokenless) = (w.callBus bus s).veil := by
  rw [callBus, callBus, stepBus_veil, nextCall_veil]
  exact stepBus_veil _ bus (.call _)

theorem subscribeAll_veil (bus : Nat) (ls : List (Listener Handler)) :
    (veilListeners ls).foldl (fun w l => w.callBus bus (.subscribe l)) w.veil =
      (ls.foldl (fun w l => w.callBus bus (.subscribe l)) w).veil := by
  rw [veilListeners_eq, List.foldl_map]
  exact List.foldl_hom veil fun v l => callBus_veil v bus (.subscribe l)

/-! ## The steps of a job -/

/-- A world after a turn, without tokens. -/
def veilTurn (r : World × Bool) : World × Bool :=
  (r.1.veil, r.2)

theorem endHandling_veil (job : Nat) (h : Handling) (below : List Frame) (o : Outcome) :
    w.veil.endHandling job h.veil (below.map Frame.veil) o =
      (w.endHandling job h below o).veil := by
  obtain ⟨bus, site, handler, event, begun, acts⟩ := h
  cases site with
  | publishing call =>
    exact (congrArg (stepBus · bus (.endListener call o)) (setFrames_veil w job below)).trans
      (stepBus_veil _ bus (.endListener call o))
  | scheduled i =>
    exact (congrArg (stepBus · bus (.finish i o)) (setFrames_veil w job below)).trans
      (stepBus_veil _ bus (.finish i o))

theorem publishInside_veil (bus job : Nat) (frames : List Frame) (e : Event) :
    w.veil.publishInside bus job (frames.map Frame.veil) e.veil =
      (w.publishInside bus job frames e).veil := by
  rw [publishInside, nextCall_veil]
  have hframes := setFrames_veil w job (.publishing bus (w.nextCall bus) :: frames)
  exact (congrArg (stepBus · bus (.publish e.veil)) hframes).trans
    (stepBus_veil _ bus (.publish e))

theorem broadcastInside_veil (job : Nat) (frames : List Frame) (m : Message) :
    w.veil.broadcastInside job (frames.map Frame.veil) m =
      (w.broadcastInside job frames m).map veil := by
  rw [broadcastInside, broadcastInside]
  refine bind_eq_map_bind (w.app.hub.need .serverEvents) fun (i : Nat) => ?_
  rw [app_veil, Application.centers_veil]
  cases w.app.centers[i]? with
  | none => rfl
  | some c => exact congrArg Except.ok (setFrames_veil w job (.sending (.start job c m) :: frames))

/-- **The audit does the same without tokens.** -/
theorem runAudit_veil (e : Event) :
    w.veil.runAudit e.veil = ((w.runAudit e).1.veil, (w.runAudit e).2) := by
  rw [runAudit, runAudit, app_veil, Application.hub_veil, Audit.record_veil]
  cases w.app.hub.need .logger with
  | error f => rfl
  | ok i =>
    cases Audit.record e with
    | error text => rfl
    | ok r =>
      have hwrite := Application.write_veil w.app i r.level r.message r.data
      exact congrArg (fun a => ({ w.veil with app := a }, Outcome.done)) hwrite

theorem entry_veil (label : String) (h : Handling) (cancelled : Bool) :
    entry label h.veil cancelled = entry label h cancelled := by
  rw [entry, entry]
  exact congrArg (fun name => Json.object [("listener", .str label), ("event", .str name),
    ("delivery", .str h.site.delivery.word), ("cancelled", .bool cancelled)])
    (tokenless.name_event h.event)

theorem labelOf_veil (h : Handler) : labelOf h.veil = labelOf h := by
  cases h <;> rfl

theorem begin_veil (job : Nat) (h : Handling) (below : List Frame) :
    w.veil.begin job h.veil (below.map Frame.veil) = (w.begin job h below).veil := by
  obtain ⟨bus, site, handler, event, begun, acts⟩ := h
  cases handler with
  | audit =>
    have haudit := runAudit_veil w event
    have hend := endHandling_veil (w.runAudit event).1 job ⟨bus, site, .audit, event, begun, acts⟩
      below (w.runAudit event).2
    exact (congrArg (fun r : World × Outcome => r.1.endHandling job _ _ r.2) haudit).trans hend
  | relay =>
    have hbroadcast := broadcastInside_veil w job
      (.handling ⟨bus, site, .relay, event, true, acts⟩ :: below) (Relay.message event)
    have hend (e : SetupError) := endHandling_veil w job ⟨bus, site, .relay, event, begun, acts⟩
      below (.failed e.message)
    simp only [List.map_cons, Frame.veil, Handling.veil, Handler.veil] at hbroadcast hend
    simp only [begin, Handling.veil, Handler.veil, Relay.message_veil, hbroadcast]
    cases w.broadcastInside job (.handling ⟨bus, site, .relay, event, true, acts⟩ :: below)
      (Relay.message event) with
    | ok after => rfl
    | error e => exact hend e
  | script label script =>
    have hentry := entry_veil label ⟨bus, site, .script label script, event, begun, acts⟩
      (w.isClosing bus)
    have hframes := setFrames_veil
      (w.note (entry label ⟨bus, site, .script label script, event, begun, acts⟩ (w.isClosing bus)))
      job (.handling ⟨bus, site, .script label script, event, true, script⟩ :: below)
    simp only [List.map_cons, Frame.veil, Handling.veil, Handler.veil, veilActs_eq]
      at hentry hframes
    simp only [begin, Handling.veil, Handler.veil, isClosing_veil, veilActs_eq, hentry]
    exact hframes

theorem waitAtGate_veil (job : Nat) (gate : String) :
    w.veil.waitAtGate job gate = (w.waitAtGate job gate).veil :=
  ite_eq_apply_ite veil Iff.rfl rfl rfl

theorem waitForCancel_veil (job bus : Nat) :
    w.veil.waitForCancel job bus = (w.waitForCancel job bus).veil :=
  ite_eq_apply_ite veil Iff.rfl rfl rfl

theorem perform_veil (job : Nat) (h : Handling) (below : List Frame) (act : Act) :
    w.veil.perform job h.veil (below.map Frame.veil) act.veil =
      veilTurn (w.perform job h below act) := by
  have hafter (v : World) :
      (v.veil.setFrames job (.handling h.veil :: below.map Frame.veil), true) =
        veilTurn (v.setFrames job (.handling h :: below), true) :=
    congrArg (·, true) (setFrames_veil v job (.handling h :: below))
  have hend (o : Outcome) : (w.veil.endHandling job h.veil (below.map Frame.veil) o, true) =
      veilTurn (w.endHandling job h below o, true) :=
    congrArg (·, true) (endHandling_veil w job h below o)
  cases act with
  | note value =>
    have hlabel : labelOf h.veil.handler = labelOf h.handler := labelOf_veil h.handler
    simp only [Act.veil, perform, hlabel]
    exact hafter (w.note _)
  | describe =>
    have hlabel : labelOf h.veil.handler = labelOf h.handler := labelOf_veil h.handler
    have hevent : particulars h.veil.event = particulars h.event := particulars_veil h.event
    simp only [Act.veil, perform, hlabel, hevent]
    exact hafter (w.note _)
  | gate name =>
    simp only [Act.veil, perform]
    exact ite_eq_apply_ite veilTurn Iff.rfl (hafter w)
      (congrArg (·, false) (waitAtGate_veil w job name))
  | waitCancel =>
    have hclosing : w.veil.isClosing h.veil.bus = w.isClosing h.bus := isClosing_veil w h.bus
    simp only [Act.veil, perform]
    exact ite_eq_apply_ite veilTurn (by rw [hclosing]) (hafter w)
      (congrArg (·, false) (waitForCancel_veil w job h.bus))
  | publish e =>
    simp only [Act.veil, perform, app_veil, Application.hub_veil]
    cases w.app.hub.need .events with
    | error x => exact hend _
    | ok bus => exact congrArg (·, true) (publishInside_veil w bus job (.handling h :: below) e)
  | republish =>
    have hagain : h.veil.event.relayed? = h.event.relayed?.map Event.veil :=
      Event.relayed?_veil h.event
    simp only [Act.veil, perform, app_veil, Application.hub_veil, hagain]
    cases h.event.relayed? with
    | none => exact hafter w
    | some e =>
      simp only [Option.map_some]
      cases w.app.hub.need .events with
      | error x => exact hend _
      | ok bus => exact congrArg (·, true) (publishInside_veil w bus job (.handling h :: below) e)
  | dispatch e =>
    simp only [Act.veil, perform, app_veil, Application.hub_veil]
    cases w.app.hub.need .events with
    | error x => exact hend _
    | ok bus =>
      have hframes := setFrames_veil w job (.handling h :: below)
      refine congrArg (·, true) ((congrArg (callBus · bus (.dispatch e.veil)) hframes).trans ?_)
      exact callBus_veil _ bus (.dispatch e)
  | subscribe ls =>
    simp only [Act.veil, perform, app_veil, Application.hub_veil]
    cases w.app.hub.need .events with
    | error x => exact hend _
    | ok bus =>
      refine (congrArg (fun v : World =>
        (v.setFrames job (.handling h.veil :: below.map Frame.veil), true)) ?_).trans (hafter _)
      exact subscribeAll_veil w bus ls
  | broadcast m =>
    have hbroadcast := broadcastInside_veil w job (.handling h :: below) m
    simp only [List.map_cons, Frame.veil] at hbroadcast
    simp only [Act.veil, perform, hbroadcast]
    cases w.broadcastInside job (.handling h :: below) m with
    | error x => exact hend _
    | ok v => rfl
  | log q =>
    simp only [Act.veil, perform, app_veil, Application.request_veil]
    cases w.app.request q with
    | error x => exact hend _
    | ok r => exact hafter { w with app := r.1 }
  | need slot =>
    simp only [Act.veil, perform, app_veil, Application.hub_veil]
    exact ite_eq_apply_ite veilTurn Iff.rfl (hafter w) (hend _)
  | fail text => exact hend _
  | panic text => exact hend _

theorem advanceHandling_veil (job : Nat) (h : Handling) (below : List Frame) :
    w.veil.advanceHandling job h.veil (below.map Frame.veil) =
      veilTurn (w.advanceHandling job h below) := by
  refine ite_eq_apply_ite veilTurn Iff.rfl (congrArg (·, true) (begin_veil w job h below)) ?_
  obtain ⟨bus, site, handler, event, begun, acts⟩ := h
  cases acts with
  | nil =>
    exact congrArg (·, true)
      (endHandling_veil w job ⟨bus, site, handler, event, begun, []⟩ below .done)
  | cons act rest => exact perform_veil w job ⟨bus, site, handler, event, begun, rest⟩ below act

theorem endBroadcast_veil (job : Nat) (below : List Frame) (r : Except ServiceError Unit) :
    w.veil.endBroadcast job (below.map Frame.veil) r = (w.endBroadcast job below r).veil := by
  cases below with
  | nil =>
    have hframes := setFrames_veil w job []
    exact congrArg (fun v : World => { v with endedBroadcasts := w.endedBroadcasts ++ [(job, r)] })
      hframes
  | cons frame rest =>
    cases frame with
    | handling h =>
      cases r with
      | ok u => exact setFrames_veil w job (.handling h :: rest)
      | error e => exact endHandling_veil w job h rest (.failed e.message)
    | publishing bus call => exact setFrames_veil w job (.publishing bus call :: rest)
    | sending b => exact setFrames_veil w job (.sending b :: rest)

theorem advanceBroadcast_veil (job : Nat) (b : Broadcast) (below : List Frame) :
    w.veil.advanceBroadcast job b (below.map Frame.veil) =
      veilTurn (w.advanceBroadcast job b below) := by
  refine ite_eq_apply_ite veilTurn Iff.rfl (congrArg (·, true) (endBroadcast_veil w job below _)) ?_
  rw [app_veil, Application.inboxes_veil]
  obtain ⟨inboxes, gone⟩ := b.advance? w.app.inboxes
  cases gone with
  | none => rfl
  | some r =>
    exact congrArg (·, true) (setFrames_veil
      { w with app := ({ w.app with inboxes := inboxes } : Application Handler).addTrace r.2 } job
      (.sending r.1 :: below))

theorem advanceJob_veil (j : Job) : w.veil.advanceJob j.veil = veilTurn (w.advanceJob j) := by
  obtain ⟨id, frames⟩ := j
  cases frames with
  | nil => rfl
  | cons frame below =>
    cases frame with
    | handling h => exact advanceHandling_veil w id h below
    | sending b => exact advanceBroadcast_veil w id b below
    | publishing bus call =>
      have hstep := stepBus?_veil w bus (.call call)
      simp only [BusStep.veil] at hstep
      simp only [Job.veil, List.map_cons, Frame.veil, advanceJob, hstep]
      cases w.stepBus? bus (.call call) <;> rfl

/-! ## Turns of all parties -/

theorem advance_veil (p : Party) : w.veil.advance p = veilTurn (w.advance p) := by
  cases p with
  | job id =>
    rw [advance, advance, job?_veil]
    cases w.job? id with
    | none => rfl
    | some j => exact advanceJob_veil w j
  | agent bus agent =>
    have hstep : (agentStep? agent).bind (w.veil.stepBus? bus) =
        ((agentStep? agent).bind (w.stepBus? bus)).map veil := by
      cases agent with
      | worker i => exact stepBus?_veil w bus (.worker i)
      | deferred id => exact stepBus?_veil w bus (.deferred id)
      | closer id => exact stepBus?_veil w bus (.closer id)
      | invocation id => rfl
    rw [advance, advance, hstep]
    cases (agentStep? agent).bind (w.stepBus? bus) <;> rfl

theorem tick?_veil : w.veil.tick? = w.tick?.map veil := by
  rw [tick?, tick?, active_veil, queue_veil]
  cases w.active with
  | none => cases w.queue <;> rfl
  | some p =>
    simp only [advance_veil]
    obtain ⟨v, goesOn⟩ := w.advance p
    cases goesOn <;> rfl

/-- **Going on is the same without tokens**, however many turns are given. -/
theorem settle_veil (n : Nat) : settle n w.veil = (settle n w).veil := by
  induction n generalizing w with
  | zero => rfl
  | succ n ih =>
    rw [settle, settle, tick?_veil]
    cases w.tick? with
    | none => rfl
    | some v => exact ih v

theorem runJob_veil (id n : Nat) : runJob id n w.veil = (runJob id n w).veil := by
  induction n generalizing w with
  | zero => rfl
  | succ n ih =>
    rw [runJob, runJob, advance_veil]
    obtain ⟨v, goesOn⟩ := w.advance (.job id)
    cases goesOn with
    | false => rfl
    | true => exact ih v

end World
end Scenario
end Switchboard
