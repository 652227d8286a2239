import Switchboard.Scenario.World

/-!
# Turns

What a party does when it is its turn.  `World.advance` lets it take one step and says whether it may
go on; `World.settle` gives turns until nobody can go on any longer.  A listener that publishes what
it hears may go on for ever, so the number of turns is bounded by an argument.
-/

namespace Switchboard
namespace Scenario

namespace World

/-! ## The steps of a job -/

/-- A listener ends: whoever has called it goes on. -/
def endHandling (w : World) (job : Nat) (h : Handling) (below : List Frame) (o : Outcome) : World :=
  match h.site with
  | .publishing call => (w.setFrames job below).stepBus h.bus (.endListener call o)
  | .scheduled v => (w.setFrames job below).stepBus h.bus (.finish v o)

/-- Begin to publish an event inside a job. -/
def publishInside (w : World) (bus : Nat) (job : Nat) (frames : List Frame) (e : Event) : World :=
  (w.setFrames job (.publishing bus (w.nextCall bus) :: frames)).stepBus bus (.publish e)

/-- Begin to broadcast a message inside a job, to the clients of the registered centre. -/
def broadcastInside (w : World) (job : Nat) (frames : List Frame) (m : Message) :
    Except SetupError World := do
  let i : Nat ← w.app.hub.need .serverEvents
  match w.app.centers[i]? with
  | none => .error (.providerNotFound Slot.serverEvents.typeName)
  | some c => .ok (w.setFrames job (.sending (.start job c m) :: frames))

/-- What the audit does about an event. -/
def runAudit (w : World) (e : Event) : World × Outcome :=
  match w.app.hub.need .logger with
  | .error f => (w, .failed f.message)
  | .ok i =>
    match Audit.record e with
    | .error text => (w, .failed text)
    | .ok r => ({ w with app := w.app.write i r.level r.message r.data }, .done)

/-- What the journal says about a call that begins. -/
def entry (label : String) (h : Handling) (cancelled : Bool) : Json :=
  .object [("listener", .str label), ("event", .str h.event.name),
    ("delivery", .str h.site.delivery.word), ("cancelled", .bool cancelled)]

/-- The label of a handler in the journal. -/
def labelOf : Handler → String
  | .script label _ => label
  | _ => ""

/-- A listener begins. -/
def begin (w : World) (job : Nat) (h : Handling) (below : List Frame) : World :=
  match h.handler with
  | .audit =>
    let r := w.runAudit h.event
    r.1.endHandling job h below r.2
  | .relay =>
    match w.broadcastInside job (.handling { h with begun := true } :: below)
        (Relay.message h.event) with
    | .ok v => v
    | .error e => w.endHandling job h below (.failed e.message)
  | .script label acts =>
    (w.note (entry label h (w.isClosing h.bus))).setFrames job
      (.handling { h with begun := true, acts := acts } :: below)

/-- Wait at a gate. -/
def waitAtGate (w : World) (job : Nat) (gate : String) : World :=
  if (gate, job) ∈ w.gateLine then w else { w with gateLine := w.gateLine ++ [(gate, job)] }

/-- Wait for a bus to begin to close. -/
def waitForCancel (w : World) (job : Nat) (bus : Nat) : World :=
  if (bus, job) ∈ w.cancelLine then w else { w with cancelLine := w.cancelLine ++ [(bus, job)] }

/-- A listener does the first of its acts, `h.acts` being the others; the second part of the result
says whether it may go on. -/
def perform (w : World) (job : Nat) (h : Handling) (below : List Frame) (act : Act) : World × Bool :=
  let frames := Frame.handling h :: below
  let after (v : World) : World × Bool := (v.setFrames job frames, true)
  let fail (text : String) : World × Bool := (w.endHandling job h below (.failed text), true)
  match act with
  | .note value =>
    after (w.note (.object [("listener", .str (labelOf h.handler)), ("note", value)]))
  | .describe =>
    after (w.note (.object
      [("listener", .str (labelOf h.handler)), ("is", particulars h.event)]))
  | .gate name => if name ∈ w.gates then after w else (w.waitAtGate job name, false)
  | .waitCancel => if w.isClosing h.bus then after w else (w.waitForCancel job h.bus, false)
  | .publish e =>
    match w.app.hub.need .events with
    | .ok bus => (w.publishInside bus job frames e, true)
    | .error e => fail e.message
  | .republish =>
    match h.event.relayed? with
    | none => after w
    | some e =>
      match w.app.hub.need .events with
      | .ok bus => (w.publishInside bus job frames e, true)
      | .error e => fail e.message
  | .dispatch e =>
    match w.app.hub.need .events with
    | .ok bus => ((w.setFrames job frames).callBus bus (.dispatch e), true)
    | .error e => fail e.message
  | .subscribe ls =>
    match w.app.hub.need .events with
    | .ok bus => after (ls.foldl (fun w l => w.callBus bus (.subscribe l)) w)
    | .error e => fail e.message
  | .broadcast m =>
    match w.broadcastInside job frames m with
    | .ok v => (v, true)
    | .error e => fail e.message
  | .log q =>
    match w.app.request q with
    | .ok r => after { w with app := r.1 }
    | .error e => fail e.toJson.compact
  | .need slot => if w.app.hub.has slot then after w else fail (slotMissing slot)
  | .fail text => fail text
  | .panic text => (w.endHandling job h below (.panicked text), true)
where
  /-- The text about a place of the hub that is empty. -/
  slotMissing (slot : Slot) : String := (SetupError.providerNotFound slot.typeName).message

/-- A listener goes on. -/
def advanceHandling (w : World) (job : Nat) (h : Handling) (below : List Frame) : World × Bool :=
  if !h.begun then (w.begin job h below, true)
  else match h.acts with
    | [] => (w.endHandling job h below .done, true)
    | act :: rest => w.perform job { h with acts := rest } below act

/-- A broadcast ends: the listener that it was made for goes on, or fails if the broadcast has. -/
def endBroadcast (w : World) (job : Nat) (below : List Frame) (r : Except ServiceError Unit) :
    World :=
  match below with
  | [] => { w.setFrames job [] with endedBroadcasts := w.endedBroadcasts ++ [(job, r)] }
  | .handling h :: rest =>
    match r with
    | .ok () => w.setFrames job below
    | .error e => w.endHandling job h rest (.failed e.message)
  | _ => w.setFrames job below

/-- A broadcast goes on to its next client. -/
def advanceBroadcast (w : World) (job : Nat) (b : Broadcast) (below : List Frame) : World × Bool :=
  if b.remaining.isEmpty then (w.endBroadcast job below b.result, true)
  else
    let r := b.advance? w.app.inboxes
    let sent := { w with app := { w.app with inboxes := r.1 } }
    match r.2 with
    | none => (sent, false)
    | some (next, lines) =>
      ({ sent with app := sent.app.addTrace lines }.setFrames job (.sending next :: below), true)

/-- A job goes on. -/
def advanceJob (w : World) (j : Job) : World × Bool :=
  match j.frames with
  | [] => (w, false)
  | .publishing bus call :: _ =>
    match w.stepBus? bus (.call call) with
    | some v => (v, true)
    | none => (w, false)
  | .handling h :: below => w.advanceHandling j.id h below
  | .sending b :: below => w.advanceBroadcast j.id b below

/-! ## Turns of all parties -/

/-- The step that an agent takes.  Listeners are jobs, and take none of their own. -/
def agentStep? : Agent → Option (BusStep Handler)
  | .worker i => some (.worker i)
  | .deferred id => some (.deferred id)
  | .closer id => some (.closer id)
  | .invocation _ => none

/-- A party takes a step, if it can; the second part of the result says whether it may go on. -/
def advance (w : World) : Party → World × Bool
  | .agent bus agent =>
    match (agentStep? agent).bind (w.stepBus? bus) with
    | some v => (v, true)
    | none => (w, false)
  | .job id =>
    match w.job? id with
    | some j => w.advanceJob j
    | none => (w, false)

/-- The active party takes a step, or the next one becomes active; `none` if there is nobody. -/
def tick? (w : World) : Option World :=
  match w.active with
  | some p =>
    match w.advance p with
    | (v, true) => some v
    | (v, false) => some { v with active := none }
  | none =>
    match w.queue with
    | [] => none
    | p :: rest => some { w with active := some p, queue := rest }

/-- Go on until nobody can any longer, for at most that many turns. -/
def settle : Nat → World → World
  | 0, w => w
  | n + 1, w =>
    match w.tick? with
    | some v => settle n v
    | none => w

/-- Carry a job out until it ends or has to wait, for at most that many steps. -/
def runJob (id : Nat) : Nat → World → World
  | 0, w => w
  | n + 1, w =>
    match w.advance (.job id) with
    | (v, true) => runJob id n v
    | (v, false) => v

end World
end Scenario
end Switchboard
