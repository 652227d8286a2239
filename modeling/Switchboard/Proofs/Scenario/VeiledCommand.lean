import Switchboard.Proofs.Scenario.VeiledWorld

/-!
# Commands in a world without tokens

A command, too, may be carried out before or after the world is veiled (`World.run_veil`).  Its answer
is then veiled as well, and that concerns sessions only: those that are given back are without tokens,
and every other answer is left as it is.
-/

namespace Switchboard
namespace Scenario

/-! ## What is veiled -/

/-- Something to be done with a bus, where events have no tokens. -/
def BusCommand.veil : BusCommand → BusCommand
  | subscribe ls => subscribe (veilListeners ls)
  | publish e times => publish e.veil times
  | dispatch e => dispatch e.veil
  | collect inRuntime => collect inRuntime
  | settle => settle
  | openGate gate => openGate gate
  | close => close
  | closes => closes
  | count event => count event
  | config => config

/-- Something to be done with the session service, without tokens. -/
def SessionCommand.veil : SessionCommand → SessionCommand
  | service settings announcing => service settings announcing
  | openSession c id => openSession c.veil id
  | invalidate id => invalidate id
  | session id => session id
  | userSessions user => userSessions user
  | invalidateUser user => invalidateUser user
  | cleanExpired => cleanExpired

/-- Something to be done with the store, where sessions have no tokens. -/
def StoreCommand.veil : StoreCommand → StoreCommand
  | create s => create s.veil
  | update s => update s.veil
  | delete s => delete s.veil
  | find id => find id
  | deleteId id => deleteId id
  | findUser user => findUser user
  | deleteUser user => deleteUser user
  | findExpired now => findExpired now
  | deleteExpired now => deleteExpired now
  | size => size

/-- A command without tokens. -/
def Command.veil : Command → Command
  | bus c => bus c.veil
  | session c => session c.veil
  | store c => store c.veil
  | client c => client c
  | log q => log q
  | hub c => hub c

/-- An answer whose sessions have no tokens.  All other answers stay as they are. -/
def Reply.veil : Reply → Reply
  | opened s => opened s.veil
  | session s => session (s.map Session.veil)
  | sessions ss => sessions (ss.map Session.veil)
  | reply => reply

theorem Reply.veil_veil (r : Reply) : r.veil.veil = r.veil := by
  cases r with
  | session s => cases s <;> rfl
  | sessions ss =>
    refine congrArg Reply.sessions ?_
    rw [List.map_map]
    rfl
  | _ => rfl

/-! ## The hub -/

section Hub

variable (a : Application Handler)

theorem provide_veil (p : Provision) :
    provide a.veil p = (provide a p).map Application.veil := by
  cases p with
  | level name => exact bind_eq_map_bind (Level.parse name) fun l => rfl
  | logger name => exact bind_eq_map_bind (Level.parse name) fun l => rfl
  | events => exact Application.addHubBus_veil a .standard
  | _ => rfl

theorem showSlot_veil (s : Slot) : showSlot a.veil s = showSlot a s := by
  cases s <;> rfl

theorem runHub_veil (c : HubCommand) :
    runHub a.veil c = ((runHub a c).1.veil, (runHub a c).2.veil) := by
  cases c with
  | register p =>
    rw [runHub, runHub, provide_veil]
    cases provide a p <;> rfl
  | get s =>
    rw [runHub, runHub, showSlot_veil]
    cases showSlot a s <;> rfl
  | _ => rfl

end Hub

namespace World

variable (w : World)

/-- A world and an answer without tokens. -/
def veilAnswer (r : World × Reply) : World × Reply :=
  (r.1.veil, r.2.veil)

theorem quiesce_veil : w.veil.quiesce = w.quiesce.veil :=
  settle_veil w maxTurns

/-! ## The bus -/

theorem publishNow_veil (bus : Nat) (e : Event) :
    w.veil.publishNow bus e.veil = (w.publishNow bus e).veil := by
  have hstart := startJob_veil w (.publishing bus (w.nextCall bus))
  have hbegun := (congrArg (stepBus · bus (.publish e.veil)) hstart).trans
    (stepBus_veil _ bus (.publish e))
  rw [publishNow, nextCall_veil]
  exact (congrArg (runJob w.nextId maxTurns) hbegun).trans (runJob_veil _ w.nextId maxTurns)

theorem publishAll_veil (bus : Nat) (es : List Event) :
    w.veil.publishAll bus (es.map Event.veil) = (w.publishAll bus es).veil := by
  induction es generalizing w with
  | nil => rfl
  | cons e rest ih =>
    rw [List.map_cons, publishAll, publishAll, publishNow_veil]
    exact ih _

theorem openGate_veil (gate : String) : w.veil.openGate gate = (w.openGate gate).veil :=
  wakeAll_veil
    { w with
      gates := if gate ∈ w.gates then w.gates else w.gates ++ [gate]
      gateLine := w.gateLine.filter fun p => p.1 != gate } (fun p : String × Nat => .job p.2) _

theorem closeBus_veil (bus : Nat) : w.veil.closeBus bus = (w.closeBus bus).veil := by
  have hbegun := stepBus_veil { w with closesBegun := w.closesBegun + 1 } bus .close
  rw [closeBus, nextCall_veil]
  refine (congrArg (fun v : World =>
    quiesce { v with active := some (.agent bus (.closer (w.nextCall bus))) }) hbegun).trans ?_
  exact quiesce_veil { stepBus { w with closesBegun := w.closesBegun + 1 } bus .close with
    active := some (.agent bus (.closer (w.nextCall bus))) }

theorem withBus_veil {f g : Nat → World} (h : ∀ bus, g bus = (f bus).veil) :
    w.veil.withBus g = veilAnswer (w.withBus f) := by
  rw [withBus, withBus, app_veil, Application.hub_veil]
  cases w.app.hub.need .events with
  | ok bus => exact congrArg (·, Reply.done) (h bus)
  | error e => rfl

theorem directBus?_veil : w.veil.directBus? = w.directBus?.map (Bus.veil tokenless) := by
  rw [directBus?, directBus?, directBus_veil]
  cases w.directBus with
  | none => rfl
  | some bus => exact Application.bus?_veil w.app bus

theorem listenerCount_veil (b : Bus Handler) (event : String) :
    (b.veil tokenless).listenerCount event = b.listenerCount event := by
  simp only [Bus.listenerCount, Registry.count, Bus.registry_veil, Registry.listeners_veil,
    List.length_map]

theorem runBus_veil (c : BusCommand) : w.veil.runBus c.veil = veilAnswer (w.runBus c) := by
  cases c with
  | subscribe ls => exact withBus_veil w fun bus => subscribeAll_veil w bus ls
  | publish e times =>
    refine withBus_veil w fun bus => ?_
    rw [← List.map_replicate]
    exact publishAll_veil w bus _
  | dispatch e => exact withBus_veil w fun bus => callBus_veil w bus (.dispatch e)
  | collect inRuntime => exact withBus_veil w fun bus => stepBus_veil w bus (.collect inRuntime)
  | settle => exact congrArg (·, Reply.done) (quiesce_veil w)
  | openGate gate =>
    exact congrArg (·, Reply.done)
      ((congrArg quiesce (openGate_veil w gate)).trans (quiesce_veil _))
  | close => exact withBus_veil w fun bus => closeBus_veil w bus
  | closes => rfl
  | count event =>
    simp only [BusCommand.veil, runBus, directBus?_veil]
    cases w.directBus? with
    | none => rfl
    | some b =>
      simp only [Option.map_some, listenerCount_veil]
      rfl
  | config =>
    simp only [BusCommand.veil, runBus, directBus?_veil]
    cases w.directBus? <;> rfl

/-! ## Sessions -/

theorem accept_veil {α : Type} (f : α → α) (r : Receipt α) :
    w.veil.accept (r.veil f) = (w.accept r).veil := by
  rw [accept, accept, serviceBus_veil]
  split
  · rename_i bus _
    exact publishAll_veil
      { w with
        app := ({ w.app with repository := r.repository } : Application Handler).addTrace r.trace }
      bus r.events
  · rfl

theorem runSession_veil (c : SessionCommand) :
    w.veil.runSession c.veil = veilAnswer (w.runSession c) := by
  cases c with
  | service settings announcing =>
    simp only [SessionCommand.veil, runSession, app_veil, Application.hub_veil]
    cases announcing with
    | false => rfl
    | true => cases w.app.hub.need .events <;> rfl
  | openSession c id =>
    simp only [SessionCommand.veil, runSession, app_veil, Application.repository_veil, service_veil,
      now_veil, SessionService.openSession_veil]
    cases w.service.openSession w.app.repository c id w.now with
    | error e => rfl
    | ok r => exact Prod.ext (accept_veil w Session.veil r) rfl
  | invalidate id =>
    simp only [SessionCommand.veil, runSession, app_veil, Application.repository_veil, now_veil,
      SessionService.invalidate_veil]
    cases SessionService.invalidate w.app.repository id w.now with
    | error e => rfl
    | ok r => exact Prod.ext (accept_veil w Session.veil r) rfl
  | session id =>
    simp only [SessionCommand.veil, runSession, app_veil, Application.repository_veil, now_veil,
      SessionService.session_veil]
    cases SessionService.session w.app.repository id w.now <;> rfl
  | userSessions user =>
    simp only [SessionCommand.veil, runSession, app_veil, Application.repository_veil,
      Repository.findUser_veil]
    rfl
  | invalidateUser user =>
    simp only [SessionCommand.veil, runSession, app_veil, Application.repository_veil, now_veil,
      SessionService.invalidateUser_veil]
    exact Prod.ext (accept_veil w id _) rfl
  | cleanExpired =>
    simp only [SessionCommand.veil, runSession, app_veil, Application.repository_veil, now_veil,
      SessionService.cleanExpired_veil]
    exact Prod.ext (accept_veil w id _) rfl

/-! ## The store of sessions -/

theorem sortedIds_veil (ss : List Session) : sortedIds (ss.map Session.veil) = sortedIds ss := by
  rw [sortedIds, List.map_map]
  rfl

theorem runStore_veil (c : StoreCommand) : w.veil.runStore c.veil = veilAnswer (w.runStore c) := by
  cases c with
  | create s =>
    simp only [StoreCommand.veil, runStore, app_veil, Application.repository_veil,
      Repository.create_veil]
    cases w.app.repository.create s <;> rfl
  | update s =>
    simp only [StoreCommand.veil, runStore, app_veil, Application.repository_veil,
      Repository.update_veil]
    cases w.app.repository.update s <;> rfl
  | findExpired now =>
    simp only [StoreCommand.veil, runStore, app_veil, Application.repository_veil,
      Repository.findExpired_veil, sortedIds_veil]
    rfl
  | size => exact congrArg (fun n => (w.veil, Reply.size n)) (List.length_map ..)
  | _ =>
    simp only [StoreCommand.veil, runStore, app_veil, Application.repository_veil,
      Repository.deleteId_veil, Repository.find?_veil, Repository.findUser_veil,
      Repository.deleteUser_veil, Repository.deleteExpired_veil, sortedIds_veil]
    rfl

/-! ## Clients -/

theorem dropReceiver_veil (i : Nat) : w.veil.dropReceiver i = (w.dropReceiver i).veil := by
  rw [dropReceiver, dropReceiver, app_veil, Application.inboxes_veil]
  cases w.app.inboxes[i]? with
  | none => rfl
  | some box =>
    exact wakeAll_veil { w with app := { w.app with inboxes := w.app.inboxes.set i box.drop.1 } }
      Party.job _

theorem dropInbox_veil (id : String) :
    w.veil.dropInbox id = ((w.dropInbox id).1.veil, (w.dropInbox id).2) := by
  rw [dropInbox, dropInbox, inboxOf_veil]
  cases known id w.inboxOf with
  | none => rfl
  | some i =>
    exact congrArg (·, true)
      (dropReceiver_veil { w with inboxOf := w.inboxOf.filter fun p => p.1 != id } i)

theorem reportBroadcasts_veil :
    w.veil.reportBroadcasts = (w.reportBroadcasts.1.veil, w.reportBroadcasts.2) := rfl

theorem broadcastFrom_veil (c : Center) (m : Message) :
    w.veil.broadcastFrom c m = (w.broadcastFrom c m).veil := by
  have hstart := startJob_veil w (.sending (.start w.nextId c m))
  refine (congrArg (fun v : World => quiesce { v with
    pendingBroadcasts := w.pendingBroadcasts ++ [w.nextId]
    active := some (.job w.nextId) }) hstart).trans ?_
  exact quiesce_veil { w.startJob (.sending (.start w.nextId c m)) with
    pendingBroadcasts := w.pendingBroadcasts ++ [w.nextId]
    active := some (.job w.nextId) }

theorem hasSender_veil (i : Nat) : w.veil.hasSender i = w.hasSender i := by
  refine congrArg (fun b : Bool => w.clients.any (fun p => p.2.outlet == .inbox i) ||
    w.app.centers.any (fun c => c.clients.any fun p => p.outlet == .inbox i) || b) ?_
  refine List.any_map.trans (congrArg w.jobs.any (funext fun j => ?_))
  refine List.any_map.trans (congrArg j.frames.any (funext fun frame => ?_))
  cases frame <;> rfl

theorem takeMessages_veil (i : Nat) (most : Option Nat) (n : Nat) :
    w.veil.takeMessages i most n =
      ((w.takeMessages i most n).1.veil, (w.takeMessages i most n).2) := by
  induction n generalizing w most with
  | zero => rfl
  | succ n ih =>
    rw [takeMessages, takeMessages, app_veil, Application.inboxes_veil]
    by_cases hmost : most = some 0
    · rw [if_pos hmost, if_pos hmost]
    · rw [if_neg hmost, if_neg hmost]
      cases w.app.inboxes[i]? with
      | none => rfl
      | some box =>
        dsimp only
        cases box.receive? with
        | none => rw [hasSender_veil]
        | some r =>
          obtain ⟨m, after, woken⟩ := r
          cases woken with
          | none =>
            exact congrArg (fun r : World × List Message × ReceiveEnd => (r.1, m :: r.2.1, r.2.2))
              (ih { w with app := { w.app with inboxes := w.app.inboxes.set i after } } _)
          | some s =>
            have hwake := wake_veil
              { w with app := { w.app with inboxes := w.app.inboxes.set i after } } (.job s)
            exact congrArg (fun r : World × List Message × ReceiveEnd => (r.1, m :: r.2.1, r.2.2))
              ((congrArg (takeMessages · i _ n) hwake).trans (ih _ _))

theorem center?_veil : w.veil.center? = w.center? := rfl

theorem runClient_veil (c : ClientCommand) : w.veil.runClient c = veilAnswer (w.runClient c) := by
  cases c with
  | connect id capacity =>
    simp only [runClient, dropInbox_veil]
    rfl
  | connectBroken id => rfl
  | hello id =>
    simp only [runClient, clients_veil]
    cases known id w.clients <;> rfl
  | forget id => rfl
  | subscribe id =>
    simp only [runClient, clients_veil, center?_veil]
    cases known id w.clients with
    | none => rfl
    | some client =>
      cases w.center? with
      | error e => rfl
      | ok r =>
        simp only
        cases r.2.subscribe client <;> rfl
  | unsubscribe id =>
    simp only [runClient, center?_veil]
    cases w.center? with
    | error e => rfl
    | ok r =>
      simp only
      cases r.2.unsubscribe id <;> rfl
  | describeCenter =>
    have hcenters : w.veil.app.centers[w.veil.firstCenter]? = w.app.centers[w.firstCenter]? := rfl
    simp only [runClient, hcenters]
    cases w.app.centers[w.firstCenter]? <;> rfl
  | broadcast m =>
    simp only [runClient, center?_veil]
    cases w.center? with
    | error e => rfl
    | ok r =>
      simp only [broadcastFrom_veil, reportBroadcasts_veil]
      rfl
  | dropInbox id =>
    simp only [runClient, dropInbox_veil, quiesce_veil, reportBroadcasts_veil]
    rfl
  | receive id most =>
    have hheld (i : Nat) : w.veil.heldIn i = w.heldIn i := rfl
    simp only [runClient, inboxOf_veil]
    cases known id w.inboxOf with
    | none => rfl
    | some i =>
      simp only [hheld, takeMessages_veil, quiesce_veil, reportBroadcasts_veil]
      rfl

/-! ## All commands -/

/-- **Whatever is done in a world can be done without tokens**, with the same answer, from which the
tokens are taken. -/
theorem run_veil (c : Command) : w.veil.run c.veil = veilAnswer (w.run c) := by
  cases c with
  | bus c => exact runBus_veil w c
  | session c => exact runSession_veil w c
  | store c => exact runStore_veil w c
  | client c => exact runClient_veil w c
  | log q =>
    simp only [Command.veil, run, app_veil, Application.request_veil]
    cases w.app.request q <;> rfl
  | hub c =>
    have hhub := runHub_veil w.app c
    exact congrArg (fun r : Application Handler × Reply => ({ w.veil with app := r.1 }, r.2)) hhub

end World
end Scenario
end Switchboard
