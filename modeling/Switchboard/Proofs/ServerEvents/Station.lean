import Mathlib.Data.List.Basic
import Switchboard.ServerEvents.Center

/-!
# A broadcast centre at work

A station is a broadcast centre together with every client that has ever been made for it, and the
inboxes of these.  The clients are numbered, and a client has the inbox of its own number, so clients
with one id in common are told apart.  Requests are carried out one after the other.

## Broadcasts

A broadcast goes through the clients that are subscribed when it begins.  The order in which a centre
lists its clients is nothing that anyone may rely on, so a request to broadcast gives the order, which
may be any.  A broadcast that finds a full inbox waits; it cannot be carried through as a request, and
the request is refused.

`Broadcast.carry_of_admits` says what a broadcast does that is carried through: every connected client
has one message more in its inbox, and the failure, if there is one, is that of the first client that
is not connected.  `Broadcast.carry_of_full` says that a full inbox of a connected client is the only
obstacle.
-/

namespace Switchboard

namespace Inbox

/-- Nobody stands in line for a slot, and no slot is kept for anyone. -/
structure Settled (box : Inbox) : Prop where
  waiting : box.waiting = []
  granted : box.granted = []

/-- A message is put into an inbox that has a receiver. -/
def put (m : Message) (box : Inbox) : Inbox :=
  if box.live then { box with held := box.held ++ [m], free := box.free - 1 } else box

/-- There is room for a message, or no receiver. -/
def Admits (box : Inbox) : Prop :=
  box.live = true → 0 < box.free

theorem put_of_live {box : Inbox} (h : box.live = true) (m : Message) :
    box.put m = { box with held := box.held ++ [m], free := box.free - 1 } :=
  if_pos h

theorem put_of_gone {box : Inbox} (h : box.live = false) (m : Message) : box.put m = box :=
  if_neg (by rw [h]; exact Bool.false_ne_true)

variable {box : Inbox}

/-- What is sent to an inbox with room is put into it. -/
theorem send_of_room (h : box.Settled) (hlive : box.live = true) (hroom : 0 < box.free)
    (sender : Nat) (m : Message) : box.send sender m = (box.put m, .sent) := by
  simp [send, put, h.granted, h.waiting, hlive, hroom]

/-- What is sent to a full inbox waits. -/
theorem send_of_full (h : box.Settled) (hlive : box.live = true) (hfull : ¬ 0 < box.free)
    (sender : Nat) (m : Message) : (box.send sender m).2 = .waits := by
  simp [send, h.granted, h.waiting, hlive, hfull]

/-- What is sent without a receiver is refused, and changes nothing. -/
theorem send_of_gone (h : box.Settled) (hgone : box.live = false) (sender : Nat) (m : Message) :
    box.send sender m = (box.put m, .refused) := by
  have hsame : { box with granted := [], live := false } = box := by rw [← h.granted, ← hgone]
  simp [send, put, h.granted, hgone, hsame]

end Inbox

namespace Broadcast

/-- Go on to the next client so many times, as long as the broadcast need not wait. -/
def carry (b : Broadcast) : Nat → List Inbox → Option (List Inbox × Broadcast)
  | 0, boxes => some (boxes, b)
  | n + 1, boxes =>
    match b.advance? boxes with
    | (after, some (next, _)) => next.carry n after
    | (_, none) => none

/-- A client has an inbox, in which nobody waits, and `gone` tells whether it is without receiver. -/
def Placed (gone : Client → Bool) (boxes : List Inbox) (d : Client) : Prop :=
  ∃ i box, d.outlet = .inbox i ∧ boxes[i]? = some box ∧ box.Settled ∧ box.live = !gone d

/-- A client could be sent a message. -/
def Admits (boxes : List Inbox) (d : Client) : Prop :=
  ∀ i box, d.outlet = .inbox i → boxes[i]? = some box → box.Admits

/-- A message has come to the inboxes of some clients. -/
def arrived (m : Message) (ds : List Client) (boxes : List Inbox) : List Inbox :=
  boxes.mapIdx fun i box => if .inbox i ∈ ds.map Client.outlet then box.put m else box

/-- The failure of a broadcast to some clients. -/
def firstFailure (gone : Client → Bool) (ds : List Client) : Option ServiceError :=
  (ds.find? gone).map fun d => .disconnected d.id

variable {gone : Client → Bool} {b : Broadcast} {boxes : List Inbox} {d : Client}
  {rest : List Client} {i : Nat} {box : Inbox}

/-- The next client, if it could be sent a message. -/
theorem advance?_of_admits (hrest : b.remaining = d :: rest) (hi : d.outlet = .inbox i)
    (hbox : boxes[i]? = some box) (hsettled : box.Settled) (hlive : box.live = !gone d)
    (hadmits : box.Admits) :
    ∃ lines, b.advance? boxes = (boxes.set i (box.put b.message),
      some ({ b with
        remaining := rest
        failure := b.failure.or (firstFailure gone [d]) }, lines)) := by
  cases hgone : gone d with
  | false =>
    rw [hgone] at hlive
    refine ⟨[], ?_⟩
    simp only [advance?, hrest, hi, hbox, Inbox.send_of_room hsettled hlive (hadmits hlive),
      firstFailure, List.find?, hgone, Option.map_none, Option.or_none]
  | true =>
    rw [hgone] at hlive
    refine ⟨[b.center.failureLine d.id (.disconnected d.id)], ?_⟩
    simp only [advance?, hrest, hi, hbox, Inbox.send_of_gone hsettled hlive, skip, firstFailure,
      List.find?, hgone, Option.map_some]
    cases b.failure <;> rfl

/-- The next client, if its inbox is full. -/
theorem advance?_of_full (hrest : b.remaining = d :: rest) (hi : d.outlet = .inbox i)
    (hbox : boxes[i]? = some box) (hsettled : box.Settled) (hfull : ¬ box.Admits) :
    (b.advance? boxes).2 = none := by
  have hlive : box.live = true := by
    cases hlive : box.live with
    | true => rfl
    | false => exact absurd (fun h => by rw [hlive] at h; cases h) hfull
  have hwaits := Inbox.send_of_full hsettled hlive (fun hroom => hfull fun _ => hroom) b.sender
    b.message
  simp only [advance?, hrest, hi, hbox, hwaits]

theorem arrived_nil (m : Message) (boxes : List Inbox) : arrived m [] boxes = boxes := by
  refine List.ext_getElem? fun j => ?_
  rw [arrived, List.getElem?_mapIdx]
  cases boxes[j]? <;> rfl

/-- A message comes to the inbox of one client, and then to those of the others. -/
theorem arrived_cons (m : Message) (hi : d.outlet = .inbox i) (hbox : boxes[i]? = some box)
    (hnot : d.outlet ∉ rest.map Client.outlet) :
    arrived m rest (boxes.set i (box.put m)) = arrived m (d :: rest) boxes := by
  refine List.ext_getElem? fun j => ?_
  rw [hi] at hnot
  rw [arrived, arrived, List.getElem?_mapIdx, List.getElem?_mapIdx, List.map_cons, hi]
  by_cases hj : i = j
  · subst hj
    rw [List.getElem?_set_self (List.getElem?_eq_some_iff.1 hbox).1, hbox, Option.map_some,
      Option.map_some, if_neg hnot, if_pos List.mem_cons_self]
  · rw [List.getElem?_set_ne hj]
    refine congrArg (fun f => boxes[j]?.map f) (funext fun other => ?_)
    have hsame : (.inbox j ∈ Outlet.inbox i :: rest.map Client.outlet) ↔
        .inbox j ∈ rest.map Client.outlet := by
      rw [List.mem_cons]
      exact or_iff_right fun h => hj (Outlet.inbox.inj h).symm
    rw [if_congr hsame rfl rfl]

theorem firstFailure_cons (gone : Client → Bool) (d : Client) (rest : List Client) :
    firstFailure gone (d :: rest) = (firstFailure gone [d]).or (firstFailure gone rest) := by
  rw [firstFailure, firstFailure, firstFailure, List.find?_cons, List.find?_cons]
  cases gone d <;> rfl

/-- Putting a message into one inbox does not move the clients of others. -/
theorem Placed.set (h : Placed gone boxes d) {j : Nat} (hj : d.outlet ≠ .inbox j)
    (other : Inbox) : Placed gone (boxes.set j other) d := by
  obtain ⟨i, box, hi, hbox, hrest⟩ := h
  have hne : j ≠ i := fun heq => hj (heq ▸ hi)
  exact ⟨i, box, hi, (List.getElem?_set_ne hne).trans hbox, hrest⟩

theorem admits_set_iff {j : Nat} (hj : d.outlet ≠ .inbox j) (other : Inbox) :
    Admits (boxes.set j other) d ↔ Admits boxes d := by
  refine forall_congr' fun i => forall_congr' fun box => imp_congr_right fun hi => ?_
  have hne : j ≠ i := fun heq => hj (heq ▸ hi)
  rw [List.getElem?_set_ne hne]

/-- **A broadcast that is carried through.**  The message comes to the inbox of every client that has a
receiver, and the first client that has none gives the failure. -/
theorem carry_of_admits (hplaced : ∀ d ∈ b.remaining, Placed gone boxes d)
    (hdistinct : (b.remaining.map Client.outlet).Nodup)
    (hadmits : ∀ d ∈ b.remaining, Admits boxes d) :
    b.carry b.remaining.length boxes = some (arrived b.message b.remaining boxes,
      { b with remaining := [], failure := b.failure.or (firstFailure gone b.remaining) }) := by
  obtain ⟨ds, hds⟩ : ∃ ds, b.remaining = ds := ⟨_, rfl⟩
  induction ds generalizing b boxes with
  | nil =>
    rw [hds, arrived_nil]
    refine congrArg (fun c => some (boxes, c)) ?_
    rw [firstFailure, List.find?_nil, Option.map_none, Option.or_none, ← hds]
  | cons d rest ih =>
    rw [hds] at hplaced hdistinct hadmits ⊢
    obtain ⟨hnot, hothers⟩ := List.nodup_cons.1 hdistinct
    obtain ⟨i, box, hi, hbox, hsettled, hlive⟩ := hplaced d List.mem_cons_self
    obtain ⟨lines, hadvance⟩ := advance?_of_admits hds hi hbox hsettled hlive
      (hadmits d List.mem_cons_self i box hi hbox)
    have hne {e : Client} (he : e ∈ rest) : e.outlet ≠ .inbox i := fun heq =>
      hnot (hi.symm ▸ heq ▸ List.mem_map_of_mem he)
    rw [List.length_cons, carry, hadvance]
    refine (ih (b := { b with
      remaining := rest, failure := b.failure.or (firstFailure gone [d]) })
      (fun e he => (hplaced e (List.mem_cons_of_mem d he)).set (hne he) _) hothers
      (fun e he => (admits_set_iff (hne he) _).2 (hadmits e (List.mem_cons_of_mem d he))) rfl).trans ?_
    rw [arrived_cons b.message hi hbox hnot, Option.or_assoc, ← firstFailure_cons]

/-- **A full inbox of a connected client** keeps a broadcast from being carried through. -/
theorem carry_of_full (hplaced : ∀ d ∈ b.remaining, Placed gone boxes d)
    (hdistinct : (b.remaining.map Client.outlet).Nodup)
    (hfull : ∃ d ∈ b.remaining, ¬ Admits boxes d) :
    b.carry b.remaining.length boxes = none := by
  obtain ⟨ds, hds⟩ : ∃ ds, b.remaining = ds := ⟨_, rfl⟩
  induction ds generalizing b boxes with
  | nil =>
    rw [hds] at hfull
    obtain ⟨d, hd, -⟩ := hfull
    exact absurd hd List.not_mem_nil
  | cons d rest ih =>
    rw [hds] at hplaced hdistinct hfull ⊢
    obtain ⟨hnot, hothers⟩ := List.nodup_cons.1 hdistinct
    obtain ⟨i, box, hi, hbox, hsettled, hlive⟩ := hplaced d List.mem_cons_self
    rw [List.length_cons, carry]
    by_cases hfirst : box.Admits
    · obtain ⟨lines, hadvance⟩ := advance?_of_admits hds hi hbox hsettled hlive hfirst
      have hne {e : Client} (he : e ∈ rest) : e.outlet ≠ .inbox i := fun heq =>
        hnot (hi.symm ▸ heq ▸ List.mem_map_of_mem he)
      have hlater : ∃ e ∈ rest, ¬ Admits (boxes.set i (box.put b.message)) e := by
        obtain ⟨e, he, hfull⟩ := hfull
        rcases List.mem_cons.1 he with rfl | he
        · refine absurd (fun j other hj hother => ?_) hfull
          cases hi.symm.trans hj
          cases hbox.symm.trans hother
          exact hfirst
        · exact ⟨e, he, fun h => hfull ((admits_set_iff (hne he) _).1 h)⟩
      rw [hadvance]
      exact ih (b := { b with
        remaining := rest, failure := b.failure.or (firstFailure gone [d]) })
        (fun e he => (hplaced e (List.mem_cons_of_mem d he)).set (hne he) _) hothers hlater rfl
    · have hwaits := advance?_of_full hds hi hbox hsettled hfirst
      generalize b.advance? boxes = r at hwaits ⊢
      obtain ⟨after, next⟩ := r
      obtain rfl : next = none := hwaits
      rfl

end Broadcast

/-! ## Stations -/

/-- A centre, the clients that have been made, and their inboxes. -/
structure Station where
  center : Center
  clients : List Client
  inboxes : List Inbox

namespace Station

/-- What a station can be asked for.  Clients are given by their numbers. -/
inductive Request where
  /-- Make a client with an inbox. -/
  | connect (id : String) (capacity : Nat)
  | subscribe (client : Nat)
  | unsubscribe (id : String)
  /-- Broadcast a message to the clients in some order.  Inboxes know the broadcast by a number. -/
  | broadcast (sender : Nat) (order : List Client) (m : Message)
  /-- Take a message out of an inbox, if there is one. -/
  | receive (client : Nat)
  /-- Take the receiver of an inbox away. -/
  | drop (client : Nat)

/-- A request that has been carried out, and its answer. -/
inductive Entry where
  | connected (id : String) (capacity : Nat)
  | subscribed (client : Nat) (r : Except ServiceError Unit)
  | unsubscribed (id : String) (r : Except ServiceError Unit)
  | broadcast (m : Message) (r : Except ServiceError Unit)
  | received (client : Nat) (m : Option Message)
  | dropped (client : Nat)

/-- A station without clients. -/
def new (id : String) : Station := ⟨.new id, [], []⟩

/-- A broadcast to the clients of a centre, which go in some order. -/
def broadcastIn (s : Station) (sender : Nat) (order : List Client) (m : Message) : Broadcast :=
  { Broadcast.start sender s.center m with remaining := order }

/-- Carry out a request, unless there is no client of that number, the order of a broadcast does not
list the clients, or the broadcast would have to wait. -/
def step (s : Station) : Request → Option (Station × Entry)
  | .connect id capacity =>
    some ({ s with
      clients := s.clients ++ [⟨id, .inbox s.inboxes.length⟩]
      inboxes := s.inboxes ++ [.new capacity] }, .connected id capacity)
  | .subscribe i =>
    s.clients[i]?.map fun d =>
      match s.center.subscribe d with
      | .ok c => ({ s with center := c }, .subscribed i (.ok ()))
      | .error e => (s, .subscribed i (.error e))
  | .unsubscribe id =>
    match s.center.unsubscribe id with
    | .ok c => some ({ s with center := c }, .unsubscribed id (.ok ()))
    | .error e => some (s, .unsubscribed id (.error e))
  | .broadcast sender order m =>
    if order.Perm s.center.clients then
      ((s.broadcastIn sender order m).carry order.length s.inboxes).map fun r =>
        ({ s with inboxes := r.1 }, .broadcast m r.2.result)
    else none
  | .receive i =>
    s.inboxes[i]?.map fun box =>
      match box.receive? with
      | some (m, after, _) => ({ s with inboxes := s.inboxes.set i after }, .received i (some m))
      | none => (s, .received i none)
  | .drop i =>
    s.inboxes[i]?.map fun box =>
      ({ s with inboxes := s.inboxes.set i box.drop.1 }, .dropped i)

/-- Carry out requests one after the other.  What has been carried out is listed with the latest
first. -/
def run : Station × List Entry → List Request → Option (Station × List Entry)
  | s, [] => some s
  | (s, past), q :: rest => (s.step q).bind fun r => run (r.1, r.2 :: past) rest

end Station
end Switchboard
