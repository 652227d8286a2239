import Mathlib.Data.List.Nodup
import Switchboard.Proofs.ServerEvents.Station

/-!
# Every client gets what was broadcast while it was subscribed

What has been asked of a station says which clients are subscribed and which messages each of them is
to get, without a look at the station: a client is subscribed from the request to subscribe it that was
accepted until the next request to unsubscribe its id that was, and what is broadcast in the meantime is
for it, as long as it has a receiver.

`Station.delivery` compares this with what the station does.  What a client has received, followed by
what is still in its inbox, is what was for it, in the order of the broadcasts and each message once.
It does not matter how many clients have had the same id, or how many others are disconnected.

## The invariant

`Station.Kept` holds of a new station and is kept by every request (`Station.Kept.step`).  For every
client it compares the inbox with the requests (`Station.Fits`).  Of numbers that no client has yet
it says that no request has concerned them, which is what a new client starts from.
-/

namespace Switchboard
namespace Station

/-! ## What the requests say -/

/-- The ids and capacities of the clients that have been made, by their numbers. -/
def connections : List Entry → List (String × Nat)
  | [] => []
  | .connected id capacity :: past => connections past ++ [(id, capacity)]
  | _ :: past => connections past

/-- Whether a client, which has an id and a number, is subscribed. -/
def isSubscribed (id : String) (i : Nat) : List Entry → Bool
  | [] => false
  | .subscribed j (.ok ()) :: past => i == j || isSubscribed id i past
  | .unsubscribed other (.ok ()) :: past => other != id && isSubscribed id i past
  | _ :: past => isSubscribed id i past

/-- Whether the receiver of a client has been taken away. -/
def isGone (i : Nat) : List Entry → Bool
  | [] => false
  | .dropped j :: past => i == j || isGone i past
  | _ :: past => isGone i past

/-- The messages that were broadcast while a client was subscribed, until its receiver was taken
away. -/
def due (id : String) (i : Nat) : List Entry → List Message
  | [] => []
  | .broadcast m _ :: past =>
    if isSubscribed id i past && !isGone i past then due id i past ++ [m] else due id i past
  | _ :: past => due id i past

/-- The messages that have been taken out of the inbox of a client. -/
def received (i : Nat) : List Entry → List Message
  | [] => []
  | .received j (some m) :: past => if i = j then received i past ++ [m] else received i past
  | _ :: past => received i past

/-- Whether a client cannot be reached. -/
def unreachable (past : List Entry) (d : Client) : Bool :=
  match d.outlet with
  | .inbox i => isGone i past
  | .broken => true

/-! ## The invariant -/

/-- The inbox of a client agrees with the requests. -/
structure Fits (past : List Entry) (i : Nat) (id : String) (capacity : Nat) (box : Inbox) :
    Prop where
  settled : box.Settled
  live : box.live = !isGone i past
  slots : box.live = true → box.held.length + box.free = max capacity 1
  delivered : isGone i past = false → received i past ++ box.held = due id i past
  stopped : isGone i past = true → box.held = [] ∧ received i past <+: due id i past

/-- A station agrees with the requests. -/
structure Kept (s : Station) (past : List Entry) : Prop where
  clients : s.clients = (connections past).mapIdx fun i p => ⟨p.1, .inbox i⟩
  inboxes : s.inboxes.length = (connections past).length
  known : ∀ d ∈ s.center.clients, d ∈ s.clients
  subscribed : ∀ i id capacity, (connections past)[i]? = some (id, capacity) →
    (⟨id, .inbox i⟩ ∈ s.center.clients ↔ isSubscribed id i past = true)
  fits : ∀ i id capacity box, (connections past)[i]? = some (id, capacity) →
    s.inboxes[i]? = some box → Fits past i id capacity box
  strangers : ∀ i id, (connections past).length ≤ i → isSubscribed id i past = false ∧
    isGone i past = false ∧ due id i past = [] ∧ received i past = []

namespace Kept

variable {s : Station} {past : List Entry}

theorem new (id : String) : Kept (.new id) [] where
  clients := rfl
  inboxes := rfl
  known d hd := hd
  subscribed i id capacity hi := absurd hi (by simp [connections])
  fits i id capacity box hi := absurd hi (by simp [connections])
  strangers i id hi := ⟨rfl, rfl, rfl, rfl⟩

/-- The client of a number. -/
theorem getElem?_clients (h : Kept s past) (i : Nat) :
    s.clients[i]? = (connections past)[i]?.map fun p => ⟨p.1, .inbox i⟩ := by
  rw [h.clients, List.getElem?_mapIdx]

/-- Who is subscribed is a client with a number. -/
theorem exists_connection (h : Kept s past) {d : Client} (hd : d ∈ s.center.clients) :
    ∃ i id capacity, (connections past)[i]? = some (id, capacity) ∧ d = ⟨id, .inbox i⟩ := by
  obtain ⟨i, hi⟩ := List.mem_iff_getElem?.1 (h.known d hd)
  rw [h.getElem?_clients] at hi
  obtain ⟨⟨id, capacity⟩, hconnection, rfl⟩ := Option.map_eq_some_iff.1 hi
  exact ⟨i, id, capacity, hconnection, rfl⟩

theorem exists_inbox (h : Kept s past) {i : Nat} {p : String × Nat}
    (hi : (connections past)[i]? = some p) : ∃ box, s.inboxes[i]? = some box := by
  have hlt : i < s.inboxes.length := h.inboxes ▸ (List.getElem?_eq_some_iff.1 hi).1
  exact ⟨_, List.getElem?_eq_getElem hlt⟩

/-- No two clients of a centre have one inbox. -/
theorem nodup_outlets (h : Kept s past) : (s.center.clients.map Client.outlet).Nodup := by
  refine List.Nodup.map_on (fun d hd e he hsame => ?_) (List.Nodup.of_map _ s.center.distinct)
  obtain ⟨i, id, capacity, hi, rfl⟩ := h.exists_connection hd
  obtain ⟨j, other, size, hj, rfl⟩ := h.exists_connection he
  cases hsame
  cases hi.symm.trans hj
  rfl

theorem placed (h : Kept s past) {d : Client} (hd : d ∈ s.center.clients) :
    Broadcast.Placed (unreachable past) s.inboxes d := by
  obtain ⟨i, id, capacity, hi, rfl⟩ := h.exists_connection hd
  obtain ⟨box, hbox⟩ := h.exists_inbox hi
  have hfits := h.fits i id capacity box hi hbox
  exact ⟨i, box, rfl, hbox, hfits.settled, hfits.live⟩

end Kept

/-! ## Requests keep the invariant -/

variable {s : Station} {past : List Entry}

/-- An inbox that is left alone agrees with the requests as before, if they do not concern it. -/
theorem Fits.congr {later : List Entry} {i : Nat} {id : String} {capacity : Nat} {box : Inbox}
    (h : Fits past i id capacity box) (hgone : isGone i later = isGone i past)
    (hdue : due id i later = due id i past) (hreceived : received i later = received i past) :
    Fits later i id capacity box where
  settled := h.settled
  live := by rw [hgone, h.live]
  slots := h.slots
  delivered := by
    rw [hgone, hdue, hreceived]
    exact h.delivered
  stopped := by
    rw [hgone, hdue, hreceived]
    exact h.stopped

theorem Fits.new (past : List Entry) {i : Nat} {id : String} (capacity : Nat)
    (hgone : isGone i past = false) (hdue : due id i past = []) (hreceived : received i past = []) :
    Fits past i id capacity (.new capacity) where
  settled := ⟨rfl, rfl⟩
  live := by rw [hgone]; rfl
  slots _ := Nat.zero_add _
  delivered _ := by rw [hdue, hreceived]; rfl
  stopped h := by
    rw [hgone] at h
    cases h

/-- A message comes to a client that is subscribed. -/
theorem Fits.put {i : Nat} {id : String} {capacity : Nat} {box : Inbox}
    (h : Fits past i id capacity box) (hsub : isSubscribed id i past = true) (hadmits : box.Admits)
    (m : Message) (r : Except ServiceError Unit) :
    Fits (.broadcast m r :: past) i id capacity (box.put m) := by
  cases hgone : isGone i past with
  | true =>
    have hlive : box.live = false := by rw [h.live, hgone]; rfl
    have hdue : due id i (.broadcast m r :: past) = due id i past := by
      rw [due, hsub, hgone]
      rfl
    rw [Inbox.put_of_gone hlive]
    exact h.congr rfl hdue rfl
  | false =>
    have hlive : box.live = true := by rw [h.live, hgone]; rfl
    have hdue : due id i (.broadcast m r :: past) = due id i past ++ [m] := by
      rw [due, hsub, hgone]
      rfl
    have hroom : 0 < box.free := hadmits hlive
    have hslots : box.held.length + box.free = max capacity 1 := h.slots hlive
    rw [Inbox.put_of_live hlive]
    refine ⟨⟨h.settled.waiting, h.settled.granted⟩, h.live, fun _ => ?_, fun _ => ?_, fun hnot => ?_⟩
    · show (box.held ++ [m]).length + (box.free - 1) = _
      rw [List.length_append, List.length_singleton]
      omega
    · rw [hdue, ← h.delivered hgone, List.append_assoc]
      rfl
    · exact absurd (hgone.symm.trans hnot) Bool.false_ne_true

/-- A message is taken out of an inbox, which has a receiver then. -/
theorem Fits.receive {i : Nat} {id : String} {capacity : Nat} {box after : Inbox}
    (h : Fits past i id capacity box) {m : Message} {woken : Option Nat}
    (htake : box.receive? = some (m, after, woken)) :
    Fits (.received i (some m) :: past) i id capacity after := by
  obtain ⟨rest, hheld, rfl⟩ : ∃ rest, box.held = m :: rest ∧
      after = { box with held := rest, free := box.free + 1 } := by
    rw [Inbox.receive?] at htake
    cases hheld : box.held with
    | nil =>
      rw [hheld] at htake
      cases htake
    | cons first rest =>
      simp only [hheld, h.settled.waiting] at htake
      cases htake
      exact ⟨rest, rfl, by rw [h.settled.waiting]⟩
  have hreceived : received i (.received i (some m) :: past) = received i past ++ [m] := if_pos rfl
  refine ⟨⟨h.settled.waiting, h.settled.granted⟩, h.live, fun hlive => ?_, fun hgone => ?_,
    fun hgone => ?_⟩
  · have hslots := h.slots hlive
    rw [hheld, List.length_cons] at hslots
    show rest.length + (box.free + 1) = _
    omega
  · have hall := h.delivered hgone
    rw [hheld] at hall
    rw [hreceived, List.append_assoc]
    exact hall
  · have hempty := (h.stopped hgone).1
    rw [hheld] at hempty
    cases hempty

/-- The receiver is taken away, and with it what is in the inbox. -/
theorem Fits.drop {i : Nat} {id : String} {capacity : Nat} {box : Inbox}
    (h : Fits past i id capacity box) : Fits (.dropped i :: past) i id capacity box.drop.1 := by
  have hgone : isGone i (.dropped i :: past) = true := by rw [isGone, beq_self_eq_true, Bool.true_or]
  refine ⟨⟨rfl, h.settled.granted⟩, by rw [hgone]; rfl, fun hlive => Bool.noConfusion hlive,
    fun hnot => Bool.noConfusion (hgone.symm.trans hnot), fun _ => ⟨rfl, ?_⟩⟩
  cases hbefore : isGone i past with
  | true => exact (h.stopped hbefore).2
  | false => exact ⟨box.held, h.delivered hbefore⟩

/-- A place of a list with one entry more. -/
theorem getElem?_concat_cases {α : Type} {xs : List α} {x y : α} {i : Nat}
    (h : (xs ++ [x])[i]? = some y) : xs[i]? = some y ∨ i = xs.length ∧ x = y := by
  rcases Nat.lt_trichotomy i xs.length with hlt | rfl | hgt
  · exact .inl ((List.getElem?_append_left hlt).symm.trans h)
  · rw [List.getElem?_concat_length] at h
    exact .inr ⟨rfl, Option.some.inj h⟩
  · rw [List.getElem?_eq_none (by rw [List.length_append, List.length_singleton]; omega)] at h
    cases h

namespace Kept

theorem connect (h : Kept s past) (id : String) (capacity : Nat) :
    Kept { s with
      clients := s.clients ++ [⟨id, .inbox s.inboxes.length⟩]
      inboxes := s.inboxes ++ [.new capacity] } (.connected id capacity :: past) where
  clients := by
    rw [connections, List.mapIdx_concat, ← h.clients, h.inboxes]
  inboxes := by
    rw [connections, List.length_append, List.length_append, h.inboxes]
    rfl
  known d hd := List.mem_append_left _ (h.known d hd)
  subscribed i other size hi := by
    rcases getElem?_concat_cases hi with hi | ⟨rfl, -⟩
    · exact h.subscribed i other size hi
    · have hnot := (h.strangers _ other (Nat.le_refl _)).1
      refine iff_of_false (fun hd => ?_) (fun hsub => Bool.false_ne_true (hnot.symm.trans hsub))
      obtain ⟨j, id', size', hj, heq⟩ := h.exists_connection hd
      cases heq
      rw [List.getElem?_eq_none (Nat.le_refl _)] at hj
      cases hj
  fits i other size box hi hbox := by
    rcases getElem?_concat_cases hi with hold | ⟨rfl, hnew⟩
    · rw [List.getElem?_append_left (h.inboxes ▸ (List.getElem?_eq_some_iff.1 hold).1)] at hbox
      exact (h.fits i other size box hold hbox).congr rfl rfl rfl
    · cases hnew
      rw [← h.inboxes, List.getElem?_concat_length] at hbox
      cases hbox
      obtain ⟨-, hgone, hdue, hreceived⟩ := h.strangers _ id (Nat.le_refl _)
      exact .new _ capacity hgone hdue hreceived
  strangers i other hi := by
    rw [connections, List.length_append] at hi
    exact h.strangers i other (Nat.le_of_add_right_le hi)

/-- A request that is refused, or finds nothing, changes nothing. -/
theorem refused (h : Kept s past) {x : Entry} (hx : (∃ i e, x = .subscribed i (.error e)) ∨
    (∃ id e, x = .unsubscribed id (.error e)) ∨ ∃ i, x = .received i none) : Kept s (x :: past) := by
  rcases hx with ⟨i, e, rfl⟩ | ⟨id, e, rfl⟩ | ⟨i, rfl⟩
  all_goals
    exact ⟨h.clients, h.inboxes, h.known, h.subscribed,
      fun i id capacity box hi hbox => (h.fits i id capacity box hi hbox).congr rfl rfl rfl,
      h.strangers⟩

theorem subscribe (h : Kept s past) {i : Nat} {d : Client} (hi : s.clients[i]? = some d) {c : Center}
    (hc : c.clients = s.center.clients ++ [d]) :
    Kept { s with center := c } (.subscribed i (.ok ()) :: past) := by
  rw [h.getElem?_clients] at hi
  obtain ⟨⟨id, capacity⟩, hconnection, rfl⟩ := Option.map_eq_some_iff.1 hi
  refine ⟨h.clients, h.inboxes, fun e he => ?_, fun j other size hj => ?_,
    fun j other size box hj hbox => (h.fits j other size box hj hbox).congr rfl rfl rfl,
    fun j other hj => ?_⟩
  · rw [hc] at he
    rcases List.mem_append.1 he with he | he
    · exact h.known e he
    · rw [List.mem_singleton.1 he]
      exact List.mem_of_getElem? ((h.getElem?_clients i).trans hi)
  · show _ ∈ c.clients ↔ (j == i || isSubscribed other j past) = true
    rw [hc, List.mem_append, h.subscribed j other size hj, List.mem_singleton, Bool.or_eq_true,
      beq_iff_eq, or_comm]
    refine or_congr_left ⟨fun heq => Outlet.inbox.inj (congrArg Client.outlet heq), ?_⟩
    rintro rfl
    cases hconnection.symm.trans hj
    rfl
  · obtain ⟨hnot, hrest⟩ := h.strangers j other hj
    have hlt : i < (connections past).length := (List.getElem?_eq_some_iff.1 hconnection).1
    have hne : j ≠ i := fun heq => absurd hlt (Nat.not_lt.2 (heq ▸ hj))
    refine ⟨?_, hrest⟩
    show (j == i || isSubscribed other j past) = false
    rw [hnot, Bool.or_false, beq_eq_false_iff_ne]
    exact hne

theorem unsubscribe (h : Kept s past) (id : String) {c : Center}
    (hc : c.clients = s.center.clients.filter fun d => decide (d.id ≠ id)) :
    Kept { s with center := c } (.unsubscribed id (.ok ()) :: past) := by
  refine ⟨h.clients, h.inboxes, fun e he => ?_, fun j other size hj => ?_,
    fun j other size box hj hbox => (h.fits j other size box hj hbox).congr rfl rfl rfl,
    fun j other hj => ?_⟩
  · rw [hc] at he
    exact h.known e (List.mem_filter.1 he).1
  · show _ ∈ c.clients ↔ (id != other && isSubscribed other j past) = true
    rw [hc, List.mem_filter, h.subscribed j other size hj, Bool.and_eq_true, and_comm,
      decide_eq_true_iff, bne_iff_ne, ne_comm]
  · obtain ⟨hnot, hrest⟩ := h.strangers j other hj
    refine ⟨?_, hrest⟩
    show (id != other && isSubscribed other j past) = false
    rw [hnot, Bool.and_false]

/-- The message of a broadcast comes to every client that is subscribed. -/
theorem broadcast (h : Kept s past) {order : List Client} (horder : order.Perm s.center.clients)
    (hadmits : ∀ d ∈ order, Broadcast.Admits s.inboxes d) (m : Message)
    (r : Except ServiceError Unit) :
    Kept { s with inboxes := Broadcast.arrived m order s.inboxes } (.broadcast m r :: past) := by
  refine ⟨h.clients, ?_, h.known, h.subscribed, fun i id capacity after hi hafter => ?_,
    fun j other hj => ?_⟩
  · rw [Broadcast.arrived, List.length_mapIdx]
    exact h.inboxes
  · obtain ⟨box, hbox⟩ := h.exists_inbox hi
    have hfits := h.fits i id capacity box hi hbox
    have hmem : Outlet.inbox i ∈ order.map Client.outlet ↔ isSubscribed id i past = true := by
      rw [← h.subscribed i id capacity hi, (horder.map Client.outlet).mem_iff, List.mem_map]
      constructor
      · rintro ⟨d, hd, hsame⟩
        obtain ⟨j, other, size, hj, rfl⟩ := h.exists_connection hd
        cases hsame
        cases hi.symm.trans hj
        exact hd
      · exact fun hd => ⟨_, hd, rfl⟩
    rw [Broadcast.arrived, List.getElem?_mapIdx, hbox, Option.map_some, Option.some.injEq] at hafter
    cases hsub : isSubscribed id i past with
    | false =>
      rw [if_neg (by rw [hmem, hsub]; exact Bool.false_ne_true)] at hafter
      subst hafter
      refine hfits.congr rfl ?_ rfl
      rw [due, hsub]
      rfl
    | true =>
      have hd : (⟨id, .inbox i⟩ : Client) ∈ order :=
        horder.mem_iff.2 ((h.subscribed i id capacity hi).2 hsub)
      rw [if_pos (hmem.2 hsub)] at hafter
      subst hafter
      exact hfits.put hsub (hadmits _ hd i box rfl hbox) m r
  · obtain ⟨hnot, hgone, hdue, hreceived⟩ := h.strangers j other hj
    refine ⟨hnot, hgone, ?_, hreceived⟩
    rw [due, hnot, Bool.false_and, if_neg Bool.false_ne_true, hdue]

/-- Something happens to the inbox of one client, and none other. -/
theorem setInbox (h : Kept s past) {i : Nat} {box after : Inbox} {x : Entry}
    (hbox : s.inboxes[i]? = some box)
    (hx : (∃ m, x = .received i (some m)) ∨ x = .dropped i)
    (hfits : ∀ id capacity, Fits past i id capacity box → Fits (x :: past) i id capacity after) :
    Kept { s with inboxes := s.inboxes.set i after } (x :: past) := by
  have hlt : i < s.inboxes.length := (List.getElem?_eq_some_iff.1 hbox).1
  have hconnections : connections (x :: past) = connections past := by
    rcases hx with ⟨m, rfl⟩ | rfl <;> rfl
  have hsubscribed (id : String) (j : Nat) : isSubscribed id j (x :: past) = isSubscribed id j past := by
    rcases hx with ⟨m, rfl⟩ | rfl <;> rfl
  have hdue (id : String) (j : Nat) : due id j (x :: past) = due id j past := by
    rcases hx with ⟨m, rfl⟩ | rfl <;> rfl
  have hothers {j : Nat} (hj : j ≠ i) :
      isGone j (x :: past) = isGone j past ∧ received j (x :: past) = received j past := by
    rcases hx with ⟨m, rfl⟩ | rfl
    · exact ⟨rfl, if_neg hj⟩
    · exact ⟨by rw [isGone, beq_eq_false_iff_ne.2 hj, Bool.false_or], rfl⟩
  refine ⟨?_, ?_, h.known, fun j id capacity hj => ?_, fun j id capacity other hj hother => ?_,
    fun j id hj => ?_⟩
  · rw [hconnections]
    exact h.clients
  · rw [hconnections, List.length_set]
    exact h.inboxes
  · rw [hconnections] at hj
    rw [hsubscribed]
    exact h.subscribed j id capacity hj
  · rw [hconnections] at hj
    by_cases hij : j = i
    · subst hij
      rw [List.getElem?_set_self hlt, Option.some.injEq] at hother
      exact hother ▸ hfits id capacity (h.fits j id capacity box hj hbox)
    · rw [List.getElem?_set_ne (Ne.symm hij)] at hother
      exact (h.fits j id capacity other hj hother).congr (hothers hij).1 (hdue id j) (hothers hij).2
  · rw [hconnections] at hj
    have hij : j ≠ i := fun heq => absurd (h.inboxes ▸ hlt) (Nat.not_lt.2 (heq ▸ hj))
    rw [hsubscribed, hdue, (hothers hij).1, (hothers hij).2]
    exact h.strangers j id hj

end Kept

/-! ## Answers -/

/-- A client is subscribed exactly if its id is free. -/
theorem step_subscribe {i : Nat} {d : Client} (hi : s.clients[i]? = some d) :
    (d.id ∈ s.center.clients.map Client.id →
      s.step (.subscribe i) = some (s, .subscribed i (.error (.alreadySubscribed d.id)))) ∧
    (d.id ∉ s.center.clients.map Client.id → ∃ c : Center, c.clients = s.center.clients ++ [d] ∧
      s.step (.subscribe i) = some ({ s with center := c }, .subscribed i (.ok ()))) := by
  constructor
  · intro htaken
    rw [step, hi, Option.map_some, Center.subscribe, dif_pos htaken]
  · intro hfree
    rw [step, hi, Option.map_some, Center.subscribe, dif_neg hfree]
    exact ⟨_, rfl, rfl⟩

theorem has_iff {c : Center} {id : String} : c.has id = true ↔ id ∈ c.clients.map Client.id := by
  rw [Center.has, List.any_eq_true, List.mem_map]
  simp only [decide_eq_true_iff]

/-- An id is unsubscribed exactly if a client has it. -/
theorem step_unsubscribe (s : Station) (id : String) :
    (id ∉ s.center.clients.map Client.id →
      s.step (.unsubscribe id) = some (s, .unsubscribed id (.error (.notSubscribed id)))) ∧
    (id ∈ s.center.clients.map Client.id → ∃ c : Center,
      c.clients = s.center.clients.filter (fun d => decide (d.id ≠ id)) ∧
      s.step (.unsubscribe id) = some ({ s with center := c }, .unsubscribed id (.ok ()))) := by
  constructor
  · intro hfree
    rw [step, Center.unsubscribe, if_neg fun hhas => hfree (has_iff.1 hhas)]
  · intro htaken
    rw [step, Center.unsubscribe, if_pos (has_iff.2 htaken)]
    exact ⟨_, rfl, rfl⟩

/-- The answer of a broadcast, given the order of the clients: the first that cannot be reached is
reported. -/
def answer (past : List Entry) (order : List Client) : Except ServiceError Unit :=
  (order.find? (unreachable past)).elim (.ok ()) fun d => .error (.disconnected d.id)

namespace Kept

/-- A broadcast is carried through if every connected client has room, and not otherwise. -/
theorem step_broadcast (h : Kept s past) {order : List Client}
    (horder : order.Perm s.center.clients) (sender : Nat) (m : Message) :
    ((∀ d ∈ order, Broadcast.Admits s.inboxes d) → s.step (.broadcast sender order m) =
      some ({ s with inboxes := Broadcast.arrived m order s.inboxes },
        .broadcast m (answer past order))) ∧
    ((∃ d ∈ order, ¬ Broadcast.Admits s.inboxes d) →
      s.step (.broadcast sender order m) = none) := by
  have hplaced : ∀ d ∈ order, Broadcast.Placed (unreachable past) s.inboxes d := fun d hd =>
    h.placed (horder.mem_iff.1 hd)
  have hdistinct : (order.map Client.outlet).Nodup :=
    (horder.map Client.outlet).nodup_iff.2 h.nodup_outlets
  constructor
  · intro hadmits
    have hcarry := Broadcast.carry_of_admits (b := s.broadcastIn sender order m) hplaced hdistinct
      hadmits
    have hresult : Broadcast.result { s.broadcastIn sender order m with
        remaining := [], failure := Broadcast.firstFailure (unreachable past) order } =
        answer past order := by
      rw [Broadcast.result, answer, Broadcast.firstFailure]
      cases order.find? (unreachable past) <;> rfl
    rw [step, if_pos horder]
    refine (congrArg (Option.map _) hcarry).trans ?_
    exact congrArg (fun r => some ({ s with inboxes := Broadcast.arrived m order s.inboxes },
      Entry.broadcast m r)) hresult
  · intro hfull
    have hcarry := Broadcast.carry_of_full (b := s.broadcastIn sender order m) hplaced hdistinct hfull
    rw [step, if_pos horder]
    exact congrArg (Option.map _) hcarry

/-- **Every request keeps the invariant.** -/
theorem step (h : Kept s past) {q : Request} {after : Station} {x : Entry}
    (hstep : s.step q = some (after, x)) : Kept after (x :: past) := by
  cases q with
  | connect id capacity =>
    cases hstep
    exact h.connect id capacity
  | subscribe i =>
    cases hi : s.clients[i]? with
    | none =>
      rw [Station.step, hi] at hstep
      cases hstep
    | some d =>
      by_cases htaken : d.id ∈ s.center.clients.map Client.id
      · rw [(step_subscribe hi).1 htaken] at hstep
        cases hstep
        exact h.refused (.inl ⟨i, _, rfl⟩)
      · obtain ⟨c, hc, hsubscribe⟩ := (step_subscribe hi).2 htaken
        rw [hsubscribe] at hstep
        cases hstep
        exact h.subscribe hi hc
  | unsubscribe id =>
    by_cases htaken : id ∈ s.center.clients.map Client.id
    · obtain ⟨c, hc, hunsubscribe⟩ := (s.step_unsubscribe id).2 htaken
      rw [hunsubscribe] at hstep
      cases hstep
      exact h.unsubscribe id hc
    · rw [(s.step_unsubscribe id).1 htaken] at hstep
      cases hstep
      exact h.refused (.inr (.inl ⟨id, _, rfl⟩))
  | broadcast sender order m =>
    by_cases horder : order.Perm s.center.clients
    · by_cases hadmits : ∀ d ∈ order, Broadcast.Admits s.inboxes d
      · rw [(h.step_broadcast horder sender m).1 hadmits] at hstep
        cases hstep
        exact h.broadcast horder hadmits m _
      · simp only [not_forall, exists_prop] at hadmits
        rw [(h.step_broadcast horder sender m).2 hadmits] at hstep
        cases hstep
    · rw [Station.step, if_neg horder] at hstep
      cases hstep
  | receive i =>
    obtain ⟨box, hbox, hstep⟩ := Option.map_eq_some_iff.1 hstep
    cases htake : box.receive? with
    | none =>
      rw [htake] at hstep
      cases hstep
      exact h.refused (.inr (.inr ⟨i, rfl⟩))
    | some taken =>
      obtain ⟨m, rest, woken⟩ := taken
      rw [htake] at hstep
      cases hstep
      exact h.setInbox hbox (.inl ⟨m, rfl⟩) fun id capacity hfits => hfits.receive htake
  | drop i =>
    obtain ⟨box, hbox, hstep⟩ := Option.map_eq_some_iff.1 hstep
    cases hstep
    exact h.setInbox hbox (.inr rfl) fun id capacity hfits => hfits.drop

theorem run (h : Kept s past) {requests : List Request} {after : Station} {entries : List Entry}
    (hrun : Station.run (s, past) requests = some (after, entries)) : Kept after entries := by
  induction requests generalizing s past with
  | nil =>
    cases hrun
    exact h
  | cons q rest ih =>
    obtain ⟨⟨next, x⟩, hstep, hrest⟩ := Option.bind_eq_some_iff.1 hrun
    exact ih (h.step hstep) hrest

end Kept

theorem answer_eq_ok_iff {order : List Client} :
    answer past order = .ok () ↔ ∀ d ∈ order, unreachable past d = false := by
  rw [answer]
  cases hfind : order.find? (unreachable past) with
  | none =>
    refine iff_of_true rfl fun d hd => ?_
    exact Bool.eq_false_iff.2 (List.find?_eq_none.1 hfind d hd)
  | some d =>
    have hd := List.find?_some hfind
    refine iff_of_false (fun h => by cases h) fun h => ?_
    exact Bool.false_ne_true ((h d (List.mem_of_find?_eq_some hfind)).symm.trans hd)

theorem answer_of_first {before later : List Client} {d : Client}
    (hbefore : ∀ e ∈ before, unreachable past e = false) (hd : unreachable past d = true) :
    answer past (before ++ d :: later) = .error (.disconnected d.id) := by
  have hnone : before.find? (unreachable past) = none := List.find?_eq_none.2 fun e he => by
    rw [hbefore e he]
    exact Bool.false_ne_true
  rw [answer, List.find?_append, hnone, Option.none_or, List.find?_cons_of_pos hd]
  rfl

/-! ## Runs -/

/-- **Broadcasting.**  Whatever a station has been asked for, as long as no broadcast has met a full
inbox of a connected client, the following holds.  No two subscribed clients have one id, and the next
client is refused exactly if its id is taken; then all is as before.  An id is unsubscribed exactly if
it is taken.  A broadcast can be carried through exactly if every connected client that is subscribed
has room; its answer is that it is done if all of them are connected, and otherwise that the first of
them that is not, in the order in which it goes through them, is disconnected.

And what a client has received, with what is still in its inbox, is what was broadcast while it was
subscribed; what a client has received whose receiver has been taken away is the beginning of what was
broadcast while it was subscribed until then. -/
theorem broadcasting {name : String} {requests : List Request} {s : Station} {past : List Entry}
    (hrun : run (.new name, []) requests = some (s, past)) :
    s.clients = (connections past).mapIdx (fun i p => ⟨p.1, .inbox i⟩) ∧
    (s.center.clients.map Client.id).Nodup ∧
    (∀ i d, s.clients[i]? = some d →
      (d.id ∈ s.center.clients.map Client.id →
        s.step (.subscribe i) = some (s, .subscribed i (.error (.alreadySubscribed d.id)))) ∧
      (d.id ∉ s.center.clients.map Client.id → ∃ c : Center, c.clients = s.center.clients ++ [d] ∧
        s.step (.subscribe i) = some ({ s with center := c }, .subscribed i (.ok ())))) ∧
    (∀ id,
      (id ∉ s.center.clients.map Client.id →
        s.step (.unsubscribe id) = some (s, .unsubscribed id (.error (.notSubscribed id)))) ∧
      (id ∈ s.center.clients.map Client.id → ∃ c : Center,
        c.clients = s.center.clients.filter (fun d => decide (d.id ≠ id)) ∧
        s.step (.unsubscribe id) = some ({ s with center := c }, .unsubscribed id (.ok ())))) ∧
    (∀ sender order m, order.Perm s.center.clients →
      ((∃ after x, s.step (.broadcast sender order m) = some (after, x)) ↔
        ∀ d ∈ s.center.clients, Broadcast.Admits s.inboxes d) ∧
      ∀ after x, s.step (.broadcast sender order m) = some (after, x) → ∃ r, x = .broadcast m r ∧
        (r = .ok () ↔ ∀ d ∈ s.center.clients, unreachable past d = false) ∧
        ∀ before d later, order = before ++ d :: later →
          (∀ e ∈ before, unreachable past e = false) → unreachable past d = true →
          r = .error (.disconnected d.id)) ∧
    ∀ i id capacity, (connections past)[i]? = some (id, capacity) →
      (⟨id, .inbox i⟩ ∈ s.center.clients ↔ isSubscribed id i past = true) ∧
      ∃ box, s.inboxes[i]? = some box ∧ (box.live = true ↔ isGone i past = false) ∧
        (isGone i past = false → box.held.length + box.free = max capacity 1 ∧
          received i past ++ box.held = due id i past) ∧
        (isGone i past = true → received i past <+: due id i past) := by
  have h := (Kept.new name).run hrun
  refine ⟨h.clients, s.center.distinct, fun i d => step_subscribe, s.step_unsubscribe,
    fun sender order m horder => ⟨⟨?_, fun hadmits => ?_⟩, fun after x hstep => ?_⟩,
    fun i id capacity hi => ⟨h.subscribed i id capacity hi, ?_⟩⟩
  · rintro ⟨after, x, hstep⟩ d hd
    refine Classical.byContradiction fun hfull => ?_
    rw [(h.step_broadcast horder sender m).2 ⟨d, horder.mem_iff.2 hd, hfull⟩] at hstep
    cases hstep
  · exact ⟨_, _, (h.step_broadcast horder sender m).1 fun d hd => hadmits d (horder.mem_iff.1 hd)⟩
  · refine ⟨answer past order, ?_, ?_, ?_⟩
    · by_cases hadmits : ∀ d ∈ order, Broadcast.Admits s.inboxes d
      · rw [(h.step_broadcast horder sender m).1 hadmits] at hstep
        cases hstep
        rfl
      · simp only [not_forall, exists_prop] at hadmits
        rw [(h.step_broadcast horder sender m).2 hadmits] at hstep
        cases hstep
    · rw [answer_eq_ok_iff]
      exact forall_congr' fun d => imp_congr_left horder.mem_iff
    · rintro before d later rfl hbefore hd
      exact answer_of_first hbefore hd
  · obtain ⟨box, hbox⟩ := h.exists_inbox hi
    have hfits := h.fits i id capacity box hi hbox
    have hlive : box.live = true ↔ isGone i past = false := by
      rw [hfits.live, Bool.not_eq_true']
    exact ⟨box, hbox, hlive, fun hgone => ⟨hfits.slots (hlive.2 hgone), hfits.delivered hgone⟩,
      fun hgone => (hfits.stopped hgone).2⟩

/-- Two clients of one id, of which the second is subscribed when the first no longer is, and a third
without a receiver. -/
def namesakes : List Request :=
  [.connect "a" 1, .connect "a" 0, .connect "b" 2, .subscribe 0, .subscribe 1, .subscribe 2, .drop 2,
    .broadcast 0 [⟨"b", .inbox 2⟩, ⟨"a", .inbox 0⟩] ⟨"first", ""⟩, .receive 0, .unsubscribe "a",
    .subscribe 1, .broadcast 1 [⟨"b", .inbox 2⟩, ⟨"a", .inbox 1⟩] ⟨"second", ""⟩]

/-- Each of two clients of one id has the message that was broadcast while it was subscribed. -/
theorem broadcasting_to_namesakes : ∃ s past, run (.new "news", []) namesakes = some (s, past) ∧
    received 0 past = [⟨"first", ""⟩] ∧ due "a" 1 past = [⟨"second", ""⟩] ∧
    ∃ box, s.inboxes[1]? = some box ∧ received 1 past ++ box.held = due "a" 1 past := by
  obtain ⟨s, past, hrun, hreceived, hdue, hconnection, hgone⟩ :
      ∃ s past, run (.new "news", []) namesakes = some (s, past) ∧
        received 0 past = [⟨"first", ""⟩] ∧ due "a" 1 past = [⟨"second", ""⟩] ∧
        (connections past)[1]? = some ("a", 0) ∧ isGone 1 past = false :=
    ⟨_, _, rfl, rfl, rfl, rfl, rfl⟩
  obtain ⟨-, -, -, -, -, hall⟩ := broadcasting hrun
  obtain ⟨-, box, hbox, -, hdelivered, -⟩ := hall 1 "a" 0 hconnection
  exact ⟨s, past, hrun, hreceived, hdue, box, hbox, (hdelivered hgone).2⟩

end Station
end Switchboard
