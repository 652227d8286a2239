import Switchboard.Logging.TraceLine
import Switchboard.ServerEvents.Inbox
import Switchboard.ServiceError

/-!
# The broadcast centre

Clients subscribe under their ids, each id once, and a broadcast sends a message to all who are
subscribed when it begins, one after the other in the order of subscription.  A client that cannot be
reached does not keep the message from the others; the broadcast answers with the first failure.
-/

namespace Switchboard

/-- How messages reach a client. -/
inductive Outlet where
  /-- Through the inbox of that number. -/
  | inbox (index : Nat)
  /-- Not at all: sending always fails. -/
  | broken
  deriving DecidableEq

/-- A client. -/
structure Client where
  id : String
  outlet : Outlet
  deriving DecidableEq

/-- A centre and its clients, no two of which have the same id. -/
structure Center where
  id : String
  clients : List Client
  distinct : (clients.map Client.id).Nodup

namespace Center

/-- A centre without clients. -/
def new (id : String) : Center := ⟨id, [], List.nodup_nil⟩

/-- Whether an id is subscribed. -/
def has (c : Center) (id : String) : Bool :=
  c.clients.any fun d => decide (d.id = id)

/-- The line of the trace about a new client. -/
def subscribedLine (c : Center) (client : String) : TraceLine :=
  ⟨.debug, "client subscribed", [("event_id", .str c.id), ("client", .str client)]⟩

/-- Subscribe a client under its id, unless the id is taken. -/
def subscribe (c : Center) (client : Client) : Except ServiceError Center :=
  if h : client.id ∈ c.clients.map Client.id then .error (.alreadySubscribed client.id)
  else .ok ⟨c.id, c.clients ++ [client], by
    rw [List.map_append, List.nodup_append]
    refine ⟨c.distinct, by simp, ?_⟩
    intro a ha b hb
    simp only [List.map_cons, List.map_nil, List.mem_singleton] at hb
    exact fun hab => h (hb ▸ hab ▸ ha)⟩

/-- Unsubscribe the client of an id. -/
def unsubscribe (c : Center) (id : String) : Except ServiceError Center :=
  if c.has id then
    .ok ⟨c.id, c.clients.filter fun d => decide (d.id ≠ id),
      (List.filter_sublist.map Client.id).nodup c.distinct⟩
  else .error (.notSubscribed id)

/-- The line of the trace about a client that cannot be reached. -/
def failureLine (c : Center) (client : String) (e : ServiceError) : TraceLine :=
  ⟨.warn, "server event delivery failed",
    [("event_id", .str c.id), ("client", .str client), ("error", .str e.message)]⟩

end Center

/-- A broadcast under way: the clients it has yet to reach, and the first failure. -/
structure Broadcast where
  /-- The number by which inboxes know it. -/
  sender : Nat
  center : Center
  message : Message
  remaining : List Client
  failure : Option ServiceError

namespace Broadcast

/-- A broadcast to all clients of a centre. -/
def start (sender : Nat) (c : Center) (m : Message) : Broadcast :=
  ⟨sender, c, m, c.clients, none⟩

/-- Go on to the next client after a failure. -/
def skip (b : Broadcast) (client : Client) (rest : List Client) (e : ServiceError) :
    Broadcast × List TraceLine :=
  ({ b with remaining := rest, failure := some (b.failure.getD e) },
    [b.center.failureLine client.id e])

/-- Try to reach the next client; `none` if that has to wait or there is no client left.  Given the
inboxes, it gives them afterwards. -/
def advance? (b : Broadcast) (inboxes : List Inbox) :
    List Inbox × Option (Broadcast × List TraceLine) :=
  match b.remaining with
  | [] => (inboxes, none)
  | client :: rest =>
    match client.outlet with
    | .broken => (inboxes, some (b.skip client rest (.repository (.cannotSend b.message.event))))
    | .inbox i =>
      match inboxes[i]? with
      | none => (inboxes, some (b.skip client rest (.disconnected client.id)))
      | some box =>
        let r := box.send b.sender b.message
        match r.2 with
        | .sent => (inboxes.set i r.1, some ({ b with remaining := rest }, []))
        | .waits => (inboxes.set i r.1, none)
        | .refused => (inboxes.set i r.1, some (b.skip client rest (.disconnected client.id)))

/-- The answer of a broadcast that has reached all it could. -/
def result (b : Broadcast) : Except ServiceError Unit :=
  match b.failure with
  | some e => .error e
  | none => .ok ()

end Broadcast
end Switchboard
