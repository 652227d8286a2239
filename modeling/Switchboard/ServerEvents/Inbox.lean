import Switchboard.ServerEvents.Message

/-!
# Inboxes

The receiving end of a client: messages in the order in which they came, at most as many as there are
slots.  A message that finds no free slot waits with its sender.  A slot that becomes free is granted
to the first sender in line, and counts as taken from then on.  Once the receiver is gone nothing more
can be sent, and nobody waits any longer.
-/

namespace Switchboard

/-- An inbox.  Senders are known by numbers. -/
structure Inbox where
  held : List Message
  free : Nat
  /-- Senders that wait for a slot, the first in line first. -/
  waiting : List Nat
  /-- Senders that have been granted a slot and have not used it. -/
  granted : List Nat
  /-- Whether there still is a receiver. -/
  live : Bool
  deriving DecidableEq

/-- What becomes of a message that is sent. -/
inductive SendResult where
  | sent
  /-- The sender stands in line. -/
  | waits
  /-- There is no receiver. -/
  | refused
  deriving DecidableEq

namespace Inbox

/-- An empty inbox; it has at least one slot. -/
def new (capacity : Nat) : Inbox :=
  ⟨[], max capacity 1, [], [], true⟩

/-- Send a message, or ask again after having waited. -/
def send (b : Inbox) (sender : Nat) (m : Message) : Inbox × SendResult :=
  if !b.live then
    ({ b with granted := b.granted.filter fun s => s != sender }, .refused)
  else if sender ∈ b.granted then
    ({ b with held := b.held ++ [m], granted := b.granted.filter fun s => s != sender }, .sent)
  else if sender ∈ b.waiting then (b, .waits)
  else if 0 < b.free then ({ b with held := b.held ++ [m], free := b.free - 1 }, .sent)
  else ({ b with waiting := b.waiting ++ [sender] }, .waits)

/-- Take the oldest message out.  Its slot goes to the first sender in line, who need not wait any
longer. -/
def receive? (b : Inbox) : Option (Message × Inbox × Option Nat) :=
  match b.held with
  | [] => none
  | m :: rest =>
    match b.waiting with
    | [] => some (m, { b with held := rest, free := b.free + 1 }, none)
    | s :: others =>
      some (m, { b with held := rest, waiting := others, granted := b.granted ++ [s] }, some s)

/-- Take the receiver away, and the messages with it.  All who stand in line need not wait any
longer. -/
def drop (b : Inbox) : Inbox × List Nat :=
  ({ b with held := [], waiting := [], live := false }, b.waiting)

end Inbox
end Switchboard
