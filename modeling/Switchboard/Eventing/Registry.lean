import Switchboard.Eventing.Listener

/-!
# The registry of listeners

Two tables, one for each way of delivery, list the listeners of every event name in the order in
which they subscribed.  Nothing is done about a listener that subscribes twice: it is there twice.
-/

namespace Switchboard

/-- Listeners by event name. -/
abbrev ListenerTable (H : Type) := List (String × List (Listener H))

namespace ListenerTable

variable {H : Type}

/-- The listeners of an event name. -/
def find (event : String) : ListenerTable H → List (Listener H)
  | [] => []
  | row :: rest => if row.1 = event then row.2 else find event rest

/-- Add a listener at the end of its row. -/
def add (l : Listener H) : ListenerTable H → ListenerTable H
  | [] => [(l.event, [l])]
  | row :: rest => if row.1 = l.event then (row.1, row.2 ++ [l]) :: rest else row :: add l rest

/-- A listener that is added stands behind those of its event name, and the others do not notice. -/
theorem find_add (l : Listener H) (event : String) (table : ListenerTable H) :
    find event (add l table) = find event table ++ if l.event = event then [l] else [] := by
  induction table with
  | nil =>
    show (if l.event = event then [l] else []) = [] ++ _
    rw [List.nil_append]
  | cons row rest ih =>
    by_cases hrow : row.1 = l.event
    · rw [add, if_pos hrow, find, find]
      by_cases he : row.1 = event
      · rw [if_pos he, if_pos he, if_pos (hrow.symm.trans he)]
      · have hne : l.event ≠ event := fun heq => he (hrow.trans heq)
        rw [if_neg he, if_neg he, if_neg hne, List.append_nil]
    · rw [add, if_neg hrow, find, find]
      by_cases he : row.1 = event
      · have hne : l.event ≠ event := fun heq => hrow (he.trans heq.symm)
        rw [if_pos he, if_pos he, if_neg hne, List.append_nil]
      · rw [if_neg he, if_neg he, ih]

end ListenerTable

/-- All listeners of a bus. -/
structure Registry (H : Type) where
  sync : ListenerTable H
  async : ListenerTable H

namespace Registry

variable {H : Type}

/-- No listeners. -/
def empty : Registry H := ⟨[], []⟩

/-- The table of a way of delivery. -/
def table (r : Registry H) : Delivery → ListenerTable H
  | .sync => r.sync
  | .async => r.async

/-- Add a listener; the way of delivery says which table it went to. -/
def insert (r : Registry H) (l : Listener H) : Registry H × Delivery :=
  match l.delivery with
  | .sync => (⟨ListenerTable.add l r.sync, r.async⟩, .sync)
  | .async => (⟨r.sync, ListenerTable.add l r.async⟩, .async)

/-- The listeners of a way of delivery and an event name, in order of subscription. -/
def listeners (r : Registry H) (d : Delivery) (event : String) : List (Listener H) :=
  ListenerTable.find event (r.table d)

/-- A listener is added to the table of its way of delivery. -/
theorem table_insert (r : Registry H) (l : Listener H) (d : Delivery) :
    (r.insert l).1.table d =
      if l.delivery = d then ListenerTable.add l (r.table d) else r.table d := by
  rw [insert]
  cases hl : l.delivery <;> cases d <;> simp [table]

/-- A listener that is inserted is one of its way of delivery and its event name from then on. -/
theorem listeners_insert (r : Registry H) (l : Listener H) (d : Delivery) (event : String) :
    (r.insert l).1.listeners d event =
      r.listeners d event ++ if l.delivery = d ∧ l.event = event then [l] else [] := by
  rw [listeners, table_insert, listeners]
  by_cases hd : l.delivery = d
  · rw [if_pos hd, ListenerTable.find_add]
    simp [hd]
  · rw [if_neg hd, if_neg (fun hboth => hd hboth.1), List.append_nil]

/-- How many listeners there are of a way of delivery and an event name. -/
def count (r : Registry H) (d : Delivery) (event : String) : Nat :=
  (r.listeners d event).length

end Registry
end Switchboard
