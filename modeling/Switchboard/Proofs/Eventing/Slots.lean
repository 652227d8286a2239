import Switchboard.Proofs.Eventing.Numbers

/-!
# Slots

Every slot of the queue is free, taken by an event in the queue, or granted to a deferred event
(`Slots.counted`).  Nobody waits for a slot while one is free (`Slots.full`): a deferred event only
begins to wait when there is none, and a slot that is given back goes to those who wait before it
counts as free.

`Slots` speaks of the parts of a bus and not of the bus, so that it can be said of the time between
taking a slot away and giving it back, when there is one slot less.
-/

namespace Switchboard

namespace Bus

variable {H : Type}

open History

/-- Whether a slot is reserved for a deferred event. -/
def isGranted (d : Deferred) : Bool :=
  d.stage = .granted

/-- Slots, so many in all, and the counter of deferred events are in order. -/
structure Slots (capacity free pending : Nat) (queue : List Posting) (overflow : List Deferred) :
    Prop where
  counted : free + queue.length + overflow.countP isGranted = capacity
  full : ∀ d ∈ overflow, d.stage = .waiting → free = 0
  pending : pending = overflow.length

/-- A slot that is given back is granted or free. -/
theorem spare_add_countP_granted (overflow : List Deferred) :
    spare overflow + (granted overflow).countP isGranted = overflow.countP isGranted + 1 := by
  rcases granted_cases overflow with ⟨hg, hs, -⟩ | ⟨before, d, after, ho, hd, hg, hs⟩
  · rw [hg, hs, Nat.add_comm]
  · have hold : isGranted d = false := by rw [isGranted, hd]; rfl
    have hnew : isGranted { d with stage := .granted } = true := rfl
    rw [hg, hs, ho, List.countP_append, List.countP_append, List.countP_cons_of_pos hnew,
      List.countP_cons_of_neg (by rw [hold]; exact Bool.false_ne_true)]
    omega

/-- After a slot has been given back, those who still wait waited before, and it is not free. -/
theorem waiting_of_mem_granted {overflow : List Deferred} {d : Deferred} (hd : d ∈ granted overflow)
    (hw : d.stage = .waiting) : d ∈ overflow ∧ spare overflow = 0 := by
  rcases granted_cases overflow with ⟨hg, -, hn⟩ | ⟨before, x, after, ho, -, hg, hs⟩
  · rw [hg] at hd
    exact absurd hw (hn d hd)
  · rw [hg] at hd
    refine ⟨?_, hs⟩
    rw [ho]
    rcases List.mem_append.1 hd with hd | hd
    · exact List.mem_append_left _ hd
    · rcases List.mem_cons.1 hd with rfl | hd
      · exact absurd hw (by simp)
      · exact List.mem_append_right _ (List.mem_cons_of_mem _ hd)

theorem length_granted (overflow : List Deferred) :
    (granted overflow).length = overflow.length := by
  have h := congrArg List.length (map_granted (f := Deferred.id) (fun _ => rfl) overflow)
  rwa [List.length_map, List.length_map] at h

namespace Slots

variable {capacity free pending : Nat} {queue : List Posting} {overflow : List Deferred}

/-- An event takes a free slot. -/
theorem take (h : Slots capacity free pending queue overflow) (hf : 0 < free) (p : Posting) :
    Slots capacity (free - 1) pending (queue ++ [p]) overflow where
  counted := by
    have hc := h.counted
    rw [List.length_append, List.length_singleton]
    omega
  full d hd hw := absurd (h.full d hd hw) (Nat.pos_iff_ne_zero.1 hf)
  pending := h.pending

/-- A deferred event that has no slot joins the others, when there is no free slot. -/
theorem join (h : Slots capacity free pending queue overflow) (hf : free = 0) {d : Deferred}
    (hd : isGranted d = false) : Slots capacity free (pending + 1) queue (overflow ++ [d]) where
  counted := by
    rw [List.countP_append, List.countP_singleton, if_neg (by rw [hd]; exact Bool.false_ne_true)]
    exact h.counted
  full _ _ _ := hf
  pending := by rw [h.pending, List.length_append, List.length_singleton]

/-- The first event leaves the queue with its slot. -/
theorem leave {p : Posting} (h : Slots (capacity + 1) free pending (p :: queue) overflow) :
    Slots capacity free pending queue overflow where
  counted := by
    have hc := h.counted
    rw [List.length_cons] at hc
    omega
  full := h.full
  pending := h.pending

/-- An event gets into the queue with a slot that it brings along. -/
theorem bring (h : Slots capacity free pending queue overflow) (p : Posting) :
    Slots (capacity + 1) free pending (queue ++ [p]) overflow where
  counted := by
    have hc := h.counted
    rw [List.length_append, List.length_singleton]
    omega
  full := h.full
  pending := h.pending

/-- A slot is given back. -/
theorem release (h : Slots capacity free pending queue overflow) :
    Slots (capacity + 1) (free + spare overflow) pending queue (granted overflow) where
  counted := by
    have hc := h.counted
    have hs := spare_add_countP_granted overflow
    omega
  full d hd hw := by
    obtain ⟨hd, hs⟩ := waiting_of_mem_granted hd hw
    rw [h.full d hd hw, hs]
  pending := by rw [h.pending, length_granted]

section Removal

variable {d : Deferred} (hn : (overflow.map (·.id)).Nodup) (hd : d ∈ overflow)
include hn hd

theorem pending_of_drop (h : Slots capacity free pending queue overflow) :
    pending - 1 = (overflow.filter fun x => x.id != d.id).length := by
  have hlength := (perm_cons_filter hn hd).length_eq
  rw [List.length_cons] at hlength
  rw [h.pending, hlength, Nat.add_sub_cancel]

/-- A deferred event that has no slot is taken out. -/
theorem drop (h : Slots capacity free pending queue overflow) (hs : isGranted d = false) :
    Slots capacity free (pending - 1) queue (overflow.filter fun x => x.id != d.id) where
  counted := by
    have hcount := (perm_cons_filter hn hd).countP_eq isGranted
    rw [List.countP_cons_of_neg (by rw [hs]; exact Bool.false_ne_true)] at hcount
    rw [← hcount]
    exact h.counted
  full x hx := h.full x (List.mem_filter.1 hx).1
  pending := h.pending_of_drop hn hd

/-- A deferred event is taken out with the slot that was reserved for it. -/
theorem dropGranted (h : Slots (capacity + 1) free pending queue overflow)
    (hs : isGranted d = true) :
    Slots capacity free (pending - 1) queue (overflow.filter fun x => x.id != d.id) where
  counted := by
    have hcount := (perm_cons_filter hn hd).countP_eq isGranted
    rw [List.countP_cons_of_pos hs] at hcount
    have hc := h.counted
    omega
  full x hx := h.full x (List.mem_filter.1 hx).1
  pending := h.pending_of_drop hn hd

end Removal

end Slots

/-- The slots of a bus are in order. -/
def SlotsKept (b : Bus H) : Prop :=
  Slots b.config.bufferSize b.free b.pending b.queue b.overflow

/-- A bus has at least one slot. -/
theorem capacity_pos (b : Bus H) : 0 < b.config.bufferSize :=
  (DispatcherConfig.validate_eq_ok_iff.1 b.valid).1

/-- The slots of a bus are one and the others. -/
theorem capacity_eq (b : Bus H) : b.config.bufferSize = b.config.bufferSize - 1 + 1 :=
  (Nat.sub_add_cancel b.capacity_pos).symm

/-- **Every slot is free, taken or granted, and nobody waits for a slot while one is free.** -/
theorem Reached.slots {config : DispatcherConfig} {schedule : List (BusStep H)} {past : History H}
    {b : Bus H} (h : Reached config schedule past b) : SlotsKept b := by
  induction h with
  | new hb =>
    obtain ⟨hv, rfl⟩ := eq_of_new? hb
    exact ⟨rfl, fun _ hd => absurd hd List.not_mem_nil, rfl⟩
  | @step _ _ _ b _ _ hb ht ih =>
    have hn := hb.numbers.overflow.1
    have hone := b.capacity_eq
    unfold SlotsKept at ih
    cases ht with
    | enter _ hf => exact ih.take hf _
    | defer _ hf => exact ih.join hf rfl
    | receive _ _ hq =>
      rw [hq, hone] at ih
      show Slots b.config.bufferSize _ _ _ _
      rw [hone]
      exact ih.leave.release
    | enterFresh hd hs _ hf => exact (ih.take hf _).drop hn hd (by rw [isGranted, hs]; rfl)
    | @wait d hd hs _ hf =>
      have hdropped := ih.drop hn hd (by rw [isGranted, hs]; rfl)
      have hpos : 0 < b.pending := by
        rw [ih.pending]
        exact List.length_pos_of_mem hd
      have hjoined := hdropped.join hf (d := { d with stage := .waiting }) rfl
      rw [Nat.sub_add_cancel hpos] at hjoined
      exact hjoined
    | enterGranted hd hs =>
      rw [hone] at ih
      show Slots b.config.bufferSize _ _ _ _
      rw [hone]
      exact (ih.dropGranted hn hd (by rw [isGranted, hs]; rfl)).bring _
    | abandon hd hs => exact ih.drop hn hd (decide_eq_false hs)
    | abandonGranted hd hs =>
      rw [hone] at ih
      show Slots b.config.bufferSize _ _ _ _
      rw [hone]
      exact (ih.dropGranted hn hd (by rw [isGranted, hs]; rfl)).release
    | _ => exact ih

end Bus
end Switchboard
