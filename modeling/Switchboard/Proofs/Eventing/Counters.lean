import Switchboard.Proofs.Eventing.Delivery
import Switchboard.Proofs.Eventing.Records

/-!
# Counters

A bus can be asked how many slots of its queue are taken and how many events are deferred, and both
numbers can be read off its log as well: whenever there is no slot for an event, a record says how many
events are deferred now.  `counters` says that all of these numbers are right in every state that a bus
can get into.

The bus subtracts twice, free slots from all slots and one from the deferred events whenever one of
them ends, and neither subtraction goes below zero: there are never more free slots than slots
(`Reached.queued_add_free`), and whoever ends has been counted (`Reached.pending_of_ended`).

When neither a worker nor a deferred event can go on, a deferred event waits for a slot.  That takes a
bus that has not been closed and a queue without a free slot (`Reached.pending_at_rest`).
-/

namespace Switchboard

namespace Bus

variable {H : Type}

open History

variable {b c : Bus H} {s : BusStep H} {fx past : History H} {config : DispatcherConfig}
  {schedule : List (BusStep H)}

/-- A bus is made of exactly the settings within these bounds. -/
theorem exists_new?_iff (config : DispatcherConfig) :
    (∃ fresh : Bus H, new? config = .ok fresh) ↔
      1 ≤ config.bufferSize ∧ config.bufferSize ≤ maxCapacity ∧ 1 ≤ config.workers := by
  rw [← DispatcherConfig.validate_eq_ok_iff]
  constructor
  · rintro ⟨fresh, hf⟩
    obtain ⟨hv, -⟩ := eq_of_new? hf
    exact hv
  · intro hv
    rw [new?]
    split
    · exact ⟨_, rfl⟩
    · rename_i hv'
      exact absurd (hv.symm.trans hv') (by simp)

/-! ## Slots -/

/-- The slots that are not free are those of the queue and those that have been granted. -/
theorem Reached.queued_eq (h : Reached config schedule past b) :
    b.queued = b.queue.length + b.overflow.countP isGranted := by
  have hcounted := h.slots.counted
  rw [queued]
  omega

/-- There are no more free slots than slots. -/
theorem Reached.queued_add_free (h : Reached config schedule past b) :
    b.queued + b.free = config.bufferSize := by
  have hcounted := h.slots.counted
  rw [queued, ← h.config_eq]
  omega

/-! ## Deferred events -/

/-- What a step does to the deferred events: they remain the same ones, one joins them, or one of them
ends. -/
theorem Transition.overflow (hn : (b.overflow.map (·.id)).Nodup) (ht : Transition b s c fx) :
    (c.overflow.map (·.id)).Perm (b.overflow.map (·.id)) ∨
      (∃ d, c.overflow = b.overflow ++ [d]) ∨
        ∃ d ∈ b.overflow, (b.overflow.map (·.id)).Perm (d.id :: c.overflow.map (·.id)) := by
  have hdrop {d : Deferred} (hd : d ∈ b.overflow) :
      (b.overflow.map (·.id)).Perm
        (d.id :: (b.overflow.filter fun x => x.id != d.id).map (·.id)) :=
    (perm_cons_filter hn hd).map _
  cases ht with
  | defer => exact Or.inr (Or.inl ⟨_, rfl⟩)
  | receive =>
    refine Or.inl ?_
    show ((granted b.overflow).map (·.id)).Perm _
    rw [map_granted fun _ => rfl]
  | @wait d hd =>
    exact Or.inl (perm_filter_append (y := { d with stage := .waiting }) hn hd rfl).symm
  | enterFresh hd | enterGranted hd | abandon hd => exact Or.inr (Or.inr ⟨_, hd, hdrop hd⟩)
  | @abandonGranted d hd =>
    refine Or.inr (Or.inr ⟨d, hd, ?_⟩)
    show (b.overflow.map (·.id)).Perm
      (d.id :: (granted (b.overflow.filter fun x => x.id != d.id)).map (·.id))
    rw [map_granted fun _ => rfl]
    exact hdrop hd
  | _ => exact Or.inl (List.Perm.refl _)

/-- A deferred event that ends has been counted. -/
theorem Reached.pending_of_ended (h : Reached config schedule past b) (ht : Transition b s c fx)
    {d : Deferred} (hd : d ∈ b.overflow) (hended : d.id ∉ c.overflow.map (·.id)) :
    c.pending + 1 = b.pending := by
  have hid : d.id ∈ b.overflow.map (·.id) := List.mem_map_of_mem hd
  rcases ht.overflow h.numbers.overflow.1 with hsame | ⟨x, hjoin⟩ | ⟨x, -, hdrop⟩
  · exact absurd (hsame.mem_iff.2 hid) hended
  · rw [hjoin, List.map_append] at hended
    exact absurd (List.mem_append_left _ hid) hended
  · have hlength := hdrop.length_eq
    rw [List.length_cons, List.length_map, List.length_map] at hlength
    rw [h.slots.pending, (h.step ht).slots.pending, hlength]

/-- If neither a worker nor a deferred event can go on, then every deferred event waits for a slot of a
queue that has none, and nobody has closed the bus. -/
theorem Reached.pending_at_rest (h : Reached config schedule past b)
    (hd : ∀ id, b.step (.deferred id) = none) (hp : 0 < b.pending) :
    b.cancelled = false ∧ b.queued = config.bufferSize := by
  rw [h.slots.pending] at hp
  obtain ⟨d, hmem⟩ := List.exists_mem_of_length_pos hp
  have hk : b.cancelled = false := by
    by_contra hk
    have hstep : b.deferredStep d.id = none := hd d.id
    rw [deferredStep, find?_id_of_mem h.numbers.overflow.1 hmem] at hstep
    simp only [Bool.not_eq_false] at hk
    simp only [hk, if_true] at hstep
    exact absurd hstep (by simp)
  have hwaiting := of_deferredStep_eq_none h.refusing hk h.numbers.overflow.1 hmem (hd d.id)
  have hfree := h.slots.full d hmem hwaiting
  have hsum := h.queued_add_free
  exact ⟨hk, by omega⟩

/-! ## The record about a full queue -/

/-- The message about an event for which there is no slot. -/
def fullQueue : String :=
  "queue is full waiting for a slot"

/-- A call that has its turn writes what its stage says. -/
theorem written_call (hn : (b.calls.map (·.id)).Nodup) {id : Nat} {stage : CallStage H}
    (hc : ⟨id, stage⟩ ∈ b.calls) : b.written (.call id) = b.writtenByCall ⟨id, stage⟩ := by
  have hfind : b.calls.find? (fun x => x.id == id) = some ⟨id, stage⟩ := find?_id_of_mem hn hc
  rw [written, hfind, Option.toList_some, List.flatMap_singleton]

/-- An event that a call leaves to the bus enters the queue in silence if there is a free slot, and
otherwise it is deferred and written about; nothing else is written about a full queue. -/
theorem Reached.about_fullQueue (h : Reached config schedule past b)
    (hs : b.step s = some (c, fx)) :
    (∃ p d, .accepted p ∈ fx ∧ b.free = 0 ∧ c.overflow = b.overflow ++ [d] ∧ d.posting = p ∧
      about fullQueue fx = [.saturated p.event config.bufferSize c.overflow.length]) ∨
    (about fullQueue fx = [] ∧ ∀ p, .accepted p ∈ fx → 0 < b.free) := by
  have ht := transition_of_step h.refusing hs
  have hn := h.numbers.calls.1
  have hwritten : about fullQueue fx = about fullQueue (b.written s) := by
    rw [← about_records, records_of_step hs]
  have haccepted (p : Posting) : .accepted p ∈ fx ↔ .accepted p ∈ news fx := (mem_news rfl).symm
  have hopen : ¬ b.refusing = true := by rw [h.refusing]; exact Bool.false_ne_true
  simp only [haccepted]
  generalize news fx = gx at ht ⊢
  cases ht with
  | @defer id e hc hf =>
    refine Or.inl ⟨⟨id, e⟩, _, List.mem_cons_self, hf, rfl, rfl, ?_⟩
    rw [hwritten, written_call hn hc]
    show about fullQueue (b.writtenOnOffer e) = _
    rw [writtenOnOffer, if_neg hopen, if_neg (by omega), h.config_eq, h.slots.pending,
      List.length_append]
    rfl
  | @enter id e hc hf =>
    refine Or.inr ⟨?_, fun _ _ => hf⟩
    rw [hwritten, written_call hn hc]
    show about fullQueue (b.writtenOnOffer e) = _
    rw [writtenOnOffer, if_neg hopen, if_pos hf]
    rfl
  | subscribe hc | lookUp hc | invoke hc =>
    refine Or.inr ⟨?_, by simp⟩
    rw [hwritten, written_call hn hc]
    rfl
  | dispatch hc hk | skipDispatch hc hk =>
    refine Or.inr ⟨?_, by simp⟩
    rw [hwritten, written_call hn hc]
    exact about_writtenOnFanOut (by decide) ..
  | close => exact Or.inr ⟨about_of_step (by decide) (by simp [subjects]) hs, by split <;> simp⟩
  | _ => exact Or.inr ⟨about_of_step (by decide) (by simp [subjects, fullQueue]) hs, by simp⟩

/-! ## The main result -/

/-- **Counters are exact.** A bus is made of exactly the settings within the bounds.  In every state
that it can get into, the slots that are taken and the free ones are all slots, and as many events are
deferred as the counter says.  A step that ends a deferred event counts down from a number above zero.
A step writes that the queue is full if and only if an event is left to the bus which finds no free
slot, and then the record has the number of slots and the number of deferred events, this one
included.  When no deferred event can go on, there is none after cancellation, and before it there is
one only if no slot is free. -/
theorem counters :
    (∀ config : DispatcherConfig, (∃ fresh : Bus H, new? config = .ok fresh) ↔
      1 ≤ config.bufferSize ∧ config.bufferSize ≤ maxCapacity ∧ 1 ≤ config.workers) ∧
    ∀ {config : DispatcherConfig} {schedule : List (BusStep H)} {b : Bus H} {h : History H},
      Reaches config schedule b h →
        b.queued + b.free = config.bufferSize ∧
        b.queued = b.queue.length + b.overflow.countP isGranted ∧
        b.pending = b.overflow.length ∧
        (∀ s c fx, b.step s = some (c, fx) →
          (∀ d ∈ b.overflow, d.id ∉ c.overflow.map (·.id) → c.pending + 1 = b.pending) ∧
          ((∃ p d, .accepted p ∈ fx ∧ b.free = 0 ∧ c.overflow = b.overflow ++ [d] ∧ d.posting = p ∧
              about fullQueue fx = [.saturated p.event config.bufferSize c.overflow.length]) ∨
            (about fullQueue fx = [] ∧ ∀ p, .accepted p ∈ fx → 0 < b.free))) ∧
        ((∀ id, b.step (.deferred id) = none) →
          (0 < b.pending → b.cancelled = false ∧ b.queued = config.bufferSize) ∧
          (b.cancelled = true → b.pending = 0)) := by
  refine ⟨exists_new?_iff, fun hb => ?_⟩
  have hr := hb.reached
  refine ⟨hr.queued_add_free, hr.queued_eq, hr.slots.pending, fun s c fx hs => ⟨?_, ?_⟩,
    fun hd => ⟨hr.pending_at_rest hd, fun hk => ?_⟩⟩
  · exact fun d => hr.pending_of_ended (transition_of_step hr.refusing hs)
  · exact hr.about_fullQueue hs
  · by_contra hp
    have hopen := (hr.pending_at_rest hd (Nat.pos_of_ne_zero hp)).1
    exact absurd (hk.symm.trans hopen) (by simp)

/-- The queue has one slot, so the second event is deferred, which is written to the log.  Then it
waits, and no deferred event can go on. -/
theorem counters_of_a_full_queue :
    (∃ fresh : Bus Unit, new? smallest = .ok fresh) ∧
    ∃ (b c d : Bus Unit) (h k fx : History Unit),
      Reaches smallest [.publish (tick 1), .call 0, .call 0, .publish (tick 2), .call 1] b h ∧
      b.step (.call 1) = some (c, fx) ∧ b.queued + b.free = 1 ∧
      (∃ e, about fullQueue fx = [.saturated e 1 1]) ∧
      Reaches smallest [.publish (tick 1), .call 0, .call 0, .publish (tick 2), .call 1, .call 1,
        .deferred 2] d k ∧
      (∀ id, d.step (.deferred id) = none) ∧ d.cancelled = false ∧ d.queued = 1 := by
  refine ⟨(counters.1 smallest).2 (by decide), ?_⟩
  obtain ⟨b, c, h, fx, hb, hs, hfree, hlength, haccepted⟩ :
      ∃ (b c : Bus Unit) (h fx : History Unit),
        Reaches smallest [.publish (tick 1), .call 0, .call 0, .publish (tick 2), .call 1] b h ∧
        b.step (.call 1) = some (c, fx) ∧ b.free = 0 ∧ c.overflow.length = 1 ∧
        .accepted ⟨1, tick 2⟩ ∈ fx :=
    ⟨_, _, _, _, ⟨_, rfl, rfl⟩, rfl, rfl, rfl, List.mem_cons_self⟩
  obtain ⟨d, k, hd, hwaiting, hopen, hlasting, hpending⟩ : ∃ (d : Bus Unit) (k : History Unit),
      Reaches smallest [.publish (tick 1), .call 0, .call 0, .publish (tick 2), .call 1, .call 1,
        .deferred 2] d k ∧ d.overflow = [⟨2, ⟨1, tick 2⟩, .waiting⟩] ∧ d.cancelled = false ∧
        d.refusing = false ∧ d.pending = 1 :=
    ⟨_, _, ⟨_, rfl, rfl⟩, rfl, rfl, rfl, rfl⟩
  have hrest (id : Nat) : d.step (.deferred id) = none := by
    show d.deferredStep id = none
    rw [deferredStep, hwaiting, hopen, hlasting]
    by_cases hid : 2 = id
    · subst hid
      rfl
    · rw [List.find?_cons_of_neg (by simpa using hid)]
      rfl
  obtain ⟨hsum, -, -, hsteps, -⟩ := counters.2 hb
  obtain ⟨-, -, -, -, hquiet⟩ := counters.2 hd
  obtain ⟨hopen, hfull⟩ := (hquiet hrest).1 (by omega)
  refine ⟨b, c, d, h, k, fx, hb, hs, hsum, ?_, hd, hrest, hopen, hfull⟩
  rcases (hsteps _ _ _ hs).2 with ⟨p, -, -, -, -, -, habout⟩ | ⟨-, hroom⟩
  · rw [hlength] at habout
    exact ⟨p.event, habout⟩
  · have hslot := hroom _ haccepted
    omega

end Bus
end Switchboard
