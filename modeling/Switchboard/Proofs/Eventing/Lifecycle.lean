import Switchboard.Proofs.Eventing.Reached

/-!
# The life of a bus

A bus has no workers before they are started and its full number of them afterwards, and none of
them stops before cancellation has begun (`Life`).  What the schedule and the history say about the
life of a bus is what the state says: cancellation has begun if and only if there has been a call to
close (`Reached.cancelled_iff_close_mem`), and if and only if the history says so
(`Reached.cancelled_iff_mem`).
-/

namespace Switchboard

theorem Phase.begunClosing_eq (p : Phase) :
    p.begunClosing = .closing ∨ p.begunClosing = .closed := by
  cases p <;> simp [begunClosing]

namespace Bus

variable {H : Type}

open History

/-- The phase of a bus, its cancellation and its workers agree. -/
structure Life (workers : Nat) (phase : Phase) (cancelled : Bool) (crew : List WorkerState) :
    Prop where
  unmanned : phase = .constructed → crew = []
  manned : phase = .collecting → crew.length = workers
  whole : crew = [] ∨ crew.length = workers
  cancelled_iff : cancelled = true ↔ phase = .closing ∨ phase = .closed
  alive : cancelled = false → ∀ w ∈ crew, w ≠ .stopped

namespace Life

variable {workers : Nat} {phase : Phase} {cancelled : Bool} {crew : List WorkerState}

/-- A worker may change its state, if it does not stop before cancellation has begun. -/
theorem set (h : Life workers phase cancelled crew) {i : Nat} {v w : WorkerState}
    (hv : crew[i]? = some v) (hw : cancelled = false → w ≠ .stopped) :
    Life workers phase cancelled (crew.set i w) where
  unmanned hp := by
    rw [h.unmanned hp] at hv
    exact absurd hv (by simp)
  manned hp := by rw [List.length_set, h.manned hp]
  whole := by
    rw [List.length_set]
    rcases h.whole with hc | hc
    · rw [hc] at hv
      exact absurd hv (by simp)
    · exact Or.inr hc
  cancelled_iff := h.cancelled_iff
  alive hk x hx := by
    rcases List.mem_or_eq_of_mem_set hx with hx | rfl
    · exact h.alive hk x hx
    · exact hw hk

/-- Closing goes on or ends. -/
theorem close (h : Life workers phase cancelled crew) {later : Phase}
    (hl : later = .closing ∨ later = .closed) : Life workers later true crew where
  unmanned hp := by rcases hl with rfl | rfl <;> exact absurd hp (by simp)
  manned hp := by rcases hl with rfl | rfl <;> exact absurd hp (by simp)
  whole := h.whole
  cancelled_iff := ⟨fun _ => hl, fun _ => rfl⟩
  alive hk := Bool.noConfusion hk

/-- The workers are started. -/
theorem start (h : Life workers .constructed cancelled crew) :
    Life workers .collecting cancelled (List.replicate workers .ready) where
  unmanned hp := absurd hp (by simp)
  manned _ := List.length_replicate
  whole := Or.inr List.length_replicate
  cancelled_iff := by
    rw [h.cancelled_iff]
    simp
  alive _ w hw := by
    rw [List.eq_of_mem_replicate hw]
    simp

end Life

/-- The life of a bus is in order. -/
def LifeKept (b : Bus H) : Prop :=
  Life b.config.workers b.phase b.cancelled b.crew

variable {config : DispatcherConfig} {schedule : List (BusStep H)} {past : History H} {b : Bus H}

theorem relieve_nil (idle : Bool) : relieve idle [] = [] := by
  cases idle <;> rfl

/-- Nobody closes a bus before cancellation has begun. -/
theorem Reached.closers_eq_nil (h : Reached config schedule past b) (hk : b.cancelled = false) :
    b.closers = [] := by
  induction h with
  | new hb =>
    obtain ⟨hv, rfl⟩ := eq_of_new? hb
    rfl
  | @step _ _ _ b _ _ hb ht ih =>
    cases ht with
    | close => exact Bool.noConfusion hk
    | abandonClose =>
      show b.closers.filter _ = []
      rw [ih hk, List.filter_nil]
    | awaitTasks hc | closed hc =>
      rw [ih hk] at hc
      exact absurd hc List.not_mem_nil
    | enterFresh | enterGranted | abandon | abandonGranted | finish =>
      show relieve _ b.closers = []
      rw [ih hk, relieve_nil]
    | _ => exact ih hk

/-- **The phase of a bus, its cancellation and its workers agree.** -/
theorem Reached.life (h : Reached config schedule past b) : LifeKept b := by
  induction h with
  | new hb =>
    obtain ⟨hv, rfl⟩ := eq_of_new? hb
    exact ⟨fun _ => rfl, fun hp => absurd hp (by simp), Or.inl rfl, by simp, fun _ _ hw =>
      absurd hw List.not_mem_nil⟩
  | @step _ _ _ b _ _ hb ht ih =>
    unfold LifeKept at ih
    cases ht with
    | collect hp =>
      rw [hp] at ih
      exact ih.start
    | close => exact ih.close b.phase.begunClosing_eq
    | closed hc =>
      have hk : b.cancelled = true := by
        cases hk : b.cancelled with
        | true => rfl
        | false =>
          rw [hb.closers_eq_nil hk] at hc
          exact absurd hc List.not_mem_nil
      have hclosed := ih.close (Or.inr rfl)
      rw [← hk] at hclosed
      exact hclosed
    | takeReader hw | lineUp hw | becomeReader hw | receive hw | fanOut hw | skipFanOut hw =>
      exact ih.set hw fun _ => by simp
    | stop hw hk | stopInLine hw _ hk =>
      exact ih.set hw fun hf => absurd (hk.symm.trans hf) (by simp)
    | stopReader hw hk =>
      rcases hw with hw | ⟨hw, -⟩ <;> exact ih.set hw fun hf => absurd (hk.symm.trans hf) (by simp)
    | _ => exact ih

/-! ## What the schedule and the history say -/

/-- Cancellation has begun if and only if there has been a call to close. -/
theorem Reached.cancelled_iff_close_mem (h : Reached config schedule past b) :
    b.cancelled = true ↔ .close ∈ schedule := by
  induction h with
  | new hb =>
    obtain ⟨hv, rfl⟩ := eq_of_new? hb
    simp
  | @step _ _ _ b _ s hb ht ih =>
    rw [List.mem_append, List.mem_singleton, ← ih]
    cases ht with
    | close => simp
    | _ => exact (or_iff_left (by simp)).symm

/-- Nothing is cancelled as long as there has been no call to close. -/
theorem Reached.not_cancelled (h : Reached config schedule past b) (hn : .close ∉ schedule) :
    b.cancelled = false := by
  rw [Bool.eq_false_iff, Ne, h.cancelled_iff_close_mem]
  exact hn

/-- Cancellation has begun if and only if the history says so. -/
theorem Reached.cancelled_iff_mem (h : Reached config schedule past b) :
    b.cancelled = true ↔ .cancelled ∈ past := by
  induction h with
  | new hb =>
    obtain ⟨hv, rfl⟩ := eq_of_new? hb
    simp
  | @step _ past _ b _ s hb ht ih =>
    rw [List.mem_append, ← ih]
    cases ht with
    | close =>
      cases hk : b.cancelled <;> simp
    | _ => exact (or_iff_left (by simp)).symm

/-- Once there has been a call to start the workers inside a runtime, they have been started, or the
bus has begun to close before. -/
theorem Reached.phase_ne_constructed (h : Reached config schedule past b)
    (hc : .collect true ∈ schedule) : b.phase ≠ .constructed := by
  induction h with
  | new => exact absurd hc List.not_mem_nil
  | @step _ _ _ b _ s hb ht ih =>
    rw [List.mem_append, List.mem_singleton] at hc
    cases ht with
    | collect => exact fun hp => absurd hp (by simp)
    | collectIgnored hp => exact hp
    | close =>
      intro h
      rcases b.phase.begunClosing_eq with hp | hp <;> exact absurd (hp.symm.trans h) (by simp)
    | closed => exact fun hp => absurd hp (by simp)
    | _ => exact ih (hc.resolve_right (by simp))

end Bus
end Switchboard
