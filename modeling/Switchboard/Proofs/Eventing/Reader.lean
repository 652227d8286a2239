import Switchboard.Proofs.Eventing.Lifecycle

/-!
# The reader and the line

Workers read from the queue one at a time.  The place of the reader is held by the worker that
reads, or by the first of the line that has yet to find out; whoever is in line is in the line, and
nobody else is (`Reading`).  Above all, if the place is free then nobody is in line, so no worker
waits for a place that nobody is going to leave.
-/

namespace Switchboard

namespace Bus

variable {H : Type}

open History

/-- Workers, the place of the reader and the line agree. -/
structure Reading (crew : List WorkerState) (holder : Option Nat) (line : List Nat) : Prop where
  holder_of_reading : ∀ i, crew[i]? = some .reading → holder = some i
  present_of_holder : ∀ i, holder = some i → crew[i]? = some .reading ∨ crew[i]? = some .inLine
  mem_of_inLine : ∀ i, crew[i]? = some .inLine → holder = some i ∨ i ∈ line
  inLine_of_mem : ∀ i ∈ line, crew[i]? = some .inLine ∧ holder ≠ some i
  nodup : line.Nodup
  empty_of_free : holder = none → line = []

/-- The states of workers after one of them has changed. -/
theorem getElem?_set_of_some {crew : List WorkerState} {i : Nat} {v : WorkerState}
    (hv : crew[i]? = some v) (w : WorkerState) (j : Nat) :
    (crew.set i w)[j]? = if i = j then some w else crew[j]? := by
  obtain ⟨hi, -⟩ := List.getElem?_eq_some_iff.1 hv
  rw [List.getElem?_set]
  by_cases hij : i = j
  · rw [if_pos hij, if_pos hij, if_pos hi]
  · rw [if_neg hij, if_neg hij]

namespace Reading

variable {crew : List WorkerState} {holder : Option Nat} {line : List Nat} {i : Nat}

/-- A worker that is neither the reader nor in line changes to a state of which the same can be
said. -/
theorem elsewhere (h : Reading crew holder line) {v w : WorkerState} (hi : crew[i]? = some v)
    (hv : v ≠ .reading ∧ v ≠ .inLine) (hw : w ≠ .reading ∧ w ≠ .inLine) :
    Reading (crew.set i w) holder line := by
  have hholder : holder ≠ some i := by
    intro hh
    rcases h.present_of_holder i hh with hr | hr <;> rw [hi] at hr
    · exact hv.1 (Option.some.inj hr)
    · exact hv.2 (Option.some.inj hr)
  refine ⟨fun j hj => ?_, fun j hj => ?_, fun j hj => ?_, fun j hj => ?_, h.nodup, h.empty_of_free⟩
  · rw [getElem?_set_of_some hi] at hj
    split at hj
    · exact absurd (Option.some.inj hj) hw.1
    · exact h.holder_of_reading j hj
  · rw [getElem?_set_of_some hi, if_neg (by rintro rfl; exact hholder hj)]
    exact h.present_of_holder j hj
  · rw [getElem?_set_of_some hi] at hj
    split at hj
    · exact absurd (Option.some.inj hj) hw.2
    · exact h.mem_of_inLine j hj
  · obtain ⟨hl, hh⟩ := h.inLine_of_mem j hj
    refine ⟨?_, hh⟩
    rw [getElem?_set_of_some hi, if_neg ?_]
    · exact hl
    · rintro rfl
      rw [hi] at hl
      exact hv.2 (Option.some.inj hl)

/-- A worker takes the free place of the reader. -/
theorem takeReader (h : Reading crew none line) (hi : crew[i]? = some .ready) :
    Reading (crew.set i .reading) (some i) line := by
  have hline : line = [] := h.empty_of_free rfl
  subst hline
  refine ⟨fun j hj => ?_, fun j hj => ?_, fun j hj => ?_, fun j hj => absurd hj List.not_mem_nil,
    h.nodup, fun hn => absurd hn (by simp)⟩
  · rw [getElem?_set_of_some hi] at hj
    split at hj
    · rename_i hij
      rw [hij]
    · exact absurd (h.holder_of_reading j hj) (by simp)
  · rw [getElem?_set_of_some hi, if_pos (Option.some.inj hj)]
    exact Or.inl rfl
  · rw [getElem?_set_of_some hi] at hj
    split at hj
    · exact absurd (Option.some.inj hj) (by simp)
    · rcases h.mem_of_inLine j hj with hh | hh
      · exact absurd hh (by simp)
      · exact absurd hh List.not_mem_nil

/-- A worker stands in line. -/
theorem lineUp (h : Reading crew holder line) (hi : crew[i]? = some .ready) (hh : holder ≠ none) :
    Reading (crew.set i .inLine) holder (line ++ [i]) := by
  have hholder : holder ≠ some i := by
    intro hh
    rcases h.present_of_holder i hh with hr | hr <;>
      (rw [hi] at hr; exact absurd (Option.some.inj hr) (by simp))
  have hnot : i ∉ line := by
    intro hmem
    have hl := (h.inLine_of_mem i hmem).1
    rw [hi] at hl
    exact absurd (Option.some.inj hl) (by simp)
  refine ⟨fun j hj => ?_, fun j hj => ?_, fun j hj => ?_, fun j hj => ?_, ?_,
    fun hn => absurd hn hh⟩
  · rw [getElem?_set_of_some hi] at hj
    split at hj
    · exact absurd (Option.some.inj hj) (by simp)
    · exact h.holder_of_reading j hj
  · rw [getElem?_set_of_some hi, if_neg (by rintro rfl; exact hholder hj)]
    exact h.present_of_holder j hj
  · rw [getElem?_set_of_some hi] at hj
    split at hj
    · rename_i hij
      exact Or.inr (hij ▸ List.mem_append_right _ (List.mem_singleton_self i))
    · exact (h.mem_of_inLine j hj).imp_right (List.mem_append_left _)
  · rw [getElem?_set_of_some hi]
    rcases List.mem_append.1 hj with hj | hj
    · rw [if_neg (by rintro rfl; exact hnot hj)]
      exact h.inLine_of_mem j hj
    · obtain rfl := List.mem_singleton.1 hj
      rw [if_pos rfl]
      exact ⟨rfl, hholder⟩
  · exact List.nodup_append.2 ⟨h.nodup, List.pairwise_singleton _ i, fun j hj k hk => by
      rintro rfl
      exact hnot (List.mem_singleton.1 hk ▸ hj)⟩

/-- The first of the line finds out that the place of the reader is its own. -/
theorem becomeReader (h : Reading crew (some i) line) (hi : crew[i]? = some .inLine) :
    Reading (crew.set i .reading) (some i) line := by
  refine ⟨fun j hj => ?_, fun j hj => ?_, fun j hj => ?_, fun j hj => ?_, h.nodup, h.empty_of_free⟩
  · rw [getElem?_set_of_some hi] at hj
    split at hj
    · rename_i hij
      rw [hij]
    · exact h.holder_of_reading j hj
  · rw [getElem?_set_of_some hi, if_pos (Option.some.inj hj)]
    exact Or.inl rfl
  · rw [getElem?_set_of_some hi] at hj
    split at hj
    · exact absurd (Option.some.inj hj) (by simp)
    · exact h.mem_of_inLine j hj
  · obtain ⟨hl, hh⟩ := h.inLine_of_mem j hj
    rw [getElem?_set_of_some hi, if_neg (by rintro rfl; exact hh rfl)]
    exact ⟨hl, hh⟩

/-- Whoever has the place of the reader leaves it to the next in line. -/
theorem release (h : Reading crew (some i) line) {w : WorkerState}
    (hw : w ≠ .reading ∧ w ≠ .inLine) : Reading (crew.set i w) line.head? line.tail := by
  obtain ⟨v, hi⟩ : ∃ v, crew[i]? = some v := by
    rcases h.present_of_holder i rfl with hr | hr <;> exact ⟨_, hr⟩
  have hset (j : Nat) (hj : j ∈ line) : (crew.set i w)[j]? = some .inLine := by
    obtain ⟨hl, hh⟩ := h.inLine_of_mem j hj
    rw [getElem?_set_of_some hi, if_neg (by rintro rfl; exact hh rfl)]
    exact hl
  refine ⟨fun j hj => ?_, fun j hj => ?_, fun j hj => ?_, fun j hj => ?_,
    h.nodup.sublist (List.tail_sublist _), fun hn => ?_⟩
  · rw [getElem?_set_of_some hi] at hj
    split at hj
    · exact absurd (Option.some.inj hj) hw.1
    · rename_i hij
      exact absurd (Option.some.inj (h.holder_of_reading j hj)) hij
  · exact Or.inr (hset j (List.mem_of_mem_head? hj))
  · rw [getElem?_set_of_some hi] at hj
    split at hj
    · exact absurd (Option.some.inj hj) hw.2
    · rename_i hij
      have hmem := (h.mem_of_inLine j hj).resolve_left fun hh => hij (Option.some.inj hh)
      cases line with
      | nil => exact absurd hmem List.not_mem_nil
      | cons k rest => exact (List.mem_cons.1 hmem).imp_left fun hk => congrArg some hk.symm
  · refine ⟨hset j (List.mem_of_mem_tail hj), fun hh => ?_⟩
    cases line with
    | nil => exact absurd hj List.not_mem_nil
    | cons k rest =>
      obtain rfl : k = j := Option.some.inj hh
      exact (List.nodup_cons.1 h.nodup).1 hj
  · rw [List.head?_eq_none_iff.1 hn, List.tail_nil]

/-- A worker leaves the line before it is its turn. -/
theorem leaveLine (h : Reading crew holder line) (hi : crew[i]? = some .inLine)
    (hh : holder ≠ some i) {w : WorkerState} (hw : w ≠ .reading ∧ w ≠ .inLine) :
    Reading (crew.set i w) holder (line.filter fun j => j != i) := by
  refine ⟨fun j hj => ?_, fun j hj => ?_, fun j hj => ?_, fun j hj => ?_, h.nodup.filter _,
    fun hn => ?_⟩
  · rw [getElem?_set_of_some hi] at hj
    split at hj
    · exact absurd (Option.some.inj hj) hw.1
    · exact h.holder_of_reading j hj
  · rw [getElem?_set_of_some hi, if_neg (by rintro rfl; exact hh hj)]
    exact h.present_of_holder j hj
  · rw [getElem?_set_of_some hi] at hj
    split at hj
    · exact absurd (Option.some.inj hj) hw.2
    · rename_i hij
      exact (h.mem_of_inLine j hj).imp_right fun hmem =>
        List.mem_filter.2 ⟨hmem, bne_iff_ne.2 fun heq => hij heq.symm⟩
  · obtain ⟨hmem, hne⟩ := List.mem_filter.1 hj
    rw [getElem?_set_of_some hi, if_neg fun heq => bne_iff_ne.1 hne heq.symm]
    exact h.inLine_of_mem j hmem
  · rw [h.empty_of_free hn, List.filter_nil]

end Reading

/-- The reader and the line of a bus are in order. -/
def ReadingKept (b : Bus H) : Prop :=
  Reading b.crew b.holder b.line

/-- Workers that have just been started neither read nor stand in line. -/
theorem reading_replicate (n : Nat) : Reading (List.replicate n .ready) none [] := by
  have hready (i : Nat) (w : WorkerState) (hw : (List.replicate n WorkerState.ready)[i]? = some w) :
      w = .ready :=
    List.eq_of_mem_replicate (List.mem_of_getElem? hw)
  exact ⟨fun i hi => absurd (hready i _ hi) (by simp), fun i hi => absurd hi (by simp),
    fun i hi => absurd (hready i _ hi) (by simp), fun i hi => absurd hi List.not_mem_nil,
    List.nodup_nil, fun _ => rfl⟩

/-- **The reader and the line are in order in every state that a bus can get into.** -/
theorem Reached.reading {config : DispatcherConfig} {schedule : List (BusStep H)} {past : History H}
    {b : Bus H} (h : Reached config schedule past b) : ReadingKept b := by
  induction h with
  | new hb =>
    obtain ⟨hv, rfl⟩ := eq_of_new? hb
    exact reading_replicate 0
  | @step _ _ _ b _ _ hb ht ih =>
    unfold ReadingKept at ih
    cases ht with
    | collect hp =>
      -- There were no workers before, so the place of the reader was free.
      rw [hb.life.unmanned hp] at ih
      have hholder : b.holder = none := Option.eq_none_iff_forall_ne_some.2 fun i hi => by
        rcases ih.present_of_holder i hi with hr | hr <;> exact absurd hr (by simp)
      show Reading _ b.holder b.line
      rw [ih.empty_of_free hholder, hholder]
      exact reading_replicate _
    | takeReader hw _ hh =>
      rw [hh] at ih
      exact ih.takeReader hw
    | lineUp hw _ hh => exact ih.lineUp hw (by rw [hh]; simp)
    | becomeReader hw _ hh =>
      rw [hh] at ih
      show Reading _ b.holder _
      rw [hh]
      exact ih.becomeReader hw
    | receive hw =>
      rw [ih.holder_of_reading _ hw] at ih
      exact ih.release (by simp)
    | fanOut hw | skipFanOut hw | stop hw => exact ih.elsewhere hw (by simp) (by simp)
    | stopReader hw =>
      rw [hw.elim (ih.holder_of_reading _) And.right] at ih
      exact ih.release (by simp)
    | stopInLine hw hh => exact ih.leaveLine hw hh (by simp)
    | _ => exact ih

end Bus
end Switchboard
