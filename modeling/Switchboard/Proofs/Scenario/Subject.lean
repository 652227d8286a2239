import Switchboard.Proofs.Eventing.Records
import Switchboard.Proofs.Scenario.BusStep

/-!
# The records on one subject

The parts of an application may share a logger, and whoever wants to know what one of them has written
looks for the records with a certain message, the *subject*.  What the others write does not get in the
way as long as their messages are different, and those of buses are known (`Bus.messages`).
-/

namespace Switchboard
namespace Application

variable {H : Type}

/-- A logger of an application keeps its records, with a level in force, and has these records on a
subject. -/
def Logs (a : Application H) (i : Nat) (level : Level) (subject : String) (kept : List LogRecord) :
    Prop :=
  ∃ log, a.loggers[i]? = some (.memory log) ∧ log.level = level ∧
    (log.records.filter fun r => r.message == subject) = kept

variable {a : Application H} {i : Nat} {level : Level} {subject : String} {kept : List LogRecord}

/-- Whoever leaves the loggers alone leaves the records alone. -/
theorem Logs.of_eq (h : Logs a i level subject kept) {c : Application H}
    (hc : c.loggers = a.loggers) : Logs c i level subject kept := by
  rw [Logs, hc]
  exact h

/-- A record with another message is not one on the subject, whichever logger it is written to. -/
theorem Logs.write_of_ne (h : Logs a i level subject kept) (j : Nat) (l : Level) {message : String}
    (hm : message ≠ subject) (data : Json) : Logs (a.write j l message data) i level subject kept := by
  obtain ⟨log, hi, hlevel, hkept⟩ := h
  rw [write]
  split
  · exact ⟨log, hi, hlevel, hkept⟩
  · rename_i other hj
    by_cases hij : j = i
    · obtain rfl := hij
      obtain rfl := Option.some.inj (hi.symm.trans hj)
      have hlt : j < a.loggers.length := (List.getElem?_eq_some_iff.1 hi).1
      refine ⟨log.write l message data, List.getElem?_set_self hlt, ?_, ?_⟩
      · rw [MemoryLog.write]
        split <;> exact hlevel
      · rw [MemoryLog.write]
        split
        · exact hkept
        · have hnone : ([⟨l, message, data⟩] : List LogRecord).filter
              (fun r => r.message == subject) = [] :=
            List.filter_cons_of_neg fun heq => hm (beq_iff_eq.1 heq)
          rw [List.filter_append, hkept, hnone, List.append_nil]
    · exact ⟨log, (List.getElem?_set_ne hij).trans hi, hlevel, hkept⟩

/-- A record on the subject is kept behind the others, if its level is not too low. -/
theorem Logs.write_subject (h : Logs a i level subject kept) {l : Level}
    (hl : (l < Level.error && l < level) = false) (data : Json) :
    Logs (a.write i l subject data) i level subject (kept ++ [⟨l, subject, data⟩]) := by
  obtain ⟨log, hi, rfl, hkept⟩ := h
  have hlt : i < a.loggers.length := (List.getElem?_eq_some_iff.1 hi).1
  rw [write, hi]
  refine ⟨log.write l subject data, List.getElem?_set_self hlt, ?_, ?_⟩
  · rw [MemoryLog.write]
    split <;> rfl
  · have hkeep : ¬log.drops l = true := by
      rw [MemoryLog.drops, hl]
      exact Bool.false_ne_true
    rw [MemoryLog.write, if_neg hkeep, List.filter_append, hkept]
    exact congrArg _ (List.filter_cons_of_pos (beq_self_eq_true subject))

/-- What is written about effects is on the subject only if they have records on it. -/
theorem Logs.transcribe (h : Logs a i level subject kept) (j : Nat) {effects : List (Effect H)}
    (he : ∀ l m d, .log l m d ∈ effects → m ≠ subject) :
    Logs (a.transcribe j effects) i level subject kept := by
  induction effects generalizing a with
  | nil => exact h
  | cons x rest ih =>
    have hrest : ∀ l m d, .log l m d ∈ rest → m ≠ subject := fun l m d hx =>
      he l m d (List.mem_cons_of_mem _ hx)
    cases x with
    | log l m d => exact ih (h.write_of_ne j l (he l m d List.mem_cons_self) d) hrest
    | _ => exact ih h hrest

/-- What a bus writes is on other subjects. -/
theorem Logs.transcribe_step (h : Logs a i level subject kept) (hs : subject ∉ Bus.messages) (j : Nat)
    {b c : Bus H} {s : BusStep H} {effects : History H} (hstep : b.step s = some (c, effects)) :
    Logs (a.transcribe j effects) i level subject kept :=
  h.transcribe j fun _ _ _ hx heq => hs (heq ▸ Bus.message_of_step hstep hx)

end Application
end Switchboard
