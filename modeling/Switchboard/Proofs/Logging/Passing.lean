import Mathlib.Data.List.DropRight
import Mathlib.Data.List.Forall2
import Mathlib.Data.List.Infix
import Switchboard.Logging.Memory
import Switchboard.Logging.Tracing

/-!
# What both logs let through

The memory log says which records it drops and the tracing log which it lets pass, each in its own words,
and the level in force may change between any two calls.  Both let a record pass if it is an error or
worse, or if it is at least as severe as the level that was put in force last (`LogCall.passes?`).

So the calls alone decide what is kept and what is traced.  `LogCall.timeline` sets next to each call
those before it, from which the level in force can be told, and the records of the memory log as well as
the lines of the tracing log are read off it.  What a program has seen a memory log keep is therefore what
a tracing log in its place would have passed on: `same_records_pass`.
-/

namespace Switchboard

/-! ## Calls -/

/-- A call of a log. -/
inductive LogCall where
  | write (level : Level) (message : String) (data : Json)
  | setLevel (level : Level)
  /-- Forget all records; only a memory log has any. -/
  | clear

namespace LogCall

/-- Whether all records are to be forgotten. -/
def isClear : LogCall → Bool
  | clear => true
  | _ => false

/-- The level that a call puts in force. -/
def newLevel? : LogCall → Option Level
  | setLevel level => some level
  | _ => none

/-- The level in force after some calls, `start` being that before them. -/
def levelAfter (start : Level) (calls : List LogCall) : Level :=
  (calls.filterMap newLevel?).getLast?.getD start

/-- The record of a call, if it passes while `level` is in force. -/
def passes? (level : Level) : LogCall → Option LogRecord
  | write l message data =>
    if Level.error ≤ l ∨ level ≤ l then some ⟨l, message, data⟩ else none
  | _ => none

/-- The calls, each with those before it. -/
def timeline (calls : List LogCall) : List (List LogCall × LogCall) :=
  calls.inits.zip calls

/-- The record of a call on a timeline, if it passes the level in force at that time. -/
def recordAt? (start : Level) (c : List LogCall × LogCall) : Option LogRecord :=
  c.2.passes? (levelAfter start c.1)

/-- The records that pass, in order. -/
def passing (start : Level) (calls : List LogCall) : List LogRecord :=
  (timeline calls).filterMap (recordAt? start)

/-- The records that pass and have not been forgotten, in order. -/
def remaining (start : Level) (calls : List LogCall) : List LogRecord :=
  ((timeline calls).rtakeWhile fun c => !c.2.isClear).filterMap (recordAt? start)

variable {start level : Level} {calls : List LogCall} {c : LogCall}

theorem eq_clear (h : c.isClear = true) : c = .clear := by
  cases c with
  | clear => rfl
  | _ => exact absurd h Bool.noConfusion

theorem levelAfter_concat (start : Level) (calls : List LogCall) (c : LogCall) :
    levelAfter start (calls ++ [c]) = c.newLevel?.getD (levelAfter start calls) := by
  rw [levelAfter, List.filterMap_append]
  cases c with
  | setLevel level => simp [newLevel?]
  | _ => simp [newLevel?, levelAfter]

/-- The last beginning of a list is the list. -/
theorem exists_inits_eq (calls : List LogCall) :
    ∃ front, calls.inits = front ++ [calls] ∧ front.length = calls.length := by
  rcases List.eq_nil_or_concat calls with rfl | ⟨before, c, rfl⟩
  · exact ⟨[], rfl, rfl⟩
  · refine ⟨before.inits, ?_, ?_⟩
    · rw [List.concat_eq_append, List.inits_append]
      rfl
    · rw [List.length_inits, List.length_concat]

theorem timeline_concat (calls : List LogCall) (c : LogCall) :
    timeline (calls ++ [c]) = timeline calls ++ [(calls, c)] := by
  obtain ⟨front, hfront, hlength⟩ := exists_inits_eq calls
  have hinits : (calls ++ [c]).inits = (front ++ [calls]) ++ [calls ++ [c]] := by
    rw [← hfront, List.inits_append]
    rfl
  have hbefore : timeline calls = front.zip calls := by
    rw [timeline, hfront, ← List.append_nil calls, List.zip_append hlength]
    simp
  rw [timeline, hinits, hbefore, ← List.append_nil (calls ++ [c]), List.zip_append (by simp [hlength]),
    List.zip_append hlength]
  simp

/-- What is read off the last call of a timeline. -/
theorem filterMap_recordAt?_singleton (start : Level) (calls : List LogCall) (c : LogCall) :
    [(calls, c)].filterMap (recordAt? start) = (c.passes? (levelAfter start calls)).toList := by
  rw [List.filterMap_cons, recordAt?]
  cases c.passes? (levelAfter start calls) <;> rfl

theorem passing_concat (start : Level) (calls : List LogCall) (c : LogCall) :
    passing start (calls ++ [c]) =
      passing start calls ++ (c.passes? (levelAfter start calls)).toList := by
  rw [passing, timeline_concat, List.filterMap_append, filterMap_recordAt?_singleton, passing]

theorem remaining_concat (start : Level) (calls : List LogCall) (c : LogCall) :
    remaining start (calls ++ [c]) =
      if c.isClear then [] else remaining start calls ++ (c.passes? (levelAfter start calls)).toList := by
  rw [remaining, timeline_concat, List.rtakeWhile_concat]
  cases c.isClear with
  | true => rfl
  | false =>
    show List.filterMap _ (_ ++ [(calls, c)]) = remaining start calls ++ _
    rw [List.filterMap_append, filterMap_recordAt?_singleton, remaining]

end LogCall

/-! ## The memory log -/

namespace MemoryLog

/-- Act on a call. -/
def act (log : MemoryLog) : LogCall → MemoryLog
  | .write l message data => log.write l message data
  | .setLevel level => log.setLevel level
  | .clear => log.clear

/-- Act on calls, one after the other. -/
def run (log : MemoryLog) (calls : List LogCall) : MemoryLog :=
  calls.foldl act log

variable {log : MemoryLog} {start : Level} {calls : List LogCall}

theorem run_concat (log : MemoryLog) (calls : List LogCall) (c : LogCall) :
    log.run (calls ++ [c]) = (log.run calls).act c :=
  List.foldl_concat ..

/-- What is not dropped is an error or as severe as the level in force. -/
theorem drops_eq_false_iff {l : Level} : log.drops l = false ↔ Level.error ≤ l ∨ log.level ≤ l := by
  rw [drops, Bool.and_eq_false_iff, decide_eq_false_iff_not, decide_eq_false_iff_not]
  exact or_congr Nat.not_lt Nat.not_lt

theorem level_act (log : MemoryLog) (c : LogCall) : (log.act c).level = c.newLevel?.getD log.level := by
  cases c with
  | write l message data =>
    rw [act, write]
    split <;> rfl
  | _ => rfl

theorem records_act (log : MemoryLog) (c : LogCall) :
    (log.act c).records = if c.isClear then [] else log.records ++ (c.passes? log.level).toList := by
  cases c with
  | write l message data =>
    rw [act, write, LogCall.passes?]
    cases hdrops : log.drops l with
    | true =>
      have hnot : ¬(Level.error ≤ l ∨ log.level ≤ l) :=
        fun h => absurd (hdrops.symm.trans (drops_eq_false_iff.2 h)) Bool.noConfusion
      rw [if_pos rfl, if_neg hnot]
      exact (List.append_nil _).symm
    | false =>
      rw [if_neg Bool.false_ne_true, if_pos (drops_eq_false_iff.1 hdrops)]
      rfl
  | setLevel level => exact (List.append_nil _).symm
  | clear => rfl

/-- **What a memory log has after calls** is what has passed and has not been forgotten. -/
theorem run_new (start : Level) (calls : List LogCall) :
    (new start).run calls = ⟨LogCall.levelAfter start calls, LogCall.remaining start calls⟩ := by
  induction calls using List.reverseRecOn with
  | nil => rfl
  | append_singleton calls c ih =>
    have hlevel := level_act ((new start).run calls) c
    have hrecords := records_act ((new start).run calls) c
    rw [ih] at hlevel hrecords
    rw [run_concat, LogCall.levelAfter_concat, LogCall.remaining_concat, ← hlevel, ← hrecords, ih]

/-- If nothing is forgotten, all that has passed is there. -/
theorem run_filter (start : Level) (calls : List LogCall) :
    (new start).run (calls.filter fun c => !c.isClear) =
      ⟨LogCall.levelAfter start calls, LogCall.passing start calls⟩ := by
  induction calls using List.reverseRecOn with
  | nil => rfl
  | append_singleton calls c ih =>
    have hlevel := level_act ((new start).run (calls.filter fun c => !c.isClear)) c
    have hrecords := records_act ((new start).run (calls.filter fun c => !c.isClear)) c
    rw [ih] at hlevel hrecords
    rw [List.filter_append, LogCall.levelAfter_concat, LogCall.passing_concat]
    cases hclear : c.isClear with
    | true =>
      obtain rfl := LogCall.eq_clear hclear
      rw [List.filter_singleton, hclear, Bool.not_true, cond_false, List.append_nil, ih]
      exact congrArg _ (List.append_nil _).symm
    | false =>
      rw [hclear, if_neg Bool.false_ne_true] at hrecords
      rw [List.filter_singleton, hclear, Bool.not_false, cond_true, run_concat, ih, ← hlevel, ← hrecords]

end MemoryLog

/-! ## The tracing log -/

namespace TracingLog

/-- Act on a call; the lines it adds to the trace. -/
def act (log : TracingLog) : LogCall → TracingLog × List TraceLine
  | .write l message data => (log, log.write l message data)
  | .setLevel level => (log.setLevel level, [])
  | .clear => (log, [])

/-- Act on calls, one after the other; the lines they add to the trace. -/
def run (log : TracingLog) (calls : List LogCall) : TracingLog × List TraceLine :=
  calls.foldl (fun r c => ((r.1.act c).1, r.2 ++ (r.1.act c).2)) (log, [])

/-- A trace line carries a record: its level, with a mark if it is critical, its message, and the text of
its data cut down. -/
structure Carries (z : Sanitizer) (r : LogRecord) (line : TraceLine) : Prop where
  rank : (r.level, line.rank) ∈ [(Level.debug, TraceRank.debug), (.info, .info), (.warning, .warn),
    (.error, .error), (.critical, .error)]
  message : line.message = r.message
  fields : line.fields = (if r.level = .critical then [("critical", .bool true)] else []) ++
    [("data", .str (z.sanitize r.data).compact)]

variable {log : TracingLog}

theorem run_concat (log : TracingLog) (calls : List LogCall) (c : LogCall) :
    log.run (calls ++ [c]) = (((log.run calls).1.act c).1,
      (log.run calls).2 ++ ((log.run calls).1.act c).2) :=
  List.foldl_concat ..

/-- What passes is an error or as severe as the level in force. -/
theorem enabled_iff {l : Level} : log.enabled l = true ↔ Level.error ≤ l ∨ log.level ≤ l := by
  rw [enabled, Bool.or_eq_true, decide_eq_true_iff, decide_eq_true_iff]

theorem act_fst (log : TracingLog) (c : LogCall) :
    (log.act c).1 = ⟨c.newLevel?.getD log.level, log.sanitizer⟩ := by
  cases c <;> rfl

theorem carries_line (log : TracingLog) (l : Level) (message : String) (data : Json) :
    Carries log.sanitizer ⟨l, message, data⟩ (log.line l message data) where
  rank := by cases l <;> simp [line, Level.traceRank]
  message := rfl
  fields := by cases l <;> rfl

/-- The line of a call carries the record that passes, and there is none if none passes. -/
theorem carries_act (log : TracingLog) (c : LogCall) :
    List.Forall₂ (Carries log.sanitizer) (c.passes? log.level).toList (log.act c).2 := by
  cases c with
  | write l message data =>
    rw [act, write, LogCall.passes?]
    by_cases hpass : Level.error ≤ l ∨ log.level ≤ l
    · rw [if_pos hpass, if_pos (enabled_iff.2 hpass)]
      exact .cons (log.carries_line l message data) .nil
    · rw [if_neg hpass, if_neg fun h => hpass (enabled_iff.1 h)]
      exact .nil
  | _ => exact .nil

/-- **What a tracing log passes on** is what passes, in the same order. -/
theorem run_spec (start : Level) (z : Sanitizer) (calls : List LogCall) :
    ((⟨start, z⟩ : TracingLog).run calls).1 = ⟨LogCall.levelAfter start calls, z⟩ ∧
      List.Forall₂ (Carries z) (LogCall.passing start calls) ((⟨start, z⟩ : TracingLog).run calls).2 := by
  induction calls using List.reverseRecOn with
  | nil => exact ⟨rfl, .nil⟩
  | append_singleton calls c ih =>
    obtain ⟨hlog, hlines⟩ := ih
    have hcall := carries_act ((⟨start, z⟩ : TracingLog).run calls).1 c
    rw [hlog] at hcall
    rw [run_concat, act_fst, hlog, LogCall.levelAfter_concat, LogCall.passing_concat]
    exact ⟨rfl, List.rel_append hlines hcall⟩

end TracingLog

/-! ## The main result -/

namespace LogCall

/-- **Both logs let the same records through.**  Started at the same level and given the same calls, a
memory log has, in order and unchanged, the records of those calls since it was last cleared that are
errors or worse or at least as severe as the level in force at their time, and finding and counting are
filters of these.  A tracing log emits one line for each call that the memory log accepts, whether it is
forgotten later or not, in the same order: with the same message and level, except that a critical record
is an error with a mark, and with the text of the data cut down. -/
theorem same_records_pass (start : Level) (z : Sanitizer) (calls : List LogCall) :
    let kept := (MemoryLog.new start).run calls
    let traced := (⟨start, z⟩ : TracingLog).run calls
    kept.records = remaining start calls ∧
    (∀ l message, kept.find l message =
      kept.records.filter fun r => decide (r.level = l ∧ r.message = message)) ∧
    (∀ l, kept.count l = (kept.records.filter fun r => decide (r.level = l)).length) ∧
    (kept.level = levelAfter start calls ∧ traced.1.level = levelAfter start calls) ∧
    ((MemoryLog.new start).run (calls.filter fun c => !c.isClear)).records = passing start calls ∧
    List.Forall₂ (TracingLog.Carries z) (passing start calls) traced.2 := by
  intro kept traced
  have hkept : kept = ⟨levelAfter start calls, remaining start calls⟩ := MemoryLog.run_new start calls
  obtain ⟨htraced, hlines⟩ := TracingLog.run_spec start z calls
  refine ⟨by rw [hkept], fun l message => ?_, fun l => ?_, ⟨by rw [hkept], by rw [htraced]⟩, ?_, hlines⟩
  · rw [MemoryLog.find]
    exact List.filter_congr fun r _ => (Bool.decide_and ..).symm
  · rw [MemoryLog.count, List.countP_eq_length_filter]
    rfl
  · rw [MemoryLog.run_filter]

end LogCall
end Switchboard
