import Switchboard.Proofs.Eventing.Run

/-!
# What a bus writes to its log

`written` says for every step which records it writes, and `records_of_step` that these are all of
them.  A step writes one record at most, and which one it is depends on the bus before the step.

Most records of a bus are routine: they are about its own work, and none of them is an error.  What
remains when they are left out are the *remarks* of a history.  There are two sorts of these.  A
listener that ends otherwise than it should is remarked on when it ends, and so is an attempt to start
workers where there is no runtime.  `remarks_of_step` says that a step makes no other.
-/

namespace Switchboard

/-- A listener that hears of an event: for which publishing call, or by which invocation if it is
asynchronous. -/
structure Hearing (H : Type) where
  number : Nat
  delivery : Delivery
  listener : Listener H
  event : Event

/-- The hearing of an asynchronous listener. -/
def Invocation.hearing {H : Type} (v : Invocation H) : Hearing H :=
  ⟨v.id, .async, v.listener, v.event⟩

/-- The hearing that a call waits for. -/
def Call.hearing? {H : Type} (c : Call H) : Option (Hearing H) :=
  match c.stage with
  | .calling e _ (some l) => some ⟨c.id, .sync, l, e⟩
  | _ => none

namespace Effect

variable {H : Type}

/-- Whether an effect is a record with a message. -/
def isAbout (subject : String) : Effect H → Bool
  | log _ message _ => decide (message = subject)
  | _ => false

/-- The messages of a bus about its own work. -/
def routine : List String :=
  ["subscribing to event", "queue is full waiting for a slot", "dispatch skipped while closing",
    "overflow enqueue abandoned", "collect worker stopped", "collect ignored"]

/-- Whether an effect is no record, or one of the routine. -/
def isRoutine : Effect H → Bool
  | log level message _ => decide (level ≠ .error ∧ message ∈ routine)
  | _ => true

/-- A worker has stopped. -/
def stopped (worker : Nat) : Effect H :=
  .log .info "collect worker stopped" (.object [("worker", .int worker)])

/-- Workers are not started, since the bus is in a later phase. -/
def ignored (phase : Phase) : Effect H :=
  .log .warning "collect ignored" (.object [("state", .str phase.word)])

/-- There is no slot for an event in a queue of so many; with it, so many events are deferred. -/
def saturated (e : Event) (capacity deferred : Nat) : Effect H :=
  .log .warning "queue is full waiting for a slot"
    (.object [("event", .str e.name), ("occurred_at", .str e.timeText), ("capacity", .int capacity),
      ("pending", .int deferred)])

end Effect

namespace History

variable {H : Type}

/-! ## Records of a history -/

/-- The records of a history. -/
def records (h : History H) : History H :=
  h.filter Effect.isRecord

/-- The records of a history with a message. -/
def about (subject : String) (h : History H) : History H :=
  h.filter (Effect.isAbout subject)

/-- The records of a history that are not of the routine. -/
def remarks (h : History H) : History H :=
  h.filter fun x => !x.isRoutine

@[simp] theorem records_append (h k : History H) : records (h ++ k) = records h ++ records k :=
  List.filter_append ..

@[simp] theorem about_append (subject : String) (h k : History H) :
    about subject (h ++ k) = about subject h ++ about subject k :=
  List.filter_append ..

theorem records_cons {x : Effect H} (hx : x.isRecord = false) (h : History H) :
    records (x :: h) = records h :=
  List.filter_cons_of_neg (by rw [hx]; exact Bool.false_ne_true)

theorem records_map {α : Type} {f : α → Effect H} (hf : ∀ x, (f x).isRecord = false)
    (xs : List α) : records (xs.map f) = [] := by
  rw [records, List.filter_eq_nil_iff]
  intro y hy
  obtain ⟨x, -, rfl⟩ := List.mem_map.1 hy
  rw [hf x]
  exact Bool.false_ne_true

/-- If none of several histories has anything of a sort, then all of them together have nothing of it. -/
theorem filter_flatMap_eq_nil {α : Type} {p : Effect H → Bool} {f : α → History H}
    (hf : ∀ x, (f x).filter p = []) (xs : List α) : (xs.flatMap f).filter p = [] := by
  rw [List.filter_flatMap, List.flatMap_eq_nil_iff]
  exact fun x _ => hf x

/-- What is about something is a record. -/
theorem about_records (subject : String) (h : History H) :
    about subject (records h) = about subject h := by
  rw [about, records, List.filter_filter, about]
  refine List.filter_congr fun x _ => ?_
  cases x <;> simp [Effect.isAbout, Effect.isRecord]

/-- What is remarked on is a record. -/
theorem remarks_records (h : History H) : remarks (records h) = remarks h := by
  rw [remarks, records, List.filter_filter, remarks]
  refine List.filter_congr fun x _ => ?_
  cases x <;> simp [Effect.isRoutine, Effect.isRecord]

end History

namespace Bus

variable {H : Type}

open History

/-! ## Listeners that end -/

/-- The hearing that a step ends, and how it ends. -/
def ending? (b : Bus H) : BusStep H → Option (Hearing H × Outcome)
  | .endListener id o =>
    ((b.calls.find? fun c => c.id == id).bind Call.hearing?).map fun x => (x, o)
  | .finish id o => (b.running.find? fun v => v.id == id).map fun v => (v.hearing, o)
  | _ => none

/-- What is remarked on about an ending. -/
def complaint (x : Hearing H × Outcome) : History H :=
  report x.1.listener x.1.event x.1.delivery x.2

/-- What is remarked on about an attempt to start workers where there is no runtime. -/
def unstarted : History H :=
  [.log .error "collect requires a tokio runtime" (.object [])]

/-- What a step remarks on. -/
def complaints (b : Bus H) : BusStep H → History H
  | .collect false => unstarted
  | s => (b.ending? s).toList.flatMap complaint

theorem records_report (l : Listener H) (e : Event) (d : Delivery) (o : Outcome) :
    records (report l e d o) = report l e d o := by
  cases o <;> rfl

theorem remarks_report (l : Listener H) (e : Event) (d : Delivery) (o : Outcome) :
    remarks (report l e d o) = report l e d o := by
  cases o <;> rfl

theorem remarks_complaints (xs : List (Hearing H × Outcome)) :
    remarks (xs.flatMap complaint) = xs.flatMap complaint := by
  rw [remarks, List.filter_flatMap]
  exact List.flatMap_congr fun x _ => remarks_report ..

/-! ## What each step writes -/

/-- What is written about an event that is offered to the queue. -/
def writtenOnOffer (b : Bus H) (e : Event) : History H :=
  if b.refusing then [] else if 0 < b.free then []
  else [.saturated e b.config.bufferSize (b.pending + 1)]

/-- What is written about an event that is to be fanned out. -/
def writtenOnFanOut (b : Bus H) (e : Event) : History H :=
  if b.cancelled then
    [.log .debug "dispatch skipped while closing" (.object [("event", .str e.name)])]
  else []

/-- What a call writes that goes on. -/
def writtenByCall (b : Bus H) (c : Call H) : History H :=
  match c.stage with
  | .calling e [] none => b.writtenOnOffer e
  | .dispatching e => b.writtenOnFanOut e
  | _ => []

/-- What a worker writes that goes on. -/
def writtenByWorker (b : Bus H) (i : Nat) : WorkerState → History H
  | .ready => if b.cancelled then [.stopped i] else []
  | .inLine => if b.cancelled then [.stopped i] else []
  | .reading => if b.cancelled || b.queue.isEmpty then [.stopped i] else []
  | .carrying p => b.writtenOnFanOut p.event
  | .stopped => []

/-- What a deferred event writes that goes on. -/
def writtenByDeferred (b : Bus H) (d : Deferred) : History H :=
  if b.cancelled then
    [.log .debug "overflow enqueue abandoned" (.object [("event", .str d.posting.event.name)])]
  else []

/-- The records that a step writes, if it can be taken. -/
def written (b : Bus H) : BusStep H → History H
  | .subscribe l => [subscription l]
  | .call id => (b.calls.find? fun c => c.id == id).toList.flatMap b.writtenByCall
  | .collect true => if b.phase = .constructed then [] else [.ignored b.phase]
  | .worker i => (b.crew[i]?).toList.flatMap (b.writtenByWorker i)
  | .deferred id => (b.overflow.find? fun d => d.id == id).toList.flatMap b.writtenByDeferred
  | s => b.complaints s

/-- What a step may be about that is of the routine. -/
def subjects : BusStep H → List String
  | .subscribe _ => ["subscribing to event"]
  | .call _ => ["queue is full waiting for a slot", "dispatch skipped while closing"]
  | .collect _ => ["collect ignored"]
  | .worker _ => ["collect worker stopped", "dispatch skipped while closing"]
  | .deferred _ => ["overflow enqueue abandoned"]
  | _ => []

/-! ## The parts of a step -/

theorem records_wakeReader (b : Bus H) : records b.wakeReader = [] := by
  rw [wakeReader]
  split
  · split <;> rfl
  · rfl

theorem records_enter (b : Bus H) (p : Posting) : records (b.enter p).2 = [] :=
  (records_cons rfl _).trans b.records_wakeReader

theorem records_releaseSlot (b : Bus H) : records b.releaseSlot.2 = [] := by
  rw [releaseSlot]
  split <;> rfl

theorem records_releaseReader (b : Bus H) : records b.releaseReader.2 = [] := by
  rw [releaseReader]
  split <;> rfl

theorem records_tasksEnded (b : Bus H) : records b.tasksEnded.2 = [] := by
  rw [tasksEnded]
  split
  · exact records_map (fun _ => rfl) _
  · rfl

theorem records_endDeferred (b : Bus H) (id : Nat) : records (b.endDeferred id).2 = [] :=
  records_tasksEnded _

theorem records_offer (b : Bus H) (p : Posting) :
    records (b.offer p).2 = b.writtenOnOffer p.event := by
  rw [offer, writtenOnOffer]
  split
  · rfl
  · split
    · exact records_enter _ p
    · rfl

theorem records_fanOut (b : Bus H) (source : Option Nat) (e : Event) :
    records (b.fanOut source e).2 = b.writtenOnFanOut e := by
  rw [fanOut, writtenOnFanOut]
  split
  · rfl
  · exact (records_cons rfl _).trans (records_map (fun _ => rfl) _)

theorem records_stopAfter {left : Bus H × History H} (hl : records left.2 = []) (i : Nat) :
    records (stopAfter left i).2 = [.stopped i] := by
  rw [stopAfter, records_append, hl, List.nil_append, stopWorker]
  refine congrArg (List.cons (Effect.stopped i)) ?_
  show records (if _ then _ else _) = []
  split
  · exact records_map (fun _ => rfl) _
  · rfl

theorem records_leaveLine (b : Bus H) (i : Nat) : records (b.leaveLine i).2 = [] := by
  rw [leaveLine]
  split
  · exact b.records_releaseReader
  · rfl

/-! ## Every step -/

/-- To show what a step writes it is enough to show what its outcome does. -/
theorem records_of_outcome {r : Bus H × History H} {c : Bus H} {fx k : History H}
    (h : some r = some (c, fx)) (hr : records r.2 = k) : records fx = k := by
  rwa [Option.some.inj h] at hr

variable {b c : Bus H} {fx : History H}

theorem records_of_callStep {id : Nat} (h : b.callStep id = some (c, fx)) :
    records fx = b.written (.call id) := by
  rw [callStep] at h
  rw [written]
  split at h
  · exact absurd h (by simp)
  · rename_i call hcall
    rw [hcall, Option.toList_some, List.flatMap_singleton, writtenByCall]
    split at h
    all_goals rename_i hstage; rw [hstage]
    · exact records_of_outcome h rfl
    · exact records_of_outcome h rfl
    · exact absurd h (by simp)
    · exact records_of_outcome h rfl
    · refine records_of_outcome h ?_
      rw [records_append, records_cons rfl, records_offer]
      exact List.append_nil _
    · refine records_of_outcome h ?_
      rw [records_append, records_fanOut]
      exact List.append_nil _

theorem records_of_workerStep {i : Nat} (h : b.workerStep i = some (c, fx)) :
    records fx = b.written (.worker i) := by
  rw [workerStep] at h
  -- What the state of the worker says about the records of its step.
  have hwritten {w : WorkerState} (hw : b.crew[i]? = some w) :
      b.written (.worker i) = b.writtenByWorker i w := by
    rw [written, hw, Option.toList_some, List.flatMap_singleton]
  split at h
  case h_1 hw =>
    rw [hwritten hw, writtenByWorker]
    split at h
    · rename_i hk
      rw [if_pos hk]
      have hready : records ((b, []) : Bus H × History H).2 = [] := rfl
      exact records_of_outcome h (records_stopAfter hready i)
    · rename_i hk
      rw [if_neg hk]
      split at h <;> exact records_of_outcome h rfl
  case h_2 hw =>
    rw [hwritten hw, writtenByWorker]
    split at h
    · rename_i hk
      rw [if_pos hk]
      exact records_of_outcome h (records_stopAfter (b.records_leaveLine i) i)
    · rename_i hk
      rw [if_neg hk]
      split at h
      · exact records_of_outcome h rfl
      · exact absurd h (by simp)
  case h_3 hw =>
    rw [hwritten hw, writtenByWorker]
    split at h
    · rename_i hk
      rw [if_pos (by rw [hk]; rfl)]
      exact records_of_outcome h (records_stopAfter b.records_releaseReader i)
    · rename_i hk
      split at h
      · rename_i hq
        rw [if_pos (by rw [hq, List.isEmpty_nil, Bool.or_true])]
        split at h
        · exact records_of_outcome h (records_stopAfter b.records_releaseReader i)
        · exact absurd h (by simp)
      · rename_i hq
        rw [if_neg (by rw [hq]; simpa using hk)]
        refine records_of_outcome h ?_
        rw [records_append, records_releaseSlot, records_releaseReader, List.append_nil]
  case h_4 p hw =>
    rw [hwritten hw, writtenByWorker]
    exact records_of_outcome h (records_fanOut ..)
  case h_5 => exact absurd h (by simp)
  case h_6 => exact absurd h (by simp)

theorem records_of_deferredStep {id : Nat} (h : b.deferredStep id = some (c, fx)) :
    records fx = b.written (.deferred id) := by
  rw [deferredStep] at h
  rw [written]
  split at h
  · exact absurd h (by simp)
  · rename_i d hd
    rw [hd, Option.toList_some, List.flatMap_singleton, writtenByDeferred]
    split at h
    · rename_i hk
      rw [if_pos hk]
      refine records_of_outcome h (congrArg (List.cons _) ?_)
      show records (_ ++ _) = []
      rw [records_append, records_tasksEnded, List.append_nil]
      split
      · exact records_releaseSlot _
      · rfl
    · rename_i hk
      rw [if_neg hk]
      split at h
      · exact records_of_outcome h ((records_cons rfl _).trans (records_endDeferred ..))
      · split at h
        · split at h
          · refine records_of_outcome h ?_
            rw [records_append, records_enter, records_endDeferred, List.append_nil]
          · exact records_of_outcome h rfl
        · exact absurd h (by simp)
        · refine records_of_outcome h ?_
          rw [records_append, records_enter, records_endDeferred, List.append_nil]

theorem records_of_closerStep {id : Nat} (h : b.closerStep id = some (c, fx)) :
    records fx = [] := by
  rw [closerStep] at h
  split at h
  · exact absurd h (by simp)
  · split at h
    · split at h
      · exact absurd h (by simp)
      · split at h <;> exact records_of_outcome h rfl
    · exact absurd h (by simp)
    · exact records_of_outcome h rfl

theorem records_of_endListener {id : Nat} {o : Outcome} (h : b.endListener id o = some (c, fx)) :
    records fx = b.written (.endListener id o) := by
  rw [endListener] at h
  show _ = (b.ending? (.endListener id o)).toList.flatMap complaint
  rw [ending?]
  split at h
  · exact absurd h (by simp)
  · rename_i call hcall
    obtain ⟨key, stage⟩ := call
    rw [hcall]
    split at h
    · rename_i e rest l hstage
      obtain rfl : stage = .calling e rest (some l) := hstage
      refine records_of_outcome h ?_
      exact (records_report ..).trans (List.append_nil _).symm
    · exact absurd h (by simp)

theorem records_of_finish {id : Nat} {o : Outcome} (h : b.finish id o = some (c, fx)) :
    records fx = b.written (.finish id o) := by
  rw [finish] at h
  show _ = (b.ending? (.finish id o)).toList.flatMap complaint
  rw [ending?]
  split at h
  · exact absurd h (by simp)
  · rename_i v hv
    rw [hv]
    refine records_of_outcome h ?_
    rw [records_append, records_cons rfl, records_report, records_tasksEnded]
    rfl

theorem records_collect (b : Bus H) (inRuntime : Bool) :
    records (b.collect inRuntime).2 = b.written (.collect inRuntime) := by
  cases inRuntime with
  | false => rfl
  | true =>
    rw [collect, if_neg (by simp), written]
    split
    · exact records_map (fun _ => rfl) _
    · rfl

theorem records_close (b : Bus H) : records b.close.2 = [] := by
  rw [close]
  split
  · rfl
  · rw [List.cons_append, records_cons rfl, records_append, records_map fun _ => rfl,
      records_map fun _ => rfl]
    rfl

/-- **The records of a step** are the ones that are listed for it. -/
theorem records_of_step {s : BusStep H} (h : b.step s = some (c, fx)) :
    records fx = b.written s := by
  cases s with
  | subscribe | publish | dispatch | abandonClose => exact records_of_outcome h rfl
  | call id => exact records_of_callStep h
  | endListener id o => exact records_of_endListener h
  | collect inRuntime => exact records_of_outcome h (b.records_collect inRuntime)
  | close => exact records_of_outcome h b.records_close
  | worker i => exact records_of_workerStep h
  | deferred id => exact records_of_deferredStep h
  | closer id => exact records_of_closerStep h
  | finish id o => exact records_of_finish h

/-! ## Remarks -/

theorem remarks_writtenOnFanOut (b : Bus H) (e : Event) : remarks (b.writtenOnFanOut e) = [] := by
  rw [writtenOnFanOut]
  split <;> rfl

theorem remarks_writtenByCall (b : Bus H) (x : Call H) : remarks (b.writtenByCall x) = [] := by
  rw [writtenByCall]
  split
  · rw [writtenOnOffer]
    split
    · rfl
    · split <;> rfl
  · exact remarks_writtenOnFanOut ..
  · rfl

theorem remarks_writtenByWorker (b : Bus H) (i : Nat) (w : WorkerState) :
    remarks (b.writtenByWorker i w) = [] := by
  cases w with
  | ready | inLine | reading =>
    rw [writtenByWorker]
    split <;> rfl
  | carrying p => exact remarks_writtenOnFanOut ..
  | stopped => rfl

theorem remarks_writtenByDeferred (b : Bus H) (d : Deferred) :
    remarks (b.writtenByDeferred d) = [] := by
  rw [writtenByDeferred]
  split <;> rfl

/-- **A step remarks on nothing but a listener that ends otherwise than it should, and workers that
cannot be started.** -/
theorem remarks_of_step {s : BusStep H} (h : b.step s = some (c, fx)) :
    remarks fx = b.complaints s := by
  rw [← remarks_records, records_of_step h]
  cases s with
  | subscribe | publish | dispatch | close | abandonClose | closer => rfl
  | call id => exact filter_flatMap_eq_nil b.remarks_writtenByCall _
  | worker i => exact filter_flatMap_eq_nil (b.remarks_writtenByWorker i) _
  | deferred id => exact filter_flatMap_eq_nil b.remarks_writtenByDeferred _
  | endListener | finish => exact remarks_complaints _
  | collect inRuntime =>
    cases inRuntime with
    | false => rfl
    | true =>
      rw [written]
      split <;> rfl

/-- All messages of a bus. -/
def messages : List String :=
  Effect.routine ++ ["error dispatching event for handler", "listener panicked",
    "collect requires a tokio runtime"]

/-- No message of a complaint is of the routine. -/
theorem message_of_mem_complaints {s : BusStep H} {level : Level} {message : String} {data : Json}
    (h : .log level message data ∈ b.complaints s) :
    message ∉ Effect.routine ∧ message ∈ messages := by
  have hreport {x : Hearing H × Outcome} (hx : .log level message data ∈ complaint x) :
      message ∉ Effect.routine ∧ message ∈ messages := by
    obtain ⟨hearing, o⟩ := x
    cases o with
    | done => exact absurd hx List.not_mem_nil
    | failed | panicked =>
      obtain ⟨-, rfl, -⟩ := Effect.log.inj (List.mem_singleton.1 hx)
      decide
  by_cases hs : s = .collect false
  · rw [hs] at h
    obtain ⟨-, rfl, -⟩ := Effect.log.inj (List.mem_singleton.1 h)
    decide
  · rw [complaints] at h
    · obtain ⟨x, -, hx⟩ := List.mem_flatMap.1 h
      exact hreport hx
    · exact hs

/-- A step writes none but these messages. -/
theorem message_of_step {s : BusStep H} (h : b.step s = some (c, fx)) {level : Level}
    {message : String} {data : Json} (hx : .log level message data ∈ fx) : message ∈ messages := by
  by_cases hroutine : (Effect.log level message data : Effect H).isRoutine = true
  · exact List.mem_append_left _ (of_decide_eq_true hroutine).2
  · have hremark : .log level message data ∈ remarks fx :=
      List.mem_filter.2 ⟨hx, by simpa using hroutine⟩
    rw [remarks_of_step h] at hremark
    exact (message_of_mem_complaints hremark).2

/-! ## Subjects -/

/-- What is about the routine is no complaint. -/
theorem about_complaints {subject : String} (hs : subject ∈ Effect.routine) (b : Bus H)
    (s : BusStep H) : about subject (b.complaints s) = [] := by
  rw [about, List.filter_eq_nil_iff]
  intro x hx habout
  cases x with
  | log level message data =>
    obtain rfl : message = subject := of_decide_eq_true habout
    exact (message_of_mem_complaints hx).1 hs
  | _ => exact Bool.false_ne_true habout

/-- A record with another message is not about a subject. -/
theorem about_log {subject message : String} (hm : message ≠ subject) (level : Level)
    (data : Json) : about subject [(.log level message data : Effect H)] = [] :=
  List.filter_cons_of_neg (by simpa [Effect.isAbout] using hm)

theorem about_writtenOnFanOut {subject : String} (hs : "dispatch skipped while closing" ≠ subject)
    (b : Bus H) (e : Event) : about subject (b.writtenOnFanOut e) = [] := by
  rw [writtenOnFanOut]
  split
  · exact about_log hs ..
  · rfl

theorem about_writtenByCall {subject : String} (hf : "queue is full waiting for a slot" ≠ subject)
    (hs : "dispatch skipped while closing" ≠ subject) (b : Bus H) (x : Call H) :
    about subject (b.writtenByCall x) = [] := by
  rw [writtenByCall]
  split
  · rw [writtenOnOffer]
    split
    · rfl
    · split
      · rfl
      · exact about_log hf ..
  · exact about_writtenOnFanOut hs ..
  · rfl

theorem about_writtenByWorker {subject : String} (hw : "collect worker stopped" ≠ subject)
    (hs : "dispatch skipped while closing" ≠ subject) (b : Bus H) (i : Nat) (w : WorkerState) :
    about subject (b.writtenByWorker i w) = [] := by
  cases w with
  | ready | inLine | reading =>
    rw [writtenByWorker]
    split
    · exact about_log hw ..
    · rfl
  | carrying p => exact about_writtenOnFanOut hs ..
  | stopped => rfl

/-- **A step keeps to its subjects**: it writes about nothing else that is of the routine. -/
theorem about_of_step {subject : String} (hr : subject ∈ Effect.routine) {s : BusStep H}
    (hs : subject ∉ subjects s) (h : b.step s = some (c, fx)) : about subject fx = [] := by
  rw [← about_records, records_of_step h]
  cases s with
  | subscribe l => exact about_log (by simpa [subjects, eq_comm] using hs) ..
  | publish | dispatch | close | abandonClose | closer => rfl
  | call id =>
    obtain ⟨hf, hd⟩ : _ ∧ _ := by simpa [subjects] using hs
    exact filter_flatMap_eq_nil (b.about_writtenByCall (Ne.symm hf) (Ne.symm hd)) _
  | worker i =>
    obtain ⟨hw, hd⟩ : _ ∧ _ := by simpa [subjects] using hs
    exact filter_flatMap_eq_nil (b.about_writtenByWorker (Ne.symm hw) (Ne.symm hd) i) _
  | deferred id =>
    refine filter_flatMap_eq_nil (fun d => ?_) _
    rw [writtenByDeferred]
    split
    · exact about_log (by simpa [subjects, eq_comm] using hs) ..
    · rfl
  | endListener id o => exact about_complaints hr b (.endListener id o)
  | finish id o => exact about_complaints hr b (.finish id o)
  | collect inRuntime =>
    cases inRuntime with
    | false => exact about_complaints hr b (.collect false)
    | true =>
      rw [written]
      split
      · rfl
      · exact about_log (by simpa [subjects, eq_comm] using hs) ..

end Bus
end Switchboard
