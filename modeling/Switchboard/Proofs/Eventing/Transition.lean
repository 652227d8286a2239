import Switchboard.Proofs.Eventing.Run

/-!
# What one step can do

`Bus.step` is written party by party, and every party shares operations with the others: slots are
given back, the place of the reader is left, tasks end.  `Transition` says the same in one list, a
constructor for each thing that can happen, with what must be the case before it, the state after it
and its news. `transition_of_step` is the only place where the definition of a step is opened; what
is kept by every step is shown by going through this list.

A bus never begins to refuse events (`Transition.refusing`), so nothing in the list is about events
that are refused.

## States after a step

The operations that parties share are written below as plain changes of the state.  A slot that is
given back either goes to the first of those who wait, or it is free: `granted` and `spare` are the
deferred events and the free slots after that.
-/

namespace Switchboard

namespace Bus

variable {H : Type}

/-! ## Operations that parties share -/

/-- The deferred events after a slot has been given back. -/
def granted (overflow : List Deferred) : List Deferred :=
  match grantFirst overflow with
  | some r => r.1
  | none => overflow

/-- How many slots are free after one has been given back, over those that were. -/
def spare (overflow : List Deferred) : Nat :=
  match grantFirst overflow with
  | some _ => 0
  | none => 1

/-- The bus after a slot has been given back. -/
def slotReleased (b : Bus H) : Bus H :=
  { b with overflow := granted b.overflow, free := b.free + spare b.overflow }

/-- The bus after the reader has left its place. -/
def readerReleased (b : Bus H) : Bus H :=
  { b with holder := b.line.head?, line := b.line.tail }

/-- Calls to close after the tasks of a bus have been looked at: if none is left, those that wait
for tasks need not wait any longer. -/
def relieve (idle : Bool) (closers : List Closer) : List Closer :=
  if idle then closers.map fun c => if c.stage = .tasks then { c with stage := .nothing } else c
  else closers

/-- The bus after a task has ended. -/
def taskEnded (b : Bus H) : Bus H :=
  { b with closers := relieve b.idle b.closers }

/-- The invocations that a fan-out schedules. -/
def started (b : Bus H) (source : Option Nat) (e : Event) : List (Invocation H) :=
  invocations source e b.nextId (b.registry.listeners .async e.name)

/-- The bus after a fan-out that is not skipped. -/
def fannedOut (b : Bus H) (source : Option Nat) (e : Event) : Bus H :=
  { b with
    running := b.running ++ b.started source e
    nextId := b.nextId + (b.started source e).length }

open History

theorem releaseSlot_fst (b : Bus H) : b.releaseSlot.1 = b.slotReleased := by
  rw [releaseSlot, slotReleased, granted, spare]
  cases grantFirst b.overflow <;> rfl

theorem news_releaseSlot (b : Bus H) : news b.releaseSlot.2 = [] := by
  rw [releaseSlot]
  cases grantFirst b.overflow <;> rfl

theorem releaseReader_fst (b : Bus H) : b.releaseReader.1 = b.readerReleased := by
  rw [releaseReader, readerReleased]
  cases b.line <;> rfl

theorem news_releaseReader (b : Bus H) : news b.releaseReader.2 = [] := by
  rw [releaseReader]
  cases b.line <;> rfl

theorem tasksEnded_fst (b : Bus H) : b.tasksEnded.1 = b.taskEnded := by
  rw [tasksEnded, taskEnded, relieve]
  split <;> rfl

theorem news_tasksEnded (b : Bus H) : news b.tasksEnded.2 = [] := by
  rw [tasksEnded]
  split
  · exact news_wakes (fun c : Closer => .closer c.id) _
  · rfl

theorem news_wakeReader (b : Bus H) : news b.wakeReader = [] := by
  rw [wakeReader]
  split
  · split <;> rfl
  · rfl

theorem news_stopWorker (b : Bus H) (i : Nat) : news (b.stopWorker i).2 = [] := by
  rw [stopWorker]
  split
  · exact news_wakes (fun c : Closer => .closer c.id) _
  · rfl

theorem news_report (l : Listener H) (e : Event) (d : Delivery) (o : Outcome) :
    news (report l e d o) = [] := by
  cases o <;> rfl

theorem news_enter (b : Bus H) (p : Posting) : news (b.enter p).2 = [.entered p] := by
  rw [enter]
  exact congrArg (List.cons (.entered p)) b.news_wakeReader

theorem fanOut_of_cancelled {b : Bus H} (hk : b.cancelled = true) (source : Option Nat)
    (e : Event) :
    (b.fanOut source e).1 = b ∧ news (b.fanOut source e).2 = [.skipped source e] := by
  rw [fanOut, if_pos hk]
  exact ⟨rfl, rfl⟩

theorem fanOut_of_not_cancelled {b : Bus H} (hk : b.cancelled = false) (source : Option Nat)
    (e : Event) : (b.fanOut source e).1 = b.fannedOut source e ∧
      news (b.fanOut source e).2 = fan source e (b.started source e) := by
  rw [fanOut, if_neg (by rw [hk]; exact Bool.false_ne_true)]
  refine ⟨rfl, ?_⟩
  show .fannedOut source e :: news ((b.started source e).map .scheduled) = _
  rw [news_scheduled, fan]

theorem offer_of_free {b : Bus H} (hr : b.refusing = false) (hf : 0 < b.free) (p : Posting) :
    (b.offer p).1 = { b with free := b.free - 1, queue := b.queue ++ [p] } ∧
      news (b.offer p).2 = [.entered p] := by
  rw [offer, if_neg (by rw [hr]; exact Bool.false_ne_true), if_pos hf]
  exact ⟨rfl, news_enter _ p⟩

theorem offer_of_full {b : Bus H} (hr : b.refusing = false) (hf : b.free = 0) (p : Posting) :
    (b.offer p).1 =
        { b with
          overflow := b.overflow ++ [⟨b.nextId, p, .fresh⟩]
          pending := b.pending + 1
          nextId := b.nextId + 1 } ∧
      news (b.offer p).2 = [] := by
  rw [offer, if_neg (by rw [hr]; exact Bool.false_ne_true),
    if_neg (by rw [hf]; exact Nat.lt_irrefl 0)]
  exact ⟨rfl, rfl⟩

/-! ## The list of transitions -/

/-- What a step of a bus that does not refuse events can do: the step, the state after it and its
news. -/
inductive Transition (b : Bus H) : BusStep H → Bus H → History H → Prop where
  | beginSubscribe (l : Listener H) :
      Transition b (.subscribe l) (b.begin (.subscribing l)) []
  | beginPublish (e : Event) :
      Transition b (.publish e) (b.begin (.publishing e)) [.began b.nextId e]
  | beginDispatch (e : Event) :
      Transition b (.dispatch e) (b.begin (.dispatching e)) []
  | subscribe {id : Nat} {l : Listener H} (hc : ⟨id, .subscribing l⟩ ∈ b.calls) :
      Transition b (.call id) { b.dropCall id with registry := (b.registry.insert l).1 }
        [.subscribed l, .returned id]
  | lookUp {id : Nat} {e : Event} (hc : ⟨id, .publishing e⟩ ∈ b.calls) :
      Transition b (.call id)
        (b.setCall id (.calling e (b.registry.listeners .sync e.name) none)) []
  | invoke {id : Nat} {e : Event} {l : Listener H} {rest : List (Listener H)}
      (hc : ⟨id, .calling e (l :: rest) none⟩ ∈ b.calls) :
      Transition b (.call id) (b.setCall id (.calling e rest (some l))) [.invoke id l e]
  | endListener {id : Nat} {e : Event} {l : Listener H} {rest : List (Listener H)} {o : Outcome}
      (hc : ⟨id, .calling e rest (some l)⟩ ∈ b.calls) :
      Transition b (.endListener id o) (b.setCall id (.calling e rest none)) []
  | enter {id : Nat} {e : Event} (hc : ⟨id, .calling e [] none⟩ ∈ b.calls) (hf : 0 < b.free) :
      Transition b (.call id)
        { b.dropCall id with free := b.free - 1, queue := b.queue ++ [⟨id, e⟩] }
        [.accepted ⟨id, e⟩, .entered ⟨id, e⟩, .returned id]
  | defer {id : Nat} {e : Event} (hc : ⟨id, .calling e [] none⟩ ∈ b.calls) (hf : b.free = 0) :
      Transition b (.call id)
        { b.dropCall id with
          overflow := b.overflow ++ [⟨b.nextId, ⟨id, e⟩, .fresh⟩]
          pending := b.pending + 1
          nextId := b.nextId + 1 }
        [.accepted ⟨id, e⟩, .returned id]
  | dispatch {id : Nat} {e : Event} (hc : ⟨id, .dispatching e⟩ ∈ b.calls)
      (hk : b.cancelled = false) :
      Transition b (.call id) ((b.dropCall id).fannedOut none e)
        (fan none e (b.started none e) ++ [.returned id])
  | skipDispatch {id : Nat} {e : Event} (hc : ⟨id, .dispatching e⟩ ∈ b.calls)
      (hk : b.cancelled = true) :
      Transition b (.call id) (b.dropCall id) [.skipped none e, .returned id]
  | collectOutside : Transition b (.collect false) b []
  | collect (hp : b.phase = .constructed) :
      Transition b (.collect true)
        { b with phase := .collecting, crew := List.replicate b.config.workers .ready } []
  | collectIgnored (hp : b.phase ≠ .constructed) : Transition b (.collect true) b []
  | close :
      Transition b .close
        { b with
          phase := b.phase.begunClosing
          cancelled := true
          closers := b.closers ++ [⟨b.nextId, .workers⟩]
          nextId := b.nextId + 1 }
        (if b.cancelled then [] else [.cancelled])
  | abandonClose (id : Nat) :
      Transition b (.abandonClose id) { b with closers := b.closers.filter fun c => c.id != id } []
  | takeReader {i : Nat} (hw : b.crew[i]? = some .ready) (hk : b.cancelled = false)
      (hh : b.holder = none) :
      Transition b (.worker i) ({ b with holder := some i }.setWorker i .reading) []
  | lineUp {i j : Nat} (hw : b.crew[i]? = some .ready) (hk : b.cancelled = false)
      (hh : b.holder = some j) :
      Transition b (.worker i) ({ b with line := b.line ++ [i] }.setWorker i .inLine) []
  | becomeReader {i : Nat} (hw : b.crew[i]? = some .inLine) (hk : b.cancelled = false)
      (hh : b.holder = some i) :
      Transition b (.worker i) (b.setWorker i .reading) []
  | receive {i : Nat} {p : Posting} {rest : List Posting} (hw : b.crew[i]? = some .reading)
      (hk : b.cancelled = false) (hq : b.queue = p :: rest) :
      Transition b (.worker i)
        ({ b with queue := rest }.slotReleased.readerReleased.setWorker i (.carrying p)) []
  | fanOut {i : Nat} {p : Posting} (hw : b.crew[i]? = some (.carrying p))
      (hk : b.cancelled = false) :
      Transition b (.worker i) ((b.setWorker i .ready).fannedOut (some p.call) p.event)
        (fan (some p.call) p.event (b.started (some p.call) p.event))
  | skipFanOut {i : Nat} {p : Posting} (hw : b.crew[i]? = some (.carrying p))
      (hk : b.cancelled = true) :
      Transition b (.worker i) (b.setWorker i .ready) [.skipped (some p.call) p.event]
  | stop {i : Nat} (hw : b.crew[i]? = some .ready) (hk : b.cancelled = true) :
      Transition b (.worker i) (b.setWorker i .stopped) []
  | stopReader {i : Nat} (hw : b.crew[i]? = some .reading ∨
      b.crew[i]? = some .inLine ∧ b.holder = some i) (hk : b.cancelled = true) :
      Transition b (.worker i) (b.readerReleased.setWorker i .stopped) []
  | stopInLine {i : Nat} (hw : b.crew[i]? = some .inLine) (hh : b.holder ≠ some i)
      (hk : b.cancelled = true) :
      Transition b (.worker i)
        ({ b with line := b.line.filter fun j => j != i }.setWorker i .stopped) []
  | enterFresh {d : Deferred} (hd : d ∈ b.overflow) (hs : d.stage = .fresh)
      (hk : b.cancelled = false) (hf : 0 < b.free) :
      Transition b (.deferred d.id)
        ({ b with free := b.free - 1, queue := b.queue ++ [d.posting] }.dropDeferred d.id).taskEnded
        [.entered d.posting]
  | wait {d : Deferred} (hd : d ∈ b.overflow) (hs : d.stage = .fresh) (hk : b.cancelled = false)
      (hf : b.free = 0) :
      Transition b (.deferred d.id)
        { b with
          overflow := (b.overflow.filter fun x => x.id != d.id) ++ [{ d with stage := .waiting }] }
        []
  | enterGranted {d : Deferred} (hd : d ∈ b.overflow) (hs : d.stage = .granted)
      (hk : b.cancelled = false) :
      Transition b (.deferred d.id)
        ({ b with queue := b.queue ++ [d.posting] }.dropDeferred d.id).taskEnded
        [.entered d.posting]
  | abandon {d : Deferred} (hd : d ∈ b.overflow) (hs : d.stage ≠ .granted)
      (hk : b.cancelled = true) :
      Transition b (.deferred d.id) (b.dropDeferred d.id).taskEnded [.abandoned d.posting]
  | abandonGranted {d : Deferred} (hd : d ∈ b.overflow) (hs : d.stage = .granted)
      (hk : b.cancelled = true) :
      Transition b (.deferred d.id) (b.dropDeferred d.id).slotReleased.taskEnded
        [.abandoned d.posting]
  | awaitTasks {c : Closer} (hc : c ∈ b.closers) (hs : c.stage = .workers)
      (hw : b.crewStopped = true) (hi : b.idle = false) :
      Transition b (.closer c.id)
        { b with closers := b.closers.map fun x =>
            if x.id = c.id then { x with stage := .tasks } else x }
        []
  | closed {c : Closer} (hc : c ∈ b.closers)
      (hs : c.stage = .workers ∧ b.crewStopped = true ∧ b.idle = true ∨ c.stage = .nothing) :
      Transition b (.closer c.id)
        { b with closers := b.closers.filter fun x => x.id != c.id, phase := .closed }
        [.closed c.id]
  | finish {v : Invocation H} {o : Outcome} (hv : v ∈ b.running) :
      Transition b (.finish v.id o)
        { b with running := b.running.filter fun x => x.id != v.id }.taskEnded
        [.finished v o]

/-! ## Every step is in the list -/

theorem mem_of_find?_id {α : Type} {key : α → Nat} {id : Nat} {xs : List α} {x : α}
    (h : xs.find? (fun y => key y == id) = some x) : x ∈ xs ∧ key x = id :=
  ⟨List.mem_of_find?_eq_some h, by simpa using List.find?_some h⟩

/-- To show what a step does it is enough to show what its outcome is. -/
theorem Transition.of_outcome {b c : Bus H} {s : BusStep H} {r : Bus H × History H}
    {effects : History H} (h : some r = some (c, effects)) (ht : Transition b s r.1 (news r.2)) :
    Transition b s c (news effects) := by
  rw [Option.some.inj h] at ht
  exact ht

theorem transition_of_callStep {b c : Bus H} {id : Nat} {effects : History H}
    (hr : b.refusing = false) (h : b.callStep id = some (c, effects)) :
    Transition b (.call id) c (news effects) := by
  rw [callStep] at h
  split at h
  · exact absurd h (by simp)
  · rename_i call hcall
    obtain ⟨key, stage⟩ := call
    obtain ⟨hmem, hid⟩ := mem_of_find?_id hcall
    obtain rfl : key = id := hid
    cases stage with
    | subscribing l => exact .of_outcome h (.subscribe hmem)
    | publishing e => exact .of_outcome h (.lookUp hmem)
    | dispatching e =>
      refine .of_outcome h ?_
      rw [news_append]
      cases hk : b.cancelled with
      | false =>
        obtain ⟨hs, hn⟩ := fanOut_of_not_cancelled (b := b.dropCall key) hk none e
        rw [hs, hn]
        exact .dispatch hmem hk
      | true =>
        obtain ⟨hs, hn⟩ := fanOut_of_cancelled (b := b.dropCall key) hk none e
        rw [hs, hn]
        exact .skipDispatch hmem hk
    | calling e rest current =>
      match rest, current with
      | _, some l => exact absurd h (by simp)
      | l :: rest, none => exact .of_outcome h (.invoke hmem)
      | [], none =>
        refine .of_outcome h ?_
        rw [news_append]
        show Transition b _ _ (.accepted _ :: news _ ++ _)
        rcases Nat.eq_zero_or_pos b.free with hf | hf
        · obtain ⟨hs, hn⟩ := offer_of_full (b := b.dropCall key) hr hf ⟨key, e⟩
          rw [hs, hn]
          exact .defer hmem hf
        · obtain ⟨hs, hn⟩ := offer_of_free (b := b.dropCall key) hr hf ⟨key, e⟩
          rw [hs, hn]
          exact .enter hmem hf

theorem transition_of_endListener {b c : Bus H} {id : Nat} {o : Outcome} {effects : History H}
    (h : b.endListener id o = some (c, effects)) :
    Transition b (.endListener id o) c (news effects) := by
  rw [endListener] at h
  split at h
  · exact absurd h (by simp)
  · rename_i call hcall
    obtain ⟨key, stage⟩ := call
    obtain ⟨hmem, hid⟩ := mem_of_find?_id hcall
    obtain rfl : key = id := hid
    split at h
    · rename_i hstage
      obtain rfl := hstage
      refine .of_outcome h ?_
      rw [news_report]
      exact .endListener hmem
    · exact absurd h (by simp)

theorem stopAfter_eq (left : Bus H × History H) (i : Nat) (hn : news left.2 = []) :
    (stopAfter left i).1 = left.1.setWorker i .stopped ∧ news (stopAfter left i).2 = [] := by
  refine ⟨rfl, ?_⟩
  rw [stopAfter, news_append, hn, news_stopWorker, List.append_nil]

theorem transition_of_workerStep {b c : Bus H} {i : Nat} {effects : History H}
    (hr : b.refusing = false) (h : b.workerStep i = some (c, effects)) :
    Transition b (.worker i) c (news effects) := by
  rw [workerStep] at h
  split at h
  case h_1 hw =>
    cases hk : b.cancelled with
    | true =>
      rw [if_pos hk] at h
      refine .of_outcome h ?_
      rw [news_stopWorker]
      exact .stop hw hk
    | false =>
      rw [if_neg (by rw [hk]; exact Bool.false_ne_true)] at h
      split at h
      · rename_i hh
        exact .of_outcome h (.takeReader hw hk hh)
      · rename_i hh
        obtain ⟨j, hj⟩ := Option.ne_none_iff_exists'.1 hh
        exact .of_outcome h (.lineUp hw hk hj)
  case h_2 hw =>
    cases hk : b.cancelled with
    | true =>
      rw [if_pos hk] at h
      refine .of_outcome h ?_
      by_cases hh : b.holder = some i
      · rw [leaveLine, if_pos hh]
        obtain ⟨hs, hn⟩ := stopAfter_eq b.releaseReader i (news_releaseReader b)
        rw [hs, hn, releaseReader_fst]
        exact .stopReader (Or.inr ⟨hw, hh⟩) hk
      · rw [leaveLine, if_neg hh]
        obtain ⟨hs, hn⟩ := stopAfter_eq ({ b with line := b.line.filter fun j => j != i }, []) i rfl
        rw [hs, hn]
        exact .stopInLine hw hh hk
    | false =>
      rw [if_neg (by rw [hk]; exact Bool.false_ne_true)] at h
      split at h
      · rename_i hh
        exact .of_outcome h (.becomeReader hw hk hh)
      · exact absurd h (by simp)
  case h_3 hw =>
    cases hk : b.cancelled with
    | true =>
      rw [if_pos hk] at h
      refine .of_outcome h ?_
      obtain ⟨hs, hn⟩ := stopAfter_eq b.releaseReader i (news_releaseReader b)
      rw [hs, hn, releaseReader_fst]
      exact .stopReader (Or.inl hw) hk
    | false =>
      rw [if_neg (by rw [hk]; exact Bool.false_ne_true)] at h
      split at h
      · rw [if_neg (by rw [hr]; exact Bool.false_ne_true)] at h
        exact absurd h (by simp)
      · rename_i p rest hq
        refine .of_outcome h ?_
        rw [news_append, news_releaseSlot, news_releaseReader, releaseReader_fst, releaseSlot_fst]
        exact .receive hw hk hq
  case h_4 p hw =>
    refine .of_outcome h ?_
    cases hk : b.cancelled with
    | true =>
      obtain ⟨hs, hn⟩ := fanOut_of_cancelled (b := b.setWorker i .ready) hk (some p.call) p.event
      rw [hs, hn]
      exact .skipFanOut hw hk
    | false =>
      obtain ⟨hs, hn⟩ :=
        fanOut_of_not_cancelled (b := b.setWorker i .ready) hk (some p.call) p.event
      rw [hs, hn]
      exact .fanOut hw hk
  case h_5 => exact absurd h (by simp)
  case h_6 => exact absurd h (by simp)

theorem endDeferred_fst (b : Bus H) (id : Nat) :
    (b.endDeferred id).1 = (b.dropDeferred id).taskEnded :=
  tasksEnded_fst _

theorem news_endDeferred (b : Bus H) (id : Nat) : news (b.endDeferred id).2 = [] :=
  news_tasksEnded _

theorem transition_of_deferredStep {b c : Bus H} {id : Nat} {effects : History H}
    (hr : b.refusing = false) (h : b.deferredStep id = some (c, effects)) :
    Transition b (.deferred id) c (news effects) := by
  rw [deferredStep] at h
  split at h
  · exact absurd h (by simp)
  · rename_i d hfind
    obtain ⟨hd, rfl⟩ := mem_of_find?_id hfind
    cases hk : b.cancelled with
    | true =>
      rw [if_pos hk] at h
      refine .of_outcome h ?_
      show Transition b _ _ (.abandoned d.posting :: news (_ ++ _))
      rw [news_append, tasksEnded_fst, news_tasksEnded]
      by_cases hs : d.stage = .granted
      · rw [if_pos hs, news_releaseSlot, releaseSlot_fst]
        exact .abandonGranted hd hs hk
      · rw [if_neg hs]
        exact .abandon hd hs hk
    | false =>
      rw [if_neg (by rw [hk]; exact Bool.false_ne_true),
        if_neg (by rw [hr]; exact Bool.false_ne_true)] at h
      split at h
      case h_1 hs =>
        split at h
        · rename_i hf
          refine .of_outcome h ?_
          rw [news_append, endDeferred_fst, news_endDeferred, news_enter]
          exact .enterFresh hd hs hk hf
        · rename_i hf
          exact .of_outcome h (.wait hd hs hk (Nat.eq_zero_of_not_pos hf))
      case h_2 => exact absurd h (by simp)
      case h_3 hs =>
        refine .of_outcome h ?_
        rw [news_append, endDeferred_fst, news_endDeferred, news_enter]
        exact .enterGranted hd hs hk

theorem transition_of_closerStep {b c : Bus H} {id : Nat} {effects : History H}
    (h : b.closerStep id = some (c, effects)) : Transition b (.closer id) c (news effects) := by
  rw [closerStep] at h
  split at h
  · exact absurd h (by simp)
  · rename_i x hfind
    obtain ⟨hx, rfl⟩ := mem_of_find?_id hfind
    split at h
    case h_1 hs =>
      cases hw : b.crewStopped with
      | false => exact absurd h (by simp [hw])
      | true =>
        rw [if_neg (by simp [hw])] at h
        cases hi : b.idle with
        | true =>
          rw [if_pos hi] at h
          exact .of_outcome h (.closed hx (Or.inl ⟨hs, hw, hi⟩))
        | false =>
          rw [if_neg (by rw [hi]; exact Bool.false_ne_true)] at h
          exact .of_outcome h (.awaitTasks hx hs hw hi)
    case h_2 => exact absurd h (by simp)
    case h_3 hs => exact .of_outcome h (.closed hx (Or.inr hs))

theorem transition_of_finish {b c : Bus H} {id : Nat} {o : Outcome} {effects : History H}
    (h : b.finish id o = some (c, effects)) : Transition b (.finish id o) c (news effects) := by
  rw [finish] at h
  split at h
  · exact absurd h (by simp)
  · rename_i v hfind
    obtain ⟨hv, rfl⟩ := mem_of_find?_id hfind
    refine .of_outcome h ?_
    show Transition b _ _ (.finished v o :: news (_ ++ _))
    rw [news_append, news_report, news_tasksEnded, tasksEnded_fst]
    exact .finish hv

theorem transition_of_collect (b : Bus H) (inRuntime : Bool) :
    Transition b (.collect inRuntime) (b.collect inRuntime).1 (news (b.collect inRuntime).2) := by
  cases inRuntime with
  | false => exact .collectOutside
  | true =>
    rw [collect, if_neg (by simp)]
    split
    · rename_i hp
      rw [news_wakes .worker]
      exact .collect hp
    · rename_i hp
      exact .collectIgnored hp

theorem transition_of_close (b : Bus H) : Transition b .close b.close.1 (news b.close.2) := by
  have hn : news b.close.2 = if b.cancelled then [] else [.cancelled] := by
    rw [close]
    split
    · rfl
    · show .cancelled :: news (_ ++ _) = _
      rw [news_append, news_wakes .worker, news_wakes (fun d : Deferred => .deferred d.id)]
      rfl
  rw [hn]
  exact .close

/-- **Every step is in the list.** -/
theorem transition_of_step {b c : Bus H} {s : BusStep H} {effects : History H}
    (hr : b.refusing = false) (h : b.step s = some (c, effects)) :
    Transition b s c (news effects) := by
  cases s with
  | subscribe l => exact .of_outcome h (.beginSubscribe l)
  | publish e => exact .of_outcome h (.beginPublish e)
  | dispatch e => exact .of_outcome h (.beginDispatch e)
  | call id => exact transition_of_callStep hr h
  | endListener id o => exact transition_of_endListener h
  | collect inRuntime => exact .of_outcome h (transition_of_collect b inRuntime)
  | close => exact .of_outcome h (transition_of_close b)
  | abandonClose id => exact .of_outcome h (.abandonClose id)
  | worker i => exact transition_of_workerStep hr h
  | deferred id => exact transition_of_deferredStep hr h
  | closer id => exact transition_of_closerStep h
  | finish id o => exact transition_of_finish h

/-- **A bus never begins to refuse events.** -/
theorem Transition.refusing {b c : Bus H} {s : BusStep H} {news : History H}
    (h : Transition b s c news) : c.refusing = b.refusing := by
  cases h <;> rfl

end Bus
end Switchboard
