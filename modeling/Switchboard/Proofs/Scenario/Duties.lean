import Switchboard.Proofs.Eventing.Invocations
import Switchboard.Proofs.Scenario.BusStep

/-!
# The duties of a bus and the jobs that see to them

A bus has publishing calls under way and listeners at work, and it leaves to others when each of them
goes on.  These are its *duties*.  In a world every duty is seen to by one job: by whoever has
published, or by the job that was begun for a listener when it was scheduled.  `Staffed` says so of a
world, for any list of duties, and the lemmas about it go through the ways in which jobs begin, go on
and end.

Only two listeners are at work here, the audit and the relay, and neither of them publishes.  So a job
looks like one of a few kinds (`Shape`): it publishes on its own, or it runs one listener, which may be
broadcasting.

## Messages on their way

A relay has reached some clients before it ends.  `Job.passed?` is the message that a job has got
through to a client so far.
-/

namespace Switchboard

/-- Whether an effect is for those who have made a call of the bus. -/
def Effect.isForCaller {H : Type} : Effect H → Bool
  | invoke _ _ _ => true
  | returned _ => true
  | _ => false

/-- Whether a step is one of a party that the bus has of its own. -/
def BusStep.isAgent {H : Type} : BusStep H → Bool
  | worker _ => true
  | deferred _ => true
  | closer _ => true
  | _ => false

open History in
/-- What the parties of a bus do concerns no call, and they begin to run what they schedule. -/
theorem Bus.Transition.of_agent {H : Type} {b c : Bus H} {s : BusStep H} {fx : History H}
    (ht : Transition b s c fx) (hs : s.isAgent = true) :
    c.calls = b.calls ∧ c.running = b.running ++ scheduled fx ∧ finished fx = [] ∧
      postings .begun fx = [] ∧ ∀ x ∈ fx, x.isForCaller = false := by
  cases ht with
  | fanOut =>
    refine ⟨rfl, ?_, finished_fan .., postings_fan .., fun x hx => ?_⟩
    · rw [scheduled_fan]
      rfl
    · rcases (mem_fan ..).1 hx with rfl | ⟨v, -, rfl⟩ <;> rfl
  | takeReader | lineUp | becomeReader | receive | skipFanOut | stop | stopReader | stopInLine
  | enterFresh | wait | enterGranted | abandon | abandonGranted | awaitTasks | closed =>
    exact ⟨rfl, (List.append_nil _).symm, rfl, rfl, by simp [Effect.isForCaller]⟩
  | _ => exact Bool.noConfusion hs

namespace Scenario

open Bus (Numbered)

/-- The record that a listener writes about an event. -/
def Handler.record? : Handler → Event → Option LogRecord
  | .audit, e => (Audit.record e).toOption
  | _, _ => none

/-- The message that a listener gives out about an event. -/
def Handler.message? : Handler → Event → Option Message
  | .relay, e => some (Relay.message e)
  | _, _ => none

/-- Something that a bus waits for others to do. -/
inductive Duty where
  /-- To go on with a publishing call. -/
  | publish (call : Nat)
  /-- To run a listener. -/
  | hear (invocation : Nat) (handler : Handler) (event : Event)

namespace Duty

/-- To run the listener of an invocation. -/
def run (v : Invocation Handler) : Duty :=
  .hear v.id v.listener.handler v.event

/-- All duties of a bus. -/
def all (b : Bus Handler) : List Duty :=
  (b.calls.map fun c => publish c.id) ++ b.running.map run

/-- The message that comes of a duty. -/
def message? : Duty → Option Message
  | publish _ => none
  | hear _ handler event => handler.message? event

variable {b : Bus Handler}

/-- A call that goes on has to be gone on with as before. -/
theorem all_setCall (b : Bus Handler) (id : Nat) (stage : CallStage Handler) :
    all (b.setCall id stage) = all b := by
  have hids := congrArg (List.map publish) (b.map_id_setCall id stage)
  rw [List.map_map, List.map_map] at hids
  exact congrArg (· ++ b.running.map run) hids

/-- A call that returns need not be gone on with. -/
theorem all_dropCall {c : Call Handler} (hn : (b.calls.map (·.id)).Nodup) (hc : c ∈ b.calls) :
    (all b).Perm (publish c.id :: all (b.dropCall c.id)) :=
  ((Bus.perm_cons_filter hn hc).map fun c => publish c.id).append_right _

/-- A listener that ends need not be run. -/
theorem all_finish {v : Invocation Handler} (hn : (b.running.map (·.id)).Nodup)
    (hv : v ∈ b.running) :
    (all b).Perm (run v :: all { b with running := b.running.filter fun x => x.id != v.id }) :=
  (((Bus.perm_cons_filter hn hv).map run).append_left _).trans List.perm_middle

end Duty

/-- The duty that a job sees to: it is the outermost of its calls. -/
def Job.duty? (j : Job) : Option Duty :=
  match j.frames.getLast? with
  | some (.publishing _ call) => some (.publish call)
  | some (.handling ⟨_, .scheduled v, handler, event, _, _⟩) => some (.hear v handler event)
  | _ => none

/-- The message that a job has got through to a client, as long as its listener has not ended. -/
def Job.passed? (client : Client) (j : Job) : Option Message :=
  match j.frames with
  | .sending b :: _ => if client ∈ b.remaining then none else some b.message
  | [.handling ⟨_, _, handler, event, true, _⟩] => handler.message? event
  | _ => none

/-- What a job looks like that sees to a duty. -/
inductive Shape (bus : Nat) (center : Center) : List Frame → Prop where
  | publishing (call : Nat) : Shape bus center [.publishing bus call]
  /-- A listener that has not begun. -/
  | fresh (v : Nat) {handler : Handler} (h : handler = .audit ∨ handler = .relay) (event : Event) :
      Shape bus center [.handling ⟨bus, .scheduled v, handler, event, false, []⟩]
  /-- A relay that broadcasts, and has reached all clients but the last ones. -/
  | sending (v : Nat) (event : Event) (sender : Nat) {rest : List Client}
      (h : rest <:+ center.clients) :
      Shape bus center
        [.sending ⟨sender, center, Relay.message event, rest, none⟩,
          .handling ⟨bus, .scheduled v, .relay, event, true, []⟩]
  /-- A relay that has broadcast. -/
  | relayed (v : Nat) (event : Event) :
      Shape bus center [.handling ⟨bus, .scheduled v, .relay, event, true, []⟩]

/-- **Each duty is seen to by one job.** -/
structure Staffed (bus : Nat) (center : Center) (w : World) (duties : List Duty) : Prop where
  numbered : Numbered w.nextId (w.jobs.map Job.id)
  shapes : ∀ j ∈ w.jobs, Shape bus center j.frames
  duties : (w.jobs.filterMap Job.duty?).Perm duties

namespace World

/-- The messages that jobs have got through to a client. -/
def passed (w : World) (client : Client) : List Message :=
  w.jobs.filterMap (Job.passed? client)

/-- Begin the job that runs a listener. -/
def hire (bus : Nat) (w : World) (v : Invocation Handler) : World :=
  w.startJob (.handling ⟨bus, .scheduled v.id, v.listener.handler, v.event, false, []⟩)

/-- Begin the jobs that run listeners. -/
def hireAll (bus : Nat) (vs : List (Invocation Handler)) (w : World) : World :=
  vs.foldl (hire bus) w

theorem app_hireAll (bus : Nat) (vs : List (Invocation Handler)) (w : World) :
    (w.hireAll bus vs).app = w.app := by
  induction vs generalizing w with
  | nil => rfl
  | cons v rest ih => exact ih _

/-- Unless an effect is for a caller, only what is scheduled concerns jobs. -/
theorem sameJobs_hireAll {bus : Nat} {fx : History Handler} (hfx : ∀ x ∈ fx, x.isForCaller = false)
    {w v : World} (h : SameJobs w v) :
    SameJobs (w.hireAll bus (History.scheduled fx)) (v.absorbAll bus fx) := by
  induction fx generalizing w v with
  | nil => exact h
  | cons x rest ih =>
    have hrest := fun y hy => hfx y (List.mem_cons_of_mem _ hy)
    have hx := hfx x List.mem_cons_self
    cases x with
    | scheduled i =>
      refine ih hrest (v := v.absorb bus (.scheduled i)) ?_
      have hstart : SameJobs (w.hire bus i) (v.hire bus i) := by
        refine ⟨?_, congrArg (· + 1) h.nextId⟩
        rw [hire, hire, startJob, startJob, h.jobs, h.nextId]
      exact hstart.trans (sameJobs_wake ..)
    | invoke | returned => exact Bool.noConfusion hx
    | wake agent => exact ih hrest (h.trans (sameJobs_wake ..))
    | cancelled =>
      refine ih hrest (v := v.absorb bus .cancelled) (h.trans ?_)
      have hdrop (line : List (Nat × Nat)) : SameJobs v { v with cancelLine := line } := ⟨rfl, rfl⟩
      exact (hdrop _).trans (sameJobs_foldr_wake (fun p : Nat × Nat => .job p.2) _ _)
    | _ => exact ih hrest ⟨h.jobs, h.nextId⟩

/-- **A job that goes on keeps what the other jobs are good for.**  If a job has no frames left, it is
good for nothing. -/
theorem filterMap_setFrames {β : Type} {f : Job → Option β} (hf : ∀ id, f ⟨id, []⟩ = none)
    {w : World} {j : Job} (hn : (w.jobs.map Job.id).Nodup) (hj : j ∈ w.jobs) (frames : List Frame) :
    ((w.setFrames j.id frames).jobs.filterMap f ++ (f j).toList).Perm
      (w.jobs.filterMap f ++ (f ⟨j.id, frames⟩).toList) := by
  have hbefore := Bus.filterMap_perm (f := f) hn hj
  -- After the step, the other jobs are the same, and this one has these frames.
  have hafter : ((w.setFrames j.id frames).jobs.filterMap f).Perm
      ((f ⟨j.id, frames⟩).toList ++ (w.jobs.filter fun y => y.id != j.id).filterMap f) := by
    cases frames with
    | nil =>
      rw [hf]
      exact List.Perm.refl _
    | cons frame rest =>
      have hp := Bus.perm_cons_map (f := fun y : Job =>
        if y.id = j.id then ⟨j.id, frame :: rest⟩ else y) hn hj fun y hy => if_neg hy
      rw [if_pos rfl] at hp
      rw [← Bus.filterMap_cons_toList]
      exact hp.filterMap f
  refine (hafter.append_right _).trans ?_
  refine List.Perm.trans ?_ (hbefore.append_right _).symm
  refine List.perm_append_comm.trans ?_
  rw [List.append_assoc]
  exact List.perm_append_comm.append_left _

/-- A broadcast that has reached a client has got its message through to that client, and to nobody
else. -/
theorem passed_sent {w : World} {j : Job} (hn : (w.jobs.map Job.id).Nodup) (hj : j ∈ w.jobs)
    {b : Broadcast} {client : Client} {others : List Client} {below : List Frame}
    (hframes : j.frames = .sending b :: below) (hb : b.remaining = client :: others)
    (hnot : client ∉ others) (other : Client) :
    ((w.setFrames j.id (.sending { b with remaining := others } :: below)).passed other).Perm
      (w.passed other ++ if other = client then [b.message] else []) := by
  have hall := filterMap_setFrames (f := Job.passed? other) (fun _ => rfl) hn hj
    (.sending { b with remaining := others } :: below)
  have hbefore : j.passed? other = if other ∈ client :: others then none else some b.message := by
    rw [Job.passed?, hframes, ← hb]
  have hafter : (⟨j.id, .sending { b with remaining := others } :: below⟩ : Job).passed? other =
      if other ∈ others then none else some b.message := rfl
  rw [hbefore, hafter] at hall
  by_cases heq : other = client
  · subst heq
    rw [if_pos List.mem_cons_self, if_neg hnot] at hall
    rw [if_pos rfl]
    exact (List.Perm.of_eq (List.append_nil _)).symm.trans hall
  · have hiff : other ∈ client :: others ↔ other ∈ others := by
      rw [List.mem_cons, or_iff_right heq]
    rw [if_congr hiff rfl rfl] at hall
    rw [if_neg heq, List.append_nil]
    exact (List.perm_append_right_iff _).1 hall

/-- A job that has not got any message through does not change what has got through. -/
theorem passed_startJob (w : World) {frame : Frame} {client : Client}
    (h : (⟨w.nextId, [frame]⟩ : Job).passed? client = none) :
    (w.startJob frame).passed client = w.passed client := by
  rw [passed, startJob, List.filterMap_append, List.filterMap_cons_none h]
  exact List.append_nil _

/-- Nor do jobs for listeners that have not begun. -/
theorem passed_hireAll (w : World) (bus : Nat) (vs : List (Invocation Handler)) (client : Client) :
    (w.hireAll bus vs).passed client = w.passed client := by
  induction vs generalizing w with
  | nil => rfl
  | cons v rest ih => exact (ih _).trans (w.passed_startJob rfl)

end World

namespace Staffed

variable {bus : Nat} {center : Center} {w v : World} {duties : List Duty}

theorem congr (h : Staffed bus center w duties) (hs : World.SameJobs w v) :
    Staffed bus center v duties := by
  constructor
  · rw [hs.jobs, hs.nextId]
    exact h.numbered
  · rw [hs.jobs]
    exact h.shapes
  · rw [hs.jobs]
    exact h.duties

/-- Every duty is seen to by somebody. -/
theorem exists_job (h : Staffed bus center w duties) {d : Duty} (hd : d ∈ duties) :
    ∃ j ∈ w.jobs, j.duty? = some d :=
  List.mem_filterMap.1 (h.duties.mem_iff.2 hd)

/-- A new job takes on a new duty. -/
theorem start (h : Staffed bus center w duties) {frame : Frame} {d : Duty}
    (hs : Shape bus center [frame]) (hd : (⟨w.nextId, [frame]⟩ : Job).duty? = some d) :
    Staffed bus center (w.startJob frame) (duties ++ [d]) where
  numbered := by
    rw [World.startJob, List.map_append]
    exact h.numbered.snoc
  shapes := fun j hj => by
    rcases List.mem_append.1 hj with hj | hj
    · exact h.shapes j hj
    · rw [List.mem_singleton.1 hj]
      exact hs
  duties := by
    rw [World.startJob, List.filterMap_append, List.filterMap_cons_some hd]
    exact h.duties.append_right _

/-- New jobs take on the duty to run listeners. -/
theorem hireAll (h : Staffed bus center w duties) {vs : List (Invocation Handler)}
    (hvs : ∀ v ∈ vs, v.listener.handler = .audit ∨ v.listener.handler = .relay) :
    Staffed bus center (w.hireAll bus vs) (duties ++ vs.map Duty.run) := by
  induction vs generalizing w duties with
  | nil =>
    rw [List.map_nil, List.append_nil]
    exact h
  | cons v rest ih =>
    rw [List.map_cons, List.append_cons]
    refine ih (h.start (.fresh v.id (hvs v List.mem_cons_self) v.event) rfl) fun x hx => ?_
    exact hvs x (List.mem_cons_of_mem _ hx)

/-- A job goes on and sees to the same duty as before. -/
theorem change (h : Staffed bus center w duties) {j : Job} (hj : j ∈ w.jobs) {frame : Frame}
    {below : List Frame} (hs : Shape bus center (frame :: below))
    (hd : (⟨j.id, frame :: below⟩ : Job).duty? = j.duty?) :
    Staffed bus center (w.setFrames j.id (frame :: below)) duties where
  numbered := by
    have hids : (w.setFrames j.id (frame :: below)).jobs.map Job.id = w.jobs.map Job.id := by
      refine Bus.map_key_map (fun y => ?_) w.jobs
      by_cases hy : y.id = j.id
      · rw [if_pos hy]
        exact hy.symm
      · rw [if_neg hy]
    rw [hids]
    exact h.numbered
  shapes := fun x hx => by
    obtain ⟨y, hy, rfl⟩ := List.mem_map.1 hx
    by_cases hyj : y.id = j.id
    · rw [if_pos hyj]
      exact hs
    · rw [if_neg hyj]
      exact h.shapes y hy
  duties := by
    have hp := World.filterMap_setFrames (f := Job.duty?) (fun _ => rfl) h.numbered.1 hj
      (frame :: below)
    rw [hd] at hp
    exact ((List.perm_append_right_iff _).1 hp).trans h.duties

/-- A job ends with its duty. -/
theorem finish (h : Staffed bus center w duties) {j : Job} (hj : j ∈ w.jobs) {d : Duty}
    {rest : List Duty} (hd : j.duty? = some d) (hrest : duties.Perm (d :: rest)) :
    Staffed bus center (w.setFrames j.id []) rest where
  numbered := h.numbered.sublist (Bus.map_filter_sublist ..)
  shapes := fun x hx => h.shapes x (List.mem_of_mem_filter hx)
  duties := by
    have hp := World.filterMap_setFrames (f := Job.duty?) (fun _ => rfl) h.numbered.1 hj []
    rw [hd] at hp
    refine (List.perm_append_right_iff [d]).1 (hp.trans ?_)
    refine (List.Perm.of_eq (List.append_nil _)).trans ?_
    exact (h.duties.trans hrest).trans (List.perm_append_singleton d rest).symm

/-- Whoever is inside a publishing call does nothing else. -/
theorem publisher? (h : Staffed bus center w duties) {call : Nat} (hd : .publish call ∈ duties) :
    ∃ j ∈ w.jobs, j.frames = [.publishing bus call] ∧ w.publisher? bus call = some j := by
  obtain ⟨j, hj, hduty⟩ := h.exists_job hd
  have hframes : j.frames = [.publishing bus call] := by
    have hs := h.shapes j hj
    obtain ⟨id, frames⟩ := j
    cases hs with
    | publishing n =>
      obtain rfl := Duty.publish.inj (Option.some.inj hduty)
      rfl
    | _ => exact absurd (Option.some.inj hduty) (by simp)
  cases hfind : w.publisher? bus call with
  | none =>
    have hnot := List.find?_eq_none.1 hfind j hj
    rw [hframes] at hnot
    exact absurd hnot (by simp)
  | some x =>
    have hx := List.mem_of_find?_eq_some hfind
    refine ⟨x, hx, ?_, rfl⟩
    have hhead := List.find?_some hfind
    have hs := h.shapes x hx
    obtain ⟨id, frames⟩ := x
    cases hs with
    | publishing n =>
      simp only [Bool.and_eq_true, beq_iff_eq] at hhead
      rw [hhead.2]
    | _ => exact Bool.noConfusion hhead

/-- When a publishing call returns, the job that was inside it ends. -/
theorem returned (h : Staffed bus center w duties) {call : Nat} {rest : List Duty}
    (hrest : duties.Perm (.publish call :: rest)) :
    Staffed bus center (w.absorb bus (.returned call)) rest ∧
      ∀ client, ((w.absorb bus (.returned call)).passed client).Perm (w.passed client) := by
  obtain ⟨j, hj, hframes, hpublisher⟩ := h.publisher? (hrest.mem_iff.2 List.mem_cons_self)
  have habsorb : w.absorb bus (.returned call) = w.setFrames j.id [] := by
    simp only [World.absorb, hpublisher, hframes, List.tail_cons]
  rw [habsorb]
  refine ⟨h.finish hj ?_ hrest, fun client => ?_⟩
  · rw [Job.duty?, hframes]
    rfl
  · have hp := World.filterMap_setFrames (f := Job.passed? client) (fun _ => rfl) h.numbered.1 hj []
    have hnone : j.passed? client = none := by rw [Job.passed?, hframes]
    rw [hnone] at hp
    exact (List.perm_append_right_iff []).1 hp

/-- As long as a relay has yet to reach a client, fewer messages have got through to that client than
are due. -/
theorem length_passed_lt (h : Staffed bus center w duties) {j : Job} (hj : j ∈ w.jobs)
    {client : Client} (hnone : j.passed? client = none) {n : Nat} {e : Event}
    (hduty : j.duty? = some (.hear n .relay e)) :
    (w.passed client).length < (duties.filterMap Duty.message?).length := by
  have hfewer := (Bus.filterMap_perm (f := Job.passed? client) h.numbered.1 hj).length_eq
  have hmore := (Bus.filterMap_perm (f := fun j : Job => j.duty?.bind Duty.message?)
    h.numbered.1 hj).length_eq
  -- What another job has got through is what it is to give out.
  have hothers : ((w.jobs.filter fun y => y.id != j.id).filterMap (Job.passed? client)).length ≤
      ((w.jobs.filter fun y => y.id != j.id).filterMap
        fun j => j.duty?.bind Duty.message?).length := by
    rw [List.length_filterMap_eq_countP, List.length_filterMap_eq_countP]
    refine List.countP_mono_left fun x hx hsome => ?_
    have hshape := h.shapes x (List.mem_of_mem_filter hx)
    obtain ⟨id, frames⟩ := x
    cases hshape with
    | publishing | fresh => exact Bool.noConfusion hsome
    | sending | relayed => rfl
  have hdue := (h.duties.filterMap Duty.message?).length_eq
  rw [List.filterMap_filterMap] at hdue
  rw [hnone, Option.toList_none, List.nil_append] at hfewer
  rw [hduty] at hmore
  simp only [Option.bind_some, Duty.message?, Handler.message?, Option.toList_some,
    List.length_append, List.length_singleton] at hmore
  rw [← hdue, World.passed]
  omega

end Staffed
end Scenario
end Switchboard
