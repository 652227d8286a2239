import Switchboard.Proofs.Eventing.Delivery
import Switchboard.Proofs.Eventing.Records
import Switchboard.Proofs.Eventing.Shutdown

/-!
# Phases

Calls to start the workers and calls to close change the phase of a bus, and any number of them may be
under way.  `lifecycle` says what can come of that: the phases go in one direction, workers are started
once at most, and every worker that has been started writes that it stops, before the first call to
close returns.

Two numbers are read off the state.  The workers of a bus are there since a call to start them took
effect, so their number tells how many of these calls did (`length_crew`).  And a worker writes that it
stops when it does, so the records about that are the workers that have stopped (`about_workerStopped`).
When a call to close returns, all of them have, and none of them comes back.
-/

namespace Switchboard

namespace Phase

theorem rank_le_rank_closed (p : Phase) : p.rank ≤ closed.rank := by
  cases p <;> decide

theorem rank_le_rank_begunClosing (p : Phase) : p.rank ≤ p.begunClosing.rank := by
  cases p <;> decide

/-- No phase comes after the last. -/
theorem eq_closed_of_rank_le {p : Phase} (h : closed.rank ≤ p.rank) : p = closed := by
  revert h
  cases p <;> decide

theorem begunClosing_eq_closed_iff (p : Phase) : p.begunClosing = closed ↔ p = closed := by
  cases p <;> decide

end Phase

namespace Bus

variable {H : Type}

open History

variable {b c fresh : Bus H} {s : BusStep H} {fx past h : History H} {config : DispatcherConfig}
  {schedule : List (BusStep H)}

/-! ## The order of phases -/

/-- A step does not lead back to an earlier phase. -/
theorem Transition.rank_le (ht : Transition b s c fx) : b.phase.rank ≤ c.phase.rank := by
  cases ht with
  | collect hp =>
    rw [hp]
    exact Nat.zero_le _
  | close => exact b.phase.rank_le_rank_begunClosing
  | closed => exact b.phase.rank_le_rank_closed
  | _ => exact Nat.le_refl _

/-- **A bus does not go back to an earlier phase.** -/
theorem Reached.rank_le (hb : Reached config schedule past b) {more : List (BusStep H)}
    (hrun : b.run more = some (c, h)) : b.phase.rank ≤ c.phase.rank :=
  (hb.run_induction (P := fun _ d => b.phase.rank ≤ d.phase.rank)
    (fun _ hle ht => Nat.le_trans hle ht.rank_le) hrun (Nat.le_refl _)).1

/-- A bus is closed if and only if a call to close it has returned. -/
theorem Reached.closed_iff (h : Reached config schedule past b) :
    b.phase = .closed ↔ ∃ k, .closed k ∈ past := by
  induction h with
  | new hb =>
    obtain ⟨hv, rfl⟩ := eq_of_new? hb
    simp
  | @step _ past fx b _ _ hb ht ih =>
    simp only [List.mem_append, exists_or]
    rw [← ih]
    cases ht with
    | collect hp => simp [hp]
    | close =>
      rw [Phase.begunClosing_eq_closed_iff]
      exact (or_iff_left (by rintro ⟨k, hk⟩; split at hk <;> simp at hk)).symm
    | closed => simp
    | _ => exact (or_iff_left (by simp)).symm

/-! ## Calls to start the workers -/

/-- Whether a step that has been taken is a call to start the workers that took effect. -/
def Taken.launches (t : Taken H) : Bool :=
  match t.step with
  | .collect _ => decide (t.after.phase ≠ t.before.phase)
  | _ => false

/-- How many calls to start the workers take effect in a run. -/
def launches (schedule : List (BusStep H)) (fresh : Bus H) : Nat :=
  (trace schedule fresh).countP Taken.launches

/-- A call to start the workers does so in a bus where nothing has happened, and otherwise it writes a
record and changes nothing. -/
theorem collect_cases {inRuntime : Bool} (h : b.step (.collect inRuntime) = some (c, fx)) :
    inRuntime = true ∧ b.phase = .constructed ∧
        c = { b with phase := .collecting, crew := List.replicate b.config.workers .ready } ∧
        records fx = [] ∨
      (inRuntime = true → b.phase ≠ .constructed) ∧ c = b ∧
        fx = if inRuntime then [.ignored b.phase] else unstarted := by
  have hc : b.collect inRuntime = (c, fx) := Option.some.inj h
  cases inRuntime with
  | false =>
    obtain ⟨rfl, rfl⟩ := Prod.mk.inj hc
    exact Or.inr ⟨fun hr => Bool.noConfusion hr, rfl, rfl⟩
  | true =>
    rw [collect, if_neg (by simp)] at hc
    split at hc
    · rename_i hp
      obtain ⟨rfl, rfl⟩ := Prod.mk.inj hc
      exact Or.inl ⟨rfl, hp, rfl, records_map (fun _ => rfl) _⟩
    · rename_i hp
      obtain ⟨rfl, rfl⟩ := Prod.mk.inj hc
      exact Or.inr ⟨fun _ => hp, rfl, rfl⟩

/-- A step adds the workers that it starts, if it does, and nobody takes workers away. -/
theorem Transition.length_crew (hl : LifeKept b) (ht : Transition b s c fx) (gx : History H) :
    c.crew.length =
      b.crew.length + (if Taken.launches ⟨b, s, c, gx⟩ then b.config.workers else 0) := by
  cases ht with
  | collectOutside | collectIgnored => simp [Taken.launches]
  | collect hp => simp [Taken.launches, hp, hl.unmanned hp]
  | takeReader | lineUp | becomeReader | receive | fanOut | skipFanOut | stop | stopReader
  | stopInLine => exact List.length_set
  | _ => rfl

/-- As many workers are there as have been started. -/
theorem length_crew (hnew : new? config = .ok fresh) (hrun : fresh.run schedule = some (b, h)) :
    b.crew.length = launches schedule fresh * config.workers := by
  refine (Reached.new hnew).steps_induction
    (P := fun steps _ d => d.crew.length = launches steps fresh * config.workers)
    (fun {steps fx m s c gx} hm hr ih hs => ?_) hrun ?_
  · have ht := transition_of_step hr.refusing hs
    rw [ht.length_crew hr.life gx, ih, hr.config_eq, launches, launches, trace_concat hm hs,
      List.countP_append, List.countP_singleton, Nat.add_mul]
    split <;> simp
  · obtain ⟨hv, rfl⟩ := eq_of_new? hnew
    simp [launches]

/-! ## Records of workers that stop -/

/-- The message of a worker that stops. -/
def workerStopped : String :=
  "collect worker stopped"

/-- The workers that have stopped. -/
def stoppedWorkers (crew : List WorkerState) : List Nat :=
  (List.range crew.length).filter fun i => crew[i]? = some .stopped

theorem mem_stoppedWorkers {crew : List WorkerState} {i : Nat} :
    i ∈ stoppedWorkers crew ↔ crew[i]? = some .stopped := by
  rw [stoppedWorkers, List.mem_filter, List.mem_range, decide_eq_true_iff]
  refine and_iff_right_of_imp fun hi => ?_
  exact (List.getElem?_eq_some_iff.1 hi).1

theorem nodup_stoppedWorkers (crew : List WorkerState) : (stoppedWorkers crew).Nodup :=
  List.nodup_range.filter _

/-- If all workers have stopped, none is left out. -/
theorem stoppedWorkers_eq_range {crew : List WorkerState} (h : ∀ w ∈ crew, w = .stopped) :
    stoppedWorkers crew = List.range crew.length := by
  refine List.filter_eq_self.2 fun i hi => decide_eq_true ?_
  rw [List.getElem?_eq_getElem (List.mem_range.1 hi), h _ (List.getElem_mem _)]

/-- None has stopped if all are about to look for an event. -/
theorem stoppedWorkers_replicate (n : Nat) : stoppedWorkers (List.replicate n .ready) = [] := by
  refine List.eq_nil_iff_forall_not_mem.2 fun i hi => ?_
  have hmem := List.mem_of_getElem? (mem_stoppedWorkers.1 hi)
  exact absurd (List.eq_of_mem_replicate hmem) (by simp)

/-- A worker that goes on has not stopped before or after. -/
theorem stoppedWorkers_set {crew : List WorkerState} {i : Nat} {v w : WorkerState}
    (hv : crew[i]? = some v) (hne : v ≠ .stopped) (hw : w ≠ .stopped) :
    stoppedWorkers (crew.set i w) = stoppedWorkers crew := by
  rw [stoppedWorkers, stoppedWorkers, List.length_set]
  refine List.filter_congr fun j _ => decide_eq_decide.2 ?_
  rw [getElem?_set_of_some hv]
  split
  · rename_i hij
    rw [← hij, hv, Option.some.injEq, Option.some.injEq]
    exact iff_of_false hw hne
  · exact Iff.rfl

/-- A worker that stops is one more. -/
theorem stoppedWorkers_set_stopped {crew : List WorkerState} {i : Nat} {v : WorkerState}
    (hv : crew[i]? = some v) (hne : v ≠ .stopped) :
    (stoppedWorkers (crew.set i .stopped)).Perm (i :: stoppedWorkers crew) := by
  have hi : i ∉ stoppedWorkers crew := by
    rw [mem_stoppedWorkers, hv, Option.some.injEq]
    exact hne
  refine (List.perm_ext_iff_of_nodup (nodup_stoppedWorkers _)
    (List.nodup_cons.2 ⟨hi, nodup_stoppedWorkers _⟩)).2 fun j => ?_
  rw [List.mem_cons, mem_stoppedWorkers, mem_stoppedWorkers, getElem?_set_of_some hv]
  by_cases hij : i = j
  · simp [hij]
  · simp [hij, Ne.symm hij]

/-- A worker that has its turn writes what its state says. -/
theorem written_worker {i : Nat} {w : WorkerState} (hw : b.crew[i]? = some w) :
    b.written (.worker i) = b.writtenByWorker i w := by
  rw [written, hw, Option.toList_some, List.flatMap_singleton]

/-- What the workers that have stopped have written. -/
def farewells (crew : List WorkerState) : History H :=
  (stoppedWorkers crew).map .stopped

/-- A step writes that a worker stops if and only if it does. -/
theorem about_workerStopped_of_step (hb : Reached config schedule past b)
    (hs : b.step s = some (c, fx)) :
    (about workerStopped fx ++ farewells b.crew).Perm (farewells c.crew) := by
  have ht := transition_of_step hb.refusing hs
  generalize news fx = gx at ht
  -- What a worker writes follows from the state that it is in.
  have hwritten {i : Nat} {w : WorkerState} (hw : b.crew[i]? = some w) (hi : s = .worker i)
      {k : History H} (hk : about workerStopped (b.writtenByWorker i w) = k) :
      about workerStopped fx = k := by
    rw [← about_records, records_of_step hs, hi, written_worker hw, hk]
  have hgoesOn {i : Nat} {v w : WorkerState} (hv : b.crew[i]? = some v) (hne : v ≠ .stopped)
      (hw : w ≠ .stopped) (hnone : about workerStopped fx = []) :
      (about workerStopped fx ++ farewells b.crew).Perm (farewells (b.crew.set i w)) := by
    rw [hnone, List.nil_append, farewells, farewells, stoppedWorkers_set hv hne hw]
  have hstops {i : Nat} {v : WorkerState} (hv : b.crew[i]? = some v) (hne : v ≠ .stopped)
      (hone : about workerStopped fx = [.stopped i]) :
      (about workerStopped fx ++ farewells b.crew).Perm (farewells (b.crew.set i .stopped)) := by
    rw [hone]
    exact ((stoppedWorkers_set_stopped hv hne).map _).symm
  cases ht with
  | takeReader hv hk | lineUp hv hk | becomeReader hv hk =>
    refine hgoesOn hv (by simp) (by simp) (hwritten hv rfl ?_)
    rw [writtenByWorker, hk]
    rfl
  | receive hv hk hq =>
    refine hgoesOn hv (by simp) (by simp) (hwritten hv rfl ?_)
    rw [writtenByWorker, hk, hq]
    rfl
  | fanOut hv | skipFanOut hv =>
    refine hgoesOn hv (by simp) (by simp) (hwritten hv rfl ?_)
    exact about_writtenOnFanOut (by decide) ..
  | stop hv hk | stopInLine hv hh hk =>
    refine hstops hv (by simp) (hwritten hv rfl ?_)
    rw [writtenByWorker, hk]
    rfl
  | stopReader hv hk =>
    rcases hv with hv | ⟨hv, -⟩ <;> refine hstops hv (by simp) (hwritten hv rfl ?_) <;>
      rw [writtenByWorker, hk] <;> rfl
  | collect hp =>
    rw [about_of_step (by decide) (by simp [subjects, workerStopped]) hs, hb.life.unmanned hp]
    show List.Perm _ ((stoppedWorkers (List.replicate _ _)).map _)
    rw [stoppedWorkers_replicate]
    exact List.Perm.refl _
  | _ =>
    rw [about_of_step (by decide) (by simp [subjects, workerStopped]) hs]
    exact List.Perm.refl _

/-- **The records of workers that stop** are those of the workers that have stopped. -/
theorem Reaches.about_workerStopped (hb : Reaches config schedule b h) :
    (about workerStopped h).Perm (farewells b.crew) := by
  obtain ⟨fresh, hnew, hrun⟩ := hb
  refine (Reached.new hnew).steps_induction
    (P := fun _ fx d => (about workerStopped fx).Perm (farewells d.crew))
    (fun _ hr ih hs => ?_) hrun ?_
  · rw [about_append]
    exact (List.perm_append_comm.trans (ih.append_left _)).trans (about_workerStopped_of_step hr hs)
  · obtain ⟨hv, rfl⟩ := eq_of_new? hnew
    exact List.Perm.refl _

/-! ## A closed bus -/

/-- A step of a call to close: it begins, goes on, or is given up. -/
def closes : BusStep H → Bool
  | .close | .closer _ | .abandonClose _ => true
  | _ => false

/-- In a closed bus, a call to close changes nothing but the calls to close. -/
theorem Reached.closes_of_closed (hb : Reached config schedule past b) (hp : b.phase = .closed)
    (hc : closes s = true) (hs : b.step s = some (c, fx)) :
    c = { b with closers := c.closers, nextId := c.nextId } ∧ records fx = [] := by
  have hk : b.cancelled = true := hb.life.cancelled_iff.2 (Or.inr hp)
  have hrecords := records_of_step hs
  have ht := transition_of_step hb.refusing hs
  generalize news fx = gx at ht
  cases ht with
  | close =>
    have hphase : b.phase.begunClosing = b.phase := by rw [hp]; rfl
    refine ⟨?_, hrecords⟩
    rw [hphase, ← hk]
  | abandonClose | awaitTasks => exact ⟨rfl, hrecords⟩
  | closed =>
    refine ⟨?_, hrecords⟩
    rw [← hp]
  | _ => exact absurd hc (by simp [closes])

/-- If all workers have stopped and none can be started, the workers remain as they are. -/
theorem Transition.crew_eq (hstopped : ∀ w ∈ b.crew, w = .stopped) (hp : b.phase ≠ .constructed)
    (ht : Transition b s c fx) : c.crew = b.crew := by
  have hgoesOn {i : Nat} {w : WorkerState} (hw : b.crew[i]? = some w) : w = .stopped :=
    hstopped w (List.mem_of_getElem? hw)
  cases ht with
  | collect hc => exact absurd hc hp
  | takeReader hw | lineUp hw | becomeReader hw | receive hw | fanOut hw | skipFanOut hw | stop hw
  | stopInLine hw => exact absurd (hgoesOn hw) (by simp)
  | stopReader hw => rcases hw with hw | ⟨hw, -⟩ <;> exact absurd (hgoesOn hw) (by simp)
  | _ => rfl

/-- Once a call to close has returned, the bus remains closed and its workers remain as they are. -/
theorem Reached.run_of_closed (hb : Reached config schedule past b) (hp : b.phase = .closed)
    (hstopped : ∀ w ∈ b.crew, w = .stopped) {more : List (BusStep H)}
    (hrun : b.run more = some (c, h)) : c.phase = .closed ∧ c.crew = b.crew := by
  have hclosed {d : Bus H} (hle : b.phase.rank ≤ d.phase.rank) : d.phase = .closed := by
    rw [hp] at hle
    exact Phase.eq_closed_of_rank_le hle
  refine ⟨hclosed (hb.rank_le hrun), ?_⟩
  refine (hb.run_induction (P := fun _ d => d.phase = .closed ∧ d.crew = b.crew)
    (fun _ hd ht => ?_) hrun ⟨hp, rfl⟩).1.2
  obtain ⟨hphase, hcrew⟩ := hd
  have hle := ht.rank_le
  rw [hphase] at hle
  refine ⟨Phase.eq_closed_of_rank_le hle, (ht.crew_eq ?_ ?_).trans hcrew⟩
  · rw [hcrew]
    exact hstopped
  · rw [hphase]
    simp

/-- A bus without workers and tasks is closed by a call to close as soon as this call goes on. -/
theorem Reached.close_at_once (hb : Reached config schedule past b) (hcrew : b.crew = [])
    (hidle : b.idle = true) :
    ∃ c fx, b.run [.close, .closer b.nextId] = some (c, fx) ∧ .closed b.nextId ∈ fx := by
  have hs : b.step .close = some b.close := rfl
  have hnext := hb.step (transition_of_step hb.refusing hs)
  have hmem : ⟨b.nextId, .workers⟩ ∈ b.close.1.closers :=
    List.mem_append_right _ (List.mem_singleton_self _)
  have hfind : b.close.1.closers.find? (fun x => x.id == b.nextId) = some ⟨b.nextId, .workers⟩ :=
    find?_id_of_mem hnext.numbers.closers.1 hmem
  have hstopped : b.close.1.crewStopped = true := by
    show b.crew.all _ = true
    rw [hcrew, List.all_nil]
  have hrest : b.close.1.idle = true := hidle
  have hcloser : ∃ c, b.close.1.step (.closer b.nextId) = some (c, [.closed b.nextId]) := by
    show ∃ c, b.close.1.closerStep b.nextId = some (c, _)
    rw [closerStep, hfind]
    simp only [hstopped, hrest, Bool.not_true, if_true, Bool.false_eq_true, if_false]
    exact ⟨_, rfl⟩
  obtain ⟨c, hc⟩ := hcloser
  refine ⟨c, _, run_cons_eq_some.2 ⟨_, _, _, hs, run_cons_eq_some.2 ⟨_, _, _, hc, rfl, rfl⟩, rfl⟩, ?_⟩
  exact List.mem_append_right _ List.mem_cons_self

/-! ## The main result -/

/-- Workers have been started once at most, since there are no more of them than there may be. -/
theorem launches_le_one (hnew : new? config = .ok fresh) (hrun : fresh.run schedule = some (b, h)) :
    launches schedule fresh ≤ 1 := by
  have hr := (Reached.new hnew).run hrun
  have hpos : 0 < config.workers := hr.config_eq ▸ b.workers_pos
  have hlength := length_crew hnew hrun
  rcases hr.life.whole with hcrew | hcrew
  · rw [hcrew, List.length_nil] at hlength
    rcases Nat.mul_eq_zero.1 hlength.symm with hnone | hnone <;> omega
  · rw [hlength, hr.config_eq] at hcrew
    exact Nat.le_of_eq (Nat.eq_of_mul_eq_mul_right hpos (hcrew.trans (Nat.one_mul _).symm))

/-- There are no workers if and only if none have been started. -/
theorem crew_eq_nil_iff (hnew : new? config = .ok fresh) (hrun : fresh.run schedule = some (b, h)) :
    b.crew = [] ↔ launches schedule fresh = 0 := by
  have hr := (Reached.new hnew).run hrun
  have hpos : 0 < config.workers := hr.config_eq ▸ b.workers_pos
  rw [← List.length_eq_zero_iff, length_crew hnew hrun, Nat.mul_eq_zero]
  exact or_iff_left (Nat.ne_of_gt hpos)

/-- Nothing has happened to the phase of a bus as long as no workers have been started and nobody has
begun to close it. -/
theorem constructed_iff (hnew : new? config = .ok fresh) (hrun : fresh.run schedule = some (b, h)) :
    b.phase = .constructed ↔ launches schedule fresh = 0 ∧ .close ∉ schedule := by
  have hr := (Reached.new hnew).run hrun
  have hlife := hr.life
  rw [← crew_eq_nil_iff hnew hrun]
  constructor
  · intro hp
    refine ⟨hlife.unmanned hp, fun hclose => ?_⟩
    rcases hlife.cancelled_iff.1 (hr.cancelled_iff_close_mem.2 hclose) with hphase | hphase <;>
      exact absurd (hp.symm.trans hphase) (by simp)
  · rintro ⟨hcrew, hclose⟩
    have hk := hr.not_cancelled hclose
    cases hp : b.phase with
    | constructed => rfl
    | collecting =>
      have hlength := hlife.manned hp
      rw [hcrew] at hlength
      exact absurd hlength (Nat.ne_of_lt b.workers_pos)
    | closing => exact absurd (hk.symm.trans (hlife.cancelled_iff.2 (Or.inl hp))) (by simp)
    | closed => exact absurd (hk.symm.trans (hlife.cancelled_iff.2 (Or.inr hp))) (by simp)

/-- **The life of a bus.** Its phase does not go back to an earlier one.  It is the first one until a
call to start the workers takes effect or a call to close begins, and the last one once a call to close
has returned.  One call at most to start the workers takes effect, and it starts all of them; every
other one leaves the bus as it is and writes one record, which is about the missing runtime or has the
phase in which the bus is.  A bus may be closed without having been started, and once a call to close
has begun no call to start the workers has an effect.  When a call to close returns, and forever after,
the bus is closed and has as many records of workers that stop as it has workers: none if they were not
started.  Then calls to close change nothing but who closes. -/
theorem lifecycle (hnew : new? config = .ok fresh) (hrun : fresh.run schedule = some (b, h)) :
    (∀ first second mid early, schedule = first ++ second → fresh.run first = some (mid, early) →
      mid.phase.rank ≤ b.phase.rank) ∧
    (b.phase = .constructed ↔ launches schedule fresh = 0 ∧ .close ∉ schedule) ∧
    (b.phase = .closed ↔ ∃ k, .closed k ∈ h) ∧
    launches schedule fresh ≤ 1 ∧
    (∀ inRuntime c fx, b.step (.collect inRuntime) = some (c, fx) →
      inRuntime = true ∧ b.phase = .constructed ∧
          c = { b with phase := .collecting, crew := List.replicate config.workers .ready } ∧
          records fx = [] ∨
        (inRuntime = true → b.phase ≠ .constructed) ∧ c = b ∧
          fx = if inRuntime then [.ignored b.phase] else unstarted) ∧
    (.close ∈ schedule → ∀ inRuntime c fx, b.step (.collect inRuntime) = some (c, fx) → c = b) ∧
    (launches schedule fresh = 0 → b.idle = true →
      ∃ c fx, b.run [.close, .closer b.nextId] = some (c, fx) ∧ .closed b.nextId ∈ fx) ∧
    (∀ s c fx k, b.step s = some (c, fx) → .closed k ∈ fx → c.phase = .closed ∧
      ∀ more d later, c.run more = some (d, later) → d.phase = .closed ∧
        (about workerStopped (h ++ fx ++ later)).Perm
          ((List.range (launches schedule fresh * config.workers)).map .stopped)) ∧
    (b.phase = .closed → ∀ s c fx, closes s = true → b.step s = some (c, fx) →
      c = { b with closers := c.closers, nextId := c.nextId } ∧ records fx = []) := by
  have hb : Reaches config schedule b h := ⟨fresh, hnew, hrun⟩
  have hr := hb.reached
  have hconstructed := constructed_iff hnew hrun
  refine ⟨fun first second mid early hsched hfirst => ?_, hconstructed, ?_,
    launches_le_one hnew hrun, fun inRuntime c fx hs => ?_, fun hclose inRuntime c fx hs => ?_,
    fun hnone hidle => ?_, fun s c fx k hs hx => ?_, fun hp s c fx hc hs => ?_⟩
  · rw [hsched] at hrun
    obtain ⟨other, _, _, hother, hsecond, -⟩ := run_append_eq_some.1 hrun
    obtain ⟨rfl, -⟩ := Prod.mk.inj (Option.some.inj (hfirst.symm.trans hother))
    exact ((Reached.new hnew).run hfirst).rank_le hsecond
  · rw [hr.closed_iff]
    exact exists_congr fun k => mem_news rfl
  · rw [← hr.config_eq]
    exact collect_cases hs
  · rcases collect_cases hs with ⟨-, hp, -⟩ | ⟨-, hc, -⟩
    · exact absurd hclose (hconstructed.1 hp).2
    · exact hc
  · exact hr.close_at_once ((crew_eq_nil_iff hnew hrun).2 hnone) hidle
  · have ht := transition_of_step hr.refusing hs
    have hnews : .closed k ∈ news fx := (mem_news rfl).2 hx
    obtain ⟨-, hphase, hcrew, -⟩ := ht.of_closed hnews
    obtain ⟨hstopped, -⟩ := hr.closing.of_closed ht hnews
    refine ⟨hphase, fun more d later hlater => ?_⟩
    obtain ⟨hclosed, hsame⟩ := (hr.step ht).run_of_closed hphase hstopped hlater
    refine ⟨hclosed, ?_⟩
    have hall : Reaches config (schedule ++ s :: more) d (h ++ fx ++ later) := by
      rw [List.append_assoc]
      exact reaches_append.2 ⟨b, h, fx ++ later, hb,
        run_cons_eq_some.2 ⟨c, fx, later, hs, hlater, rfl⟩, rfl⟩
    have habout := hall.about_workerStopped
    rw [farewells, hsame, stoppedWorkers_eq_range hstopped, hcrew, length_crew hnew hrun] at habout
    exact habout
  · exact hr.closes_of_closed hp hc hs

/-- A bus with one worker is started twice and closed.  The second call has no effect, and the worker
writes once that it stops. -/
theorem lifecycle_of_one_worker : ∃ (fresh b c : Bus Unit) (h fx : History Unit),
    new? smallest = .ok fresh ∧
    fresh.run [.collect true, .collect true, .close, .worker 0] = some (b, h) ∧
    launches [.collect true, .collect true, .close, .worker 0] fresh = 1 ∧
    b.step (.closer 0) = some (c, fx) ∧ c.phase = .closed ∧
    ∀ more d later, c.run more = some (d, later) →
      d.phase = .closed ∧ about workerStopped (h ++ fx ++ later) = [.stopped 0] := by
  obtain ⟨fresh, b, c, h, fx, hnew, hrun, hone, hs, hclosed⟩ :
      ∃ (fresh b c : Bus Unit) (h fx : History Unit), new? smallest = .ok fresh ∧
        fresh.run [.collect true, .collect true, .close, .worker 0] = some (b, h) ∧
        launches [.collect true, .collect true, .close, .worker 0] fresh = 1 ∧
        b.step (.closer 0) = some (c, fx) ∧ fx = [.closed 0] :=
    ⟨_, _, _, _, _, rfl, rfl, rfl, rfl, rfl⟩
  have hmem : .closed 0 ∈ fx := by
    rw [hclosed]
    exact List.mem_singleton_self _
  obtain ⟨-, -, -, -, -, -, -, hreturn, -⟩ := lifecycle hnew hrun
  obtain ⟨hphase, hlater⟩ := hreturn _ c fx 0 hs hmem
  refine ⟨fresh, b, c, h, fx, hnew, hrun, hone, hs, hphase, fun more d later hmore => ?_⟩
  obtain ⟨hstill, hperm⟩ := hlater more d later hmore
  rw [hone] at hperm
  exact ⟨hstill, List.perm_singleton.1 hperm⟩

/-- **Not every call to start the workers that has no effect is ignored**: outside a runtime it is an
error, even in a bus that has not been started. -/
theorem not_ignored_outside : ¬ ∀ (config : DispatcherConfig) (schedule : List (BusStep Unit))
    (b : Bus Unit) (h : History Unit), Reaches config schedule b h →
      ∀ inRuntime c fx, b.step (.collect inRuntime) = some (c, fx) → c.phase = b.phase →
        c = b ∧ fx = [.ignored b.phase] := by
  intro hignored
  obtain ⟨b, h, hb, hphase⟩ : ∃ (b : Bus Unit) (h : History Unit),
      Reaches smallest [] b h ∧ b.phase = .constructed := ⟨_, _, ⟨_, rfl, rfl⟩, rfl⟩
  have hlog := (hignored smallest [] b h hb false b unstarted rfl rfl).2
  have hlevel := (Effect.log.inj (List.singleton_inj.1 hlog)).1
  exact absurd hlevel (by decide)

end Bus
end Switchboard
