import Mathlib.Algebra.Ring.Nat
import Switchboard.Proofs.Eventing.Calls
import Switchboard.Proofs.Eventing.Invocations
import Switchboard.Proofs.Eventing.Lifecycle
import Switchboard.Proofs.Eventing.Slots

/-!
# No event is lost, and none is there twice

An event that a publishing call has left to the bus is at one place from then on
(`conservation`).  It is in the queue, with a deferred event that has a slot, with one that has
none, or with a worker; or it has been fanned out, abandoned or skipped, and it stays so.

## The balance

The state says which events the bus still has (`held`), and the history says which it has done with
(`settled`).  No step changes how often an event is there in both together, except that a call which
leaves an event to the bus adds it once (`Transition.balance`).  So the two together are a
rearrangement of what has been accepted (`Reached.balance`), and since no call leaves its event to
the bus twice, every event is there once.

## Drops

Only cancellation makes the bus drop an event, and an event that is not dropped is fanned out to all
asynchronous listeners that are registered for its name at that moment, to each of them once.
-/

namespace Switchboard

/-- The event that a worker holds. -/
def WorkerState.posting? : WorkerState → Option Posting
  | carrying p => some p
  | _ => none

/-- Whether an effect is the loss of an event. -/
def Effect.isDrop {H : Type} : Effect H → Bool
  | abandoned _ => true
  | skipped _ _ => true
  | _ => false

/-- Where an event can be that has been left to the bus. -/
inductive Place where
  | queue
  /-- With a deferred event for which a slot is reserved. -/
  | slot
  /-- With a deferred event that has no slot. -/
  | overflow
  | worker
  | fannedOut
  | abandoned
  | skipped
  deriving DecidableEq

namespace Place

/-- All places. -/
def all : List Place :=
  [queue, slot, overflow, worker, fannedOut, abandoned, skipped]

theorem mem_all (place : Place) : place ∈ all := by
  cases place <;> decide

theorem nodup_all : all.Nodup := by
  decide

end Place

namespace Bus

variable {H : Type}

open History

/-- The events that workers hold. -/
def carried (crew : List WorkerState) : List Posting :=
  crew.filterMap WorkerState.posting?

/-- The events at a place: what the state or the history has of them. -/
def whereabouts (b : Bus H) (h : History H) : Place → List Posting
  | .queue => b.queue
  | .slot => (b.overflow.filter isGranted).map (·.posting)
  | .overflow => (b.overflow.filter fun d => !isGranted d).map (·.posting)
  | .worker => carried b.crew
  | .fannedOut => postings .fannedOut h
  | .abandoned => postings .abandoned h
  | .skipped => postings .skipped h

/-- The events that a bus still has. -/
def held (b : Bus H) : List Posting :=
  b.queue ++ b.overflow.map (·.posting) ++ carried b.crew

/-- The events that the bus has done with. -/
def settled (h : History H) : List Posting :=
  postings .fannedOut h ++ postings .abandoned h ++ postings .skipped h

variable {b c : Bus H} {s : BusStep H} {fx : History H}

/-! ## Counting -/

theorem count_held (b : Bus H) (p : Posting) :
    b.held.count p =
      b.queue.count p + (b.overflow.map (·.posting)).count p + (carried b.crew).count p := by
  rw [held, List.count_append, List.count_append]

theorem count_settled (h : History H) (p : Posting) :
    (settled h).count p = (postings .fannedOut h).count p + (postings .abandoned h).count p +
      (postings .skipped h).count p := by
  rw [settled, List.count_append, List.count_append]

/-- The first of a list counts like a list of its own. -/
theorem count_cons_singleton (p q : Posting) (ps : List Posting) :
    (q :: ps).count p = [q].count p + ps.count p := by
  rw [← List.singleton_append, List.count_append]

/-- A deferred event is one of the deferred events. -/
theorem count_deferred {overflow : List Deferred} {d : Deferred} (hn : (overflow.map (·.id)).Nodup)
    (hd : d ∈ overflow) (p : Posting) :
    (overflow.map (·.posting)).count p =
      [d.posting].count p + ((overflow.filter fun x => x.id != d.id).map (·.posting)).count p := by
  have hp := (perm_cons_filter hn hd).map (·.posting)
  rw [hp.count_eq, List.map_cons, count_cons_singleton]

/-- What a worker held before a change, and what it holds after it. -/
theorem count_carried_set {crew : List WorkerState} {i : Nat} {v : WorkerState}
    (hv : crew[i]? = some v) (w : WorkerState) (p : Posting) :
    (carried (crew.set i w)).count p + (carried [v]).count p =
      (carried crew).count p + (carried [w]).count p := by
  obtain ⟨hi, hget⟩ := List.getElem?_eq_some_iff.1 hv
  obtain ⟨before, after, hcrew, -, hset⟩ := @List.exists_of_set _ i w crew hi
  have hold : (carried crew).count p =
      (carried before).count p + ((carried [v]).count p + (carried after).count p) := by
    rw [hcrew, hget, ← List.singleton_append]
    unfold carried
    rw [List.filterMap_append, List.filterMap_append, List.count_append, List.count_append]
  have hnew : (carried (crew.set i w)).count p =
      (carried before).count p + ((carried [w]).count p + (carried after).count p) := by
    rw [hset, ← List.singleton_append]
    unfold carried
    rw [List.filterMap_append, List.filterMap_append, List.count_append, List.count_append]
  omega

/-- Workers that have just been started hold nothing. -/
theorem carried_replicate (n : Nat) : carried (List.replicate n .ready) = [] := by
  refine List.filterMap_eq_nil_iff.2 fun w hw => ?_
  rw [List.eq_of_mem_replicate hw]
  rfl

/-! ## The balance of a step -/

/-- A step that moves no event keeps the balance. -/
theorem balance_of_eq (hq : c.queue = b.queue)
    (ho : c.overflow.map (·.posting) = b.overflow.map (·.posting))
    (hw : carried c.crew = carried b.crew) (hs : settled fx = [])
    (ha : postings .accepted fx = []) (p : Posting) :
    c.held.count p + (settled fx).count p = b.held.count p + (postings .accepted fx).count p := by
  rw [held, hq, ho, hw, hs, ha, held]

/-- A worker that takes its turn without an event keeps the balance. -/
theorem balance_of_worker {i : Nat} {v w : WorkerState} (hv : b.crew[i]? = some v)
    (hc : c.crew = b.crew.set i w) (hq : c.queue = b.queue) (ho : c.overflow = b.overflow)
    (hp : v.posting? = none ∧ w.posting? = none) (p : Posting) :
    c.held.count p + (settled ([] : History H)).count p =
      b.held.count p + (postings .accepted ([] : History H)).count p := by
  have hset := count_carried_set hv w p
  have hold : carried [v] = [] := List.filterMap_cons_none hp.1
  have hnew : carried [w] = [] := List.filterMap_cons_none hp.2
  rw [hold, hnew] at hset
  have hsettled : settled ([] : History H) = [] := rfl
  have haccepted : postings .accepted ([] : History H) = [] := rfl
  rw [hsettled, haccepted, count_held, count_held, hc, hq, ho]
  omega

/-- An event that a call leaves to the bus is in the queue or deferred afterwards. -/
theorem balance_of_accepted (queue deferred : List Posting) (hw : c.crew = b.crew)
    (hq : c.queue = b.queue ++ queue)
    (ho : c.overflow.map (·.posting) = b.overflow.map (·.posting) ++ deferred)
    (hs : settled fx = []) (ha : postings .accepted fx = queue ++ deferred) (p : Posting) :
    c.held.count p + (settled fx).count p = b.held.count p + (postings .accepted fx).count p := by
  rw [count_held, count_held, hw, hq, ho, hs, ha, List.count_append, List.count_append,
    List.count_append, List.count_nil]
  omega

/-- The bus has done with an event that a worker has fanned out or skipped. -/
theorem balance_of_carried {i : Nat} {q : Posting} (hv : b.crew[i]? = some (.carrying q))
    (hc : c.crew = b.crew.set i .ready) (hq : c.queue = b.queue) (ho : c.overflow = b.overflow)
    (hs : settled fx = [q]) (ha : postings .accepted fx = []) (p : Posting) :
    c.held.count p + (settled fx).count p = b.held.count p + (postings .accepted fx).count p := by
  have hset : (carried (b.crew.set i .ready)).count p + [q].count p =
      (carried b.crew).count p + ([] : List Posting).count p := count_carried_set hv .ready p
  rw [count_held, count_held, hc, hq, ho, hs, ha]
  omega

/-- A deferred event that is taken out is in the queue afterwards, or the bus has done with it. -/
theorem balance_of_deferred {d : Deferred} (queue : List Posting)
    (hn : (b.overflow.map (·.id)).Nodup) (hd : d ∈ b.overflow) (hw : c.crew = b.crew)
    (ho : c.overflow.map (·.posting) = (b.overflow.filter fun x => x.id != d.id).map (·.posting))
    (hq : c.queue = b.queue ++ queue) (ha : postings .accepted fx = [])
    (hs : ∀ p, queue.count p + (settled fx).count p = [d.posting].count p) (p : Posting) :
    c.held.count p + (settled fx).count p = b.held.count p + (postings .accepted fx).count p := by
  have hdrop := count_deferred hn hd p
  have hone := hs p
  rw [count_held, count_held, ha, hw, ho, hq, List.count_append, List.count_nil]
  omega

/-- **No step changes how often an event is there, but for a call that leaves it to the bus.** -/
theorem Transition.balance (hn : (b.overflow.map (·.id)).Nodup)
    (hu : b.phase = .constructed → b.crew = []) (ht : Transition b s c fx) (p : Posting) :
    c.held.count p + (settled fx).count p = b.held.count p + (postings .accepted fx).count p := by
  cases ht with
  | @enter id e hc hf =>
    refine balance_of_accepted [⟨id, e⟩] [] ?_ ?_ ?_ ?_ ?_ p
    · rfl
    · rfl
    · exact (List.append_nil _).symm
    · rfl
    · rfl
  | @defer id e hc hf =>
    refine balance_of_accepted [] [⟨id, e⟩] ?_ ?_ ?_ ?_ ?_ p
    · rfl
    · exact (List.append_nil _).symm
    · exact List.map_append
    · rfl
    · rfl
  | @dispatch id e hc hk =>
    refine balance_of_eq rfl rfl rfl ?_ ?_ p
    · simp only [settled, postings_append, postings_fan]
      rfl
    · rw [postings_append, postings_fan]
      rfl
  | collect hp =>
    have hcrew : carried (List.replicate b.config.workers .ready) = carried b.crew := by
      rw [hu hp, carried_replicate]
      rfl
    refine balance_of_eq ?_ ?_ hcrew ?_ ?_ p <;> rfl
  | close =>
    refine balance_of_eq rfl rfl rfl ?_ ?_ p <;> split <;> rfl
  | takeReader hw | lineUp hw | becomeReader hw | stop hw | stopInLine hw =>
    refine balance_of_worker hw rfl ?_ ?_ ⟨?_, ?_⟩ p <;> rfl
  | stopReader hw =>
    rcases hw with hw | ⟨hw, -⟩ <;> refine balance_of_worker hw rfl ?_ ?_ ⟨?_, ?_⟩ p <;> rfl
  | @receive i q rest hw hk hq =>
    have hset : (carried (b.crew.set i (.carrying q))).count p + ([] : List Posting).count p =
        (carried b.crew).count p + [q].count p := count_carried_set hw (.carrying q) p
    show (rest ++ (granted b.overflow).map (·.posting) ++
      carried (b.crew.set i (.carrying q))).count p + ([] : List Posting).count p =
        _ + ([] : List Posting).count p
    rw [count_held, map_granted fun _ => rfl, hq, count_cons_singleton, List.count_append,
      List.count_append]
    rw [List.count_nil] at hset ⊢
    omega
  | @fanOut i q hw hk =>
    refine balance_of_carried hw ?_ ?_ ?_ ?_ ?_ p
    · rfl
    · rfl
    · rfl
    · simp only [settled, postings_fan]
      rfl
    · exact postings_fan ..
  | skipFanOut hw hk => refine balance_of_carried hw ?_ ?_ ?_ ?_ ?_ p <;> rfl
  | @wait d hd hs hk hf =>
    have hwait : (b.overflow.map Deferred.posting).Perm
        (((b.overflow.filter fun x : Deferred => x.id != d.id) ++
          [{ d with stage := .waiting }]).map Deferred.posting) :=
      perm_filter_append hn hd rfl
    have hcount := hwait.count_eq p
    rw [count_held, count_held, hcount]
    rfl
  | @enterFresh d hd | @enterGranted d hd =>
    refine balance_of_deferred [d.posting] hn hd ?_ ?_ ?_ ?_ (fun _ => ?_) p <;> rfl
  | abandon hd =>
    refine balance_of_deferred [] hn hd ?_ ?_ ?_ ?_ (fun q => ?_) p
    · rfl
    · rfl
    · exact (List.append_nil _).symm
    · rfl
    · rw [List.count_nil, Nat.zero_add]
      rfl
  | abandonGranted hd =>
    refine balance_of_deferred [] hn hd ?_ ?_ ?_ ?_ (fun q => ?_) p
    · rfl
    · exact map_granted (fun _ => rfl) _
    · exact (List.append_nil _).symm
    · rfl
    · rw [List.count_nil, Nat.zero_add]
      rfl
  | _ => refine balance_of_eq ?_ ?_ ?_ ?_ ?_ p <;> rfl

variable {config : DispatcherConfig} {schedule : List (BusStep H)} {past : History H}

/-- **What has been accepted is what the bus still has and what it has done with.** -/
theorem Reached.balance (h : Reached config schedule past b) :
    (postings .accepted past).Perm (b.held ++ settled past) := by
  induction h with
  | new hb =>
    obtain ⟨hv, rfl⟩ := eq_of_new? hb
    exact List.Perm.refl _
  | @step _ past gx b c _ hb ht ih =>
    rw [List.perm_iff_count] at ih ⊢
    intro p
    have hbefore := ih p
    have hstep := ht.balance hb.numbers.overflow.1 hb.life.unmanned p
    have hsettled :
        (settled (past ++ gx)).count p = (settled past).count p + (settled gx).count p := by
      simp only [count_settled, postings_append, List.count_append]
      omega
    rw [List.count_append] at hbefore ⊢
    rw [postings_append, List.count_append, hsettled]
    omega

/-- What the bus still has and what it has done with come from different calls. -/
theorem Reached.apart (h : Reached config schedule past b) {p q : Posting} (hp : p ∈ b.held)
    (hq : q ∈ settled past) : p.call ≠ q.call := by
  have hnodup : ((b.held ++ settled past).map (·.call)).Nodup :=
    (h.balance.map _).nodup_iff.1 h.nodup_accepted
  rw [List.map_append, List.nodup_append] at hnodup
  exact hnodup.2.2 _ (List.mem_map_of_mem hp) _ (List.mem_map_of_mem hq)

/-! ## One place -/

/-- If the numbers of a list add up to one, then one of them is one and the others are zero. -/
theorem exists_one_of_sum_eq_one {α : Type} (f : α → Nat) {xs : List α} (hn : xs.Nodup)
    (h : (xs.map f).sum = 1) : ∃ x ∈ xs, f x = 1 ∧ ∀ y ∈ xs, y ≠ x → f y = 0 := by
  induction xs with
  | nil => exact absurd h (by simp)
  | cons x rest ih =>
    rw [List.map_cons, List.sum_cons] at h
    rw [List.nodup_cons] at hn
    rcases Nat.eq_zero_or_pos (f x) with hx | hx
    · rw [hx, Nat.zero_add] at h
      obtain ⟨y, hy, hone, hzero⟩ := ih hn.2 h
      refine ⟨y, List.mem_cons_of_mem _ hy, hone, fun z hz hne => ?_⟩
      rcases List.mem_cons.1 hz with rfl | hz
      · exact hx
      · exact hzero z hz hne
    · have hsum : (rest.map f).sum = 0 := by omega
      refine ⟨x, List.mem_cons_self, by omega, fun z hz hne => ?_⟩
      rcases List.mem_cons.1 hz with rfl | hz
      · exact absurd rfl hne
      · exact List.sum_eq_zero_iff_forall_eq_nat.1 hsum _ (List.mem_map_of_mem hz)

/-- All places together are what the bus has and what it has done with. -/
theorem sum_whereabouts (b : Bus H) (h : History H) (p : Posting) :
    (Place.all.map fun place => (b.whereabouts h place).count p).sum =
      (b.held ++ settled h).count p := by
  have hoverflow : (b.overflow.map (·.posting)).count p =
      ((b.overflow.filter isGranted).map (·.posting)).count p +
        ((b.overflow.filter fun d => !isGranted d).map (·.posting)).count p := by
    have hp := (List.filter_append_perm isGranted b.overflow).map (·.posting)
    rw [← hp.count_eq, List.map_append, List.count_append]
  rw [List.count_append, count_held, count_settled, hoverflow]
  simp only [Place.all, List.map_cons, List.map_nil, List.sum_cons, List.sum_nil, whereabouts]
  omega

/-- How often an event is there in all places together: once if it has been left to the bus, and not
at all otherwise. -/
theorem Reached.sum_whereabouts (h : Reached config schedule past b) (p : Posting) :
    (Place.all.map fun place => (b.whereabouts past place).count p).sum =
      if p ∈ postings .accepted past then 1 else 0 := by
  rw [Bus.sum_whereabouts, ← h.balance.count_eq]
  exact (List.Nodup.of_map _ h.nodup_accepted).count

/-! ## Drops and fan-outs -/

/-- A step drops an event only after cancellation has begun. -/
theorem Transition.cancelled_of_drop {x : Effect H} (ht : Transition b s c fx) (hx : x ∈ fx)
    (hd : x.isDrop = true) : b.cancelled = true := by
  cases ht with
  | skipDispatch _ hk | skipFanOut _ hk | abandon _ _ hk | abandonGranted _ _ hk => exact hk
  | dispatch =>
    rcases List.mem_append.1 hx with hx | hx
    · rcases (mem_fan ..).1 hx with rfl | ⟨v, -, rfl⟩ <;> exact Bool.noConfusion hd
    · obtain rfl := List.mem_singleton.1 hx
      exact Bool.noConfusion hd
  | fanOut => rcases (mem_fan ..).1 hx with rfl | ⟨v, -, rfl⟩ <;> exact Bool.noConfusion hd
  | close =>
    split at hx
    · exact absurd hx List.not_mem_nil
    · obtain rfl := List.mem_singleton.1 hx
      exact Bool.noConfusion hd
  | enter =>
    simp only [List.mem_cons, List.not_mem_nil, or_false] at hx
    rcases hx with rfl | rfl | rfl <;> exact Bool.noConfusion hd
  | subscribe | defer =>
    simp only [List.mem_cons, List.not_mem_nil, or_false] at hx
    rcases hx with rfl | rfl <;> exact Bool.noConfusion hd
  | beginPublish | invoke | enterFresh | enterGranted | closed | finish =>
    obtain rfl := List.mem_singleton.1 hx
    exact Bool.noConfusion hd
  | _ => exact absurd hx List.not_mem_nil

/-- Whatever is dropped is dropped after cancellation has begun. -/
theorem Reached.cancelled_before_drop (h : Reached config schedule past b)
    {before after : History H} {x : Effect H} (hp : past = before ++ x :: after)
    (hd : x.isDrop = true) : .cancelled ∈ before := by
  obtain ⟨earlier, mid, first, s, d, fx, rest, hfirst, ht, rfl, others, rfl⟩ := h.cut hp
  have hk := ht.cancelled_of_drop (List.mem_append_right _ List.mem_cons_self) hd
  exact List.mem_append_left _ (hfirst.cancelled_iff_mem.1 hk)

/-- No event is ever refused. -/
theorem Reached.not_refused (h : Reached config schedule past b) : postings .refused past = [] := by
  induction h with
  | new => rfl
  | @step _ past gx b c _ hb ht ih =>
    rw [postings_append, ih, List.nil_append]
    cases ht with
    | dispatch =>
      rw [postings_append, postings_fan]
      rfl
    | fanOut => exact postings_fan ..
    | close => split <;> rfl
    | _ => rfl

/-- **No event is lost, and none is there twice.** A publishing call that has returned has left the
event that it began with to the bus, no call has done so twice, and every event that has been left
to the bus is at exactly one place; no other event is anywhere.  Events are dropped only after
cancellation has begun, and none is refused.  A step that fans out an event schedules one invocation
of each asynchronous listener that is registered for its name at that moment, and no other step
schedules anything. -/
theorem conservation {h : History H} (hb : Reaches config schedule b h) :
    (∀ n e, .began n e ∈ h → .returned n ∈ h → ⟨n, e⟩ ∈ postings .accepted h) ∧
    (∀ p ∈ postings .accepted h, .began p.call p.event ∈ h) ∧
    ((postings .accepted h).map (·.call)).Nodup ∧
    (∀ p ∈ postings .accepted h, ∃ place, (b.whereabouts h place).count p = 1 ∧
      ∀ other, other ≠ place → (b.whereabouts h other).count p = 0) ∧
    (∀ p, p ∉ postings .accepted h → ∀ place, p ∉ b.whereabouts h place) ∧
    (∀ before x after, h = before ++ x :: after → x.isDrop = true → .cancelled ∈ before) ∧
    postings .refused h = [] ∧
    (∀ s c fx, b.step s = some (c, fx) → fanOuts fx = [] ∧ scheduled fx = [] ∨
      ∃ source e, fanOuts fx = [(source, e)] ∧
        (scheduled fx).map (fun v => (v.source, v.listener, v.event)) =
          (b.registry.listeners .async e.name).map fun l => (source, l, e)) := by
  have hr := hb.reached
  have hplaces (place : Place) : b.whereabouts (news h) place = b.whereabouts h place := by
    cases place with
    | fannedOut | abandoned | skipped => exact postings_news _ h
    | _ => rfl
  have hsum (p : Posting) : (Place.all.map fun place => (b.whereabouts h place).count p).sum =
      if p ∈ postings .accepted h then 1 else 0 := by
    have hnews := hr.sum_whereabouts p
    simp only [hplaces, postings_news] at hnews
    exact hnews
  refine ⟨fun n e hn hret => ?_, fun p hp => ?_, ?_, fun p hp => ?_, fun p hp place => ?_,
    fun before x after hx hd => ?_, ?_, fun s c fx hs => ?_⟩
  · have hacc := hr.accepted_of_returned ((mem_news rfl).2 hn) ((mem_news rfl).2 hret)
    rw [postings_news] at hacc
    exact hacc
  · exact (mem_news rfl).1 (hr.began_of_accepted (by rw [postings_news]; exact hp))
  · have hnodup := hr.nodup_accepted
    rw [postings_news] at hnodup
    exact hnodup
  · have hone := hsum p
    rw [if_pos hp] at hone
    obtain ⟨place, -, hplace, hother⟩ := exists_one_of_sum_eq_one _ Place.nodup_all hone
    exact ⟨place, hplace, fun other hne => hother other other.mem_all hne⟩
  · have hzero := hsum p
    rw [if_neg hp, List.sum_eq_zero_iff_forall_eq_nat] at hzero
    exact List.count_eq_zero.1 (hzero _ (List.mem_map_of_mem place.mem_all))
  · have hnews : x.isNews = true := by
      cases x with
      | log | wake => exact Bool.noConfusion hd
      | _ => rfl
    have hcut : news h = news before ++ x :: news after := by
      rw [hx, news_append_cons hnews]
    exact (mem_news rfl).1 (hr.cancelled_before_drop hcut hd)
  · have hrefused := hr.not_refused
    rw [postings_news] at hrefused
    exact hrefused
  · have ht := (transition_of_step hr.refusing hs).fanOuts
    rw [fanOuts_news, scheduled_news] at ht
    refine ht.imp_right fun ⟨source, e, hf, hv⟩ => ⟨source, e, hf, ?_⟩
    rw [hv]
    exact map_invocations ..

/-- Of two events that are published before the workers are started, the first is in the queue and
the second is deferred; each is at one place. -/
theorem conservation_of_two_events : ∃ (b : Bus Unit) (h : History Unit),
    Reaches smallest
      [.publish (tick 1), .call 0, .call 0, .publish (tick 2), .call 1, .call 1] b h ∧
    (b.whereabouts h .queue).map (·.call) = [0] ∧ (b.whereabouts h .overflow).map (·.call) = [1] ∧
    ∀ p ∈ postings .accepted h, ∃ place, (b.whereabouts h place).count p = 1 ∧
      ∀ other, other ≠ place → (b.whereabouts h other).count p = 0 := by
  obtain ⟨b, h, hb, hqueue, hoverflow⟩ : ∃ (b : Bus Unit) (h : History Unit),
      Reaches smallest
        [.publish (tick 1), .call 0, .call 0, .publish (tick 2), .call 1, .call 1] b h ∧
      (b.whereabouts h .queue).map (·.call) = [0] ∧
      (b.whereabouts h .overflow).map (·.call) = [1] := ⟨_, _, ⟨_, rfl, rfl⟩, rfl, rfl⟩
  exact ⟨b, h, hb, hqueue, hoverflow, (conservation hb).2.2.2.1⟩

end Bus
end Switchboard
