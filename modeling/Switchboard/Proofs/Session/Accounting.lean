import Switchboard.Proofs.Scenario.BusStep
import Switchboard.Proofs.Session.Desk
import Switchboard.Scenario.Play

/-!
# The books of the session service

Whoever removes a session has taken it from everybody else: the store gives it away once.  So although
between the removal and its announcement anything may happen, the books balance at every moment.

* What was in the store and what has been stored since is what is in the store and what has been
  removed (`Kept.balance`).
* What has been published and what errands have yet to publish is one event for each session that has
  been stored and one for each that has been removed and is to be announced (`Kept.events`).
* What an errand has stored, removed and published, together with what it has yet to publish, is what
  its answer says (`Kept.owed`); `Fulfilled` lists the ways in which that can be.

`bookkeeping` reads off what this means for a whole run.
-/

namespace Switchboard
namespace Scenario

open Bus (Numbered)

/-- What an answer says: which sessions have been stored, which have been removed and when, and which
events have been published. -/
inductive Fulfilled : Request → Reply → List Session → List (Session × Instant) → List Event → Prop
  | opened {c : OpenSession} {s : Session} :
      Fulfilled (.openSession c s.sessionId) (.opened s) [s] [] [.sessionCreated s]
  | notOpened {c : OpenSession} {id : String} {e : ServiceError} :
      Fulfilled (.openSession c id) (.failed e) [] [] []
  | closed {s : Session} {now : Instant} :
      Fulfilled (.invalidate s.sessionId) .done [] [(s, now)] [.sessionDeleted s now]
  | notFound {id : String} :
      Fulfilled (.invalidate id) (.failed (.sessionNotFound id)) [] [] []
  | closedAll {user : String} {gone : List Session} {now : Instant}
      (hgone : ∀ s ∈ gone, s.userId = user) :
      Fulfilled (.invalidateUser user) (.number gone.length) [] (gone.map (·, now))
        (gone.map (.sessionDeleted · now))
  | cleaned {gone : List Session} {now : Instant} (hgone : ∀ s ∈ gone, s.refreshExpiry < now) :
      Fulfilled .cleanExpired (.number gone.length) [] (gone.map (·, now)) []
  | found {id : String} {reply : Reply} : Fulfilled (.session id) reply [] [] []
  | listed {user : String} {reply : Reply} : Fulfilled (.userSessions user) reply [] [] []

/-- The events that are owed for sessions that are stored and sessions that are removed. -/
def owed (stored : List Session) (announced : List (Session × Instant)) : List Event :=
  stored.map .sessionCreated ++ announced.map fun x => .sessionDeleted x.1 x.2

namespace Fulfilled

variable {q : Request} {reply : Reply} {stored : List Session}
  {removed : List (Session × Instant)} {published : List Event}

/-- The events of a request are those that are owed for it. -/
theorem events (h : Fulfilled q reply stored removed published) :
    published = owed stored (if q.announces then removed else []) := by
  cases h with
  | @closedAll _ gone now =>
    show _ = [] ++ (gone.map (·, now)).map _
    rw [List.map_map]
    rfl
  | _ => rfl

/-- Sessions are stored under the ids that the request has. -/
theorem ids (h : Fulfilled q reply stored removed published) :
    (stored.map Session.sessionId).Sublist q.opens := by
  cases h with
  | opened => exact List.Sublist.refl _
  | _ => exact List.nil_sublist _

/-- Whoever has closed the session of an id has removed it. -/
theorem of_done {id : String} (h : Fulfilled (.invalidate id) .done stored removed published) :
    ∃ s now, s.sessionId = id ∧ removed = [(s, now)] := by
  cases h with
  | closed => exact ⟨_, _, rfl, rfl⟩

end Fulfilled

namespace World

/-- **What comes of a request is what its answer says.** -/
theorem fulfilled_serve (w : World) (q : Request) (now : Instant) :
    Fulfilled q (w.serve q now).answer ((w.serve q now).repository.minus w.app.repository)
      ((w.app.repository.minus (w.serve q now).repository).map (·, now)) (w.serve q now).events := by
  have hself := w.app.repository.minus_self
  cases q with
  | openSession c id =>
    rw [serve, SessionService.openSession]
    cases hmade : w.service.sessionFor? c id now with
    | none =>
      simp only [receipt]
      rw [hself]
      exact .notOpened
    | some s =>
      have hid : s.sessionId = id := by
        rw [SessionService.sessionFor?, Option.map_eq_some_iff] at hmade
        obtain ⟨expiry, -, rfl⟩ := hmade
        rfl
      obtain rfl := hid
      cases hcreate : w.app.repository.create s with
      | error e =>
        simp only [hcreate, bind, Except.bind, receipt]
        rw [hself]
        exact .notOpened
      | ok t =>
        obtain ⟨-, hnew, hgone⟩ := Repository.of_create hcreate
        simp only [hcreate, bind, Except.bind, receipt, Receipt.map]
        rw [hnew, hgone]
        exact .opened
  | invalidate id =>
    obtain ⟨hnew, hgone⟩ := w.app.repository.minus_deleteId id
    rw [serve, SessionService.invalidate]
    cases hfind : w.app.repository.find? id with
    | none =>
      rw [Repository.deleteId, hfind]
      simp only [receipt]
      rw [hself]
      exact .notFound
    | some s =>
      obtain ⟨-, rfl⟩ := Repository.find?_eq_some_iff.1 hfind
      rw [Repository.deleteId, hfind] at hnew hgone
      rw [Repository.deleteId, hfind]
      simp only [receipt, Receipt.map]
      rw [hnew, hgone]
      exact .closed
  | session id =>
    simp only [serve]
    rw [hself]
    exact .found
  | userSessions user =>
    simp only [serve]
    rw [hself]
    exact .listed
  | invalidateUser user =>
    obtain ⟨hnew, hgone⟩ := w.app.repository.minus_removeWhere fun s => s.userId == user
    simp only [serve, SessionService.invalidateUser, Receipt.map, Repository.deleteUser]
    rw [hnew, hgone]
    exact .closedAll fun s hs => beq_iff_eq.1 (List.mem_filter.1 hs).2
  | cleanExpired =>
    obtain ⟨hnew, hgone⟩ := w.app.repository.minus_removeWhere (Repository.expiredBefore now)
    simp only [serve, SessionService.cleanExpired, Receipt.map, Repository.deleteExpired]
    rw [hnew, hgone]
    exact .cleaned fun s hs => of_decide_eq_true (List.mem_filter.1 hs).2

end World

/-! ## Minutes -/

/-- The errand that a deed belongs to. -/
def Deed.call : Deed → Nat
  | stored n _ => n
  | removed n _ _ _ => n
  | published n _ => n
  | answered n _ _ => n

namespace Minutes

variable (k l : Minutes)

@[simp] theorem stored_append : stored (k ++ l) = stored k ++ stored l := List.filterMap_append ..

@[simp] theorem removed_append : removed (k ++ l) = removed k ++ removed l :=
  List.filterMap_append ..

@[simp] theorem announced_append : announced (k ++ l) = announced k ++ announced l :=
  List.filterMap_append ..

@[simp] theorem published_append : published (k ++ l) = published k ++ published l :=
  List.filterMap_append ..

@[simp] theorem storedBy_append (n : Nat) : storedBy n (k ++ l) = storedBy n k ++ storedBy n l :=
  List.filterMap_append ..

@[simp] theorem removedBy_append (n : Nat) :
    removedBy n (k ++ l) = removedBy n k ++ removedBy n l := List.filterMap_append ..

@[simp] theorem publishedBy_append (n : Nat) :
    publishedBy n (k ++ l) = publishedBy n k ++ publishedBy n l := List.filterMap_append ..

variable {k l}

/-- Deeds of others are not those of an errand. -/
theorem by_eq_nil {n : Nat} (hl : ∀ x ∈ l, x.call ≠ n) :
    storedBy n l = [] ∧ removedBy n l = [] ∧ publishedBy n l = [] := by
  refine ⟨?_, ?_, ?_⟩ <;>
    · refine List.filterMap_eq_nil_iff.2 fun x hx => ?_
      have hne := hl x hx
      cases x <;> first | rfl | exact if_neg hne

/-- What a change of the store puts into the minutes. -/
theorem changes_eq (n : Nat) (q : Request) (now : Instant) (before after : Repository) :
    stored (Desk.changes n q now before after) = after.minus before ∧
      removed (Desk.changes n q now before after) = before.minus after ∧
      published (Desk.changes n q now before after) = [] ∧
      announced (Desk.changes n q now before after) =
        (if q.announces then (before.minus after).map (·, now) else []) ∧
      storedBy n (Desk.changes n q now before after) = after.minus before ∧
      removedBy n (Desk.changes n q now before after) = (before.minus after).map (·, now) ∧
      publishedBy n (Desk.changes n q now before after) = [] := by
  rw [Desk.changes]
  refine ⟨?_, ?_, ?_, ?_, ?_, ?_, ?_⟩
  · simp [stored, List.filterMap_map]
  · simp [removed, List.filterMap_map]
  · simp [published, List.filterMap_map]
  · cases hq : q.announces <;> simp [announced, List.filterMap_map, hq]
  · simp [storedBy, List.filterMap_map]
  · simp [removedBy, List.filterMap_map]
  · simp [publishedBy, List.filterMap_map]

theorem call_of_mem_changes {n : Nat} {q : Request} {now : Instant} {before after : Repository}
    {x : Deed} (hx : x ∈ Desk.changes n q now before after) :
    x.call = n ∧ ∀ m r reply, x ≠ .answered m r reply := by
  rw [Desk.changes, List.mem_append, List.mem_map, List.mem_map] at hx
  rcases hx with ⟨s, -, rfl⟩ | ⟨s, -, rfl⟩ <;> exact ⟨rfl, by simp⟩

theorem mem_removedBy {n : Nat} {s : Session} {now : Instant} :
    (s, now) ∈ removedBy n k ↔ ∃ q, .removed n q s now ∈ k := by
  rw [removedBy, List.mem_filterMap]
  constructor
  · rintro ⟨x, hx, hs⟩
    cases x with
    | removed m q t later =>
      simp only [Option.ite_none_right_eq_some, Option.some.injEq, Prod.mk.injEq] at hs
      obtain ⟨rfl, rfl, rfl⟩ := hs
      exact ⟨q, hx⟩
    | _ => exact absurd hs (by simp)
  · rintro ⟨q, hx⟩
    exact ⟨_, hx, if_pos rfl⟩

/-- Where nothing is picked twice, what is picked tells where it comes from. -/
theorem eq_of_nodup_filterMap {α β : Type} {f : α → Option β} {xs : List α}
    (hn : (xs.filterMap f).Nodup) {x y : α} {z : β} (hx : x ∈ xs) (hy : y ∈ xs) (hfx : f x = some z)
    (hfy : f y = some z) : x = y := by
  induction xs with
  | nil => exact absurd hx List.not_mem_nil
  | cons a rest ih =>
    -- What the first entry gives is not given again.
    have hfirst {b : α} (hb : b ∈ rest) (ha : f a = some z) (hfb : f b = some z) : False := by
      rw [List.filterMap_cons_some ha, List.nodup_cons] at hn
      exact hn.1 (List.mem_filterMap.2 ⟨b, hb, hfb⟩)
    rcases List.mem_cons.1 hx with rfl | hxr <;> rcases List.mem_cons.1 hy with rfl | hyr
    · rfl
    · exact (hfirst hyr hfx hfy).elim
    · exact (hfirst hxr hfy hfx).elim
    · refine ih ?_ hxr hyr
      cases ha : f a with
      | none => rwa [List.filterMap_cons_none ha] at hn
      | some b =>
        rw [List.filterMap_cons_some ha] at hn
        exact (List.nodup_cons.1 hn).2

/-- Where no session is removed twice, its removal is the deed of one errand. -/
theorem eq_of_mem_removedBy (hn : (removed k).Nodup) {m n : Nat} {s : Session} {now later : Instant}
    (hm : (s, now) ∈ removedBy m k) (hl : (s, later) ∈ removedBy n k) : m = n := by
  obtain ⟨q, hq⟩ := mem_removedBy.1 hm
  obtain ⟨r, hr⟩ := mem_removedBy.1 hl
  exact (Deed.removed.inj (eq_of_nodup_filterMap hn hq hr rfl rfl)).1

end Minutes

/-! ## The books -/

/-- The books of a desk, which began with some store and has kept these minutes. -/
structure Kept (start : Repository) (past : Minutes) (d : Desk) : Prop where
  balance : (start.sessions ++ past.stored).Perm (d.world.app.repository.sessions ++ past.removed)
  numbered : Numbered d.nextCall (d.errands.map Errand.call)
  earlier : ∀ x ∈ past, x.call < d.nextCall
  promised : ∀ x ∈ d.errands, Fulfilled x.request x.reply (past.storedBy x.call)
    (past.removedBy x.call) (past.publishedBy x.call ++ x.events)
  answered : ∀ n q reply, .answered n q reply ∈ past → n ∉ d.errands.map Errand.call ∧
    Fulfilled q reply (past.storedBy n) (past.removedBy n) (past.publishedBy n)
  events : (past.published ++ d.errands.flatMap Errand.events).Perm (owed past.stored past.announced)

theorem owed_append (stored more : List Session) (announced others : List (Session × Instant)) :
    (owed (stored ++ more) (announced ++ others)).Perm
      (owed stored announced ++ owed more others) := by
  rw [owed, owed, owed, List.map_append, List.map_append, List.append_assoc, List.append_assoc]
  refine List.Perm.append_left _ ?_
  rw [← List.append_assoc, ← List.append_assoc]
  exact List.perm_append_comm.append_right _

namespace Kept

variable {start : Repository} {past : Minutes} {d : Desk}

theorem tidy (w : World) : Kept w.app.repository [] (.tidy w) where
  balance := List.Perm.refl _
  numbered := .nil
  earlier := fun _ hx => absurd hx List.not_mem_nil
  promised := fun _ hx => absurd hx List.not_mem_nil
  answered := fun _ _ _ hx => absurd hx List.not_mem_nil
  events := List.Perm.refl _

/-- Whoever leaves store and errands alone leaves the books alone. -/
theorem frame (h : Kept start past d) {w : World} (hw : w.app.repository = d.world.app.repository) :
    Kept start (past ++ []) { d with world := w } := by
  rw [List.append_nil]
  exact { h with balance := hw ▸ h.balance }

/-- Deeds of an errand are no news for what has been answered before. -/
theorem answered_append (h : Kept start past d) {k : Minutes} {n m : Nat} {q : Request}
    {reply : Reply} (hn : .answered n q reply ∈ past) (hk : ∀ x ∈ k, x.call = m) (hm : m ≠ n) :
    Fulfilled q reply ((past ++ k).storedBy n) ((past ++ k).removedBy n)
      ((past ++ k).publishedBy n) := by
  obtain ⟨hs, hr, hp⟩ := Minutes.by_eq_nil (n := n) (l := k) fun x hx => by rw [hk x hx]; exact hm
  rw [Minutes.storedBy_append, Minutes.removedBy_append, Minutes.publishedBy_append, hs, hr, hp,
    List.append_nil, List.append_nil, List.append_nil]
  exact (h.answered n q reply hn).2

/-- Deeds of an errand are no news for another. -/
theorem promised_append (h : Kept start past d) {k : Minutes} {x : Errand} {m : Nat}
    (hx : x ∈ d.errands) (hk : ∀ y ∈ k, y.call = m) (hm : m ≠ x.call) :
    Fulfilled x.request x.reply ((past ++ k).storedBy x.call) ((past ++ k).removedBy x.call)
      ((past ++ k).publishedBy x.call ++ x.events) := by
  obtain ⟨hs, hr, hp⟩ := Minutes.by_eq_nil (n := x.call) (l := k) fun y hy => by
    rw [hk y hy]
    exact hm
  rw [Minutes.storedBy_append, Minutes.removedBy_append, Minutes.publishedBy_append, hs, hr, hp,
    List.append_nil, List.append_nil, List.append_nil]
  exact h.promised x hx

/-- A request is made. -/
theorem ask (h : Kept start past d) (q : Request) (now : Instant) :
    Kept start
      (past ++ Desk.changes d.nextCall q now d.world.app.repository (d.world.serve q now).repository)
      ⟨d.world.file (d.world.serve q now),
        d.errands ++ [⟨d.nextCall, q, (d.world.serve q now).answer, (d.world.serve q now).events,
          none⟩],
        d.nextCall + 1⟩ := by
  have hserve := d.world.fulfilled_serve q now
  obtain ⟨hstored, hremoved, hpublished, hannounced, hstoredBy, hremovedBy, hpublishedBy⟩ :=
    Minutes.changes_eq d.nextCall q now d.world.app.repository (d.world.serve q now).repository
  obtain ⟨hs, hr, hp⟩ := Minutes.by_eq_nil (n := d.nextCall) (l := past) fun x hx =>
    Nat.ne_of_lt (h.earlier x hx)
  have hcalls : ∀ x ∈ Desk.changes d.nextCall q now d.world.app.repository
      (d.world.serve q now).repository, x.call = d.nextCall := fun x hx =>
    (Minutes.call_of_mem_changes hx).1
  have hnew : d.nextCall ∉ d.errands.map Errand.call := fun hmem =>
    Nat.lt_irrefl _ (h.numbered.2 _ hmem)
  refine ⟨?_, ?_, fun x hx => ?_, fun x hx => ?_, fun n r reply hx => ?_, ?_⟩
  · rw [Minutes.stored_append, Minutes.removed_append, hstored, hremoved]
    calc start.sessions ++ (past.stored ++ _)
      _ = start.sessions ++ past.stored ++ _ := (List.append_assoc ..).symm
      List.Perm _ (d.world.app.repository.sessions ++ past.removed ++ _) :=
        h.balance.append_right _
      List.Perm _ (d.world.app.repository.sessions ++ _ ++ past.removed) := by
        rw [List.append_assoc, List.append_assoc]
        exact List.perm_append_comm.append_left _
      List.Perm _ ((d.world.serve q now).repository.sessions ++ _ ++ past.removed) :=
        (d.world.app.repository.perm_minus _).append_right _
      List.Perm _ ((d.world.serve q now).repository.sessions ++ (past.removed ++ _)) := by
        rw [List.append_assoc]
        exact List.perm_append_comm.append_left _
  · rw [List.map_append]
    exact h.numbered.snoc
  · rcases List.mem_append.1 hx with hx | hx
    · exact Nat.lt_succ_of_lt (h.earlier x hx)
    · rw [hcalls x hx]
      exact Nat.lt_succ_self _
  · rcases List.mem_append.1 hx with hx | hx
    · exact h.promised_append hx hcalls fun heq => hnew (heq ▸ List.mem_map_of_mem hx)
    · obtain rfl := List.mem_singleton.1 hx
      rw [Minutes.storedBy_append, Minutes.removedBy_append, Minutes.publishedBy_append, hs, hr, hp,
        hstoredBy, hremovedBy, hpublishedBy]
      exact hserve
  · rcases List.mem_append.1 hx with hx | hx
    · have hearlier : n < d.nextCall := h.earlier _ hx
      refine ⟨fun hmem => ?_, h.answered_append hx hcalls (Nat.ne_of_gt hearlier)⟩
      rw [List.map_append] at hmem
      rcases List.mem_append.1 hmem with hmem | hmem
      · exact (h.answered n r reply hx).1 hmem
      · exact Nat.ne_of_lt hearlier (List.mem_singleton.1 hmem)
    · exact absurd rfl ((Minutes.call_of_mem_changes hx).2 n r reply)
  · rw [Minutes.published_append, hpublished, List.append_nil, List.flatMap_append,
      Minutes.stored_append, hstored, Minutes.announced_append, hannounced, ← List.append_assoc]
    refine List.Perm.trans ?_ (owed_append ..).symm
    rw [← hserve.events, List.flatMap_singleton]
    exact h.events.append_right _

/-- An errand begins to publish its next event. -/
theorem publish (h : Kept start past d) {x : Errand} {e : Event} {rest : List Event} {w : World}
    {job : Option Nat} (hx : x ∈ d.errands) (he : x.events = e :: rest)
    (hw : w.app.repository = d.world.app.repository) :
    Kept start (past ++ [.published x.call e])
      { d with
        world := w
        errands := d.errands.map fun y =>
          if y.call = x.call then { x with events := rest, job := job } else y } := by
  have hcalls : ∀ y ∈ [Deed.published x.call e], y.call = x.call := fun y hy => by
    rw [List.mem_singleton.1 hy]
    rfl
  have hkeys : (d.errands.map fun y =>
      if y.call = x.call then { x with events := rest, job := job } else y).map Errand.call =
        d.errands.map Errand.call := by
    refine Bus.map_key_map (fun y => ?_) _
    by_cases hy : y.call = x.call
    · rw [if_pos hy, hy]
    · rw [if_neg hy]
  refine ⟨?_, ?_, fun y hy => ?_, fun y hy => ?_, fun n q reply hy => ?_, ?_⟩
  · rw [Minutes.stored_append, Minutes.removed_append]
    show (start.sessions ++ (past.stored ++ [])).Perm (w.app.repository.sessions ++ (past.removed ++ []))
    rw [List.append_nil, List.append_nil, hw]
    exact h.balance
  · show Numbered d.nextCall _
    rw [hkeys]
    exact h.numbered
  · rcases List.mem_append.1 hy with hy | hy
    · exact h.earlier y hy
    · rw [hcalls y hy]
      exact h.numbered.2 _ (List.mem_map_of_mem hx)
  · obtain ⟨z, hz, rfl⟩ := List.mem_map.1 hy
    by_cases hzx : z.call = x.call
    · rw [if_pos hzx]
      have hpromised := h.promised x hx
      rw [he] at hpromised
      rw [Minutes.storedBy_append, Minutes.removedBy_append, Minutes.publishedBy_append]
      show Fulfilled x.request x.reply (past.storedBy x.call ++ []) (past.removedBy x.call ++ [])
        (past.publishedBy x.call ++ Minutes.publishedBy x.call [.published x.call e] ++ rest)
      have hone : Minutes.publishedBy x.call [.published x.call e] = [e] := by
        simp [Minutes.publishedBy]
      rw [hone, List.append_nil, List.append_nil, List.append_assoc]
      exact hpromised
    · rw [if_neg hzx]
      exact h.promised_append hz hcalls (Ne.symm hzx)
  · rcases List.mem_append.1 hy with hy | hy
    · obtain ⟨hgone, -⟩ := h.answered n q reply hy
      refine ⟨fun hmem => hgone ?_, h.answered_append hy hcalls fun heq => hgone ?_⟩
      · rwa [hkeys] at hmem
      · exact heq ▸ List.mem_map_of_mem hx
    · exact absurd (List.mem_singleton.1 hy) (by simp)
  · have hothers := Bus.perm_cons_filter h.numbered.1 hx
    have hafter := Bus.perm_cons_map (f := fun y : Errand =>
      if y.call = x.call then { x with events := rest, job := job } else y) h.numbered.1 hx
        fun y hy => if_neg hy
    rw [if_pos rfl] at hafter
    rw [Minutes.published_append, Minutes.stored_append, Minutes.announced_append]
    show (past.published ++ [e] ++ _).Perm (owed (past.stored ++ []) (past.announced ++ []))
    rw [List.append_nil, List.append_nil]
    refine List.Perm.trans ?_ h.events
    refine ((hafter.flatMap_right _).append_left _).trans ?_
    refine List.Perm.trans ?_ ((hothers.flatMap_right _).append_left _).symm
    rw [List.flatMap_cons, List.flatMap_cons, he, List.append_assoc]
    exact List.Perm.refl _

/-- An errand that has published all its events is answered. -/
theorem answer (h : Kept start past d) {x : Errand} (hx : x ∈ d.errands) (he : x.events = []) :
    Kept start (past ++ [.answered x.call x.request x.reply])
      { d with errands := d.errands.filter fun y => y.call != x.call } := by
  have hcalls : ∀ y ∈ [Deed.answered x.call x.request x.reply], y.call = x.call := fun y hy => by
    rw [List.mem_singleton.1 hy]
    rfl
  have hfewer : ((d.errands.filter fun y => y.call != x.call).map Errand.call).Sublist
      (d.errands.map Errand.call) := Bus.map_filter_sublist ..
  have hgone : x.call ∉ (d.errands.filter fun y => y.call != x.call).map Errand.call := by
    intro hmem
    obtain ⟨y, hy, hyx⟩ := List.mem_map.1 hmem
    exact bne_iff_ne.1 (List.mem_filter.1 hy).2 hyx
  refine ⟨?_, h.numbered.sublist hfewer, fun y hy => ?_, fun y hy => ?_, fun n q reply hy => ?_, ?_⟩
  · rw [Minutes.stored_append, Minutes.removed_append]
    show (start.sessions ++ (past.stored ++ [])).Perm (_ ++ (past.removed ++ []))
    rw [List.append_nil, List.append_nil]
    exact h.balance
  · rcases List.mem_append.1 hy with hy | hy
    · exact h.earlier y hy
    · rw [hcalls y hy]
      exact h.numbered.2 _ (List.mem_map_of_mem hx)
  · obtain ⟨hy, hne⟩ := List.mem_filter.1 hy
    exact h.promised_append hy hcalls (Ne.symm (bne_iff_ne.1 hne))
  · rcases List.mem_append.1 hy with hy | hy
    · obtain ⟨hnot, -⟩ := h.answered n q reply hy
      refine ⟨fun hmem => hnot (hfewer.subset hmem), h.answered_append hy hcalls fun heq => hnot ?_⟩
      exact heq ▸ List.mem_map_of_mem hx
    · obtain ⟨rfl, rfl, rfl⟩ := Deed.answered.inj (List.mem_singleton.1 hy)
      have hpromised := h.promised x hx
      rw [he, List.append_nil] at hpromised
      refine ⟨hgone, ?_⟩
      rw [Minutes.storedBy_append, Minutes.removedBy_append, Minutes.publishedBy_append]
      show Fulfilled _ _ (past.storedBy x.call ++ []) (past.removedBy x.call ++ [])
        (past.publishedBy x.call ++ [])
      rw [List.append_nil, List.append_nil, List.append_nil]
      exact hpromised
  · have hothers := (Bus.perm_cons_filter h.numbered.1 hx).flatMap_right Errand.events
    rw [List.flatMap_cons, he, List.nil_append] at hothers
    rw [Minutes.published_append, Minutes.stored_append, Minutes.announced_append]
    show (past.published ++ [] ++ _).Perm (owed (past.stored ++ []) (past.announced ++ []))
    rw [List.append_nil, List.append_nil, List.append_nil]
    exact (hothers.symm.append_left _).trans h.events

/-- **Every step keeps the books.** -/
theorem move (h : Kept start past d) {s : DeskStep} {f : Desk} {k : Minutes}
    (hm : Desk.Move d s f k) : Kept start (past ++ k) f := by
  cases hm with
  | ask q now => exact h.ask q now
  | @publish x bus e rest hx _ he =>
    refine h.publish hx he ?_
    exact ((World.leads_startJob _ _).trans (World.leads_stepBus ..)).app.repository
  | answer hx he => exact h.answer hx he
  | party p => exact h.frame (World.leads_advance d.world p).app.repository
  | command c => exact h.frame (World.leads_runBus d.world c).app.repository

end Kept

namespace Desk

variable {d f : Desk} {s : DeskStep} {schedule : List DeskStep} {k : Minutes}

/-- Sessions are stored under the ids that requests have. -/
theorem Move.ids (hm : Move d s f k) : (k.stored.map Session.sessionId).Sublist (opens [s]) := by
  cases hm with
  | ask q now =>
    rw [(Minutes.changes_eq ..).1]
    show List.Sublist _ (q.opens ++ [])
    rw [List.append_nil]
    exact (d.world.fulfilled_serve q now).ids
  | _ => exact List.nil_sublist _

/-- The events that a step publishes begin to be published by the bus, which takes steps of its own
and no others. -/
theorem Move.published (hm : Move d s f k) {bus : Nat} {b : Bus Handler}
    (hservice : d.world.serviceBus = some bus) (hbus : d.world.app.bus? bus = some b) :
    ∃ steps after h, b.run steps = some (after, h) ∧ f.world.app.bus? bus = some after ∧
      k.published.Sublist ((History.postings .begun h).map Posting.event) := by
  -- Whoever publishes nothing is asked only for the steps of the bus.
  have hnone (hk : k.published = []) (hl : ∃ steps after h, b.run steps = some (after, h) ∧
      f.world.app.bus? bus = some after) :
      ∃ steps after h, b.run steps = some (after, h) ∧ f.world.app.bus? bus = some after ∧
        k.published.Sublist ((History.postings .begun h).map Posting.event) := by
    obtain ⟨steps, after, h, hrun, hafter⟩ := hl
    exact ⟨steps, after, h, hrun, hafter, hk ▸ List.nil_sublist _⟩
  cases hm with
  | ask q now => exact hnone (Minutes.changes_eq ..).2.2.1 ⟨[], b, [], rfl, hbus⟩
  | @publish x other e rest hx hother =>
    obtain rfl : bus = other := Option.some.inj (hservice.symm.trans hother)
    have hstep : b.step (.publish e) = some (b.begin (.publishing e), [.began b.nextId e]) := rfl
    refine ⟨[.publish e], b.begin (.publishing e), [.began b.nextId e], ?_, ?_, ?_⟩
    · exact Bus.run_cons_eq_some.2 ⟨_, _, [], hstep, rfl, rfl⟩
    · exact World.bus?_stepBus hbus hstep
    · exact List.Sublist.refl _
  | answer => exact hnone rfl ⟨[], b, [], rfl, hbus⟩
  | party p => exact hnone rfl ((World.leads_advance d.world p).app.buses bus b hbus)
  | command c => exact hnone rfl ((World.leads_runBus d.world c).app.buses bus b hbus)

/-- The events that a run publishes begin to be published by the bus, in the same order. -/
theorem published_of_run {bus : Nat} {b : Bus Handler} (hservice : d.world.serviceBus = some bus)
    (hbus : d.world.app.bus? bus = some b) (hrun : d.run schedule = some (f, k)) :
    ∃ steps after h, b.run steps = some (after, h) ∧ f.world.app.bus? bus = some after ∧
      k.published.Sublist ((History.postings .begun h).map Posting.event) := by
  refine run_induction (P := fun _ k f => ∃ steps after h, b.run steps = some (after, h) ∧
    f.world.app.bus? bus = some after ∧
      k.published.Sublist ((History.postings .begun h).map Posting.event)) hservice ?_ hrun
    ⟨[], b, [], rfl, hbus, List.Sublist.refl _⟩
  rintro past deeds d s f k hservice ⟨first, mid, h₁, hfirst, hmid, hdeeds⟩ hm
  obtain ⟨second, after, h₂, hsecond, hafter, hk⟩ := hm.published hservice hmid
  refine ⟨first ++ second, after, h₁ ++ h₂, ?_, hafter, ?_⟩
  · exact Bus.run_append_eq_some.2 ⟨mid, h₁, h₂, hfirst, hsecond, rfl⟩
  · rw [Minutes.published_append, History.postings_append, List.map_append]
    exact hdeeds.append hk

/-- The books are kept by every run, and sessions are stored under the ids that requests have. -/
theorem kept_of_run {w : World} {bus : Nat} (hservice : w.serviceBus = some bus)
    (hrun : (tidy w).run schedule = some (f, k)) :
    Kept w.app.repository k f ∧ (k.stored.map Session.sessionId).Sublist (opens schedule) := by
  refine run_induction (d := tidy w)
    (P := fun past k f => Kept w.app.repository k f ∧
      (k.stored.map Session.sessionId).Sublist (opens past)) hservice ?_ hrun
    ⟨.tidy w, List.Sublist.refl _⟩
  rintro past deeds d s f k - ⟨hkept, hids⟩ hm
  refine ⟨hkept.move hm, ?_⟩
  rw [Minutes.stored_append, List.map_append, opens, List.flatMap_append]
  exact hids.append hm.ids

end Desk

/-! ## The main result -/

/-- **One removal, one event.** Let requests under way at the same time be served in any order, by a
service whose bus exists, and let all sessions be opened under new ids.  Then no session is removed
twice.  Every answer says what its errand has stored, removed and published, and no two calls to close
the session of an id succeed.  What is stored is what was stored before or has been since, and has not
been removed.  When nothing is under way any more, one event has been published for each session that
has been opened, with that session, one for each that has been closed, with that session and the time,
and no other; and the bus has taken up the events that have been published, in order. -/
theorem bookkeeping {w : World} {bus : Nat} {b : Bus Handler} {schedule : List DeskStep} {d : Desk}
    {k : Minutes} (hservice : w.serviceBus = some bus) (hbus : w.app.bus? bus = some b)
    (hids : (w.app.repository.sessions.map Session.sessionId ++ Desk.opens schedule).Nodup)
    (hrun : (Desk.tidy w).run schedule = some (d, k)) :
    (k.removed.map Session.sessionId).Nodup ∧
    (∀ n q reply, .answered n q reply ∈ k →
      Fulfilled q reply (k.storedBy n) (k.removedBy n) (k.publishedBy n)) ∧
    (∀ id m n, .answered m (.invalidate id) .done ∈ k → .answered n (.invalidate id) .done ∈ k →
      m = n) ∧
    (∀ s, s ∈ d.world.app.repository.sessions ↔
      (s ∈ w.app.repository.sessions ∨ s ∈ k.stored) ∧ s ∉ k.removed) ∧
    (d.errands = [] → k.published.Perm
      (k.stored.map .sessionCreated ++ k.announced.map fun x => .sessionDeleted x.1 x.2)) ∧
    ∃ steps after h, b.run steps = some (after, h) ∧ d.world.app.bus? bus = some after ∧
      k.published.Sublist ((History.postings .begun h).map Posting.event) := by
  obtain ⟨hkept, hstored⟩ := Desk.kept_of_run hservice hrun
  -- All sessions there are or have been have ids of their own.
  have hall : ((w.app.repository.sessions ++ k.stored).map Session.sessionId).Nodup := by
    rw [List.map_append]
    exact hids.sublist (hstored.append_left _)
  have hafter := (hkept.balance.map Session.sessionId).nodup_iff.1 hall
  rw [List.map_append, List.nodup_append] at hafter
  obtain ⟨-, hremoved, hapart⟩ := hafter
  have hfulfilled := fun n q reply h => (hkept.answered n q reply h).2
  refine ⟨hremoved, hfulfilled, fun id m n hm hn => ?_, fun s => ?_, fun he => ?_,
    Desk.published_of_run hservice hbus hrun⟩
  · -- Both calls have removed the session of that id.
    have hdone {n : Nat} (h : .answered n (.invalidate id) .done ∈ k) :
        ∃ s now, s.sessionId = id ∧ s ∈ k.removed ∧ (s, now) ∈ k.removedBy n := by
      obtain ⟨s, now, hs, hone⟩ := (hfulfilled n _ _ h).of_done
      have hmem : (s, now) ∈ k.removedBy n := hone ▸ List.mem_singleton_self _
      obtain ⟨q, hq⟩ := Minutes.mem_removedBy.1 hmem
      exact ⟨s, now, hs, List.mem_filterMap.2 ⟨_, hq, rfl⟩, hmem⟩
    obtain ⟨s, now, hs, hsr, hsm⟩ := hdone hm
    obtain ⟨t, later, ht, htr, htn⟩ := hdone hn
    obtain rfl := List.inj_on_of_nodup_map hremoved hsr htr (hs.trans ht.symm)
    exact Minutes.eq_of_mem_removedBy (hremoved.of_map _) hsm htn
  · have hmem := hkept.balance.mem_iff (a := s)
    rw [List.mem_append, List.mem_append] at hmem
    have hnot : s ∈ d.world.app.repository.sessions → s ∉ k.removed := fun hs hr =>
      hapart _ (List.mem_map_of_mem hs) _ (List.mem_map_of_mem hr) rfl
    tauto
  · have hevents := hkept.events
    rw [he, List.flatMap_nil, List.append_nil] at hevents
    exact hevents

/-! ## Two who close the same session -/

/-- A world whose service announces sessions on a bus with one slot and one worker. -/
def announcing : World :=
  match (Application.bare.addLogger (.memory (.new .info))).addHubBus Bus.smallest with
  | .ok a => { World.empty .epoch a 0 none with serviceBus := some 0 }
  | .error _ => World.empty .epoch .bare 0 none

/-- A session is opened, and then two want to close it at the same time. -/
def twoLogouts : List DeskStep :=
  [.ask (.openSession ⟨"u1", "ada", "access", "refresh", .epoch, "agent", "::1"⟩ "s1") .epoch,
    .publish 0, .party (.job 0), .party (.job 0), .answer 0,
    .ask (.invalidate "s1") .epoch, .ask (.invalidate "s1") .epoch, .answer 2,
    .publish 1, .party (.job 1), .party (.job 1), .answer 1]

/-- One of them is told that there is no such session, and the other one closes it. -/
theorem bookkeeping_of_two_logouts : ∃ (b : Bus Handler) (d : Desk) (k : Minutes) (s : Session),
    announcing.serviceBus = some 0 ∧ announcing.app.bus? 0 = some b ∧
    (announcing.app.repository.sessions.map Session.sessionId ++ Desk.opens twoLogouts).Nodup ∧
    (Desk.tidy announcing).run twoLogouts = some (d, k) ∧
    .answered 1 (.invalidate "s1") .done ∈ k ∧
    .answered 2 (.invalidate "s1") (.failed (.sessionNotFound "s1")) ∈ k ∧
    k.published.Perm [.sessionCreated s, .sessionDeleted s .epoch] := by
  obtain ⟨b, d, k, hbus, hrun, he, hdone, hmissing, hstored, hannounced⟩ :
      ∃ (b : Bus Handler) (d : Desk) (k : Minutes), announcing.app.bus? 0 = some b ∧
        (Desk.tidy announcing).run twoLogouts = some (d, k) ∧ d.errands = [] ∧
        .answered 1 (.invalidate "s1") .done ∈ k ∧
        .answered 2 (.invalidate "s1") (.failed (.sessionNotFound "s1")) ∈ k ∧
        k.stored.length = 1 ∧ k.announced = k.stored.map (·, .epoch) :=
    ⟨_, _, _, rfl, rfl, rfl, List.mem_of_getElem? (i := 6) rfl, List.mem_of_getElem? (i := 4) rfl,
      rfl, rfl⟩
  have hids : (announcing.app.repository.sessions.map Session.sessionId ++
      Desk.opens twoLogouts).Nodup := by decide
  obtain ⟨-, -, -, -, hevents, -⟩ := bookkeeping rfl hbus hids hrun
  obtain ⟨s, hs⟩ := List.length_eq_one_iff.1 hstored
  have hpublished := hevents he
  rw [hannounced, hs] at hpublished
  exact ⟨b, d, k, s, rfl, hbus, hids, hrun, hdone, hmissing, hpublished⟩

end Scenario
end Switchboard
