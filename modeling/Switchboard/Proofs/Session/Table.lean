import Mathlib.Logic.Function.Basic
import Switchboard.Proofs.Session.Store
import Switchboard.Scenario.Command

/-!
# The store is a table

What is stored can be looked at as a table that has at most one session under each id.  For the table a
command is easy to describe, since what comes to stand under an id depends on what stood there, and on
nothing else: `StoreCommand.onTable`.  The store itself keeps a list, and it goes through that list to
find sessions, to replace them, and to take out those of a user or those that have expired.

In which order the list is kept is nobody's business.  So a store may put its sessions in another order
at any time (`Arises`), and what is shown here holds of any such order.

Two relations say what a command does to single sessions, without the rest of what is stored.  It stores
a session (`StoreCommand.Stores`), or it displaces one, if that is stored (`StoreCommand.Displaces`).
After a command there are the sessions it stores and those it does not displace (`mem_after`), and from
this the history of a session can be told: `Arises.mem_iff`.
-/

namespace Switchboard

namespace Scenario
namespace StoreCommand

/-- What a table becomes by a command. -/
def onTable (m : String → Option Session) : StoreCommand → String → Option Session
  | create s => if m s.sessionId = none then Function.update m s.sessionId (some s) else m
  | update s => if m s.sessionId = none then m else Function.update m s.sessionId (some s)
  | delete s => Function.update m s.sessionId none
  | deleteId id => Function.update m id none
  | deleteUser user => fun id => (m id).filter fun s => s.userId ≠ user
  | deleteExpired now => fun id => (m id).filter fun s => ¬s.refreshExpiry < now
  | _ => m

/-- The table after some commands, if there was nothing in it. -/
def table (cs : List StoreCommand) : String → Option Session :=
  cs.foldl onTable fun _ => none

/-- Whether a command stores a session in a table. -/
def Stores (m : String → Option Session) : StoreCommand → Session → Prop
  | create t, s => t = s ∧ m s.sessionId = none
  | update t, s => t = s ∧ m s.sessionId ≠ none
  | _, _ => False

/-- Whether a command displaces a session, if it is stored: another one is to stand under its id, or it
is to be deleted. -/
def Displaces : StoreCommand → Session → Prop
  | update t, s => t.sessionId = s.sessionId
  | delete t, s => t.sessionId = s.sessionId
  | deleteId id, s => id = s.sessionId
  | deleteUser user, s => user = s.userId
  | deleteExpired now, s => s.refreshExpiry < now
  | _, _ => False

section OneCommand

variable {m : String → Option Session} {id : String} {s : Session}

/-- What stands in a table after a session has been put under its id. -/
theorem put_eq_some_iff (hm : ∀ id s, m id = some s → s.sessionId = id) {t : Session} :
    Function.update m t.sessionId (some t) id = some s ↔
      s.sessionId = id ∧ (t = s ∨ m id = some s ∧ t.sessionId ≠ s.sessionId) := by
  rw [Function.update_apply]
  split
  · rename_i hid
    constructor
    · intro h
      obtain rfl := Option.some.inj h
      exact ⟨hid.symm, .inl rfl⟩
    · rintro ⟨hs, rfl | ⟨-, hother⟩⟩
      · rfl
      · exact absurd (hid.symm.trans hs.symm) hother
  · rename_i hid
    constructor
    · intro h
      have hs := hm id s h
      exact ⟨hs, .inr ⟨h, fun heq => hid (hs.symm.trans heq.symm)⟩⟩
    · rintro ⟨hs, rfl | ⟨h, -⟩⟩
      · exact absurd hs.symm hid
      · exact h

/-- What stands in a table after an id has been taken out. -/
theorem erase_eq_some_iff (hm : ∀ id s, m id = some s → s.sessionId = id) {key : String} :
    Function.update m key none id = some s ↔
      s.sessionId = id ∧ m id = some s ∧ ¬key = s.sessionId := by
  rw [Function.update_apply]
  split
  · rename_i hid
    refine iff_of_false (by simp) ?_
    rintro ⟨hs, -, hother⟩
    exact hother (hid.symm.trans hs.symm)
  · rename_i hid
    constructor
    · intro h
      have hs := hm id s h
      exact ⟨hs, h, fun heq => hid (hs.symm.trans heq.symm)⟩
    · exact fun h => h.2.1

/-- What stands in a table after sessions have been taken out, wherever they stood. -/
theorem filter_eq_some_iff (hm : ∀ id s, m id = some s → s.sessionId = id) {stays : Session → Bool} :
    (m id).filter stays = some s ↔ s.sessionId = id ∧ m id = some s ∧ stays s = true := by
  rw [Option.filter_eq_some_iff]
  exact (and_iff_right_of_imp fun h => hm id s h.1).symm

/-- **In a table whose sessions stand under their own ids, a command puts the sessions it stores and
leaves those it does not displace.** -/
theorem onTable_eq_some_iff (hm : ∀ id s, m id = some s → s.sessionId = id) {c : StoreCommand} :
    c.onTable m id = some s ↔ s.sessionId = id ∧ (c.Stores m s ∨ m id = some s ∧ ¬c.Displaces s) := by
  -- A command that only takes sessions out stores none.
  have honly (p q : Prop) : p ∧ q ↔ p ∧ (False ∨ q) :=
    and_congr_right fun _ => (or_iff_right not_false).symm
  -- Another session cannot stand under an id at which there is none.
  have hother {t : Session} (hfree : m t.sessionId = none) (h : m id = some s) :
      ¬t.sessionId = s.sessionId :=
    fun heq => absurd (heq ▸ hfree) (by rw [hm id s h, h]; simp)
  cases c with
  | create t =>
    by_cases hfree : m t.sessionId = none
    · rw [onTable, if_pos hfree, put_eq_some_iff hm]
      refine and_congr_right fun _ =>
        or_congr (and_iff_left_of_imp ?_).symm (and_congr_right fun h => ?_)
      · rintro rfl
        exact hfree
      · exact iff_of_true (hother hfree h) not_false
    · rw [onTable, if_neg hfree]
      constructor
      · exact fun h => ⟨hm id s h, .inr ⟨h, not_false⟩⟩
      · rintro ⟨-, ⟨rfl, hnone⟩ | ⟨h, -⟩⟩
        · exact absurd hnone hfree
        · exact h
  | update t =>
    by_cases hfree : m t.sessionId = none
    · rw [onTable, if_pos hfree]
      constructor
      · exact fun h => ⟨hm id s h, .inr ⟨h, hother hfree h⟩⟩
      · rintro ⟨-, ⟨rfl, hused⟩ | ⟨h, -⟩⟩
        · exact absurd hfree hused
        · exact h
    · rw [onTable, if_neg hfree, put_eq_some_iff hm]
      refine and_congr_right fun _ => or_congr_left (and_iff_left_of_imp ?_).symm
      rintro rfl
      exact hfree
  | delete t => exact (erase_eq_some_iff hm).trans (honly _ _)
  | deleteId key => exact (erase_eq_some_iff hm).trans (honly _ _)
  | deleteUser user =>
    refine (filter_eq_some_iff hm).trans ((honly _ _).trans ?_)
    rw [decide_eq_true_iff, ne_comm]
    rfl
  | deleteExpired now =>
    refine (filter_eq_some_iff hm).trans ((honly _ _).trans ?_)
    rw [decide_eq_true_iff]
    rfl
  | _ =>
    exact ⟨fun h => ⟨hm id s h, .inr ⟨h, not_false⟩⟩, fun h => (h.2.resolve_left not_false).1⟩

end OneCommand

/-- **A session has been stored and not displaced since**, if the last command stores it, or if that was
so before the last command and this does not displace it. -/
theorem stored_concat_iff {cs : List StoreCommand} {c : StoreCommand} {s : Session} :
    (∃ past d later, cs ++ [c] = past ++ d :: later ∧ d.Stores (table past) s ∧
        ∀ e ∈ later, ¬e.Displaces s) ↔
      c.Stores (table cs) s ∨
        (∃ past d later, cs = past ++ d :: later ∧ d.Stores (table past) s ∧
          ∀ e ∈ later, ¬e.Displaces s) ∧ ¬c.Displaces s := by
  constructor
  · rintro ⟨past, d, later, hcs, hstores, hlater⟩
    -- The command that has stored the session is the last one, or it stands among the others.
    rcases List.eq_nil_or_concat later with rfl | ⟨before, e, rfl⟩
    · obtain ⟨rfl, hcd⟩ := List.append_inj' hcs rfl
      obtain rfl := List.singleton_inj.1 hcd
      exact .inl hstores
    · rw [List.concat_eq_append, ← List.cons_append, ← List.append_assoc] at hcs
      rw [List.concat_eq_append, List.forall_mem_append, List.forall_mem_singleton] at hlater
      obtain ⟨rfl, hce⟩ := List.append_inj' hcs rfl
      obtain rfl := List.singleton_inj.1 hce
      exact .inr ⟨⟨past, d, before, rfl, hstores, hlater.1⟩, hlater.2⟩
  · rintro (hstores | ⟨⟨past, d, later, rfl, hstores, hlater⟩, hdisplaces⟩)
    · exact ⟨cs, c, [], rfl, hstores, fun e he => absurd he List.not_mem_nil⟩
    · refine ⟨past, d, later ++ [c], by simp, hstores, ?_⟩
      rw [List.forall_mem_append, List.forall_mem_singleton]
      exact ⟨hlater, hdisplaces⟩

end StoreCommand
end Scenario

open Scenario (StoreCommand World)

namespace Repository

/-- The store after a command.  A command that fails leaves it as it was. -/
def after (r : Repository) : StoreCommand → Repository
  | .create s =>
    match r.create s with
    | .ok t => t
    | .error _ => r
  | .update s =>
    match r.update s with
    | .ok t => t
    | .error _ => r
  | .delete s => (r.deleteId s.sessionId).2
  | .deleteId id => (r.deleteId id).2
  | .deleteUser user => (r.deleteUser user).2
  | .deleteExpired now => (r.deleteExpired now).2
  | _ => r

/-- The store after some commands that began with nothing stored.  It may put its sessions in another
order at any time. -/
inductive Arises : List StoreCommand → Repository → Prop
  | start : Arises [] empty
  | command {cs : List StoreCommand} {r : Repository} (h : Arises cs r) (c : StoreCommand) :
      Arises (cs ++ [c]) (r.after c)
  | reorder {cs : List StoreCommand} {r t : Repository} (h : Arises cs r)
      (hperm : r.sessions.Perm t.sessions) : Arises cs t

/-- What a command does to the store of a world. -/
theorem repository_runStore (w : World) (c : StoreCommand) :
    (w.runStore c).1.app.repository = w.app.repository.after c := by
  cases c with
  | create s =>
    rw [World.runStore, after]
    cases w.app.repository.create s <;> rfl
  | update s =>
    rw [World.runStore, after]
    cases w.app.repository.update s <;> rfl
  | _ => rfl

/-! ## One command -/

section OneCommand

variable {r : Repository} {s : Session}

/-- A session is found under its own id. -/
theorem find?_eq_some_iff_mem : r.find? s.sessionId = some s ↔ s ∈ r.sessions := by
  rw [find?_eq_some_iff, and_iff_left rfl]

theorem mem_keep {stays : Session → Bool} :
    s ∈ (r.keep stays).sessions ↔ s ∈ r.sessions ∧ stays s = true :=
  List.mem_filter

theorem mem_after_create {t : Session} :
    s ∈ (r.after (.create t)).sessions ↔
      t = s ∧ r.find? s.sessionId = none ∨ s ∈ r.sessions := by
  by_cases hid : t.sessionId ∈ r.sessions.map Session.sessionId
  · have hfail : r.create t = .error (.repository (.duplicateSession t.sessionId)) := dif_pos hid
    simp only [after, hfail]
    refine (or_iff_right ?_).symm
    rintro ⟨rfl, hfree⟩
    exact find?_eq_none_iff.1 hfree hid
  · obtain ⟨u, hu, hsessions⟩ := create_of_new hid
    simp only [after, hu]
    rw [hsessions, List.mem_append, List.mem_singleton, or_comm, eq_comm]
    refine or_congr_left (and_iff_left_of_imp ?_).symm
    rintro rfl
    exact find?_eq_none_iff.2 hid

theorem mem_after_update {t : Session} :
    s ∈ (r.after (.update t)).sessions ↔
      t = s ∧ r.find? s.sessionId ≠ none ∨ s ∈ r.sessions ∧ t.sessionId ≠ s.sessionId := by
  by_cases hid : t.sessionId ∈ r.sessions.map Session.sessionId
  · obtain ⟨u, hu, hsessions⟩ := update_of_mem hid
    simp only [after, hu]
    rw [hsessions, List.mem_map]
    constructor
    · rintro ⟨x, hx, hxs⟩
      split at hxs
      · exact .inl ⟨hxs, fun hfree => find?_eq_none_iff.1 hfree (hxs ▸ hid)⟩
      · rename_i hother
        exact .inr ⟨hxs ▸ hx, fun h => hother (hxs ▸ h.symm)⟩
    · rintro (⟨rfl, -⟩ | ⟨hs, hother⟩)
      · obtain ⟨x, hx, hxt⟩ := List.mem_map.1 hid
        exact ⟨x, hx, if_pos hxt⟩
      · exact ⟨s, hs, if_neg fun h => hother h.symm⟩
  · have hfail : r.update t = .error (.sessionNotFound t.sessionId) := if_neg hid
    simp only [after, hfail]
    constructor
    · exact fun hs => .inr ⟨hs, fun h => hid (h ▸ List.mem_map_of_mem hs)⟩
    · rintro (⟨rfl, hused⟩ | ⟨hs, -⟩)
      · exact absurd (find?_eq_none_iff.2 hid) hused
      · exact hs

/-- **After a command there are the sessions it stores and those it does not displace.** -/
theorem mem_after {c : StoreCommand} :
    s ∈ (r.after c).sessions ↔ c.Stores r.find? s ∨ s ∈ r.sessions ∧ ¬c.Displaces s := by
  cases c with
  | create t =>
    rw [mem_after_create]
    exact or_congr_right (and_iff_left not_false).symm
  | update t => exact mem_after_update
  | delete t =>
    refine mem_keep.trans ?_
    rw [decide_eq_true_iff, ne_comm]
    exact (or_iff_right not_false).symm
  | deleteId id =>
    refine mem_keep.trans ?_
    rw [decide_eq_true_iff, ne_comm]
    exact (or_iff_right not_false).symm
  | deleteUser user =>
    refine mem_keep.trans ?_
    rw [Bool.not_eq_true', beq_eq_false_iff_ne, ne_comm]
    exact (or_iff_right not_false).symm
  | deleteExpired now =>
    refine mem_keep.trans ?_
    rw [Bool.not_eq_true', expiredBefore, decide_eq_false_iff_not]
    exact (or_iff_right not_false).symm
  | _ => exact ((or_iff_right not_false).trans (and_iff_left not_false)).symm

/-- What is found after a command. -/
theorem find?_after (r : Repository) (c : StoreCommand) : (r.after c).find? = c.onTable r.find? := by
  have hown : ∀ id s, r.find? id = some s → s.sessionId = id :=
    fun _ _ h => (find?_eq_some_iff.1 h).2
  funext id
  refine Option.ext fun s => ?_
  rw [find?_eq_some_iff, mem_after, StoreCommand.onTable_eq_some_iff hown, and_comm]
  refine and_congr_right fun hid => ?_
  rw [← hid, find?_eq_some_iff_mem]

end OneCommand

/-! ## Many commands -/

/-- In another order the same is found. -/
theorem find?_eq_of_perm {r t : Repository} (h : r.sessions.Perm t.sessions) : r.find? = t.find? := by
  funext id
  refine Option.ext fun s => ?_
  rw [find?_eq_some_iff, find?_eq_some_iff, h.mem_iff]

namespace Arises

variable {cs : List StoreCommand} {r : Repository}

/-- **What is found is what the table has.** -/
theorem find?_eq (h : Arises cs r) : r.find? = StoreCommand.table cs := by
  induction h with
  | start => rfl
  | @command cs r _ c ih =>
    rw [find?_after, ih, StoreCommand.table, StoreCommand.table, List.foldl_append]
    rfl
  | reorder _ hperm ih => rw [← find?_eq_of_perm hperm, ih]

/-- **The history of a session.**  A session is stored if some command has stored it and none has
displaced it since. -/
theorem mem_iff (h : Arises cs r) {s : Session} :
    s ∈ r.sessions ↔ ∃ past c later, cs = past ++ c :: later ∧
      c.Stores (StoreCommand.table past) s ∧ ∀ d ∈ later, ¬d.Displaces s := by
  induction h with
  | start => simp [empty]
  | command hpast c ih => rw [mem_after, ih, hpast.find?_eq, StoreCommand.stored_concat_iff]
  | reorder _ hperm ih => rw [← hperm.mem_iff, ih]

end Arises

/-! ## The sessions of a user, and those that have expired -/

/-- In the order of a user's sessions none comes before one that is older. -/
theorem createdBefore_iff {s t : Session} :
    createdBefore s t = true ↔ s.createdAt.ticks < t.createdAt.ticks ∨
      s.createdAt.ticks ≤ t.createdAt.ticks ∧ s.sessionId ≤ t.sessionId := by
  simp only [createdBefore, Bool.or_eq_true, Bool.and_eq_true, Bool.not_eq_true', decide_eq_true_iff,
    decide_eq_false_iff_not, Instant.lt_iff_ticks, Int.not_lt, String.not_lt]

theorem createdBefore_trans {s t u : Session} (h : createdBefore s t = true)
    (h' : createdBefore t u = true) : createdBefore s u = true := by
  rw [createdBefore_iff] at h h' ⊢
  rcases h with h | ⟨h, hid⟩
  · exact .inl (by omega)
  · rcases h' with h' | ⟨h', hid'⟩
    · exact .inl (by omega)
    · exact .inr ⟨Int.le_trans h h', String.le_trans hid hid'⟩

theorem createdBefore_total (s t : Session) : (createdBefore s t || createdBefore t s) = true := by
  rw [Bool.or_eq_true, createdBefore_iff, createdBefore_iff]
  rcases Int.lt_trichotomy s.createdAt.ticks t.createdAt.ticks with h | h | h
  · exact .inl (.inl h)
  · exact (String.le_total s.sessionId t.sessionId).imp (fun hid => .inr ⟨Int.le_of_eq h, hid⟩)
      fun hid => .inr ⟨Int.le_of_eq h.symm, hid⟩
  · exact .inr (.inl h)

section Selections

variable (r : Repository) (user : String) (now : Instant)

/-- **The sessions of a user**, the oldest first. -/
theorem findUser_perm :
    (r.findUser user).Perm (r.sessions.filter fun s => s.userId == user) :=
  List.mergeSort_perm _ _

theorem pairwise_findUser :
    (r.findUser user).Pairwise fun s t => s.createdAt.ticks ≤ t.createdAt.ticks := by
  have hsorted : (r.findUser user).Pairwise fun s t => createdBefore s t = true :=
    @List.pairwise_mergeSort Session createdBefore (fun _ _ _ => createdBefore_trans)
      createdBefore_total _
  refine hsorted.imp fun h => ?_
  rcases createdBefore_iff.1 h with h | ⟨h, -⟩ <;> omega

theorem mem_findUser {s : Session} : s ∈ r.findUser user ↔ s ∈ r.sessions ∧ s.userId = user := by
  rw [(r.findUser_perm user).mem_iff, List.mem_filter, beq_iff_eq]

/-- What is deleted of a user is what would have been found. -/
theorem deleteUser_perm : (r.deleteUser user).1.Perm (r.findUser user) :=
  (r.findUser_perm user).symm

theorem mem_deleteUser {s : Session} :
    s ∈ (r.deleteUser user).2.sessions ↔ s ∈ r.sessions ∧ s ∉ r.findUser user := by
  refine mem_keep.trans (and_congr_right fun hs => ?_)
  rw [mem_findUser, Bool.not_eq_true', beq_eq_false_iff_ne, and_iff_right hs]

theorem mem_findExpired {s : Session} :
    s ∈ r.findExpired now ↔ s ∈ r.sessions ∧ s.refreshExpiry < now := by
  rw [findExpired, List.mem_filter, expiredBefore, decide_eq_true_iff]

theorem mem_deleteExpired {s : Session} :
    s ∈ (r.deleteExpired now).2.sessions ↔ s ∈ r.sessions ∧ s ∉ r.findExpired now := by
  refine mem_keep.trans (and_congr_right fun hs => ?_)
  rw [mem_findExpired, Bool.not_eq_true', expiredBefore, decide_eq_false_iff_not, and_iff_right hs]

end Selections

/-! ## The main result -/

/-- **A store is a table.**  After any commands, and in whatever order the store keeps its sessions, each
of them is found under its own id, no two have the same id, and what is found under an id is what stands
there in the table: the session that was last stored under it, unless it has been displaced since.

The sessions found of a user are those stored of that user, the oldest first, and deleting them gives
the same ones and takes out no others.  Deleting those that have expired gives their number and takes out
the ones that would have been found, and no others.  Creating fails if there is a session of that id, and
updating if there is none.  No command touches any other session than those it stores or displaces. -/
theorem refines_table {cs : List StoreCommand} {r : Repository} (h : Arises cs r) :
    ((∀ s ∈ r.sessions, r.find? s.sessionId = some s) ∧
      (∀ id s, r.find? id = some s → s ∈ r.sessions ∧ s.sessionId = id) ∧
      (r.sessions.map Session.sessionId).Nodup) ∧
    r.find? = StoreCommand.table cs ∧
    (∀ id s, r.find? id = some s ↔ s.sessionId = id ∧ ∃ past c later, cs = past ++ c :: later ∧
      c.Stores (StoreCommand.table past) s ∧ ∀ d ∈ later, ¬d.Displaces s) ∧
    (∀ user, (r.findUser user).Perm (r.sessions.filter fun s => s.userId == user) ∧
      (r.findUser user).Pairwise fun s t => ¬t.createdAt < s.createdAt) ∧
    (∀ user, (r.deleteUser user).1.Perm (r.findUser user) ∧
      ∀ s, s ∈ (r.deleteUser user).2.sessions ↔ s ∈ r.sessions ∧ s ∉ r.findUser user) ∧
    (∀ now, (∀ s, s ∈ r.findExpired now ↔ s ∈ r.sessions ∧ s.refreshExpiry < now) ∧
      (r.deleteExpired now).1 = (r.findExpired now).length ∧
      ∀ s, s ∈ (r.deleteExpired now).2.sessions ↔ s ∈ r.sessions ∧ s ∉ r.findExpired now) ∧
    (∀ s e, (r.create s = .error e ↔
        r.find? s.sessionId ≠ none ∧ e = .repository (.duplicateSession s.sessionId)) ∧
      (r.update s = .error e ↔ r.find? s.sessionId = none ∧ e = .sessionNotFound s.sessionId)) ∧
    (∀ c s, s ∈ (r.after c).sessions ↔ c.Stores r.find? s ∨ s ∈ r.sessions ∧ ¬c.Displaces s) ∧
    ∀ w : World, w.app.repository = r → ∀ c, (w.runStore c).1.app.repository = r.after c := by
  refine ⟨⟨fun s hs => find?_eq_some_iff_mem.2 hs, fun id s hs => find?_eq_some_iff.1 hs, r.distinct⟩,
    h.find?_eq, fun id s => ?_, fun user => ⟨r.findUser_perm user, ?_⟩,
    fun user => ⟨r.deleteUser_perm user, fun s => r.mem_deleteUser user⟩,
    fun now => ⟨fun s => r.mem_findExpired now, rfl, fun s => r.mem_deleteExpired now⟩,
    fun s e => ⟨?_, ?_⟩, fun c s => mem_after, ?_⟩
  · rw [find?_eq_some_iff, h.mem_iff, and_comm]
  · exact (r.pairwise_findUser user).imp fun hle => Instant.not_lt_iff_ticks.2 hle
  · rw [create_eq_error_iff, Ne, find?_eq_none_iff, not_not]
  · rw [update_eq_error_iff, find?_eq_none_iff]
  · rintro w rfl c
    exact repository_runStore w c

/-- A session of some user. -/
def ofUser (user : String) : Session :=
  ⟨"s1", user, "ada", "access", "refresh", .epoch, .epoch, "agent", "::1", .epoch⟩

/-- A session that has been handed over to another user is still stored after all sessions of the first
one have been deleted. -/
theorem refines_table_of_a_session_handed_over :
    ∃ r, Arises [.create (ofUser "u1"), .update (ofUser "u2"), .deleteUser "u1"] r ∧
      r.find? "s1" = some (ofUser "u2") := by
  have h := ((Arises.start.command (.create (ofUser "u1"))).command (.update (ofUser "u2"))).command
    (.deleteUser "u1")
  obtain ⟨-, -, hhistory, -⟩ := refines_table h
  refine ⟨_, h, (hhistory "s1" (ofUser "u2")).2 ⟨rfl, ?_⟩⟩
  refine ⟨[.create (ofUser "u1")], .update (ofUser "u2"), [.deleteUser "u1"], rfl, ⟨rfl, ?_⟩, ?_⟩
  · simp [StoreCommand.table, StoreCommand.onTable, ofUser]
  · simp [StoreCommand.Displaces, ofUser]

end Repository
end Switchboard
