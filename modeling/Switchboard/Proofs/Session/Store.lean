import Mathlib.Data.List.Nodup
import Mathlib.Tactic.Tauto
import Switchboard.Session.Repository

/-!
# What an operation does to the store

The difference of two states of the store says what an operation has stored and what it has removed,
whatever the operation is: `Repository.minus` lists the sessions of one that are not in the other.
Since no session is there twice, nothing is lost sight of (`Repository.perm_minus`): the sessions
before and those that are new are the sessions after and those that are gone.
-/

namespace Switchboard
namespace Repository

/-- The sessions of one state of the store that are not in another. -/
def minus (r t : Repository) : List Session :=
  r.sessions.filter fun s => decide (s ∉ t.sessions)

theorem nodup_sessions (r : Repository) : r.sessions.Nodup :=
  r.distinct.of_map _

theorem mem_minus {r t : Repository} {s : Session} :
    s ∈ r.minus t ↔ s ∈ r.sessions ∧ s ∉ t.sessions := by
  rw [minus, List.mem_filter, decide_eq_true_iff]

theorem minus_self (r : Repository) : r.minus r = [] := by
  rw [minus, List.filter_eq_nil_iff]
  intro s hs hnot
  exact of_decide_eq_true hnot hs

/-- **Nothing is lost sight of between two states of the store.** -/
theorem perm_minus (r t : Repository) :
    (r.sessions ++ t.minus r).Perm (t.sessions ++ r.minus t) := by
  have apart (x y : Repository) : (x.sessions ++ y.minus x).Nodup := by
    rw [List.nodup_append]
    refine ⟨x.nodup_sessions, y.nodup_sessions.filter _, ?_⟩
    rintro s hs _ hm rfl
    exact (mem_minus.1 hm).2 hs
  refine (List.perm_ext_iff_of_nodup (apart r t) (apart t r)).2 fun s => ?_
  rw [List.mem_append, List.mem_append, mem_minus, mem_minus]
  tauto

/-! ## Looking up -/

theorem find?_eq_some_iff {r : Repository} {id : String} {s : Session} :
    r.find? id = some s ↔ s ∈ r.sessions ∧ s.sessionId = id := by
  constructor
  · intro h
    exact ⟨List.mem_of_find?_eq_some h, by simpa using List.find?_some h⟩
  · rintro ⟨hs, rfl⟩
    cases h : r.find? s.sessionId with
    | none =>
      have hself := List.find?_eq_none.1 h s hs
      exact absurd (decide_eq_true rfl) hself
    | some t =>
      have ht : t.sessionId = s.sessionId := by simpa using List.find?_some h
      rw [List.inj_on_of_nodup_map r.distinct (List.mem_of_find?_eq_some h) hs ht]

theorem find?_eq_none_iff {r : Repository} {id : String} :
    r.find? id = none ↔ id ∉ r.sessions.map Session.sessionId := by
  rw [find?, List.find?_eq_none, List.mem_map]
  simp

/-! ## What operations store and remove -/

/-- A session is stored under an id that is not in use, behind the others. -/
theorem create_of_new {r : Repository} {s : Session}
    (h : s.sessionId ∉ r.sessions.map Session.sessionId) :
    ∃ t, r.create s = .ok t ∧ t.sessions = r.sessions ++ [s] := by
  rw [create, dif_neg h]
  exact ⟨_, rfl, rfl⟩

/-- A session takes the place of the one that has its id. -/
theorem update_of_mem {r : Repository} {s : Session}
    (h : s.sessionId ∈ r.sessions.map Session.sessionId) :
    ∃ t, r.update s = .ok t ∧
      t.sessions = r.sessions.map fun x => if x.sessionId = s.sessionId then s else x := by
  rw [update, if_pos h]
  exact ⟨_, rfl, rfl⟩

theorem create_eq_error_iff {r : Repository} {s : Session} {e : ServiceError} :
    r.create s = .error e ↔ s.sessionId ∈ r.sessions.map Session.sessionId ∧
      e = .repository (.duplicateSession s.sessionId) := by
  rw [create]
  split
  · rename_i hid
    simp [hid, eq_comm]
  · rename_i hid
    simp [hid]

theorem update_eq_error_iff {r : Repository} {s : Session} {e : ServiceError} :
    r.update s = .error e ↔ s.sessionId ∉ r.sessions.map Session.sessionId ∧
      e = .sessionNotFound s.sessionId := by
  rw [update]
  split
  · rename_i hid
    simp [hid]
  · rename_i hid
    simp [hid, eq_comm]

/-- Creating stores the session and removes none. -/
theorem of_create {r t : Repository} {s : Session} (h : r.create s = .ok t) :
    s.sessionId ∉ r.sessions.map Session.sessionId ∧ t.minus r = [s] ∧ r.minus t = [] := by
  rw [create] at h
  split at h
  · exact absurd h (by simp)
  · rename_i hnew
    obtain rfl := Except.ok.inj h
    have hs : s ∉ r.sessions := fun hs => hnew (List.mem_map_of_mem hs)
    refine ⟨hnew, ?_, ?_⟩
    · have hself : (r.sessions.filter fun x => decide (x ∉ r.sessions)) = [] := r.minus_self
      rw [minus, List.filter_append, hself, List.nil_append]
      exact List.filter_cons_of_pos (decide_eq_true hs)
    · rw [minus, List.filter_eq_nil_iff]
      intro x hx hnot
      exact of_decide_eq_true hnot (List.mem_append_left _ hx)

/-- Keeping some sessions stores none and removes the others. -/
theorem minus_keep (r : Repository) (stays : Session → Bool) :
    (r.keep stays).minus r = [] ∧ r.minus (r.keep stays) = r.sessions.filter fun s => !stays s := by
  constructor
  · rw [minus, List.filter_eq_nil_iff]
    intro s hs hnot
    exact of_decide_eq_true hnot (List.mem_of_mem_filter hs)
  · refine List.filter_congr fun s hs => ?_
    show decide (s ∉ r.sessions.filter stays) = !stays s
    rw [Bool.eq_iff_iff, decide_eq_true_iff, List.mem_filter, and_iff_right hs]
    simp

theorem minus_removeWhere (r : Repository) (gone : Session → Bool) :
    (r.removeWhere gone).2.minus r = [] ∧
      r.minus (r.removeWhere gone).2 = (r.removeWhere gone).1 := by
  obtain ⟨hnew, hgone⟩ := r.minus_keep fun s => !gone s
  refine ⟨hnew, hgone.trans ?_⟩
  simp only [removeWhere, Bool.not_not]

/-- Deleting by an id removes the session of that id and no other. -/
theorem minus_deleteId (r : Repository) (id : String) :
    (r.deleteId id).2.minus r = [] ∧ r.minus (r.deleteId id).2 = (r.find? id).toList := by
  obtain ⟨hnew, hgone⟩ := r.minus_keep fun s => decide (s.sessionId ≠ id)
  refine ⟨hnew, hgone.trans ?_⟩
  have hfilter : (r.sessions.filter fun s => !decide (s.sessionId ≠ id)) =
      r.sessions.filter fun s => decide (s.sessionId = id) :=
    List.filter_congr fun s _ => by simp
  rw [hfilter]
  cases hf : r.find? id with
  | none =>
    rw [find?_eq_none_iff] at hf
    rw [List.filter_eq_nil_iff.2 fun s hs heq => hf ?_]
    · rfl
    · rw [← of_decide_eq_true heq]
      exact List.mem_map_of_mem hs
  | some s =>
    obtain ⟨hs, rfl⟩ := find?_eq_some_iff.1 hf
    -- No two sessions have the same id, so there is none of that id but this one.
    refine List.perm_singleton.1 ((List.perm_ext_iff_of_nodup (r.nodup_sessions.filter _)
      (List.nodup_singleton s)).2 fun x => ?_)
    rw [List.mem_filter, decide_eq_true_iff, List.mem_singleton]
    constructor
    · rintro ⟨hx, hid⟩
      exact List.inj_on_of_nodup_map r.distinct hx hs hid
    · rintro rfl
      exact ⟨hs, rfl⟩

end Repository
end Switchboard
