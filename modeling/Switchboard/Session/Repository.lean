import Switchboard.ServiceError
import Switchboard.Session.Session

/-!
# The store of sessions

Sessions are stored under their ids.  Creating needs an id that is not in use and updating one that
is; deleting says what was deleted.  Besides by id, sessions are found by their user and by the expiry
of their refresh token.
-/

namespace Switchboard

/-- Stored sessions, no two of which have the same id. -/
structure Repository where
  sessions : List Session
  distinct : (sessions.map Session.sessionId).Nodup

namespace Repository

/-- Nothing stored. -/
def empty : Repository := ⟨[], List.nodup_nil⟩

/-- How many sessions are stored. -/
def size (r : Repository) : Nat :=
  r.sessions.length

/-- Whether nothing is stored. -/
def isEmpty (r : Repository) : Bool :=
  r.sessions.isEmpty

/-- The session of an id. -/
def find? (r : Repository) (id : String) : Option Session :=
  r.sessions.find? fun s => decide (s.sessionId = id)

/-- Store a session under an id that is not in use. -/
def create (r : Repository) (s : Session) : Except ServiceError Repository :=
  if h : s.sessionId ∈ r.sessions.map Session.sessionId then
    .error (.repository (.duplicateSession s.sessionId))
  else .ok ⟨r.sessions ++ [s], by
    rw [List.map_append, List.nodup_append]
    refine ⟨r.distinct, by simp, ?_⟩
    intro a ha b hb
    simp only [List.map_cons, List.map_nil, List.mem_singleton] at hb
    exact fun hab => h (hb ▸ hab ▸ ha)⟩

/-- Replace the session of an id. -/
def update (r : Repository) (s : Session) : Except ServiceError Repository :=
  if s.sessionId ∈ r.sessions.map Session.sessionId then
    .ok ⟨r.sessions.map fun t => if t.sessionId = s.sessionId then s else t, by
      have ids : (r.sessions.map fun t => if t.sessionId = s.sessionId then s else t).map
          Session.sessionId = r.sessions.map Session.sessionId := by
        rw [List.map_map]
        refine List.map_congr_left fun t _ => ?_
        by_cases h : t.sessionId = s.sessionId <;> simp [h]
      exact ids ▸ r.distinct⟩
  else .error (.sessionNotFound s.sessionId)

/-- Keep the sessions for which `stays` holds. -/
def keep (r : Repository) (stays : Session → Bool) : Repository :=
  ⟨r.sessions.filter stays, (List.filter_sublist.map Session.sessionId).nodup r.distinct⟩

/-- Delete the sessions for which `gone` holds, and give them. -/
def removeWhere (r : Repository) (gone : Session → Bool) : List Session × Repository :=
  (r.sessions.filter gone, r.keep fun s => !gone s)

/-- Delete the session of an id, if there is one, and give it. -/
def deleteId (r : Repository) (id : String) : Option Session × Repository :=
  (r.find? id, r.keep fun s => decide (s.sessionId ≠ id))

/-- The order in which the sessions of a user are listed: by creation, then by id. -/
def createdBefore (s t : Session) : Bool :=
  s.createdAt < t.createdAt ||
    (!decide (t.createdAt < s.createdAt) && !decide (t.sessionId < s.sessionId))

/-- The sessions of a user, the oldest first. -/
def findUser (r : Repository) (user : String) : List Session :=
  (r.sessions.filter fun s => s.userId == user).mergeSort createdBefore

/-- Delete all sessions of a user, and give them. -/
def deleteUser (r : Repository) (user : String) : List Session × Repository :=
  r.removeWhere fun s => s.userId == user

/-- Whether the refresh token of a session had expired before some instant. -/
def expiredBefore (now : Instant) (s : Session) : Bool :=
  s.refreshExpiry < now

/-- The sessions whose refresh token has expired. -/
def findExpired (r : Repository) (now : Instant) : List Session :=
  r.sessions.filter (expiredBefore now)

/-- Delete the sessions whose refresh token has expired, and give their number. -/
def deleteExpired (r : Repository) (now : Instant) : Nat × Repository :=
  let p := r.removeWhere (expiredBefore now)
  (p.1.length, p.2)

end Repository
end Switchboard
