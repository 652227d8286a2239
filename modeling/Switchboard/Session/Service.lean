import Switchboard.Config.Settings
import Switchboard.Event
import Switchboard.Session.Repository

/-!
# The session service

Opening a session stores it and then announces it; closing one removes it and then announces that.
What an operation changes in the store comes first and in one step.  The events follow, one after the
other; `Receipt.events` lists them.  An operation that fails changes nothing and announces nothing.

The random id of a new session and the time are given from outside.
-/

namespace Switchboard

/-- What is known of a user for whom a session is opened. -/
structure OpenSession where
  userId : String
  username : String
  accessToken : String
  refreshToken : String
  expiresAt : Instant
  userAgent : String
  ipAddress : String
  deriving DecidableEq

/-- The service, which knows how long refresh tokens are good for. -/
structure SessionService where
  refreshTtl : Int
  deriving DecidableEq

/-- What comes of an operation: its answer, the store afterwards, lines of the trace, and the events
to be published. -/
structure Receipt (α : Type) where
  answer : α
  repository : Repository
  trace : List TraceLine
  events : List Event

namespace SessionService

/-- The service for some settings. -/
def new (s : SessionSettings) : SessionService := ⟨s.refreshTtl⟩

/-- The session that an opening would store. -/
def sessionFor? (v : SessionService) (c : OpenSession) (id : String) (now : Instant) :
    Option Session :=
  (now.add? v.refreshTtl).map fun expiry =>
    ⟨id, c.userId, c.username, c.accessToken, c.refreshToken, c.expiresAt, expiry, c.userAgent,
      c.ipAddress, now⟩

/-- The line of the trace about an opened session. -/
def openedLine (s : Session) : TraceLine :=
  ⟨.debug, "session opened", [("session_id", .str s.sessionId), ("user_id", .str s.userId)]⟩

/-- Open a session. -/
def openSession (v : SessionService) (r : Repository) (c : OpenSession) (id : String)
    (now : Instant) : Except ServiceError (Receipt Session) :=
  match v.sessionFor? c id now with
  | none => .error (.setup (.invalidConfig (.refreshSpan v.refreshTtl)))
  | some s => do
    let stored ← r.create s
    .ok ⟨s, stored, [openedLine s], [.sessionCreated s]⟩

/-- Close a session. -/
def invalidate (r : Repository) (id : String) (now : Instant) :
    Except ServiceError (Receipt Session) :=
  match r.deleteId id with
  | (some s, rest) => .ok ⟨s, rest, [], [.sessionDeleted s now]⟩
  | (none, _) => .error (.sessionNotFound id)

/-- The session of an id, unless its refresh token has expired. -/
def session (r : Repository) (id : String) (now : Instant) : Except ServiceError Session :=
  match r.find? id with
  | none => .error (.sessionNotFound id)
  | some s => if s.isRefreshExpiredAt now then .error (.sessionExpired id) else .ok s

/-- Close all sessions of a user, and give their number. -/
def invalidateUser (r : Repository) (user : String) (now : Instant) : Receipt Nat :=
  let p := r.deleteUser user
  ⟨p.1.length, p.2, [], p.1.map fun s => .sessionDeleted s now⟩

/-- The line of the trace about removed sessions. -/
def cleanedLine (removed : Nat) : TraceLine :=
  ⟨.info, "expired sessions cleaned", [("removed", .int removed)]⟩

/-- Remove the sessions whose refresh token has expired, without announcing it, and give their
number. -/
def cleanExpired (r : Repository) (now : Instant) : Receipt Nat :=
  let p := r.deleteExpired now
  ⟨p.1, p.2, if 0 < p.1 then [cleanedLine p.1] else [], []⟩

end SessionService
end Switchboard
