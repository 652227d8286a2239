import Switchboard.Json.Decode

/-!
# Sessions

An authenticated session of a user: who it belongs to, the tokens it was opened with and when they
expire.  The access token and the refresh token expire apart from each other, each when an instant
after its expiry has come; at the very instant of expiry it is still good.

As data, a session has all its fields, and its instants are written with the letter `Z`.
-/

namespace Switchboard

/-- A session of a user. -/
structure Session where
  sessionId : String
  userId : String
  username : String
  accessToken : String
  refreshToken : String
  /-- When the access token expires. -/
  expiresAt : Instant
  /-- When the refresh token expires. -/
  refreshExpiry : Instant
  userAgent : String
  ipAddress : String
  createdAt : Instant
  deriving DecidableEq

namespace Session

/-- Whether the access token has expired by some instant. -/
def isExpiredAt (s : Session) (now : Instant) : Bool :=
  s.expiresAt < now

/-- Whether the refresh token has expired by some instant. -/
def isRefreshExpiredAt (s : Session) (now : Instant) : Bool :=
  s.refreshExpiry < now

/-- The data that stands for an instant in a session. -/
def timeJson (t : Instant) : Json := .str (Rfc3339.zuluForm t)

/-- The data that stands for a session. -/
def toJson (s : Session) : Json :=
  .object
    [("session_id", .str s.sessionId), ("user_id", .str s.userId), ("username", .str s.username),
      ("access_token", .str s.accessToken), ("refresh_token", .str s.refreshToken),
      ("expires_at", timeJson s.expiresAt), ("refresh_expiry", timeJson s.refreshExpiry),
      ("user_agent", .str s.userAgent), ("ip_address", .str s.ipAddress),
      ("created_at", timeJson s.createdAt)]

/-- A session of which nothing is known yet. -/
def blank : Session :=
  ⟨"", "", "", "", "", .epoch, .epoch, "", "", .epoch⟩

/-- The fields of a session. -/
def form : RecordForm Json Json.Fault Session :=
  ⟨"AuthSession",
    [Json.field "session_id" Json.asText fun s v => { s with sessionId := v },
      Json.field "user_id" Json.asText fun s v => { s with userId := v },
      Json.field "username" Json.asText fun s v => { s with username := v },
      Json.field "access_token" Json.asText fun s v => { s with accessToken := v },
      Json.field "refresh_token" Json.asText fun s v => { s with refreshToken := v },
      Json.field "expires_at" Json.asInstant fun s v => { s with expiresAt := v },
      Json.field "refresh_expiry" Json.asInstant fun s v => { s with refreshExpiry := v },
      Json.field "user_agent" Json.asText fun s v => { s with userAgent := v },
      Json.field "ip_address" Json.asText fun s v => { s with ipAddress := v },
      Json.field "created_at" Json.asInstant fun s v => { s with createdAt := v }]⟩

/-- Read a session, all of whose fields must be there. -/
def ofJson (v : Json) : Except Json.Fault Session :=
  Json.asRecord form blank v

end Session
end Switchboard
