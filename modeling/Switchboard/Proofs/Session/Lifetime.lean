import Switchboard.Proofs.Scenario.Footing
import Switchboard.Proofs.Session.Store
import Switchboard.Scenario.Play

/-!
# Lifetimes of refresh tokens

The settings say how many seconds a refresh token is good for, and there are two ways to ask when a
token expires that is made now.  One can ask the settings (`SessionSettings.refreshExpiry?`), or one
can have a session opened and look at it.  There are also two limits: a number of seconds may be too
long to be a span of time at all, and a span may lead out of the calendar.

Beyond the second limit both ways agree that there is no such instant, and no session is opened.  They
do not agree beyond the first.  The settings still say that there is no such instant, but the service
has replaced the lifetime by the standard one when it was made, and opens sessions that expire after
that.  `opening_agrees_iff` says exactly when the two ways agree.
-/

namespace Switchboard
namespace Scenario
namespace World

/-- What comes of opening a session now under an id, if that session is to expire at the given
instant: it is stored, created now and expiring then.  If there is no such instant, the answer is that
the lifetime is out of range, and nothing has happened. -/
def Opens (w : World) (c : OpenSession) (id : String) : Option Instant → Prop
  | some expiry => ∃ v s, w.runSession (.openSession c id) = (v, .opened s) ∧
      v.app.repository.sessions = w.app.repository.sessions ++ [s] ∧
      s.sessionId = id ∧ s.refreshExpiry = expiry ∧ s.createdAt = w.now
  | none => ∃ seconds, w.runSession (.openSession c id) =
      (w, .failed (.setup (.invalidConfig (.refreshSpan seconds))))

/-- Only one thing comes of it. -/
theorem Opens.unique {w : World} {c : OpenSession} {id : String} {e f : Option Instant}
    (he : w.Opens c id e) (hf : w.Opens c id f) : e = f := by
  cases e with
  | none =>
    obtain ⟨seconds, hrun⟩ := he
    cases f with
    | none => rfl
    | some f =>
      obtain ⟨v, s, hother, -⟩ := hf
      exact absurd (hrun.symm.trans hother) (by simp)
  | some e =>
    obtain ⟨v, s, hrun, -, -, hexpiry, -⟩ := he
    cases f with
    | none =>
      obtain ⟨seconds, hother⟩ := hf
      exact absurd (hrun.symm.trans hother) (by simp)
    | some f =>
      obtain ⟨v', s', hother, -, -, hexpiry', -⟩ := hf
      obtain ⟨-, hreply⟩ := Prod.mk.inj (hrun.symm.trans hother)
      rw [← hexpiry, ← hexpiry', Reply.opened.inj hreply]

theorem Opens.iff_eq {w : World} {c : OpenSession} {id : String} {e f : Option Instant}
    (he : w.Opens c id e) : w.Opens c id f ↔ e = f :=
  ⟨he.unique, fun h => h ▸ he⟩

/-- What is published about a receipt leaves the store as the receipt has it. -/
theorem repository_accept {α : Type} (w : World) (r : Receipt α) :
    (w.accept r).app.repository = r.repository := by
  rw [accept]
  split
  · exact (leads_publishAll _ _ _).app.repository
  · rfl

/-- Opening a session goes by the lifetime that the service has. -/
theorem opens_refreshTtl (w : World) (c : OpenSession) {id : String}
    (hid : w.app.repository.find? id = none) :
    w.Opens c id (w.now.add? w.service.refreshTtl) := by
  cases he : w.now.add? w.service.refreshTtl with
  | none =>
    refine ⟨w.service.refreshTtl, ?_⟩
    rw [runSession, SessionService.openSession, SessionService.sessionFor?, he]
    rfl
  | some expiry =>
    let s : Session := ⟨id, c.userId, c.username, c.accessToken, c.refreshToken, c.expiresAt, expiry,
      c.userAgent, c.ipAddress, w.now⟩
    have hmade : w.service.sessionFor? c id w.now = some s := by
      rw [SessionService.sessionFor?, he]
      rfl
    obtain ⟨stored, hcreate, hstored⟩ := Repository.create_of_new (s := s)
      (Repository.find?_eq_none_iff.1 hid)
    have hopen : w.service.openSession w.app.repository c id w.now =
        .ok ⟨s, stored, [SessionService.openedLine s], [.sessionCreated s]⟩ := by
      rw [SessionService.openSession, hmade]
      simp only [hcreate, bind, Except.bind]
    refine ⟨w.accept ⟨s, stored, [SessionService.openedLine s], [.sessionCreated s]⟩, s, ?_, ?_, rfl,
      rfl, rfl⟩
    · rw [runSession, hopen]
    · rw [repository_accept]
      exact hstored

/-- **The two ways to ask agree unless the lifetime is too long to be a span.**  Then the settings know
of no expiry, and the session that is opened expires when the standard lifetime has passed; only where
that leads out of the calendar does neither way give an instant. -/
theorem opening_agrees_iff {w : World} {settings : SessionSettings}
    (hservice : w.service = .new settings) (c : OpenSession) {id : String}
    (hid : w.app.repository.find? id = none) :
    w.Opens c id (w.now.add? settings.refreshTtl) ∧
      (w.Opens c id (settings.refreshExpiry? w.now) ↔
        Instant.isSpan settings.refreshTtlSecs = true ∨
          w.now.add? SessionSettings.standardTtl = none) := by
  have hopens : w.Opens c id (w.now.add? settings.refreshTtl) := by
    have h := w.opens_refreshTtl c hid
    rwa [hservice] at h
  refine ⟨hopens, ?_⟩
  rw [hopens.iff_eq, SessionSettings.refreshExpiry?, SessionSettings.refreshTtl]
  cases hspan : Instant.isSpan settings.refreshTtlSecs with
  | true => simp
  | false =>
    have hnone : w.now.add? settings.refreshTtlSecs = none := by
      rw [Instant.add?, hspan]
      rfl
    rw [hnone]
    simp [eq_comm]

/-! ## A long lifetime -/

/-- Somebody for whom sessions are opened. -/
def visitor : OpenSession := ⟨"u1", "ada", "access", "refresh", .epoch, "agent", "127.0.0.1"⟩

/-- A world at the start of 1970 whose session service was made for a lifetime of so many seconds. -/
def serving (seconds : Int) : World :=
  { empty .epoch Application.bare 0 none with service := .new ⟨seconds⟩ }

/-- The two ways to ask agree about a day. -/
theorem opening_agrees_about_a_day :
    (serving 86400).service = .new ⟨86400⟩ ∧
      (serving 86400).app.repository.find? "s1" = none ∧
      (serving 86400).Opens visitor "s1" (SessionSettings.refreshExpiry? ⟨86400⟩ .epoch) :=
  ⟨rfl, rfl, (opening_agrees_iff (w := serving 86400) rfl visitor rfl).2.2 (.inl rfl)⟩

/-- One second more than the longest span has no expiry, and a session is opened nevertheless. -/
theorem opening_beyond_spans :
    SessionSettings.refreshExpiry? ⟨9223372036854776⟩ .epoch = none ∧
      (∃ expiry, (serving 9223372036854776).Opens visitor "s1" (some expiry)) ∧
      ¬(serving 9223372036854776).Opens visitor "s1" none := by
  have hid : (serving 9223372036854776).app.repository.find? "s1" = none := rfl
  have hopens := (serving 9223372036854776).opens_refreshTtl visitor hid
  have hexpiry : (serving 9223372036854776).now.add?
      (serving 9223372036854776).service.refreshTtl = some ⟨2592000, 0, by decide, by decide⟩ := rfl
  rw [hexpiry] at hopens
  exact ⟨rfl, ⟨_, hopens⟩, fun h => absurd (hopens.unique h) (by simp)⟩

end World
end Scenario
end Switchboard
