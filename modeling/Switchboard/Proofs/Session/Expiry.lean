import Switchboard.Proofs.Session.Table
import Switchboard.Session.Service

/-!
# Four ways to ask whether a session has expired

A session says itself whether its refresh token has expired by some instant.  The service says it when it
is asked for the session.  The store says it when it lists what has expired, and once more when it takes
those sessions out.  The four of them look at the clock for themselves, so they had better agree, most of
all at the instant of expiry, when the token is still good, and in leap seconds.

They do agree (`expiryTold`), and what they say is an inequality of whole numbers
(`Session.outlivedBy_iff_ticks`).  From this it follows that cleaning takes away nothing that could still
be had, that nothing which has expired is left by it, and that what has expired stays so:
`expiry_agreement`.

Nothing is assumed of the store, so it may have come about by any commands and any requests.
-/

namespace Switchboard

namespace Session

/-- Whether the refresh token of a session expires before some instant, by the seconds of the two
instants and, if these are the same, by the nanoseconds. -/
def OutlivedBy (s : Session) (now : Instant) : Prop :=
  s.refreshExpiry.seconds < now.seconds ∨
    s.refreshExpiry.seconds = now.seconds ∧ s.refreshExpiry.nanos < now.nanos

theorem outlivedBy_iff {s : Session} {now : Instant} : s.OutlivedBy now ↔ s.refreshExpiry < now :=
  Instant.lt_iff.symm

theorem outlivedBy_iff_ticks {s : Session} {now : Instant} :
    s.OutlivedBy now ↔ s.refreshExpiry.ticks < now.ticks :=
  outlivedBy_iff.trans Instant.lt_iff_ticks

end Session

/-- All four ways to ask whether a stored session has expired give the same answer. -/
structure ExpiryTold (r : Repository) (id : String) (s : Session) (now : Instant) (expired : Prop) :
    Prop where
  asked : SessionService.session r id now = .error (.sessionExpired id) ↔ expired
  listed : id ∈ (r.findExpired now).map Session.sessionId ↔ expired
  cleaned : (SessionService.cleanExpired r now).repository.find? id = none ↔ expired
  itself : s.isRefreshExpiredAt now = true ↔ expired

namespace SessionService

variable {r : Repository} {id : String} {s : Session} {now : Instant}

/-- What the service says of a stored session. -/
theorem session_of_find? (h : r.find? id = some s) :
    session r id now = if s.refreshExpiry < now then .error (.sessionExpired id) else .ok s := by
  simp [session, h, Session.isRefreshExpiredAt]

theorem session_of_find?_none (h : r.find? id = none) :
    session r id now = .error (.sessionNotFound id) := by
  rw [session, h]

/-- The service gives a session if it is stored and has not expired. -/
theorem session_eq_ok_iff :
    session r id now = .ok s ↔ r.find? id = some s ∧ ¬s.refreshExpiry < now := by
  cases h : r.find? id with
  | none => simp [session_of_find?_none h]
  | some t =>
    rw [session_of_find? h]
    split
    · rename_i hexpired
      refine iff_of_false (by simp) ?_
      rintro ⟨hts, hgood⟩
      obtain rfl := Option.some.inj hts
      exact hgood hexpired
    · rename_i hgood
      constructor
      · intro hok
        obtain rfl := Except.ok.inj hok
        exact ⟨rfl, hgood⟩
      · rintro ⟨hts, -⟩
        rw [Option.some.inj hts]

/-- What is stored after those that have expired have been taken out. -/
theorem find?_cleanExpired_eq_some_iff :
    (cleanExpired r now).repository.find? id = some s ↔
      r.find? id = some s ∧ ¬s.refreshExpiry < now := by
  show (r.deleteExpired now).2.find? id = some s ↔ _
  rw [Repository.find?_eq_some_iff, Repository.mem_deleteExpired, Repository.find?_eq_some_iff,
    Repository.mem_findExpired]
  tauto

/-- **Cleaning takes away nothing that could still be had.** -/
theorem session_cleanExpired_eq_ok_iff :
    session (cleanExpired r now).repository id now = .ok s ↔ session r id now = .ok s := by
  rw [session_eq_ok_iff, find?_cleanExpired_eq_some_iff, session_eq_ok_iff, and_assoc, and_self]

/-- Nothing that has expired is left by cleaning: what cannot be had is not there. -/
theorem session_cleanExpired_eq_error {e : ServiceError}
    (h : session (cleanExpired r now).repository id now = .error e) : e = .sessionNotFound id := by
  cases hfind : (cleanExpired r now).repository.find? id with
  | none =>
    rw [session_of_find?_none hfind] at h
    exact (Except.error.inj h).symm
  | some s =>
    have hok := session_eq_ok_iff.2 ⟨hfind, (find?_cleanExpired_eq_some_iff.1 hfind).2⟩
    exact absurd (hok.symm.trans h) (by simp)

end SessionService

/-- **All four ways to ask agree.** -/
theorem expiryTold {r : Repository} {id : String} {s : Session} (h : r.find? id = some s)
    (now : Instant) : ExpiryTold r id s now (s.OutlivedBy now) := by
  rw [Session.outlivedBy_iff]
  obtain ⟨hs, hid⟩ := Repository.find?_eq_some_iff.1 h
  refine ⟨?_, ?_, ?_, decide_eq_true_iff⟩
  · rw [SessionService.session_of_find? h]
    split
    · rename_i hexpired
      exact iff_of_true rfl hexpired
    · rename_i hgood
      exact iff_of_false (by simp) hgood
  · rw [List.mem_map]
    constructor
    · rintro ⟨t, ht, htid⟩
      obtain ⟨htr, hexpired⟩ := (r.mem_findExpired now).1 ht
      obtain rfl := List.inj_on_of_nodup_map r.distinct htr hs (htid.trans hid.symm)
      exact hexpired
    · exact fun hexpired => ⟨s, (r.mem_findExpired now).2 ⟨hs, hexpired⟩, hid⟩
  · constructor
    · intro hnone
      by_contra hgood
      have hleft := SessionService.find?_cleanExpired_eq_some_iff.2 ⟨h, hgood⟩
      exact absurd (hnone.symm.trans hleft) (by simp)
    · refine fun hexpired => Option.eq_none_iff_forall_ne_some.2 fun t ht => ?_
      obtain ⟨hfound, hgood⟩ := SessionService.find?_cleanExpired_eq_some_iff.1 ht
      obtain rfl := Option.some.inj (hfound.symm.trans h)
      exact hgood hexpired

/-- **All that concerns expiry agrees.**  The service says of a stored session that it has expired exactly
if it is listed as expired, exactly if cleaning takes it out, and exactly if it says so itself; and that
is if its expiry lies before the instant, by the seconds and then by the nanoseconds.  At the very
instant of expiry none of them says so.

Cleaning leaves whatever the service would still give, and afterwards the service says of no id that its
session has expired.  A session that has expired and stays as it is has expired at all later instants as
well, whatever has become of the rest of the store. -/
theorem expiry_agreement (r : Repository) (now : Instant) :
    (∀ id s, r.find? id = some s → ExpiryTold r id s now (s.OutlivedBy now)) ∧
    (∀ id s, r.find? id = some s → s.refreshExpiry = now → ExpiryTold r id s now False) ∧
    (∀ id s, SessionService.session (SessionService.cleanExpired r now).repository id now = .ok s ↔
      SessionService.session r id now = .ok s) ∧
    (∀ id e, SessionService.session (SessionService.cleanExpired r now).repository id now = .error e →
      e = .sessionNotFound id) ∧
    ∀ id s later t, r.find? id = some s →
      SessionService.session r id now = .error (.sessionExpired id) → ¬later < now →
      t.find? id = some s → ExpiryTold t id s later True := by
  refine ⟨fun id s h => expiryTold h now, fun id s h hnow => ?_,
    fun id s => SessionService.session_cleanExpired_eq_ok_iff,
    fun id e => SessionService.session_cleanExpired_eq_error, fun id s later t h hasked hlater ht => ?_⟩
  · have hgood : ¬s.OutlivedBy now := by
      rw [Session.outlivedBy_iff_ticks, hnow]
      exact Int.lt_irrefl _
    rw [← iff_false_intro hgood]
    exact expiryTold h now
  · have hexpired : s.OutlivedBy later := by
      have hbefore := (expiryTold h now).asked.1 hasked
      rw [Session.outlivedBy_iff_ticks] at hbefore ⊢
      exact Int.lt_of_lt_of_le hbefore (Instant.not_lt_iff_ticks.1 hlater)
    rw [← iff_true_intro hexpired]
    exact expiryTold ht later

end Switchboard
