import Switchboard.Proofs.Json.RoundTrip
import Switchboard.Proofs.Time.RoundTrip
import Switchboard.Session.Session

/-!
# Sessions survive being stored

A session is stored as the text of an object with ten members, all of them texts.  Three are times in
the form with `Z`.  `Session.ofJson_compact` says that the text is read as an object again, that the
session that is read from the object has the same texts and the times that are told in it, and that it
does not matter in which order the members have been written.

Nothing is assumed of the session: its texts may hold any characters, and its times may be any instants
that there are.  It comes back as it was if and only if its times are in place, that is, none of them is
in a leap second after another second than the last of a minute: such a time is stored like the ordinary
second that comes next (`not_always_read_back`).
-/

namespace Switchboard
namespace Session

/-- The members of a stored session, in ascending order of their names. -/
def members (s : Session) : List (String × String) :=
  [("access_token", s.accessToken), ("created_at", Rfc3339.zuluForm s.createdAt),
    ("expires_at", Rfc3339.zuluForm s.expiresAt), ("ip_address", s.ipAddress),
    ("refresh_expiry", Rfc3339.zuluForm s.refreshExpiry), ("refresh_token", s.refreshToken),
    ("session_id", s.sessionId), ("user_agent", s.userAgent), ("user_id", s.userId),
    ("username", s.username)]

theorem ascending_members (s : Session) : Members.Ascending s.members := by
  have hnames : (s.members.map Prod.fst).Pairwise (· < ·) :=
    show ["access_token", "created_at", "expires_at", "ip_address", "refresh_expiry",
      "refresh_token", "session_id", "user_agent", "user_id", "username"].Pairwise (· < ·) by decide
  exact List.pairwise_map.1 hnames

/-- The data that stands for a session holds these members. -/
theorem toJson_eq (s : Session) : s.toJson = Json.texts s.members := by
  simp only [toJson, Json.object, Members.ofList, Members.insert, timeJson, Json.texts, members,
    List.foldl_cons, List.foldl_nil, List.map_cons, List.map_nil, String.reduceLT,
    String.reduceEq, reduceIte]

/-- The session that is told when a session is stored: its texts, and the instants that the texts of
its times tell. -/
def told (s : Session) : Session :=
  { s with
    expiresAt := s.expiresAt.told
    refreshExpiry := s.refreshExpiry.told
    createdAt := s.createdAt.told }

/-- Just the sessions whose times are in place are told as they are. -/
theorem told_eq_self_iff (s : Session) :
    s.told = s ↔ s.expiresAt.InPlace ∧ s.refreshExpiry.InPlace ∧ s.createdAt.InPlace := by
  rw [← Instant.told_eq_self_iff, ← Instant.told_eq_self_iff, ← Instant.told_eq_self_iff]
  constructor
  · intro h
    exact ⟨congrArg expiresAt h, congrArg refreshExpiry h, congrArg createdAt h⟩
  · rintro ⟨hexpires, hrefresh, hcreated⟩
    rw [told, hexpires, hrefresh, hcreated]

/-- The members are put into the fields from which they were taken, a time as it is told. -/
theorem ofJson_texts (s : Session) : ofJson (Json.texts s.members) = .ok s.told := by
  have hput : form.putMembers (fun _ e => e) (s.members.map fun m => (m.1, .str m.2)) blank =
      .ok s.told := by
    simp [told, members, RecordForm.putMembers, RecordForm.putMember, form, Json.field, Json.asText,
      Json.asInstant, Rfc3339.parse_zuluForm, bind, Except.bind, pure, Except.pure, Except.mapError]
  rw [ofJson, Json.texts, Json.asRecord, hput]
  rfl

/-- In whatever order the members have been written, the text is read as what the session tells. -/
theorem parse?_map_ofJson (s : Session) {ms : List (String × String)} (hperm : ms.Perm s.members) :
    (Json.parse? (Json.texts ms).compact).map ofJson = some (.ok s.told) := by
  rw [Json.parse?_compact_texts hperm s.ascending_members, Option.map_some, s.ofJson_texts]

theorem parse?_toJson_map_ofJson (s : Session) :
    (Json.parse? s.toJson.compact).map ofJson = some (.ok s.told) := by
  rw [s.toJson_eq]
  exact s.parse?_map_ofJson (List.Perm.refl _)

/-- **A session survives being stored.**  The text of its data is read as data from which the session
comes as it is told, also if the members have been written in another order; this is the same session if
and only if none of its times is in a leap second after another second than the last of a minute.  Each of
the times stands in the text up to the second, with the fewest digits of a fraction that lose nothing,
and `Z`. -/
theorem ofJson_compact (s : Session) :
    (Json.parse? s.toJson.compact).map ofJson = some (.ok s.told) ∧
    (∀ ms, ms.Perm s.members →
      (Json.parse? (Json.texts ms).compact).map ofJson = some (.ok s.told)) ∧
    (s.told = s ↔ ∀ t ∈ [s.expiresAt, s.refreshExpiry, s.createdAt],
      t.nanos < 1000000000 ∨ t.seconds % 60 = 59) ∧
    ∀ x ∈ [("expires_at", s.expiresAt), ("refresh_expiry", s.refreshExpiry),
        ("created_at", s.createdAt)],
      ∃ text, s.toJson.get? x.1 = some (.str text) ∧ Rfc3339.IsZulu x.2 text := by
  refine ⟨s.parse?_toJson_map_ofJson, fun ms => s.parse?_map_ofJson, ?_, fun x hx => ?_⟩
  · rw [s.told_eq_self_iff]
    simp only [List.forall_mem_cons, List.not_mem_nil, false_imp_iff, implies_true, and_true,
      Instant.InPlace]
  · refine ⟨Rfc3339.zuluForm x.2, ?_, Rfc3339.isZulu_zuluForm x.2⟩
    rw [s.toJson_eq, Json.texts, Json.get?]
    simp only [List.mem_cons, List.not_mem_nil, or_false] at hx
    rcases hx with rfl | rfl | rfl <;> simp [members, Members.lookup]

/-- A session that is created in a leap second after the first second of 1970 is read as one that was
created in the second second. -/
theorem not_always_read_back :
    ¬ ∀ s : Session, (Json.parse? s.toJson.compact).map ofJson = some (.ok s) := by
  intro hall
  let s : Session := { blank with createdAt := ⟨0, 1333333333, by decide, by decide⟩ }
  have hsame : s.told = s := by
    have h := s.parse?_toJson_map_ofJson.symm.trans (hall s)
    exact Except.ok.inj (Option.some.inj h)
  exact absurd (s.told_eq_self_iff.1 hsame).2.2 (by decide)

end Session
end Switchboard
