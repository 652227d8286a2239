import Switchboard.Proofs.Json.RoundTrip
import Switchboard.Proofs.Time.RoundTrip
import Switchboard.Scenario.Turn

/-!
# What clients can tell from a message

A client gets two texts, the name of an event and data.  Nothing else comes with them, neither the event
nor its kind, so whatever a client knows of an event it has read from the data.  `Relay.message_read` says
what it reads: when the event happened, to the nanosecond, and, if and only if the event is about a
session, which session that is and whose.  The name is not what decides about this: an event of another
kind may go by the name of a session event.

A time is read as it is told.  This is the time of the event unless the event happened in a leap second
after another second than the last of a minute, and no text tells of such a second
(`Relay.not_always_exact`).
-/

namespace Switchboard

/-- An event is about a session that has been opened or closed. -/
inductive Event.IsAbout (s : Session) : Event → Prop
  | opened : IsAbout s (.sessionCreated s)
  | closed (time : Instant) : IsAbout s (.sessionDeleted s time)

theorem Event.session?_eq_some_iff {e : Event} {s : Session} : e.session? = some s ↔ e.IsAbout s := by
  constructor
  · intro h
    cases e with
    | sessionCreated t =>
      obtain rfl : t = s := Option.some.inj h
      exact .opened
    | sessionDeleted t time =>
      obtain rfl : t = s := Option.some.inj h
      exact .closed time
    | _ => cases h
  · rintro (_ | _) <;> rfl

namespace Relay

/-- The members of the data about an event, in ascending order of their names. -/
def members (e : Event) : List (String × String) :=
  ("occurred_at", e.timeText) ::
    match e.session? with
    | some s => [("session_id", s.sessionId), ("user_id", s.userId)]
    | none => []

theorem ascending_members (e : Event) : Members.Ascending (members e) := by
  rw [members]
  cases e.session? with
  | none => exact List.pairwise_singleton ..
  | some s =>
    have hnames : ([("occurred_at", e.timeText), ("session_id", s.sessionId),
        ("user_id", s.userId)].map Prod.fst).Pairwise (· < ·) :=
      show ["occurred_at", "session_id", "user_id"].Pairwise (· < ·) by decide
    exact List.pairwise_map.1 hnames

/-- The data about an event holds these members. -/
theorem data_eq (e : Event) : data e = Json.texts (members e) := by
  have hobject : data e = .object ((members e).map fun m => (m.1, .str m.2)) := by
    rw [data, members]
    cases e.session? <;> rfl
  have hsorted : Members.Ascending ((members e).map fun m => (m.1, Json.str m.2)) :=
    List.pairwise_map.2 (ascending_members e)
  rw [hobject, Json.object, Members.ofList_eq_of_perm (List.Perm.refl _) hsorted, Json.texts]

/-- The data of a message is read back. -/
theorem parse?_message (e : Event) : Json.parse? (message e).data = some (Json.texts (members e)) := by
  rw [message, data_eq]
  exact Json.parse?_compact_texts (List.Perm.refl _) (ascending_members e)

/-! ## What is read -/

/-- The members that are read. -/
def readMembers (e : Event) : List (String × Json) :=
  (members e).map fun m => (m.1, .str m.2)

theorem lookup_time (e : Event) :
    Members.lookup "occurred_at" (readMembers e) = some (.str e.timeText) :=
  if_pos rfl

theorem lookup_sessionId (e : Event) :
    Members.lookup "session_id" (readMembers e) = e.session?.map fun s => .str s.sessionId := by
  rw [readMembers, members]
  cases e.session? <;> simp [Members.lookup]

theorem lookup_userId (e : Event) :
    Members.lookup "user_id" (readMembers e) = e.session?.map fun s => .str s.userId := by
  rw [readMembers, members]
  cases e.session? <;> simp [Members.lookup]

/-- What is read under a name that only session events have. -/
theorem map_session?_eq_some_iff {e : Event} {v : Json} {text : Session → String} :
    (e.session?.map fun s => Json.str (text s)) = some v ↔ ∃ s, e.IsAbout s ∧ v = .str (text s) := by
  rw [Option.map_eq_some_iff]
  exact exists_congr fun s => and_congr e.session?_eq_some_iff eq_comm

/-- The names that are read are these, or the first of them alone. -/
theorem initial_names (e : Event) :
    (readMembers e).map Prod.fst <+: ["occurred_at", "session_id", "user_id"] := by
  rw [readMembers, members]
  cases e.session? with
  | none => exact ⟨["session_id", "user_id"], rfl⟩
  | some s => exact ⟨[], rfl⟩

/-- **A message tells what its event was.**  It carries the name of the event, and its data is read as an
object in which no name occurs twice.  The time in it is read as the time of the event is told, whatever its
year, its fraction and its second, and this is the very instant at which the event happened if and only if
it happened in no leap second after another second than the last of a minute.  There is the id of a session
and that of a user if and only if the event is about a session, and then they are those of that session,
whatever characters they hold; and there is nothing else.

A relay that finds a centre in the hub sends this message to the clients of the centre. -/
theorem message_read (e : Event) :
    (message e).event = e.name ∧
    (∃ ms, Json.parse? (message e).data = some (.obj ms) ∧ (ms.map Prod.fst).Nodup ∧
      (∃ text, Members.lookup "occurred_at" ms = some (.str text) ∧
        Rfc3339.parse text = .ok e.occurredAt.told ∧
        (Rfc3339.parse text = .ok e.occurredAt ↔
          e.occurredAt.nanos < 1000000000 ∨ e.occurredAt.seconds % 60 = 59)) ∧
      (∀ v, Members.lookup "session_id" ms = some v ↔ ∃ s, e.IsAbout s ∧ v = .str s.sessionId) ∧
      (∀ v, Members.lookup "user_id" ms = some v ↔ ∃ s, e.IsAbout s ∧ v = .str s.userId) ∧
      ∀ m ∈ ms, m.1 ∈ ["occurred_at", "session_id", "user_id"]) ∧
    ∀ (w : Scenario.World) (job : Nat) (h : Scenario.Handling) (below : List Scenario.Frame) (i : Nat)
      (c : Center), h.handler = .relay → h.event = e → w.app.hub.need .serverEvents = .ok i →
      w.app.centers[i]? = some c →
      w.begin job h below =
        w.setFrames job
          (.sending (.start job c (message e)) :: .handling { h with begun := true } :: below) := by
  have hparse : Rfc3339.parse e.timeText = .ok e.occurredAt.told :=
    Rfc3339.parse_offsetForm e.occurredAt
  refine ⟨rfl, ⟨readMembers e, parse?_message e, ?_, ⟨e.timeText, lookup_time e, hparse, ?_⟩, fun v => ?_,
    fun v => ?_, fun m hm => (initial_names e).subset (List.mem_map_of_mem hm)⟩, ?_⟩
  · exact (initial_names e).sublist.nodup (by decide)
  · rw [hparse, Except.ok.injEq]
    exact e.occurredAt.told_eq_self_iff
  · rw [lookup_sessionId, map_session?_eq_some_iff]
  · rw [lookup_userId, map_session?_eq_some_iff]
  · rintro w job h below i c hrelay rfl hneed hcenter
    simp only [Scenario.World.begin, hrelay, Scenario.World.broadcastInside, hneed, bind, Except.bind,
      hcenter]

/-- The time of an event in a leap second after the first second of 1970 is read as another. -/
theorem not_always_exact :
    ¬ ∀ e : Event, ∃ ms text, Json.parse? (message e).data = some (.obj ms) ∧
      Members.lookup "occurred_at" ms = some (.str text) ∧
      Rfc3339.parse text = .ok e.occurredAt := by
  intro hall
  let e : Event := .plain "tick" ⟨0, 1333333333, by decide, by decide⟩ "" 0
  obtain ⟨ms, text, hdata, hlookup, hparse⟩ := hall e
  obtain rfl : readMembers e = ms := by
    have h := (parse?_message e).symm.trans hdata
    exact Json.obj.inj (Option.some.inj h)
  obtain rfl : e.timeText = text := by
    have h := (lookup_time e).symm.trans hlookup
    exact Json.str.inj (Option.some.inj h)
  have hsame : e.occurredAt.told = e.occurredAt := by
    have h := (Rfc3339.parse_offsetForm e.occurredAt).symm.trans hparse
    exact Except.ok.inj h
  exact absurd (e.occurredAt.told_eq_self_iff.1 hsame) (by decide)

/-- An event that only goes by the name of a session event tells of no session. -/
example : (readMembers (.plain Event.createdName .epoch "" 0)).map Prod.fst = ["occurred_at"] := rfl

end Relay
end Switchboard
