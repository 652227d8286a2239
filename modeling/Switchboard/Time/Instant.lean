import Switchboard.Time.Calendar

/-!
# Instants

An instant counts seconds from the start of 1970 and nanoseconds into the second, over a calendar
range of about 262 thousand years on either side.  A leap second is the second half of a doubled
one: it shares the count of the second before it, and its nanoseconds run on from 10⁹.  Instants are
ordered by seconds first, so a leap second comes before the second after it.

A leap second is in place at the end of a minute (`Instant.InPlace`), and only there does
`Instant.make?` make one.  But the nanoseconds of an instant can be replaced without its second being
looked at, so that there are instants with a leap second after any other second too.

`Instant.add?` moves an instant by whole seconds.  It leaves a leap second on the side it moves to,
and it fails where the sum lies outside the calendar range or the span itself is too long to be
held in milliseconds (`maxSpan`).
-/

namespace Switchboard

/-- A point in time: seconds since 1970 and nanoseconds, 10⁹ and more in a leap second. -/
structure Instant where
  seconds : Int
  nanos : Nat
  inRange : -8334601228800 ≤ seconds ∧ seconds ≤ 8210266876799
  fraction : nanos < 2000000000
  deriving DecidableEq

namespace Instant

/-- An instant that is in no leap second, or in one at the end of a minute. -/
def InPlace (t : Instant) : Prop :=
  t.nanos < 1000000000 ∨ t.seconds % 60 = 59

instance (t : Instant) : Decidable t.InPlace :=
  inferInstanceAs (Decidable (_ ∨ _))

/-- The instant with the given parts, if there is one and it is in place. -/
def make? (seconds : Int) (nanos : Nat) : Option Instant :=
  if h : (-8334601228800 ≤ seconds ∧ seconds ≤ 8210266876799) ∧ nanos < 2000000000 ∧
      (nanos < 1000000000 ∨ seconds % 60 = 59) then
    some ⟨seconds, nanos, h.1, h.2.1⟩
  else none

/-- The start of 1970. -/
def epoch : Instant := ⟨0, 0, by decide, by decide⟩

instance : Inhabited Instant := ⟨epoch⟩

/-- The order of time. -/
def before (s t : Instant) : Bool :=
  s.seconds < t.seconds || (s.seconds == t.seconds && s.nanos < t.nanos)

instance : LT Instant := ⟨fun s t => before s t = true⟩

instance (s t : Instant) : Decidable (s < t) :=
  inferInstanceAs (Decidable (before s t = true))

/-- The longest span of time, in seconds, in either direction. -/
def maxSpan : Int := 9223372036854775

/-- Whether a span of that many seconds exists. -/
def isSpan (seconds : Int) : Bool :=
  -maxSpan ≤ seconds && seconds ≤ maxSpan

/-- The instant a number of seconds later, or earlier if the number is negative. -/
def add? (t : Instant) (span : Int) : Option Instant :=
  if isSpan span then
    if 1000000000 ≤ t.nanos then
      if span = 0 then some t
      else if 0 < span then make? (t.seconds + span) (t.nanos - 1000000000)
      else make? (t.seconds + 1 + span) (t.nanos - 1000000000)
    else make? (t.seconds + span) t.nanos
  else none

/-- The date of an instant. -/
def date (t : Instant) : Date :=
  Date.ofDays (t.seconds / 86400)

/-- The second of the day, a leap second counting with the one before. -/
def secondOfDay (t : Instant) : Nat :=
  (t.seconds % 86400).toNat

theorem make?_self {t : Instant} (h : t.InPlace) : make? t.seconds t.nanos = some t := by
  rw [make?, dif_pos ⟨t.inRange, t.fraction, h⟩]

theorem lt_iff {s t : Instant} :
    s < t ↔ s.seconds < t.seconds ∨ s.seconds = t.seconds ∧ s.nanos < t.nanos := by
  show before s t = true ↔ _
  simp [before]

/-! ## The order of time as an order of whole numbers -/

/-- The place of an instant if every second is given room for a leap second. -/
def ticks (t : Instant) : Int :=
  t.seconds * 2000000000 + t.nanos

/-- The order of time is that of these places. -/
theorem lt_iff_ticks {s t : Instant} : s < t ↔ s.ticks < t.ticks := by
  have hs := s.fraction
  have ht := t.fraction
  rw [lt_iff, ticks, ticks]
  omega

/-- A leap second comes after all of the second before it, and before the second after it. -/
example :
    (⟨1483228799, 999999999, by decide, by decide⟩ : Instant) <
        ⟨1483228799, 1500000000, by decide, by decide⟩ ∧
      (⟨1483228799, 1500000000, by decide, by decide⟩ : Instant) <
        ⟨1483228800, 0, by decide, by decide⟩ := by
  decide

theorem not_lt_iff_ticks {s t : Instant} : ¬s < t ↔ t.ticks ≤ s.ticks := by
  rw [lt_iff_ticks, Int.not_lt]

end Instant
end Switchboard
