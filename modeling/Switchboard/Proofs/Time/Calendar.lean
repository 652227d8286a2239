import Mathlib.Tactic.IntervalCases
import Switchboard.Time.Calendar
/-!
# Days and dates

A day can be taken apart by the mixed radices of the calendar: the 400-year cycle it lies in, then
century, quadrennium, year, month and day, years being counted from March on.  A `Reckoning` is a day
taken apart in this way.  It carries the bounds of its parts, and with them the one irregular fact of
the calendar: day 365 of a year, the leap day, comes only in the last year of a quadrennium, and at
the end of a century only if the century is the last of its cycle.

Every day has a reckoning whose date is the date of the day (`exists_of_days`), so what is to be shown
of `Date.ofDays` is shown of reckonings: that the number of the day can be read off its date again
(`toDays_date`), that the date exists (`exists?_date`), and which years there are (`year_date_mem`).
-/
namespace Switchboard

/-- A day, taken apart. -/
structure Reckoning where
  /-- The 400-year cycle, which begins in March of a year divisible by 400. -/
  cycle : Int
  century : Nat
  quadrennium : Nat
  year : Nat
  /-- The day of the year, the first of March being day zero. -/
  day : Nat
  /-- The month of the year, March being month zero. -/
  month : Nat
  century_le : century ≤ 3 := by omega
  quadrennium_le : quadrennium ≤ 24 := by omega
  year_le : year ≤ 3 := by omega
  month_le : month ≤ 11 := by omega
  day_le : day ≤ 365 := by omega
  /-- Only the last year of a quadrennium ends with a leap day; that of the last quadrennium of a
  century does so only in the last century. -/
  leapDay : day = 365 → year = 3 ∧ (quadrennium = 24 → century = 3) := by omega
  daysBefore_le : Date.daysBefore month ≤ day
  lt_daysBefore : day < Date.daysBefore (month + 1)

namespace Reckoning

/-- The number of the day. -/
def days (r : Reckoning) : Int :=
  146097 * r.cycle + (36524 * r.century + 1461 * r.quadrennium + 365 * r.year + r.day : Nat) - 719468

/-- The year that starts in March. -/
def marchYear (r : Reckoning) : Int :=
  400 * r.cycle + (100 * r.century + 4 * r.quadrennium + r.year : Nat)

/-- The date of the day. -/
def date (r : Reckoning) : Date :=
  let month := if r.month < 10 then r.month + 3 else r.month - 9
  ⟨if month ≤ 2 then r.marchYear + 1 else r.marchYear, month, r.day - Date.daysBefore r.month + 1⟩

/-- Every day has a reckoning, and its date is that of the day. -/
theorem exists_of_days (days : Int) :
    ∃ r : Reckoning, r.days = days ∧ r.date = Date.ofDays days := by
  let n := ((days + 719468) % 146097).toNat
  let c := min (n / 36524) 3
  let q := min ((n - 36524 * c) / 1461) 24
  let y := min ((n - 36524 * c - 1461 * q) / 365) 3
  let d := n - 36524 * c - 1461 * q - 365 * y
  let m := (5 * d + 2) / 153
  have hn : n < 146097 := by omega
  have hd : d ≤ 365 := by omega
  have hm : m ≤ 11 ∧ Date.daysBefore m ≤ d ∧ d < Date.daysBefore (m + 1) := by
    unfold Date.daysBefore
    omega
  refine ⟨⟨(days + 719468) / 146097, c, q, y, d, m, by omega, by omega, by omega, hm.1, hd, by omega,
    hm.2.1, hm.2.2⟩, ?_, rfl⟩
  simp only [Reckoning.days]
  omega

/-- January and February are the last months of a year that starts in March, and belong to the next
year. -/
theorem month_date (r : Reckoning) :
    r.month < 10 ∧ r.date.month = r.month + 3 ∧ r.date.year = r.marchYear ∨
      10 ≤ r.month ∧ r.date.month = r.month - 9 ∧ r.date.year = r.marchYear + 1 := by
  have hm := r.month_le
  by_cases h : r.month < 10
  · refine .inl ⟨h, if_pos h, ?_⟩
    simp only [date, if_pos h]
    exact if_neg (by omega)
  · refine .inr ⟨by omega, if_neg h, ?_⟩
    simp only [date, if_neg h]
    exact if_pos (by omega)

/-- The number of the day can be read off the date. -/
theorem toDays_date (r : Reckoning) : r.date.toDays = r.days := by
  have hc := r.century_le
  have hq := r.quadrennium_le
  have hy := r.year_le
  have hm := r.month_le
  have hday := r.daysBefore_le
  have hdate : r.date.day = r.day - Date.daysBefore r.month + 1 := rfl
  have hmarch : r.marchYear = 400 * r.cycle + (100 * r.century + 4 * r.quadrennium + r.year : Nat) :=
    rfl
  have hyear : (if r.date.month ≤ 2 then r.date.year - 1 else r.date.year) = r.marchYear := by
    rcases r.month_date with ⟨hlt, hmonth, hyear⟩ | ⟨hle, hmonth, hyear⟩
    · rw [if_neg (by omega), hyear]
    · rw [if_pos (by omega), hyear]
      omega
  have hmonth : (r.date.month + 9) % 12 = r.month := by
    rcases r.month_date with ⟨hlt, hmonth, -⟩ | ⟨hle, hmonth, -⟩ <;> omega
  simp only [Date.toDays, hyear, hmonth, hdate, days]
  omega

/-- All months but February are as long as the way from one to the next in a year from March on. -/
theorem daysInMonth_of_march (year : Int) {m : Nat} (h : m < 11) :
    Date.daysInMonth year (if m < 10 then m + 3 else m - 9) =
      Date.daysBefore (m + 1) - Date.daysBefore m := by
  interval_cases m <;> rfl

/-- No month is longer than the calendar says. -/
theorem exists?_date (r : Reckoning) : r.date.exists? = true := by
  have hle := r.daysBefore_le
  have hlt := r.lt_daysBefore
  have hmonth := r.month_le
  have hday : r.date.day = r.day - Date.daysBefore r.month + 1 := rfl
  rw [Date.exists?, Bool.and_eq_true, decide_eq_true_eq, decide_eq_true_eq]
  refine ⟨by omega, ?_⟩
  by_cases hlast : r.month = 11
  · -- The last month is February, and it has a leap day only in a leap year.
    have hfebruary : r.date.month = 2 ∧ r.date.year = r.marchYear + 1 := by
      rcases r.month_date with ⟨hlt, hmonth, hyear⟩ | ⟨hle, hmonth, hyear⟩ <;> omega
    have hdays : r.date.day ≤ 29 ∧ (r.date.day = 29 → r.day = 365) := by
      have := r.day_le
      rw [hlast] at hday hlt
      unfold Date.daysBefore at hday hlt
      omega
    have hleap : r.day = 365 → Date.isLeapYear r.date.year = true := by
      intro hd
      have hc := r.century_le
      have hq := r.quadrennium_le
      obtain ⟨hy, hcentury⟩ := r.leapDay hd
      have hmarch : r.marchYear = 400 * r.cycle + (100 * r.century + 4 * r.quadrennium + r.year : Nat) :=
        rfl
      rw [hfebruary.2, hmarch, Date.isLeapYear]
      simp only [Bool.and_eq_true, Bool.or_eq_true, beq_iff_eq, bne_iff_ne]
      omega
    rw [hfebruary.1]
    show r.date.day ≤ if Date.isLeapYear r.date.year = true then 29 else 28
    split
    · exact hdays.1
    · rename_i hnot
      have : r.day ≠ 365 := fun hd => hnot (hleap hd)
      omega
  · have hlength : Date.daysInMonth r.date.year r.date.month =
        Date.daysBefore (r.month + 1) - Date.daysBefore r.month :=
      daysInMonth_of_march r.date.year (by omega)
    omega

/-- The years of the days on which there are instants. -/
theorem year_date_mem (r : Reckoning) (hlow : -96465292 ≤ r.days) (hhigh : r.days ≤ 95026236) :
    Date.minYear ≤ r.date.year ∧ r.date.year ≤ Date.maxYear := by
  have hc := r.century_le
  have hq := r.quadrennium_le
  have hy := r.year_le
  have hd := r.day_le
  -- The first months of a year from January on are the last months of one from March on.
  have hmonth : r.date.year = r.marchYear ∧ r.day ≤ 305 ∨
      r.date.year = r.marchYear + 1 ∧ 306 ≤ r.day := by
    have hle := r.daysBefore_le
    have hlt := r.lt_daysBefore
    unfold Date.daysBefore at hle hlt
    rcases r.month_date with ⟨hm, -, hyear⟩ | ⟨hm, -, hyear⟩ <;> omega
  -- The days of a cycle before a year depend on the year alone.
  obtain ⟨k, hk⟩ : ∃ k, k = 100 * r.century + 4 * r.quadrennium + r.year := ⟨_, rfl⟩
  have hbefore : 36524 * r.century + 1461 * r.quadrennium + 365 * r.year =
      365 * k + k / 4 - k / 100 := by omega
  have hmarch : r.marchYear = 400 * r.cycle + k := by rw [hk]; rfl
  have hdays : r.days = 146097 * r.cycle + (365 * k + k / 4 - k / 100 + r.day : Nat) - 719468 := by
    rw [← hbefore]
    rfl
  have hk400 : k < 400 := by omega
  have hcycle : -656 ≤ r.cycle ∧ r.cycle ≤ 655 := by omega
  unfold Date.minYear Date.maxYear
  clear hbefore hk hc hq hy
  omega

end Reckoning
end Switchboard
