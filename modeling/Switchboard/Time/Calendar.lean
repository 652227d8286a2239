/-!
# The calendar

Days are numbered from the first of January 1970, and a date is a year, a month and a day of the
proleptic Gregorian calendar.  Both directions count years from the first of March, so that a leap
day is the last day of its year, and take apart the 400-year cycle of 146097 days by mixed radices:
centuries of 36524 days, quadrennia of 1461, years of 365.  Only the last century, quadrennium and
year of the one above it may be a day longer, and `min` keeps that day in it.
-/

namespace Switchboard

/-- A date of the proleptic Gregorian calendar. -/
structure Date where
  year : Int
  month : Nat
  day : Nat
  deriving DecidableEq

namespace Date

/-- Whether a year has a leap day. -/
def isLeapYear (year : Int) : Bool :=
  year % 4 == 0 && (year % 100 != 0 || year % 400 == 0)

/-- The number of days of a month; a number that names no month has none. -/
def daysInMonth (year : Int) (month : Nat) : Nat :=
  match month with
  | 1 | 3 | 5 | 7 | 8 | 10 | 12 => 31
  | 4 | 6 | 9 | 11 => 30
  | 2 => if isLeapYear year then 29 else 28
  | _ => 0

/-- Whether the date exists. -/
def exists? (d : Date) : Bool :=
  1 ≤ d.day && d.day ≤ daysInMonth d.year d.month

/-- The number of days in a year that starts in March, before the `m`-th month of it. -/
def daysBefore (m : Nat) : Nat :=
  (153 * m + 2) / 5

/-- The number of days from the first of January 1970 to a date. -/
def toDays (d : Date) : Int :=
  let year := if d.month ≤ 2 then d.year - 1 else d.year
  let cycle := year / 400
  let yearOfCycle := year % 400
  let dayOfYear : Int := daysBefore ((d.month + 9) % 12) + d.day - 1
  let dayOfCycle := 365 * yearOfCycle + yearOfCycle / 4 - yearOfCycle / 100 + dayOfYear
  146097 * cycle + dayOfCycle - 719468

/-- The date that many days after the first of January 1970. -/
def ofDays (days : Int) : Date :=
  let shifted := days + 719468
  let cycle := shifted / 146097
  let dayOfCycle := (shifted % 146097).toNat
  let century := min (dayOfCycle / 36524) 3
  let inCentury := dayOfCycle - 36524 * century
  let quadrennium := min (inCentury / 1461) 24
  let inQuadrennium := inCentury - 1461 * quadrennium
  let year := min (inQuadrennium / 365) 3
  let dayOfYear := inQuadrennium - 365 * year
  let marchYear : Int := 400 * cycle + (100 * century + 4 * quadrennium + year : Nat)
  let m := (5 * dayOfYear + 2) / 153
  let month := if m < 10 then m + 3 else m - 9
  ⟨if month ≤ 2 then marchYear + 1 else marchYear, month, dayOfYear - daysBefore m + 1⟩

/-- The first and the last year of the range of instants. -/
def minYear : Int := -262143

@[inherit_doc minYear]
def maxYear : Int := 262142

end Date
end Switchboard
