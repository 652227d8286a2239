import Switchboard.Time.Instant
import Switchboard.Text.Blank

/-!
# Dates and times as text

The text of an instant is that of RFC 3339: date, `T`, time of day, and a mark for the offset from
universal time.  Instants are always written at offset zero, as `+00:00` where a message is meant
for reading and as `Z` where a value is stored.  The fraction has the fewest digits out of none,
three, six and nine that lose nothing, and a year outside the four digits carries a sign.  A leap
second is written as one second more than the second it follows, which is second 60 at the end of a
minute; elsewhere it looks like an ordinary second.

The reader is more generous than the writer.  It takes any offset, blanks between the parts, a
blank or a lower case `t` for the `T`, and fractions of any length, of which it keeps nine digits.
What it refuses, it refuses for one of four reasons, the first that reading from the left meets.
-/

namespace Switchboard
namespace Rfc3339

/-! ## Writing -/

/-- The last digits of a number, `width` of them. -/
def padded (width n : Nat) : List Char :=
  match width with
  | 0 => []
  | w + 1 => padded w (n / 10) ++ [Char.ofNat ('0'.toNat + n % 10)]

/-- A number with at least four digits. -/
def atLeastFour (n : Nat) : List Char :=
  if n < 10000 then padded 4 n else Nat.toDigits 10 n

/-- A year: four digits, or a sign and at least four. -/
def yearText (y : Int) : List Char :=
  if 0 ≤ y ∧ y ≤ 9999 then padded 4 y.toNat
  else (if y < 0 then '-' else '+') :: atLeastFour y.natAbs

/-- The fraction of a second, with its point. -/
def fractionText (nanos : Nat) : List Char :=
  if nanos = 0 then []
  else if nanos % 1000000 = 0 then '.' :: padded 3 (nanos / 1000000)
  else if nanos % 1000 = 0 then '.' :: padded 6 (nanos / 1000)
  else '.' :: padded 9 nanos

/-- An instant with the mark `zone` for its offset of zero. -/
def text (zone : List Char) (t : Instant) : List Char :=
  let d := t.date
  let s := t.secondOfDay
  let leap := t.nanos / 1000000000
  yearText d.year ++ '-' :: padded 2 d.month ++ '-' :: padded 2 d.day ++
    'T' :: padded 2 (s / 3600) ++ ':' :: padded 2 (s / 60 % 60) ++
    ':' :: padded 2 (s % 60 + leap) ++ fractionText (t.nanos % 1000000000) ++ zone

/-- The form for messages, with the offset in full. -/
def offsetForm (t : Instant) : String :=
  String.ofList (text ['+', '0', '0', ':', '0', '0'] t)

/-- The form for stored values, with `Z` for the offset. -/
def zuluForm (t : Instant) : String :=
  String.ofList (text ['Z'] t)

/-! ## Reading -/

/-- Why a text is no time. -/
inductive Fault where
  /-- A number is too large for its place, or the date or the instant does not exist. -/
  | outOfRange
  /-- A character does not fit. -/
  | invalid
  /-- The text ends too early. -/
  | tooShort
  /-- Something follows the time. -/
  | trailing
  deriving DecidableEq

/-- The wording of a fault. -/
def Fault.message : Fault → String
  | outOfRange => "input is out of range"
  | invalid => "input contains invalid characters"
  | tooShort => "premature end of input"
  | trailing => "trailing input"

/-- The value of a row of digits. -/
def digitsValue (ds : List Char) : Nat :=
  ds.foldl (fun n c => 10 * n + (c.toNat - '0'.toNat)) 0

/-- Read one digit or more, at most `most` of them. -/
def readDigits (most : Nat) (s : List Char) : Except Fault (List Char × List Char) :=
  match s with
  | [] => .error .tooShort
  | c :: _ =>
    if c.isDigit then
      let digits := (s.take most).takeWhile Char.isDigit
      .ok (digits, s.drop digits.length)
    else .error .invalid

/-- Read a number of at most `most` digits, which has to lie in a range; blanks may precede it. -/
def readNumber (most low high : Nat) (s : List Char) : Except Fault (Nat × List Char) := do
  let r ← readDigits most (Text.trimStart s)
  let n := digitsValue r.1
  if low ≤ n ∧ n ≤ high then .ok (n, r.2) else .error .outOfRange

/-- Read a year: up to four digits, or a sign and any number of them. -/
def readYear (s : List Char) : Except Fault (Int × List Char) := do
  let (negative, signed, rest) := match Text.trimStart s with
    | '-' :: rest => (true, true, rest)
    | '+' :: rest => (false, true, rest)
    | rest => (false, false, rest)
  let r ← readDigits (if signed then rest.length else 4) rest
  let n : Int := digitsValue r.1
  let y := if negative then -n else n
  if -2147483648 ≤ y ∧ y ≤ 2147483647 then .ok (y, r.2) else .error .outOfRange

/-- Read a mark between two numbers; blanks may precede it. -/
def readMark (mark : Char) (s : List Char) : Except Fault (List Char) :=
  match Text.trimStart s with
  | [] => .error .tooShort
  | c :: rest => if c = mark then .ok rest else .error .invalid

/-- Read the letter or blank between date and time. -/
def readSeparator (s : List Char) : Except Fault (List Char) :=
  match s with
  | [] => .error .tooShort
  | c :: rest => if c = 'T' ∨ c = 't' ∨ c = ' ' then .ok rest else .error .invalid

/-- Read the fraction of a second in nanoseconds; there may be none. -/
def readFraction (s : List Char) : Except Fault (Nat × List Char) :=
  match s with
  | '.' :: rest => do
    let r ← readDigits 9 rest
    .ok (digitsValue r.1 * Nat.pow 10 (9 - r.1.length), r.2.dropWhile Char.isDigit)
  | _ => .ok (0, s)

/-- Two digits, as they are; a lone ASCII character in their place ends the text too early. -/
def readPair (s : List Char) : Except Fault (Nat × Nat × List Char) :=
  match s with
  | [] => .error .tooShort
  | [c] => .error (if c.toNat < 128 then .tooShort else .invalid)
  | a :: b :: rest =>
    if a.isDigit ∧ b.isDigit then .ok (a.toNat - '0'.toNat, b.toNat - '0'.toNat, rest)
    else .error .invalid

/-- The sign of an offset; a true minus sign is accepted as well as a hyphen. -/
def readSign (s : List Char) : Except Fault (Bool × List Char) :=
  match s with
  | [] => .error .tooShort
  | c :: rest =>
    if c = '+' then .ok (false, rest)
    else if c = '-' ∨ c = '\u2212' then .ok (true, rest)
    else .error .invalid

/-- Read the offset from universal time, in seconds. -/
def readOffset (s : List Char) : Except Fault (Int × List Char) :=
  match s with
  | 'Z' :: rest | 'z' :: rest => .ok (0, rest)
  | a :: b :: c :: rest =>
    if [a, b, c].map Char.toUpper = ['U', 'T', 'C'] then .ok (0, rest) else signed s
  | _ => signed s
where
  /-- Hours and minutes after a sign, a colon or blanks between them being optional. -/
  signed (s : List Char) : Except Fault (Int × List Char) := do
    let (negative, s) ← readSign s
    let (h, h', s) ← readPair s
    let s := s.dropWhile fun c => c = ':' || Text.isBlank c
    let (m, m', s) ← readPair s
    if 6 ≤ m then .error .outOfRange
    else
      let n : Int := (10 * h + h') * 3600 + (10 * m + m') * 60
      .ok (if negative then -n else n, s)

/-- The instant with this date and time of day at an offset.  Second 60 is a leap second. -/
def instantAt (d : Date) (hour minute second nanos : Nat) (offset : Int) : Except Fault Instant :=
  if d.exists? ∧ Date.minYear ≤ d.year ∧ d.year ≤ Date.maxYear ∧
      -86400 < offset ∧ offset < 86400 then
    let leap := second / 60
    let seconds := d.toDays * 86400 + hour * 3600 + minute * 60 + (second - leap : Nat) - offset
    match Instant.make? seconds (nanos + 1000000000 * leap) with
    | some t => .ok t
    | none => .error .outOfRange
  else .error .outOfRange

/-- Read an instant that makes up the whole text, blanks at its end aside. -/
def read (s : List Char) : Except Fault Instant := do
  let (year, s) ← readYear s
  let s ← readMark '-' s
  let (month, s) ← readNumber 2 1 12 s
  let s ← readMark '-' s
  let (day, s) ← readNumber 2 1 31 s
  let s ← readSeparator s
  let (hour, s) ← readNumber 2 0 23 s
  let s ← readMark ':' s
  let (minute, s) ← readNumber 2 0 59 s
  let s ← readMark ':' s
  let (second, s) ← readNumber 2 0 60 s
  let (nanos, s) ← readFraction s
  let (offset, s) ← readOffset (Text.trimStart s)
  if Text.trimStart s = [] then instantAt ⟨year, month, day⟩ hour minute second nanos offset
  else .error .trailing

/-- Read a text as an instant. -/
def parse (s : String) : Except Fault Instant :=
  read s.toList

end Rfc3339
end Switchboard
