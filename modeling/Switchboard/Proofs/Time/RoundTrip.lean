import Mathlib.Data.List.TakeWhile
import Switchboard.Proofs.Time.Calendar
import Switchboard.Time.Rfc3339
/-!
# Times are read back

A text tells the second of an instant as a number up to 60, and only the last second of a minute is
followed by second 60.  A leap second after any other second is told like the ordinary second that
comes next, so that the two have one text.  `Instant.told` is the instant that the text of an instant
tells: the instant itself if it is in place (`told_eq_self_iff`), and in place in any case
(`inPlace_told`).

`parse_zuluForm` and `parse_offsetForm`: the text of an instant, in either form, is read as the instant
that it tells, whatever the year, with any fraction and in any leap second.

The text is a row of parts, and each part has one lemma that says how the reader takes it off the
front: `readYear_yearText`, `readNumber_padded`, `readFraction_fractionText`.  What all of them need is
that a row of digits is taken off whole (`readDigits_append`); it either has as many digits as may be,
or something follows that is no digit.  The parts make up an instant in place again because its date is
that of a day (`Reckoning`) and the second of the day is told in hours, minutes and seconds
(`instantAt_self`).  An instant out of place has the text of one in place (`text_told`).

`isZulu_zuluForm` says what the stored form looks like.
-/
namespace Switchboard

/-! ## The instant that is told -/

namespace Instant

/-- The instant that the text of an instant tells: a leap second out of place is told as the ordinary
second that comes next. -/
def told (t : Instant) : Instant :=
  if h : t.InPlace then t
  else
    ⟨t.seconds + 1, t.nanos - 1000000000,
      by
        -- The last second of the calendar is the last of a minute.
        have hrange := t.inRange
        unfold InPlace at h
        omega,
      by
        have hfraction := t.fraction
        omega⟩

theorem told_of_inPlace {t : Instant} (h : t.InPlace) : t.told = t :=
  dif_pos h

/-- What is told of a leap second out of place. -/
theorem told_of_not_inPlace {t : Instant} (h : ¬t.InPlace) :
    t.told.seconds = t.seconds + 1 ∧ t.told.nanos = t.nanos - 1000000000 := by
  rw [told, dif_neg h]
  exact ⟨rfl, rfl⟩

theorem inPlace_told (t : Instant) : t.told.InPlace := by
  by_cases h : t.InPlace
  · rw [told_of_inPlace h]
    exact h
  · left
    rw [(told_of_not_inPlace h).2]
    have hfraction := t.fraction
    omega

/-- Just the instants in place are told as they are. -/
theorem told_eq_self_iff (t : Instant) : t.told = t ↔ t.InPlace :=
  ⟨fun h => h ▸ t.inPlace_told, told_of_inPlace⟩

/-- A leap second after another second than the last of a minute. -/
example : told ⟨0, 1333333333, by decide, by decide⟩ = ⟨1, 333333333, by decide, by decide⟩ := by
  decide

end Instant

namespace Rfc3339

/-! ## Rows of digits -/

@[simp] theorem length_padded (width n : Nat) : (padded width n).length = width := by
  induction width generalizing n with
  | zero => rfl
  | succ w ih => rw [padded, List.length_append, ih]; rfl

/-- The character of a digit. -/
theorem toNat_digit {k : Nat} (h : k < 10) : (Char.ofNat ('0'.toNat + k)).toNat = '0'.toNat + k := by
  have hall : ∀ k < 10, (Char.ofNat ('0'.toNat + k)).toNat = '0'.toNat + k := by decide
  exact hall k h

theorem isDigit_of_mem_padded {width n : Nat} {c : Char} (h : c ∈ padded width n) :
    c.isDigit = true := by
  induction width generalizing n with
  | zero => exact absurd h List.not_mem_nil
  | succ w ih =>
    rw [padded, List.mem_append, List.mem_singleton] at h
    rcases h with h | rfl
    · exact ih h
    · rw [Char.isDigit_iff_toNat, toNat_digit (Nat.mod_lt _ (by decide))]
      show 48 ≤ 48 + n % 10 ∧ 48 + n % 10 ≤ 57
      omega

/-- A row of digits is read as the number of which it is the end. -/
theorem digitsValue_padded (width n : Nat) : digitsValue (padded width n) = n % 10 ^ width := by
  induction width generalizing n with
  | zero => rw [Nat.pow_zero, Nat.mod_one]; rfl
  | succ w ih =>
    have hlast : digitsValue (padded w (n / 10) ++ [Char.ofNat ('0'.toNat + n % 10)]) =
        10 * digitsValue (padded w (n / 10)) + n % 10 := by
      rw [digitsValue, List.foldl_append, List.foldl_cons, List.foldl_nil,
        toNat_digit (Nat.mod_lt _ (by decide)), Nat.add_sub_cancel_left]
      rfl
    rw [padded, hlast, ih, Nat.pow_succ, Nat.mul_comm (10 ^ w), Nat.mod_mul]
    omega

/-- A row of digits is taken off whole: it is as long as may be, or what follows is no digit. -/
theorem readDigits_append (most : Nat) {ds : List Char} (rest : List Char) (hne : ds ≠ [])
    (hds : ∀ c ∈ ds, c.isDigit = true) (hle : ds.length ≤ most)
    (hstop : ds.length = most ∨ ∀ c ∈ rest.head?, c.isDigit = false) :
    readDigits most (ds ++ rest) = .ok (ds, rest) := by
  have htake : ((ds ++ rest).take most).takeWhile Char.isDigit = ds := by
    rcases hstop with rfl | hstop
    · rw [List.take_left, List.takeWhile_eq_self_iff.2 hds]
    · rw [List.take_append, List.take_of_length_le hle, List.takeWhile_append_of_pos hds]
      cases rest with
      | nil => simp
      | cons c rest =>
        have hc := hstop c rfl
        cases most - ds.length with
        | zero => simp
        | succ k => simp [hc]
  cases ds with
  | nil => exact absurd rfl hne
  | cons d ds =>
    rw [List.cons_append] at htake ⊢
    rw [readDigits, if_pos (hds d List.mem_cons_self), htake]
    exact congrArg (fun r => Except.ok (d :: ds, r)) List.drop_left

theorem trimStart_digits {ds : List Char} (hds : ∀ c ∈ ds, c.isDigit = true) (hne : ds ≠ [])
    (rest : List Char) : Text.trimStart (ds ++ rest) = ds ++ rest := by
  cases ds with
  | nil => exact absurd rfl hne
  | cons d ds => exact Text.trimStart_cons (Text.isBlank_of_isDigit (hds d List.mem_cons_self)) _

/-! ## The parts of a time -/

theorem readNumber_padded {low high n : Nat} (hlow : low ≤ n) (hhigh : n ≤ high) (hn : n < 100)
    (rest : List Char) : readNumber 2 low high (padded 2 n ++ rest) = .ok (n, rest) := by
  have hdigits : ∀ c ∈ padded 2 n, c.isDigit = true := fun c => isDigit_of_mem_padded
  have hne : padded 2 n ≠ [] := List.ne_nil_of_length_pos (by rw [length_padded]; decide)
  have hvalue : digitsValue (padded 2 n) = n := by
    exact (digitsValue_padded 2 n).trans (Nat.mod_eq_of_lt hn)
  have hread := readDigits_append 2 rest hne hdigits
    (by rw [length_padded]) (.inl (length_padded 2 n))
  rw [readNumber, trimStart_digits hdigits hne, hread]
  show (if low ≤ digitsValue (padded 2 n) ∧ digitsValue (padded 2 n) ≤ high then _ else _) = _
  rw [hvalue, if_pos ⟨hlow, hhigh⟩]

theorem readMark_cons {mark : Char} (h : Text.isBlank mark = false) (rest : List Char) :
    readMark mark (mark :: rest) = .ok rest := by
  rw [readMark, Text.trimStart_cons h]
  exact if_pos rfl

/-- The digits of a year, which are four at least. -/
theorem atLeastFour_digits (n : Nat) :
    (∀ c ∈ atLeastFour n, c.isDigit = true) ∧ atLeastFour n ≠ [] ∧
      digitsValue (atLeastFour n) = n := by
  rw [atLeastFour]
  split
  · rename_i hn
    refine ⟨fun c => isDigit_of_mem_padded, List.ne_nil_of_length_pos ?_, ?_⟩
    · rw [length_padded]
      decide
    · exact (digitsValue_padded 4 n).trans (Nat.mod_eq_of_lt hn)
  · exact ⟨fun c => Nat.isDigit_of_mem_toDigits (by decide) (by decide), Nat.toDigits_ne_nil,
      Nat.ofDigitChars_ten_toDigits⟩

/-- The year that a row of digits stands for. -/
def yearOf (negative : Bool) (r : List Char × List Char) : Except Fault (Int × List Char) :=
  let y : Int := if negative then -digitsValue r.1 else digitsValue r.1
  if -2147483648 ≤ y ∧ y ≤ 2147483647 then .ok (y, r.2) else .error .outOfRange

theorem yearOf_of_value {negative : Bool} {r : List Char × List Char} {y : Int}
    (h : (if negative then -(digitsValue r.1 : Int) else digitsValue r.1) = y) (hlow : -2147483648 ≤ y)
    (hhigh : y ≤ 2147483647) : yearOf negative r = .ok (y, r.2) := by
  rw [yearOf, h, if_pos ⟨hlow, hhigh⟩]

theorem readYear_minus (s : List Char) :
    readYear ('-' :: s) = (readDigits s.length s).bind (yearOf true) := rfl

theorem readYear_plus (s : List Char) :
    readYear ('+' :: s) = (readDigits s.length s).bind (yearOf false) := rfl

theorem readYear_digit {c : Char} (hc : c.isDigit = true) (s : List Char) :
    readYear (c :: s) = (readDigits 4 (c :: s)).bind (yearOf false) := by
  rw [readYear, Text.trimStart_cons (Text.isBlank_of_isDigit hc)]
  split
  rename_i negative signed rest hsign
  split at hsign
  · rename_i heq
    obtain rfl := (List.cons.inj heq).1
    exact absurd hc (by decide)
  · rename_i heq
    obtain rfl := (List.cons.inj heq).1
    exact absurd hc (by decide)
  · obtain ⟨rfl, rfl, rfl⟩ : false = negative ∧ false = signed ∧ c :: s = rest := by simpa using hsign
    rfl

/-- A year is read up to the mark behind it. -/
theorem readYear_yearText {y : Int} (hlow : -2147483648 ≤ y) (hhigh : y ≤ 2147483647)
    (rest : List Char) : readYear (yearText y ++ '-' :: rest) = .ok (y, '-' :: rest) := by
  rw [yearText]
  split
  · rename_i hy
    obtain ⟨d, ds, hd⟩ : ∃ d ds, padded 4 y.toNat = d :: ds := ⟨_, _, rfl⟩
    have hdigits : ∀ c ∈ d :: ds, c.isDigit = true := fun c hc => isDigit_of_mem_padded (hd ▸ hc)
    have hvalue : digitsValue (d :: ds) = y.toNat := by
      rw [← hd, digitsValue_padded, Nat.mod_eq_of_lt (by omega)]
    have hread := readDigits_append 4 ('-' :: rest) (List.cons_ne_nil d ds) hdigits
      (by rw [← hd, length_padded]) (.inl (by rw [← hd, length_padded]))
    rw [hd, List.cons_append, readYear_digit (hdigits d List.mem_cons_self), ← List.cons_append, hread]
    exact yearOf_of_value (by rw [hvalue]; exact Int.toNat_of_nonneg hy.1) hlow hhigh
  · obtain ⟨hdigits, hne, hvalue⟩ := atLeastFour_digits y.natAbs
    have hstop : ∀ c ∈ ('-' :: rest).head?, c.isDigit = false := by
      rintro c hc
      rw [List.head?_cons, Option.mem_some_iff] at hc
      exact hc ▸ rfl
    have hread := readDigits_append (atLeastFour y.natAbs ++ '-' :: rest).length ('-' :: rest) hne
      hdigits (by rw [List.length_append]; omega) (.inr hstop)
    by_cases hneg : y < 0
    · rw [if_pos hneg, List.cons_append, readYear_minus, hread]
      refine yearOf_of_value ?_ hlow hhigh
      rw [hvalue, if_pos rfl]
      omega
    · rw [if_neg hneg, List.cons_append, readYear_plus, hread]
      refine yearOf_of_value ?_ hlow hhigh
      rw [hvalue, if_neg Bool.false_ne_true]
      omega

/-- A fraction is read up to what follows, which begins neither with a digit nor with a point. -/
theorem readFraction_fractionText {nanos : Nat} (hn : nanos < 1000000000) {c : Char}
    (hdigit : c.isDigit = false) (hpoint : c ≠ '.') (rest : List Char) :
    readFraction (fractionText nanos ++ c :: rest) = .ok (nanos, c :: rest) := by
  have hstop : ∀ d ∈ (c :: rest).head?, d.isDigit = false := by
    rintro d hd
    rw [List.head?_cons, Option.mem_some_iff] at hd
    exact hd ▸ hdigit
  -- A point and some digits, which tell `n` units of the last of them.
  have hread : ∀ width n, 0 < width → width ≤ 9 → n < 10 ^ width → n * 10 ^ (9 - width) = nanos →
      readFraction ('.' :: padded width n ++ c :: rest) = .ok (nanos, c :: rest) := by
    intro width n hpos hle hlt hvalue
    have hdigits : ∀ d ∈ padded width n, d.isDigit = true := fun d => isDigit_of_mem_padded
    have hne : padded width n ≠ [] := List.ne_nil_of_length_pos (by rwa [length_padded])
    have hd := readDigits_append 9 (c :: rest) hne hdigits (by rwa [length_padded]) (.inr hstop)
    rw [List.cons_append, readFraction, hd]
    show Except.ok (digitsValue (padded width n) * Nat.pow 10 (9 - (padded width n).length),
      (c :: rest).dropWhile Char.isDigit) = _
    rw [digitsValue_padded, Nat.mod_eq_of_lt hlt, length_padded,
      List.dropWhile_cons_of_neg (by rw [hdigit]; exact Bool.false_ne_true)]
    exact congrArg (fun n => Except.ok (n, c :: rest)) hvalue
  rw [fractionText]
  split
  · rename_i hzero
    rw [List.nil_append, readFraction.eq_def]
    split
    · rename_i heq
      exact absurd (List.cons.inj heq).1 hpoint
    · rw [hzero]
  · split
    · exact hread 3 _ (by decide) (by decide) (by omega) (by omega)
    · split
      · exact hread 6 _ (by decide) (by decide) (by omega) (by omega)
      · exact hread 9 _ (by decide) (by decide) hn (by omega)

theorem readSeparator_T (rest : List Char) : readSeparator ('T' :: rest) = .ok rest := rfl

/-- The date of an instant lies in the calendar. -/
theorem date_reckoning (t : Instant) : ∃ r : Reckoning, r.date = t.date ∧ r.days = t.seconds / 86400 := by
  obtain ⟨r, hdays, hdate⟩ := Reckoning.exists_of_days (t.seconds / 86400)
  exact ⟨r, hdate, hdays⟩

/-- The date and the time of day of an instant in place are those of that instant. -/
theorem instantAt_self {t : Instant} (hplace : t.InPlace) :
    instantAt t.date (t.secondOfDay / 3600) (t.secondOfDay / 60 % 60)
      (t.secondOfDay % 60 + t.nanos / 1000000000) (t.nanos % 1000000000) 0 = .ok t := by
  obtain ⟨r, hdate, hdays⟩ := date_reckoning t
  have hrange := t.inRange
  have hexists : t.date.exists? = true := hdate ▸ r.exists?_date
  obtain ⟨hmin, hmax⟩ := r.year_date_mem (by omega) (by omega)
  rw [hdate] at hmin hmax
  have htoDays : t.date.toDays = t.seconds / 86400 := by
    rw [← hdate, r.toDays_date, hdays]
  have hsecond : t.secondOfDay = (t.seconds % 86400).toNat := rfl
  have hfraction := t.fraction
  -- A leap second is second 60, and no other second is.
  have hleap : (t.secondOfDay % 60 + t.nanos / 1000000000) / 60 = t.nanos / 1000000000 := by
    rcases hplace with hn | hlast <;> omega
  rw [instantAt, if_pos ⟨hexists, hmin, hmax, by decide, by decide⟩]
  simp only [hleap, htoDays]
  have hseconds : t.seconds / 86400 * 86400 + (t.secondOfDay / 3600 : Nat) * 3600 +
      (t.secondOfDay / 60 % 60 : Nat) * 60 +
      (t.secondOfDay % 60 + t.nanos / 1000000000 - t.nanos / 1000000000 : Nat) - 0 = t.seconds := by
    omega
  have hnanos : t.nanos % 1000000000 + 1000000000 * (t.nanos / 1000000000) = t.nanos :=
    Nat.mod_add_div ..
  rw [hseconds, hnanos, Instant.make?_self hplace]

/-- The text of an instant in place is read as that instant. -/
theorem read_text {t : Instant} (hplace : t.InPlace) {c : Char} {rest : List Char}
    (hdigit : c.isDigit = false) (hpoint : c ≠ '.') (hblank : Text.isBlank c = false)
    (hzone : readOffset (c :: rest) = .ok (0, [])) :
    Rfc3339.read (text (c :: rest) t) = .ok t := by
  obtain ⟨r, hdate, hdays⟩ := date_reckoning t
  have hrange := t.inRange
  obtain ⟨hmin, hmax⟩ := r.year_date_mem (by omega) (by omega)
  unfold Date.minYear at hmin
  unfold Date.maxYear at hmax
  have hmonth : 1 ≤ r.date.month ∧ r.date.month ≤ 12 := by
    have := r.month_le
    rcases r.month_date with ⟨h, hm, -⟩ | ⟨h, hm, -⟩ <;> omega
  have hday : 1 ≤ r.date.day ∧ r.date.day ≤ 31 := by
    have hle := r.daysBefore_le
    have hlt := r.lt_daysBefore
    have hd : r.date.day = r.day - Date.daysBefore r.month + 1 := rfl
    unfold Date.daysBefore at hle hlt hd
    omega
  have hsecond : t.secondOfDay = (t.seconds % 86400).toNat := rfl
  have hfraction := t.fraction
  have hleap : t.secondOfDay % 60 + t.nanos / 1000000000 ≤ 60 := by
    omega
  have hself := instantAt_self hplace
  rw [← hdate] at hself
  rw [text]
  simp only [← hdate, List.append_assoc, List.cons_append, Rfc3339.read, bind, Except.bind,
    readYear_yearText (show -2147483648 ≤ r.date.year by omega) (show r.date.year ≤ 2147483647 by omega),
    readMark_cons (show Text.isBlank '-' = false by decide),
    readMark_cons (show Text.isBlank ':' = false by decide), readSeparator_T,
    readNumber_padded hmonth.1 hmonth.2 (by omega), readNumber_padded hday.1 hday.2 (by omega),
    readNumber_padded (Nat.zero_le _) (show t.secondOfDay / 3600 ≤ 23 by omega) (by omega),
    readNumber_padded (Nat.zero_le _) (show t.secondOfDay / 60 % 60 ≤ 59 by omega) (by omega),
    readNumber_padded (Nat.zero_le _) hleap (by omega),
    readFraction_fractionText (Nat.mod_lt _ (by decide)) hdigit hpoint, Text.trimStart_cons hblank,
    hzone]
  rw [if_pos Text.trimStart_nil]
  exact hself

/-- An instant and the instant that its text tells have one text. -/
theorem text_told (zone : List Char) (t : Instant) : text zone t.told = text zone t := by
  by_cases hplace : t.InPlace
  · rw [Instant.told_of_inPlace hplace]
  · obtain ⟨hseconds, hnanos⟩ := Instant.told_of_not_inPlace hplace
    obtain ⟨hleap, hlast⟩ : 1000000000 ≤ t.nanos ∧ t.seconds % 60 ≠ 59 := by
      unfold Instant.InPlace at hplace
      omega
    have hfraction := t.fraction
    -- The next second is of the same minute.
    have hdate : t.told.date = t.date := by
      rw [Instant.date, Instant.date, hseconds]
      congr 1
      omega
    have hsecond : t.told.secondOfDay = t.secondOfDay + 1 ∧ t.secondOfDay % 60 ≠ 59 := by
      rw [Instant.secondOfDay, Instant.secondOfDay, hseconds]
      omega
    have hhour : t.told.secondOfDay / 3600 = t.secondOfDay / 3600 := by
      omega
    have hminute : t.told.secondOfDay / 60 % 60 = t.secondOfDay / 60 % 60 := by
      omega
    have hsixty : t.told.secondOfDay % 60 + t.told.nanos / 1000000000 =
        t.secondOfDay % 60 + t.nanos / 1000000000 := by
      omega
    have hrest : t.told.nanos % 1000000000 = t.nanos % 1000000000 := by
      omega
    simp only [text, hdate, hhour, hminute, hsixty, hrest]

/-- **A stored time is read as the instant that it tells.** -/
theorem parse_zuluForm (t : Instant) : parse (zuluForm t) = .ok t.told := by
  rw [parse, zuluForm, String.toList_ofList, ← text_told]
  exact read_text t.inPlace_told (by decide) (by decide) (by decide) rfl

/-- **A time in a message is read as the instant that it tells.** -/
theorem parse_offsetForm (t : Instant) : parse (offsetForm t) = .ok t.told := by
  rw [parse, offsetForm, String.toList_ofList, ← text_told]
  exact read_text t.inPlace_told (by decide) (by decide) (by decide) rfl

/-! ## The form of what is written -/

/-- The digits of a fraction of a second: of the numbers none, three, six and nine the smallest with
which nothing is lost. -/
structure FewestDigits (nanos : Nat) (ds : List Char) : Prop where
  digits : ∀ c ∈ ds, c.isDigit = true
  length : ds.length ∈ [0, 3, 6, 9]
  value : digitsValue ds * 10 ^ (9 - ds.length) = nanos
  fewest : ∀ k ∈ [0, 3, 6, 9], k < ds.length → ¬10 ^ (9 - k) ∣ nanos

/-- The characters of a date and a time of day. -/
def IsTimeChar (c : Char) : Prop :=
  c.isDigit = true ∨ c ∈ ['+', '-', ':', 'T']

/-- A text that tells an instant up to the second, then the fraction in the fewest digits, if there are
any, and then `Z`. -/
def IsZulu (t : Instant) (s : String) : Prop :=
  ∃ whole ds, s.toList = whole ++ (if ds = [] then [] else '.' :: ds) ++ ['Z'] ∧
    (∀ c ∈ whole, IsTimeChar c) ∧ FewestDigits (t.nanos % 1000000000) ds

/-- Digits of a row of three, six or nine are the fewest if three fewer would not do. -/
theorem fewestDigits_padded {nanos width n : Nat} (hwidth : width = 3 ∨ width = 6 ∨ width = 9)
    (hlt : n < 10 ^ width) (hvalue : n * 10 ^ (9 - width) = nanos) (hzero : ¬1000000000 ∣ nanos)
    (hthree : 3 < width → ¬1000000 ∣ nanos) (hsix : 6 < width → ¬1000 ∣ nanos) :
    ∃ ds, '.' :: padded width n = (if ds = [] then [] else '.' :: ds) ∧ FewestDigits nanos ds := by
  have hne : padded width n ≠ [] := List.ne_nil_of_length_pos (by rw [length_padded]; omega)
  refine ⟨padded width n, (if_neg hne).symm, fun c => isDigit_of_mem_padded, ?_, ?_, ?_⟩
  · rw [length_padded]
    rcases hwidth with rfl | rfl | rfl <;> decide
  · rw [digitsValue_padded, Nat.mod_eq_of_lt hlt, length_padded, hvalue]
  · intro k hk hshort
    rw [length_padded] at hshort
    simp only [List.mem_cons, List.not_mem_nil, or_false] at hk
    rcases hk with rfl | rfl | rfl | rfl
    · exact hzero
    · exact hthree hshort
    · exact hsix hshort
    · omega

theorem exists_fractionText {nanos : Nat} (hn : nanos < 1000000000) :
    ∃ ds, fractionText nanos = (if ds = [] then [] else '.' :: ds) ∧ FewestDigits nanos ds := by
  rw [fractionText]
  split
  · rename_i hzero
    exact ⟨[], rfl, by simp, by simp, by rw [hzero]; rfl, fun k _ hk => absurd hk (Nat.not_lt_zero k)⟩
  · rename_i hzero
    split
    · exact fewestDigits_padded (by decide) (by omega) (by omega) (by omega) (by omega) (by omega)
    · split
      · exact fewestDigits_padded (by decide) (by omega) (by omega) (by omega) (by omega) (by omega)
      · exact fewestDigits_padded (by decide) hn (by omega) (by omega) (by omega) (by omega)

theorem isTimeChar_yearText (y : Int) : ∀ c ∈ yearText y, IsTimeChar c := by
  intro c hc
  rw [yearText] at hc
  split at hc
  · exact .inl (isDigit_of_mem_padded hc)
  · rcases List.mem_cons.1 hc with rfl | hc
    · split <;> exact .inr (by decide)
    · exact .inl ((atLeastFour_digits _).1 c hc)

/-- The stored form of an instant is what it should be. -/
theorem isZulu_zuluForm (t : Instant) : IsZulu t (zuluForm t) := by
  obtain ⟨ds, hfraction, hfewest⟩ := exists_fractionText (Nat.mod_lt t.nanos (by decide))
  have hrow : ∀ width n, ∀ c ∈ padded width n, IsTimeChar c :=
    fun width n c hc => .inl (isDigit_of_mem_padded hc)
  have hmarks : IsTimeChar '-' ∧ IsTimeChar ':' ∧ IsTimeChar 'T' :=
    ⟨.inr (by decide), .inr (by decide), .inr (by decide)⟩
  let s := t.secondOfDay
  refine ⟨yearText t.date.year ++ '-' :: padded 2 t.date.month ++ '-' :: padded 2 t.date.day ++
    'T' :: padded 2 (s / 3600) ++ ':' :: padded 2 (s / 60 % 60) ++
    ':' :: padded 2 (s % 60 + t.nanos / 1000000000), ds, ?_, ?_, hfewest⟩
  · rw [zuluForm, String.toList_ofList, text, hfraction]
  · simp only [List.forall_mem_append, List.forall_mem_cons]
    exact ⟨⟨⟨⟨⟨isTimeChar_yearText _, hmarks.1, hrow 2 _⟩, hmarks.1, hrow 2 _⟩, hmarks.2.2, hrow 2 _⟩,
      hmarks.2.1, hrow 2 _⟩, hmarks.2.1, hrow 2 _⟩

end Rfc3339
end Switchboard
