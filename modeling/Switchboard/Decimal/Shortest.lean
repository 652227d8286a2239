import Switchboard.Decimal.Basic

/-!
# The shortest decimal of a binary number

Numbers with a fraction are held in 64 bits elsewhere, so a decimal with many digits stands for the
nearest number `m · 2 ^ q` with `m` below `2 ^ 53`, and is shown again with the fewest digits that
single that number out.  `nearestBinary` finds the first, rounding a tie to the even `m`;
`shortestOf` the second, by looking at the two neighbours of the number on the grids of one digit,
two digits and so on, in exact arithmetic.  Up to fifteen digits, well inside the range of
exponents, both steps together change nothing, and `settle` leaves them out.
-/

namespace Switchboard
namespace Decimal

/-- Divide, rounding to the nearest whole number and a tie to the even one. -/
def roundDiv (num den : Nat) : Nat :=
  let q := num / den
  let r := num % den
  if 2 * r < den then q
  else if den < 2 * r then q + 1
  else if q % 2 = 0 then q else q + 1

/-- The fraction `num / den` times `2 ^ (-q)`, as a fraction. -/
def scaleDown (num den : Nat) (q : Int) : Nat × Nat :=
  if 0 ≤ q then (num, den * Nat.pow 2 q.toNat) else (num * Nat.pow 2 q.natAbs, den)

/-- The fraction with the value of a decimal, without its sign. -/
def fraction (d : Decimal) : Nat × Nat :=
  if 0 ≤ d.exponent then (d.digits * Nat.pow 10 d.exponent.toNat, 1)
  else (d.digits, Nat.pow 10 d.exponent.natAbs)

/-- The number `m · 2 ^ q` of 64 bits that lies nearest to a fraction; `none` beyond the largest. -/
def nearestBinary (num den : Nat) : Option (Nat × Int) :=
  if num = 0 then some (0, 0)
  else
    let low : Int := max ((num.log2 : Int) - den.log2 - 53) (-1074)
    let first := scaleDown num den low
    let q := if Nat.pow 2 53 ≤ first.1 / first.2 then low + 1 else low
    let scaled := scaleDown num den q
    let m := roundDiv scaled.1 scaled.2
    let p := if m = Nat.pow 2 53 then (Nat.pow 2 52, q + 1) else (m, q)
    if 971 < p.2 then none else some p

/-- The least number of places in front of the point that `num / den` fits into, from a guess. -/
def placesOf (num den : Nat) : Int :=
  let guess : Int := (digitChars num).length - (digitChars den).length
  if 0 ≤ guess then
    if num < den * Nat.pow 10 guess.toNat then guess else guess + 1
  else if num * Nat.pow 10 guess.natAbs < den then guess else guess + 1

/-- Whether `c · 10 ^ e` lies among the numbers that round to `m · 2 ^ q`.  The ends count when `m` is
even, since a tie goes there. -/
def singlesOut (m : Nat) (q : Int) (c : Nat) (e : Int) : Bool :=
  -- Everything is compared in quarters of the last binary place.
  let lower := if m = Nat.pow 2 52 ∧ -1074 < q then 4 * m - 1 else 4 * m - 2
  let upper := 4 * m + 2
  let f := if 0 ≤ e then (c * Nat.pow 10 e.toNat, 1) else (c, Nat.pow 10 e.natAbs)
  let s := scaleDown f.1 f.2 (q - 2)
  if m % 2 = 0 then lower * s.2 ≤ s.1 && s.1 ≤ upper * s.2
  else lower * s.2 < s.1 && s.1 < upper * s.2

/-- Try the grids of `n`, `n + 1`, … digits, `tries` of them, and take the first with a hit. -/
def searchGrid (m : Nat) (q : Int) (num den : Nat) (places : Int) : Nat → Nat → Nat × Int
  | _, 0 => (0, 0)
  | n, tries + 1 =>
    let e := places - n
    let s := if 0 ≤ e then (num, den * Nat.pow 10 e.toNat) else (num * Nat.pow 10 e.natAbs, den)
    let c := s.1 / s.2
    let below := singlesOut m q c e && c != 0
    let above := singlesOut m q (c + 1) e
    if below && above then (roundDiv s.1 s.2, e)
    else if below then (c, e)
    else if above then (c + 1, e)
    else searchGrid m q num den places (n + 1) tries

/-- The shortest digits that single out `m · 2 ^ q`, with their exponent. -/
def shortestOf (m : Nat) (q : Int) : Nat × Int :=
  if m = 0 then (0, 0)
  else
    let v := if 0 ≤ q then (m * Nat.pow 2 q.toNat, 1) else (m, Nat.pow 2 q.natAbs)
    searchGrid m q v.1 v.2 (placesOf v.1 v.2) 1 17

/-- The decimal under which a written number is shown again; `none` if it is too large for 64 bits.
Numbers far below the smallest one are zero. -/
def settle (d : Decimal) : Option Decimal :=
  let n := (digitChars d.digits).length
  if d.digits = 0 then some d.normalize
  else if n ≤ 15 ∧ -280 ≤ d.exponent ∧ d.exponent ≤ 280 then some d.normalize
  else if 400 < d.exponent + n then none
  else if d.exponent + n < -400 then some ⟨d.negative, 0, 0⟩
  else
    let v := d.fraction
    (nearestBinary v.1 v.2).map fun b =>
      let s := shortestOf b.1 b.2
      normalize ⟨d.negative, s.1, s.2⟩

end Decimal
end Switchboard
