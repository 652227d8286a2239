/-!
# Decimal numbers

A number with a fraction is kept as its decimal digits and a power of ten.  It is data that passes
through: it is read, shown again, and named in messages, but never computed with.  The normal form
has no zero at the end of its digits, and zero itself has exponent zero; a zero keeps its sign.

Two forms of text are in use.  Structured data writes a number so that it is seen to have a
fraction (`1.0`) and leaves positional notation beyond sixteen places.  Messages about settings
write it positionally, whatever its size, and a whole number without a point (`1`).
-/

namespace Switchboard

/-- The number `± digits · 10 ^ exponent`. -/
structure Decimal where
  negative : Bool
  digits : Nat
  exponent : Int
  deriving DecidableEq

namespace Decimal

/-- Move the zeros at the end of the digits into the exponent. -/
def stripZeros (digits : Nat) (exponent : Int) : Nat × Int :=
  if h : digits = 0 then (0, 0)
  else if digits % 10 = 0 then stripZeros (digits / 10) (exponent + 1)
  else (digits, exponent)
termination_by digits
decreasing_by omega

/-- The same number in normal form. -/
def normalize (d : Decimal) : Decimal :=
  let p := stripZeros d.digits d.exponent
  ⟨d.negative, p.1, p.2⟩

/-- The value of a row of decimal digits. -/
def ofDigits (ds : List Char) : Nat :=
  ds.foldl (fun n c => 10 * n + (c.toNat - '0'.toNat)) 0

/-- The number written with these digits before and after the point and this exponent. -/
def ofParts (negative : Bool) (whole fraction : List Char) (exponent : Int) : Decimal :=
  normalize ⟨negative, ofDigits (whole ++ fraction), exponent - fraction.length⟩

/-- The decimal digits of a natural number, zero having one. -/
def digitChars (n : Nat) : List Char :=
  Nat.toDigits 10 n

/-- The sign in front of a number. -/
def sign (d : Decimal) : List Char :=
  if d.negative then ['-'] else []

/-- Positional notation with a point between the digits `ds`, which has `places` digits in front of
it; both may lie outside the digits. -/
def positional (ds : List Char) (places : Int) : List Char :=
  if places ≤ 0 then '0' :: '.' :: List.replicate places.natAbs '0' ++ ds
  else ds.take places.toNat ++ '.' :: ds.drop places.toNat

/-- The text of a number in structured data. -/
def dataText (d : Decimal) : List Char :=
  let ds := digitChars d.digits
  let places := ds.length + d.exponent
  sign d ++
    if d.digits = 0 then ['0', '.', '0']
    else if 0 ≤ d.exponent ∧ places ≤ 16 then
      ds ++ List.replicate d.exponent.toNat '0' ++ ['.', '0']
    else if -5 < places ∧ places ≤ 16 then positional ds places
    else
      ds.take 1 ++ (if ds.length = 1 then [] else '.' :: ds.drop 1) ++
        'e' :: (toString (places - 1)).toList

/-- The text of a number in a message: positional at any size, and without a point when whole. -/
def messageText (d : Decimal) : List Char :=
  let ds := digitChars d.digits
  sign d ++
    if 0 ≤ d.exponent then ds ++ List.replicate d.exponent.toNat '0'
    else positional ds (ds.length + d.exponent)

end Decimal
end Switchboard
