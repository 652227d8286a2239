import Switchboard.Json.Basic
import Switchboard.Decimal.Shortest

/-!
# Reading structured data

The reader works on the characters that are left and takes values off their front.  Blanks are
allowed between tokens.  A number with neither a fraction nor an exponent is a whole number, any
other is settled to the decimal it is shown as.  Nested values are read with an allowance of as
many steps as there are characters, which every step uses at least one of; `parse?` hides it.
-/

namespace Switchboard
namespace Json

/-- The blanks between tokens. -/
def isSpace (c : Char) : Bool :=
  c == ' ' || c == '\t' || c == '\n' || c == '\r'

/-- Skip blanks. -/
def skipSpace (s : List Char) : List Char :=
  s.dropWhile isSpace

/-- The value of a hexadecimal digit. -/
def hexValue? (c : Char) : Option Nat :=
  if '0' ≤ c ∧ c ≤ '9' then some (c.toNat - '0'.toNat)
  else if 'a' ≤ c ∧ c ≤ 'f' then some (c.toNat - 'a'.toNat + 10)
  else if 'A' ≤ c ∧ c ≤ 'F' then some (c.toNat - 'A'.toNat + 10)
  else none

/-- Four hexadecimal digits as one number. -/
def hex4? (a b c d : Char) : Option Nat := do
  let a ← hexValue? a
  let b ← hexValue? b
  let c ← hexValue? c
  let d ← hexValue? d
  some (((a * 16 + b) * 16 + c) * 16 + d)

/-- The character with a code point, which must not be a surrogate. -/
def scalar? (n : Nat) : Option Char :=
  if n.isValidChar then some (Char.ofNat n) else none

/-- The character of a one-letter escape. -/
def letterEscape? (c : Char) : Option Char :=
  if c = '"' then some '"'
  else if c = '\\' then some '\\'
  else if c = '/' then some '/'
  else if c = 'b' then some '\x08'
  else if c = 'f' then some '\x0c'
  else if c = 'n' then some '\n'
  else if c = 'r' then some '\r'
  else if c = 't' then some '\t'
  else none

/-- Read the rest of a string after its opening quote.  A pair of surrogate escapes is one
character. -/
def readString? : List Char → Option (List Char × List Char)
  | [] => none
  | '"' :: rest => some ([], rest)
  | '\\' :: 'u' :: a :: b :: c :: d :: rest =>
    match hex4? a b c d with
    | none => none
    | some hi =>
      if 0xd800 ≤ hi ∧ hi < 0xdc00 then
        match rest with
        | '\\' :: 'u' :: a' :: b' :: c' :: d' :: rest' => do
          let lo ← hex4? a' b' c' d'
          if 0xdc00 ≤ lo ∧ lo < 0xe000 then
            let c ← scalar? (0x10000 + (hi - 0xd800) * 0x400 + (lo - 0xdc00))
            let r ← readString? rest'
            some (c :: r.1, r.2)
          else none
        | _ => none
      else do
        let c ← scalar? hi
        let r ← readString? rest
        some (c :: r.1, r.2)
  | '\\' :: e :: rest => do
    let c ← letterEscape? e
    let r ← readString? rest
    some (c :: r.1, r.2)
  | c :: rest =>
    if c.toNat < 0x20 ∨ c = '\\' then none
    else do
      let r ← readString? rest
      some (c :: r.1, r.2)

/-- Read the digits after a point; without a point there are none. -/
def readFraction? : List Char → Option (List Char × List Char)
  | '.' :: rest =>
    let digits := rest.takeWhile Char.isDigit
    if digits = [] then none else some (digits, rest.dropWhile Char.isDigit)
  | s => some ([], s)

/-- The sign of an exponent: whether it is negative, and what follows. -/
def readPowerSign : List Char → Bool × List Char
  | '-' :: rest => (true, rest)
  | '+' :: rest => (false, rest)
  | s => (false, s)

/-- Read an exponent, which may be absent. -/
def readPower? : List Char → Option (Option Int × List Char)
  | [] => some (none, [])
  | c :: rest =>
    if c = 'e' ∨ c = 'E' then
      let signed := readPowerSign rest
      let digits := signed.2.takeWhile Char.isDigit
      let size : Int := Decimal.ofDigits digits
      if digits = [] then none
      else some (some (if signed.1 then -size else size), signed.2.dropWhile Char.isDigit)
    else some (none, c :: rest)

/-- Read a number after its sign.  Zero is the only number that begins with a zero in front of its
point, and a negative zero is not a whole number. -/
def readNumber? (negative : Bool) (s : List Char) : Option (Json × List Char) := do
  let whole := s.takeWhile Char.isDigit
  let fraction ← readFraction? (s.dropWhile Char.isDigit)
  let power ← readPower? fraction.2
  if whole = [] ∨ (whole.head? = some '0' ∧ whole ≠ ['0']) then none
  else if fraction.1 = [] ∧ power.1 = none ∧ ¬ (negative ∧ whole = ['0']) then
    let n : Int := Decimal.ofDigits whole
    some (int (if negative then -n else n), power.2)
  else
    let d ← (Decimal.ofParts negative whole fraction.1 (power.1.getD 0)).settle
    some (dec d, power.2)

mutual

/-- Read one value, blanks in front of it included. -/
def readValue? : Nat → List Char → Option (Json × List Char)
  | 0, _ => none
  | fuel + 1, s =>
    match skipSpace s with
    | 'n' :: 'u' :: 'l' :: 'l' :: rest => some (null, rest)
    | 't' :: 'r' :: 'u' :: 'e' :: rest => some (bool true, rest)
    | 'f' :: 'a' :: 'l' :: 's' :: 'e' :: rest => some (bool false, rest)
    | '"' :: rest => (readString? rest).map fun r => (str (String.ofList r.1), r.2)
    | '[' :: rest =>
      match skipSpace rest with
      | ']' :: rest => some (arr [], rest)
      | _ => (readItems? fuel rest).map fun r => (arr r.1, r.2)
    | '{' :: rest =>
      match skipSpace rest with
      | '}' :: rest => some (obj [], rest)
      | _ => (readMembers? fuel rest).map fun r => (object r.1, r.2)
    | '-' :: rest => readNumber? true rest
    | s => readNumber? false s

/-- Read the items of an array up to its closing bracket. -/
def readItems? : Nat → List Char → Option (List Json × List Char)
  | 0, _ => none
  | fuel + 1, s => do
    let v ← readValue? fuel s
    match skipSpace v.2 with
    | ',' :: rest => (readItems? fuel rest).map fun r => (v.1 :: r.1, r.2)
    | ']' :: rest => some ([v.1], rest)
    | _ => none

/-- Read the members of an object up to its closing brace. -/
def readMembers? : Nat → List Char → Option (List (String × Json) × List Char)
  | 0, _ => none
  | fuel + 1, s =>
    match skipSpace s with
    | '"' :: rest => do
      let k ← readString? rest
      match skipSpace k.2 with
      | ':' :: rest => do
        let v ← readValue? fuel rest
        let m := (String.ofList k.1, v.1)
        match skipSpace v.2 with
        | ',' :: rest => (readMembers? fuel rest).map fun r => (m :: r.1, r.2)
        | '}' :: rest => some ([m], rest)
        | _ => none
      | _ => none
    | _ => none

end

/-- Read a text that consists of one value and blanks around it. -/
def parse? (s : String) : Option Json :=
  let cs := s.toList
  match readValue? (2 * cs.length + 2) cs with
  | some (v, rest) => if skipSpace rest = [] then some v else none
  | none => none

end Json
end Switchboard
