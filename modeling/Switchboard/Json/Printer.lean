import Switchboard.Json.Basic

/-!
# Compact text of structured data

No blanks, members in stored order, and only those characters escaped that have to be: the quote,
the backslash and the controls below the space, the five usual ones by their letters and the rest
by four hexadecimal digits.  All other characters, whatever their script, stand for themselves.
-/

namespace Switchboard
namespace Json

/-- A hexadecimal digit, in lower case. -/
def hexDigit (n : Nat) : Char :=
  if n < 10 then Char.ofNat ('0'.toNat + n) else Char.ofNat ('a'.toNat + (n - 10))

/-- One character inside a string. -/
def escapeChar (c : Char) : List Char :=
  if c = '"' then ['\\', '"']
  else if c = '\\' then ['\\', '\\']
  else if c = '\n' then ['\\', 'n']
  else if c = '\r' then ['\\', 'r']
  else if c = '\t' then ['\\', 't']
  else if c = '\x08' then ['\\', 'b']
  else if c = '\x0c' then ['\\', 'f']
  else if c.toNat < 0x20 then
    ['\\', 'u', '0', '0', hexDigit (c.toNat / 16), hexDigit (c.toNat % 16)]
  else [c]

/-- A string between its quotes. -/
def stringText (s : String) : List Char :=
  '"' :: s.toList.flatMap escapeChar ++ ['"']

/-- The decimal text of a whole number. -/
def intText (n : Int) : List Char :=
  if n < 0 then '-' :: Decimal.digitChars n.natAbs else Decimal.digitChars n.natAbs

mutual

/-- The compact text of a value. -/
def chars : Json → List Char
  | null => ['n', 'u', 'l', 'l']
  | bool true => ['t', 'r', 'u', 'e']
  | bool false => ['f', 'a', 'l', 's', 'e']
  | int n => intText n
  | dec d => d.dataText
  | str s => stringText s
  | arr items => '[' :: itemsChars items ++ [']']
  | obj members => '{' :: membersChars members ++ ['}']

/-- The items of an array with commas between them. -/
def itemsChars : List Json → List Char
  | [] => []
  | [v] => chars v
  | v :: rest => chars v ++ ',' :: itemsChars rest

/-- The members of an object with commas between them. -/
def membersChars : List (String × Json) → List Char
  | [] => []
  | [(k, v)] => stringText k ++ ':' :: chars v
  | (k, v) :: rest => stringText k ++ ':' :: (chars v ++ ',' :: membersChars rest)

end

/-- The compact text of a value. -/
def compact (v : Json) : String :=
  String.ofList (chars v)

/-- Values in ascending order of their compact texts, equal ones as often as they occur. -/
def sortByText (vs : List Json) : List Json :=
  let keyed := vs.map fun v => (v.compact, v)
  (keyed.mergeSort fun a b => !(b.1 < a.1)).map Prod.snd

end Json
end Switchboard
