import Switchboard.Text.Printable

/-!
# Quoted text

Messages about a bad value repeat the value between quotes.  Inside them the quote itself and the
backslash are escaped, the four usual controls have their letters, and whatever cannot be shown is
written as its code point in braces.  Text and single characters differ only in the quote that
surrounds them, and only that quote is escaped.
-/

namespace Switchboard
namespace Text

/-- The hexadecimal digits of a code point, without leading zeros. -/
def hexDigits (n : Nat) : List Char :=
  Nat.toDigits 16 n

/-- One character between the given quotes. -/
def quoteChar (quote c : Char) : List Char :=
  if c = '\x00' then ['\\', '0']
  else if c = '\t' then ['\\', 't']
  else if c = '\r' then ['\\', 'r']
  else if c = '\n' then ['\\', 'n']
  else if c = '\\' then ['\\', '\\']
  else if c = quote then ['\\', quote]
  else if isPrintable c then [c]
  else ['\\', 'u', '{'] ++ hexDigits c.toNat ++ ['}']

/-- A text between double quotes. -/
def quoted (s : String) : String :=
  String.ofList ('"' :: s.toList.flatMap (quoteChar '"') ++ ['"'])

/-- A single character between single quotes. -/
def quotedChar (c : Char) : String :=
  String.ofList ('\x27' :: quoteChar '\x27' c ++ ['\x27'])

end Text
end Switchboard
