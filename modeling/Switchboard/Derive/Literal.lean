import Switchboard.Derive.Token

/-!
# Literals in the text of an item

A text between quotes has escapes: letters, two hexadecimal digits after `x`, a code point in braces
after `u`, and a line end, which is skipped together with the blanks after it.  A raw text has none; it
stands between quotes with the same number of hash marks outside.  Texts of bytes and texts that end in
a null are written with a letter before the quote and differ in what they may hold.  After every literal
a suffix may follow, which is a name.

Every reader gives the characters after what it has read.
-/

namespace Switchboard
namespace Derive

/-- What a quoted text may hold. -/
structure QuoteRules where
  /-- Whether two hexadecimal digits may stand for more than the ASCII characters. -/
  wide : Bool
  /-- Whether code points may be given in braces. -/
  codePoints : Bool
  /-- Whether characters beyond ASCII may stand for themselves. -/
  beyondAscii : Bool
  /-- Whether the null may occur. -/
  null : Bool

namespace QuoteRules

/-- The rules of a text. -/
def text : QuoteRules := ⟨false, true, true, true⟩

/-- The rules of a text of bytes. -/
def bytes : QuoteRules := ⟨true, false, false, true⟩

/-- The rules of a text that ends in a null. -/
def terminated : QuoteRules := ⟨true, true, true, false⟩

end QuoteRules

namespace Literal

/-- The value of a hexadecimal digit. -/
def hexValue? (c : Char) : Option Nat :=
  if '0' ≤ c ∧ c ≤ '9' then some (c.toNat - '0'.toNat)
  else if 'a' ≤ c ∧ c ≤ 'f' then some (c.toNat - 'a'.toNat + 10)
  else if 'A' ≤ c ∧ c ≤ 'F' then some (c.toNat - 'A'.toNat + 10)
  else none

/-- The character that two hexadecimal digits stand for. -/
def byteChar? (wide : Bool) (a b : Char) : Option Char := do
  let high ← hexValue? a
  let low ← hexValue? b
  if wide || high < 8 then some (Char.ofNat (16 * high + low)) else none

/-- The character whose code point is written in braces, with underscores between the digits. -/
def codePoint? (places : List Char) : Option Char := do
  let digits := places.filter (· != '_')
  let values ← digits.mapM hexValue?
  let n := values.foldl (fun n d => 16 * n + d) 0
  if places.head? = some '_' ∨ digits = [] ∨ 6 < digits.length then none
  else if n.isValidChar then some (Char.ofNat n)
  else none

/-- The character that a letter after a backslash stands for. -/
def letterEscape? (c : Char) : Option Char :=
  if c = 'n' then some '\n'
  else if c = 'r' then some '\r'
  else if c = 't' then some '\t'
  else if c = '0' then some '\x00'
  else if c = '\\' ∨ c = '\x27' ∨ c = '"' then some c
  else none

/-- The character that an escape stands for, the backslash having been read. -/
def escape? (rules : QuoteRules) (s : List Char) : Option (Char × List Char) :=
  match s with
  | 'x' :: a :: b :: rest => (byteChar? rules.wide a b).map fun c => (c, rest)
  | 'u' :: '{' :: rest =>
    let places := rest.takeWhile fun c => c != '}'
    match rest.drop places.length with
    | [] => none
    | _ :: after =>
      if rules.codePoints then (codePoint? places).map fun c => (c, after) else none
  | c :: rest => (letterEscape? c).map fun c => (c, rest)
  | [] => none

theorem length_of_escape? {rules : QuoteRules} {s rest : List Char} {c : Char}
    (h : escape? rules s = some (c, rest)) : rest.length < s.length := by
  unfold escape? at h
  split at h
  · simp only [Option.map_eq_some_iff, Prod.mk.injEq] at h
    obtain ⟨_, _, _, rfl⟩ := h
    simp only [List.length_cons]
    omega
  · rename_i tail
    have shorter := List.length_drop (i := (tail.takeWhile fun c => c != '}').length) (l := tail)
    dsimp only at h
    split at h
    · simp at h
    · rename_i last after rest_eq
      split at h
      · simp only [Option.map_eq_some_iff, Prod.mk.injEq] at h
        obtain ⟨_, _, _, rfl⟩ := h
        rw [rest_eq] at shorter
        simp only [List.length_cons] at shorter ⊢
        omega
      · simp at h
  · simp only [Option.map_eq_some_iff, Prod.mk.injEq] at h
    obtain ⟨_, _, _, rfl⟩ := h
    simp
  · simp at h

/-- Read the rest of a quoted text, the opening quote having been read: its value.  `skipping` says
that a line end has just been escaped. -/
def quoted? (rules : QuoteRules) (skipping : Bool) (s : List Char) :
    Option (List Char × List Char) :=
  match s with
  | [] => none
  | '\r' :: '\n' :: rest =>
    if skipping then quoted? rules true rest
    else (quoted? rules false rest).map fun p => ('\n' :: p.1, p.2)
  | '\r' :: _ => none
  | '\\' :: '\n' :: rest => quoted? rules true rest
  | '\\' :: '\r' :: '\n' :: rest => quoted? rules true rest
  | '"' :: rest => some ([], rest)
  | '\\' :: rest =>
    match h : escape? rules rest with
    | none => none
    | some (c, after) =>
      have := length_of_escape? h
      if c = '\x00' ∧ !rules.null then none
      else (quoted? rules false after).map fun p => (c :: p.1, p.2)
  | c :: rest =>
    if skipping && (c == ' ' || c == '\t' || c == '\n') then quoted? rules true rest
    else if (c = '\x00' ∧ !rules.null) ∨ (0x80 ≤ c.toNat ∧ !rules.beyondAscii) then none
    else (quoted? rules false rest).map fun p => (c :: p.1, p.2)
termination_by s.length
decreasing_by all_goals simp_all <;> omega

/-- Read the rest of a raw text with so many hash marks, its opening quote having been read. -/
def rawRest? (rules : QuoteRules) (hashes : Nat) : List Char → Option (List Char × List Char)
  | [] => none
  | '"' :: rest =>
    if rest.take hashes = List.replicate hashes '#' then some ([], rest.drop hashes)
    else (rawRest? rules hashes rest).map fun p => ('"' :: p.1, p.2)
  | '\r' :: '\n' :: rest =>
    (rawRest? rules hashes rest).map fun p => ('\r' :: '\n' :: p.1, p.2)
  | '\r' :: _ => none
  | c :: rest =>
    if (c = '\x00' ∧ !rules.null) ∨ (0x80 ≤ c.toNat ∧ !rules.beyondAscii) then none
    else (rawRest? rules hashes rest).map fun p => (c :: p.1, p.2)

/-- Read a raw text from its first hash mark, or its quote, on. -/
def raw? (rules : QuoteRules) (s : List Char) : Option (List Char × List Char) :=
  let hashes := (s.takeWhile (· == '#')).length
  match s.drop hashes with
  | '"' :: rest => if hashes ≤ 255 then rawRest? rules hashes rest else none
  | _ => none

/-- Read a quoted or raw text. -/
def string? (rules : QuoteRules) (s : List Char) : Option (List Char × List Char) :=
  match s with
  | '"' :: rest => quoted? rules false rest
  | 'r' :: rest => raw? rules rest
  | _ => none

/-- Read a single character between single quotes. -/
def character? (rules : QuoteRules) (s : List Char) : Option (List Char) :=
  match s with
  | '\x27' :: '\\' :: rest =>
    match escape? rules rest with
    | some (_, '\x27' :: after) => some after
    | _ => none
  | '\x27' :: c :: '\x27' :: after =>
    if 0x80 ≤ c.toNat ∧ !rules.beyondAscii then none else some after
  | _ => none

/-- What follows the characters of a name. -/
def afterName (s : List Char) : List Char :=
  match s with
  | c :: rest => if Text.startsName c then rest.dropWhile Text.continuesName else s
  | [] => []

/-- A number ends where no name goes on. -/
def endsNumber (s : List Char) : Bool :=
  match s with
  | c :: _ => !Text.continuesName c
  | [] => true

/-- The digits of a number, with underscores. -/
def afterDigits (s : List Char) : List Char :=
  s.dropWhile fun c => c.isDigit || c == '_'

/-- Read the power of ten after its letter: a sign, and digits. -/
def power? (s : List Char) : Option (List Char) :=
  let unsigned := s.dropWhile (· == '_')
  let s := match unsigned with
    | c :: rest => if c = '+' ∨ c = '-' then rest else unsigned
    | [] => unsigned
  let digits := s.takeWhile fun c => c.isDigit || c == '_'
  if digits.any Char.isDigit then some (s.drop digits.length) else none

/-- Read the digits of a number with a point or a power of ten. -/
def fractional? (s : List Char) : Option (List Char) :=
  if !(s.head?.any Char.isDigit) then none
  else
    let afterPower (before after : Option (List Char)) : Option (List Char) :=
      after.orElse fun _ => before
    match afterDigits s with
    | '.' :: rest =>
      if rest.head?.any fun c => c == '.' || Text.startsName c then none
      else match afterDigits rest with
        | 'e' :: more => afterPower (some ('e' :: more)) (power? more)
        | 'E' :: more => afterPower (some ('E' :: more)) (power? more)
        | after => some after
    | 'e' :: more => power? more
    | 'E' :: more => power? more
    | _ => none

/-- Read the digits of a whole number, in the base that its first two characters may give. -/
def whole? (s : List Char) : Option (List Char) :=
  let based (base : Nat) (s : List Char) : Option (List Char) :=
    let digits := s.takeWhile fun c =>
      c == '_' || c.isDigit || (match hexValue? c with
        | some v => v < base
        | none => false)
    if digits.all (fun c => c == '_' || (match hexValue? c with
        | some v => v < base
        | none => false)) && digits.any (· != '_') then some (s.drop digits.length)
    else none
  match s with
  | '0' :: 'x' :: rest => based 16 rest
  | '0' :: 'o' :: rest => based 8 rest
  | '0' :: 'b' :: rest => based 2 rest
  | c :: _ => if c.isDigit then based 10 s else none
  | [] => none

/-- Read a number with its suffix. -/
def number? (s : List Char) : Option (List Char) :=
  let suffixed (digits : Option (List Char)) : Option (List Char) :=
    (digits.map afterName).filter endsNumber
  (suffixed (fractional? s)).orElse fun _ => suffixed (whole? s)

/-- Read what a literal denotes, without its suffix. -/
def bare? (s : List Char) : Option (LiteralKind × List Char) :=
  let other (r : Option (List Char)) : Option (LiteralKind × List Char) :=
    r.map fun rest => (.other, rest)
  let later : Option (LiteralKind × List Char) :=
    match s with
    | 'b' :: '\x27' :: _ => other ((character? .bytes s.tail).map afterName)
    | 'b' :: rest => other ((string? .bytes rest).map fun p => afterName p.2)
    | 'c' :: rest => other ((string? .terminated rest).map fun p => afterName p.2)
    | '\x27' :: _ => other ((character? .text s).map afterName)
    | _ => other (number? s)
  ((string? .text s).map fun p => (.text p.1, afterName p.2)).orElse fun _ => later

/-- Read a literal. -/
def read? (s : List Char) : Option (Literal × List Char) :=
  (bare? s).map fun r =>
    (⟨String.ofList (s.take (s.length - r.2.length)), r.1⟩, r.2)

end Literal
end Derive
end Switchboard
