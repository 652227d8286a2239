import Switchboard.Config.Tree
import Switchboard.Decimal.Shortest
import Switchboard.Json.Reader
import Switchboard.Text.Blank

/-!
# Values in the environment

A variable of the environment is text, but its text may spell a typed value: a truth value, a number,
a quoted string or character, a list in brackets or members in braces.  Where it does not, or
something follows the value, the whole text is a string as it stands.

Only the blanks of ASCII are skipped between tokens.  A bare word reaches up to a comma, brace or
bracket, and loses the blanks at its ends, whatever their script; a word with a point that spells
a number is a number with a fraction, digits with or without a sign are a whole number of 64 bits, and
any other word is a string.
-/

namespace Switchboard
namespace EnvText

/-- Skip blanks between tokens. -/
def skip (s : List Char) : List Char :=
  s.dropWhile Text.isAsciiBlank

/-- Whether a character can stand in a bare word. -/
def inWord (c : Char) : Bool :=
  !(c == ',' || c == '{' || c == '}' || c == '[' || c == ']')

/-- Whether a character can stand in a bare name. -/
def inName (c : Char) : Bool :=
  c.isAlphanum || c == '_' || c == '-'

/-- Split a sign off the front. -/
def signed : List Char → Bool × List Char
  | '-' :: rest => (true, rest)
  | '+' :: rest => (false, rest)
  | s => (false, s)

/-- The value of a row of digits. -/
def digits? (s : List Char) : Option Nat :=
  if s ≠ [] ∧ s.all Char.isDigit then some (Decimal.ofDigits s) else none

/-- A number without a minus sign. -/
def unsigned? (s : List Char) : Option Nat :=
  let ds := match s with
    | '+' :: rest => rest
    | s => s
  match digits? ds with
  | some n => if fitsUnsigned n then some n else none
  | none => none

/-- A number with any sign. -/
def signed? (s : List Char) : Option Int :=
  let p := signed s
  match digits? p.2 with
  | some n =>
    let v : Int := if p.1 then -n else n
    if fitsSigned v then some v else none
  | none => none

/-- An exponent, or nothing at all. -/
def power? : List Char → Option Int
  | [] => some 0
  | c :: rest =>
    if c = 'e' ∨ c = 'E' then
      let p := signed rest
      (digits? p.2).map fun n => if p.1 then -(n : Int) else n
    else none

/-- A number with a point. -/
def decimal? (s : List Char) : Option Tree :=
  let p := signed s
  let whole := p.2.takeWhile Char.isDigit
  match p.2.dropWhile Char.isDigit with
  | '.' :: rest =>
    let fraction := rest.takeWhile Char.isDigit
    if whole = [] ∧ fraction = [] then none
    else match power? (rest.dropWhile Char.isDigit) with
      | none => none
      | some power =>
        match (Decimal.ofParts p.1 whole fraction power).settle with
        | some d => some (.decimal d)
        | none => some (.infinite p.1)
  | _ => none

/-- The value that a bare word spells. -/
def word (s : List Char) : Tree :=
  let w := Text.trim s
  match decimal? w with
  | some t => t
  | none =>
    match unsigned? w with
    | some n => .unsigned n
    | none =>
      match signed? w with
      | some n => .signed n
      | none => .text (String.ofList w)

/-- Read as many hexadecimal digits as there are places and give the character they stand for. -/
def hexChar? (places : List Char) : Option Char := do
  let values ← places.mapM Json.hexValue?
  Json.scalar? (values.foldl (fun n v => 16 * n + v) 0)

/-- Read the rest of a quoted string after its opening quote. -/
def quoted? : List Char → Option (List Char × List Char)
  | [] => none
  | '"' :: rest => some ([], rest)
  | '\\' :: 'u' :: a :: b :: c :: d :: rest => do
    let x ← hexChar? [a, b, c, d]
    let r ← quoted? rest
    some (x :: r.1, r.2)
  | '\\' :: 'U' :: a :: b :: c :: d :: e :: f :: g :: h :: rest => do
    let x ← hexChar? [a, b, c, d, e, f, g, h]
    let r ← quoted? rest
    some (x :: r.1, r.2)
  | '\\' :: '/' :: _ => none
  | '\\' :: e :: rest => do
    let x ← Json.letterEscape? e
    let r ← quoted? rest
    some (x :: r.1, r.2)
  | c :: rest =>
    if c = '\\' ∨ (c.toNat < 0x20 ∧ c ≠ '\t') ∨ c.toNat = 0x7f then none
    else do
      let r ← quoted? rest
      some (c :: r.1, r.2)

/-- Read the name of a member, blanks around it included. -/
def name? (s : List Char) : Option (String × List Char) :=
  match skip s with
  | '"' :: rest => (quoted? rest).map fun r => (String.ofList r.1, skip r.2)
  | s =>
    let n := s.takeWhile inName
    if n = [] then none else some (String.ofList n, skip (s.dropWhile inName))

mutual

/-- Read one value and the blanks around it. -/
def value? : Nat → List Char → Option (Tree × List Char)
  | 0, _ => none
  | fuel + 1, s => do
    let r ← match skip s with
      | 't' :: 'r' :: 'u' :: 'e' :: rest => some (.flag true, rest)
      | 'f' :: 'a' :: 'l' :: 's' :: 'e' :: rest => some (.flag false, rest)
      | '"' :: rest => (quoted? rest).map fun r => (.text (String.ofList r.1), r.2)
      | '\x27' :: c :: '\x27' :: rest => some (.char c, rest)
      | '\x27' :: _ => none
      | '[' :: ']' :: rest => some (.list [], rest)
      | '[' :: rest => (items? fuel rest).map fun r => (.list r.1, r.2)
      | '{' :: '}' :: rest => some (.node [], rest)
      | '{' :: rest => (members? fuel rest).map fun r => (.node (Members.ofList r.1), r.2)
      | s => some (word (s.takeWhile inWord), s.dropWhile inWord)
    some (r.1, skip r.2)

/-- Read the items of a list up to its closing bracket, which may follow a comma. -/
def items? : Nat → List Char → Option (List Tree × List Char)
  | 0, _ => none
  | fuel + 1, s => do
    let v ← value? fuel s
    match v.2 with
    | ',' :: ']' :: rest => some ([v.1], rest)
    | ',' :: rest => (items? fuel rest).map fun r => (v.1 :: r.1, r.2)
    | ']' :: rest => some ([v.1], rest)
    | _ => none

/-- Read the members of a node up to the closing brace, which may follow a comma. -/
def members? : Nat → List Char → Option (List (String × Tree) × List Char)
  | 0, _ => none
  | fuel + 1, s => do
    let n ← name? s
    match n.2 with
    | '=' :: rest =>
      let v ← value? fuel rest
      match v.2 with
      | ',' :: '}' :: rest => some ([(n.1, v.1)], rest)
      | ',' :: rest => (members? fuel rest).map fun r => ((n.1, v.1) :: r.1, r.2)
      | '}' :: rest => some ([(n.1, v.1)], rest)
      | _ => none
    | _ => none

end

/-- The value of a variable. -/
def read (s : String) : Tree :=
  let cs := s.toList
  match value? (2 * cs.length + 2) cs with
  | some (t, []) => t
  | _ => .text s

end EnvText
end Switchboard
