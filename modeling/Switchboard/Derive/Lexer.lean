import Switchboard.Derive.Literal
import Switchboard.Text.Blank
import Switchboard.Text.Quoted

/-!
# From text to tokens

Blanks and comments stand between tokens and mean nothing, except that a comment with three slashes is
an attribute with the name `doc`.  Where several tokens could begin, a literal comes first, then a mark,
then a name.  Brackets have to match.
-/

namespace Switchboard
namespace Derive
namespace Token

/-- What follows a comment between a slash with a star and a star with a slash; comments may be nested,
and `depth` says in how many the text stands. -/
def afterComment? : Nat → List Char → Option (List Char)
  | 0, s => some s
  | _, [] => none
  | depth + 1, '*' :: '/' :: rest => afterComment? depth rest
  | depth + 1, '/' :: '*' :: rest => afterComment? (depth + 2) rest
  | depth + 1, _ :: rest => afterComment? (depth + 1) rest

/-- What follows the line. -/
def afterLine (s : List Char) : List Char :=
  s.dropWhile (· != '\n')

/-- The blanks between tokens; two marks for the direction of writing count. -/
def isGap (c : Char) : Bool :=
  Text.isBlank c || c == '\u200e' || c == '\u200f'

/-- A comment that means nothing: what follows it. -/
def comment? (s : List Char) : Option (List Char) :=
  match s with
  | '/' :: '/' :: '/' :: '/' :: rest => some (afterLine rest)
  | '/' :: '/' :: '/' :: _ => none
  | '/' :: '/' :: '!' :: _ => none
  | '/' :: '/' :: rest => some (afterLine rest)
  | '/' :: '*' :: '*' :: '/' :: rest => some rest
  | '/' :: '*' :: '*' :: '*' :: rest => afterComment? 1 ('*' :: '*' :: rest)
  | '/' :: '*' :: '*' :: _ => none
  | '/' :: '*' :: '!' :: _ => none
  | '/' :: '*' :: rest => afterComment? 1 rest
  | _ => none

/-- Skip blanks and comments, at most so many. -/
def skipGaps : Nat → List Char → List Char
  | 0, s => s
  | n + 1, s =>
    match s.dropWhile isGap with
    | [] => []
    | rest =>
      match comment? rest with
      | some after => skipGaps n after
      | none => rest

/-- A comment that is an attribute: whether it is about what it stands in, its text and what follows
it. -/
def docComment? (s : List Char) : Option (Bool × List Char × List Char) :=
  let line (inner : Bool) (rest : List Char) : Option (Bool × List Char × List Char) :=
    some (inner, rest.takeWhile (· != '\n'), afterLine rest)
  let block (inner : Bool) (rest : List Char) : Option (Bool × List Char × List Char) :=
    (afterComment? 1 rest).map fun after =>
      (inner, rest.take (rest.length - after.length - 2), after)
  let found := match s with
    | '/' :: '/' :: '!' :: rest => line true rest
    | '/' :: '*' :: '!' :: rest => block true rest
    | '/' :: '/' :: '/' :: rest => line false rest
    | '/' :: '*' :: '*' :: rest => block false rest
    | _ => none
  found.filter fun d => !hasBareReturn d.2.1
where
  /-- Whether a carriage return stands before anything but a line end. -/
  hasBareReturn : List Char → Bool
    | [] => false
    | '\r' :: '\n' :: rest => hasBareReturn rest
    | '\r' :: _ => true
    | _ :: rest => hasBareReturn rest

/-- The characters between the quotes of a literal of that text.  A null before an octal digit is written
at length. -/
def literalChars : List Char → List Char
  | '\x00' :: c :: rest =>
    (if '0' ≤ c ∧ c ≤ '7' then ['\\', 'x', '0', '0'] else Text.quoteChar '"' '\x00') ++
      literalChars (c :: rest)
  | c :: rest => Text.quoteChar '"' c ++ literalChars rest
  | [] => []

/-- The attribute that a comment stands for. -/
def docTokens (inner : Bool) (text : List Char) : List Token :=
  sign '#' :: ((if inner then [sign '!'] else []) ++
    [.group .square [.name "doc", sign '=',
      .literal ⟨String.ofList ('"' :: literalChars text ++ ['"']), .text text⟩]])

/-- The characters that are marks. -/
def markCharacters : List Char :=
  ['~', '!', '@', '#', '$', '%', '^', '&', '*', '-', '=', '+', '|', ';', ':', ',', '<', '.', '>',
    '/', '?', '\x27']

/-- Whether a mark begins here; a comment does not begin with one. -/
def beginsMark (s : List Char) : Bool :=
  match s with
  | '/' :: '/' :: _ => false
  | '/' :: '*' :: _ => false
  | c :: _ => c ∈ markCharacters
  | [] => false

/-- Read the characters of a name. -/
def plainName? (s : List Char) : Option (List Char × List Char) :=
  match s with
  | c :: rest =>
    if Text.startsName c then
      some (c :: rest.takeWhile Text.continuesName, rest.dropWhile Text.continuesName)
    else none
  | [] => none

/-- Read a name, which may be raw. -/
def name? (s : List Char) : Option (List Char × List Char) :=
  match s with
  | 'r' :: '#' :: rest =>
    match plainName? rest with
    | some (n, after) =>
      if String.ofList n ∈ ["_", "super", "self", "Self", "crate"] then none
      else some ('r' :: '#' :: n, after)
    | none => none
  | _ => plainName? s

/-- What a literal that is not well formed begins with; it is no name. -/
def brokenLiterals : List String :=
  ["r\"", "r#\"", "r##", "b\"", "b\x27", "br\"", "br#", "c\"", "cr\"", "cr#"]

/-- Read a mark.  A single quote is one before a name that is not followed by another. -/
def mark? (s : List Char) : Option (Token × List Char) :=
  match s with
  | '\x27' :: rest =>
    match name? rest with
    | none => none
    | some (n, after) =>
      if after.head? = some '\x27' ∨ (after.head? = some '#' ∧ n.take 2 ≠ ['r', '#']) then none
      else some (.mark '\x27' true, rest)
  | c :: rest => if beginsMark s then some (.mark c (beginsMark rest), rest) else none
  | [] => none

/-- Read a token that is no group. -/
def leaf? (s : List Char) : Option (Token × List Char) :=
  match Literal.read? s with
  | some (l, rest) => some (.literal l, rest)
  | none =>
    match mark? s with
    | some r => some r
    | none =>
      if brokenLiterals.any fun b => b.toList.isPrefixOf s then none
      else (name? s).map fun r => (.name (String.ofList r.1), r.2)

/-- Read tokens up to the end or up to a closing bracket, which is left. -/
def readAll? : Nat → List Char → Option (List Token × List Char)
  | 0, _ => none
  | n + 1, s =>
    let s := skipGaps s.length s
    match docComment? s with
    | some (inner, text, after) => do
      let more ← readAll? n after
      some (docTokens inner text ++ more.1, more.2)
    | none =>
      match s with
      | [] => some ([], [])
      | c :: rest =>
        if c = ')' ∨ c = ']' ∨ c = '}' then some ([], s)
        else match Delimiter.ofOpening? c with
          | some d => do
            let inside ← readAll? n rest
            match inside.2 with
            | [] => none
            | close :: after =>
              if close = d.closing then
                let more ← readAll? n after
                some (.group d inside.1 :: more.1, more.2)
              else none
          | none => do
            let first ← leaf? s
            let more ← readAll? n first.2
            some (first.1 :: more.1, more.2)

/-- The tokens of a text, if it can be read. -/
def ofText? (text : String) : Option (List Token) :=
  match readAll? (text.length + 1) text.toList with
  | some (ts, []) => some ts
  | _ => none

end Token
end Derive
end Switchboard
