import Switchboard.Text.Name

/-!
# Tokens

The text of an item is a sequence of tokens: names, marks, literals, and groups, which are sequences of
tokens between brackets.  A mark is one character; several marks that stand together, such as the two
points of a path, are marks of which all but the last are joined to the next.

`Token.render` writes tokens with one space between them, except after a joined mark and inside round
and square brackets.
-/

namespace Switchboard
namespace Derive

/-- Brackets around a group. -/
inductive Delimiter where
  | round
  | square
  | curly
  deriving DecidableEq

/-- What a literal denotes. -/
inductive LiteralKind where
  /-- A text of that value. -/
  | text (value : List Char)
  /-- A number, a character, or a text of bytes. -/
  | other
  deriving DecidableEq

/-- A literal, as it is written, and what it denotes. -/
structure Literal where
  written : String
  kind : LiteralKind
  deriving DecidableEq

/-- A token. -/
inductive Token where
  /-- A name, raw ones with their mark. -/
  | name (text : String)
  /-- A mark, and whether the next mark is joined to it. -/
  | mark (c : Char) (joined : Bool)
  | literal (l : Literal)
  | group (d : Delimiter) (inner : List Token)

namespace Delimiter

/-- The opening bracket. -/
def opening : Delimiter → Char
  | round => '('
  | square => '['
  | curly => '{'

/-- The closing bracket. -/
def closing : Delimiter → Char
  | round => ')'
  | square => ']'
  | curly => '}'

/-- The brackets that a character opens. -/
def ofOpening? (c : Char) : Option Delimiter :=
  [round, square, curly].find? fun d => d.opening == c

end Delimiter

namespace Token

/-- Whether a space follows, if another token does. -/
def spaced : Token → Bool
  | mark _ joined => !joined
  | _ => true

mutual

/-- The text of one token. -/
def chars : Token → List Char
  | name text => text.toList
  | mark c _ => [c]
  | literal l => l.written.toList
  | group .round inner => '(' :: render inner ++ [')']
  | group .square inner => '[' :: render inner ++ [']']
  | group .curly [] => ['{', ' ', '}']
  | group .curly inner => '{' :: ' ' :: render inner ++ [' ', '}']

/-- The text of tokens. -/
def render : List Token → List Char
  | [] => []
  | [t] => chars t
  | t :: rest => chars t ++ ((if spaced t then [' '] else []) ++ render rest)

end

/-- The names that the language keeps for itself. -/
def keywords : List String :=
  ["_", "abstract", "as", "async", "await", "become", "box", "break", "const", "continue", "crate",
    "do", "dyn", "else", "enum", "extern", "false", "final", "fn", "for", "if", "impl", "in", "let",
    "loop", "macro", "match", "mod", "move", "mut", "override", "priv", "pub", "ref", "return",
    "Self", "self", "static", "struct", "super", "trait", "true", "try", "type", "typeof", "unsafe",
    "unsized", "use", "virtual", "where", "while", "yield"]

/-- A mark on its own. -/
def sign (c : Char) : Token := .mark c false

/-- The two points of a path. -/
def pathMark : List Token := [.mark ':' true, .mark ':' false]

/-- The arrow before the type of a result. -/
def arrow : List Token := [.mark '-' true, .mark '>' false]

/-- An absolute path. -/
def absolutePath (names : List String) : List Token :=
  names.flatMap fun n => pathMark ++ [.name n]

/-- A path that begins with a name. -/
def relativePath : List String → List Token
  | [] => []
  | n :: rest => .name n :: absolutePath rest

mutual

/-- A token in which only those marks are joined that belong together. -/
def regroup : Token → Token
  | group d inner => group d (regroupAll inner)
  | t => t

/-- Tokens in which only those marks are joined that belong together: the points of a path, the arrow
and the quote of a lifetime. -/
def regroupAll : List Token → List Token
  | .mark ':' true :: .mark ':' _ :: rest => .mark ':' true :: .mark ':' false :: regroupAll rest
  | .mark '-' true :: .mark '>' _ :: rest => .mark '-' true :: .mark '>' false :: regroupAll rest
  | .mark '\x27' _ :: rest => .mark '\x27' true :: regroupAll rest
  | .mark c _ :: rest => .mark c false :: regroupAll rest
  | t :: rest => regroup t :: regroupAll rest
  | [] => []

end

end Token
end Derive
end Switchboard
