/-!
# Why no implementation can be derived

Either the text of the item cannot be read, or an attribute is not well formed, or the item and its
attributes do not say what is needed: a name, and a field that holds the time.
-/

namespace Switchboard
namespace Derive

/-- What a reader of tokens has expected and not found. -/
inductive Expected where
  | identifier
  | stringLiteral
  | expression
  | squareBrackets
  /-- A part of a path after two points. -/
  | pathSegment
  /-- What begins a parameter of an item. -/
  | parameter
  /-- The word that says what sort of item it is. -/
  | itemKeyword
  /-- What follows the name of a record. -/
  | recordBody
  | curlyBraces
  deriving DecidableEq

/-- The words for what has been expected. -/
def Expected.words : Expected → String
  | identifier => "expected identifier"
  | stringLiteral => "expected string literal"
  | expression => "expected an expression"
  | squareBrackets => "expected square brackets"
  | pathSegment => "expected path segment after `::`"
  | parameter => "expected one of: lifetime, identifier, `const`"
  | itemKeyword => "expected one of: `struct`, `enum`, `union`"
  | recordBody => "expected one of: `where`, parentheses, curly braces, `;`"
  | curlyBraces => "expected curly braces"

/-- A reason to derive nothing. -/
inductive Fault where
  /-- The text is no sequence of tokens. -/
  | unreadable
  | expected (what : Expected) (atEnd : Bool)
  /-- A keyword stands where a name should. -/
  | keyword (word : String)
  /-- A mark is missing. -/
  | expectedMark (mark : String)
  /-- Something follows that does not belong to an attribute. -/
  | unexpectedInBrackets
  /-- Something follows the item. -/
  | unexpected
  /-- The attribute has no arguments. -/
  | noArguments
  /-- The attribute has a value in place of arguments. -/
  | noParentheses
  | unknownKey
  | duplicateName
  | duplicateTime
  /-- The fields of the record have no names. -/
  | unnamedFields
  /-- The item is no record. -/
  | notRecord
  | missingName
  | emptyName
  /-- The field that should hold the time is not there. -/
  | missingField (name : String)
  deriving DecidableEq

/-- The text of a fault. -/
def Fault.message : Fault → String
  | unreadable => "cannot parse string into token stream"
  | expected what true => "unexpected end of input, " ++ what.words
  | expected what false => what.words
  | keyword word => "expected identifier, found keyword `" ++ word ++ "`"
  | expectedMark mark => "expected `" ++ mark ++ "`"
  | unexpectedInBrackets => "unexpected token, expected `]`"
  | unexpected => "unexpected token"
  | noArguments => "expected attribute arguments in parentheses: #[event(...)]"
  | noParentheses => "expected parentheses: #[event(...)]"
  | unknownKey => "unknown key; expected \x27name\x27 | \x27occurred_at\x27"
  | duplicateName => "duplicate key \x27name\x27 in attribute"
  | duplicateTime => "duplicate key \x27occurred_at\x27 in attribute"
  | unnamedFields => "#[derive(DomainEvent)] supports only named-field struct"
  | notRecord => "#[derive(DomainEvent)] only on struct"
  | missingName => "missing #[event(name = \"...\")]"
  | emptyName => "event name must not be empty"
  | missingField name =>
    "field `" ++ name ++
      "` not found; add an `occurred_at` field or use #[event(occurred_at = field.path)]"

end Derive
end Switchboard
