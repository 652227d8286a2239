import Switchboard.Json.Printer

/-!
# Keeping log data small

Log records carry whatever data their writers attach.  Before data leaves for the trace it is cut
down: long strings lose their tail, long arrays keep their first items and say how many there were,
and what is nested too deep is summarised by its size.  Objects keep all their keys.

The wrapping of a long array does not count as a level of nesting.
-/

namespace Switchboard

/-- How much of a log record's data is kept. -/
structure Sanitizer where
  /-- Characters of a string that are kept. -/
  maxText : Nat
  /-- Items of an array that are kept. -/
  maxItems : Nat
  /-- Levels of nesting that are kept. -/
  maxDepth : Nat
  deriving DecidableEq

namespace Sanitizer

/-- The limits in use when none are given. -/
def standard : Sanitizer := ⟨500, 5, 2⟩

/-- A string cut to the limit, with three dots in place of what is lost. -/
def cut (z : Sanitizer) (s : String) : String :=
  if s.length ≤ z.maxText then s else String.ofList (s.toList.take z.maxText) ++ "..."

/-- What stands for an array that is nested too deep. -/
def arraySummary (size : Nat) : String :=
  "<array: " ++ toString size ++ " items>"

/-- What stands for an object that is nested too deep. -/
def objectSummary (size : Nat) : String :=
  "<object: " ++ toString size ++ " keys>"

/-- What stands for an array with too many items: the first ones and the true length. -/
def shortened (size : Nat) (kept : List Json) : Json :=
  .object [("_length", .int size), ("_elements", .arr kept), ("_truncated", .bool true)]

mutual

/-- Cut down a value that stands at the given level of nesting. -/
def sanitizeAt (z : Sanitizer) (depth : Nat) : Json → Json
  | .str s => .str (z.cut s)
  | .arr items =>
    if z.maxDepth ≤ depth then .str (arraySummary items.length)
    else
      let kept := sanitizeItems z (depth + 1) z.maxItems items
      if z.maxItems < items.length then shortened items.length kept else .arr kept
  | .obj members =>
    if z.maxDepth ≤ depth then .str (objectSummary members.length)
    else .obj (sanitizeMembers z (depth + 1) members)
  | v => v

/-- Cut down the first `count` items of an array. -/
def sanitizeItems (z : Sanitizer) (depth : Nat) : Nat → List Json → List Json
  | 0, _ => []
  | _ + 1, [] => []
  | count + 1, v :: rest => sanitizeAt z depth v :: sanitizeItems z depth count rest

/-- Cut down the members of an object. -/
def sanitizeMembers (z : Sanitizer) (depth : Nat) : List (String × Json) → List (String × Json)
  | [] => []
  | (k, v) :: rest => (k, sanitizeAt z depth v) :: sanitizeMembers z depth rest

end

/-- Cut down a value. -/
def sanitize (z : Sanitizer) (v : Json) : Json :=
  z.sanitizeAt 0 v

end Sanitizer
end Switchboard
