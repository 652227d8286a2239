import Switchboard.SetupError
import Switchboard.Text.Blank
import Switchboard.Logging.TraceLine
import Switchboard.Json.Decode

/-!
# Log levels

Five levels in ascending severity.  Names are read without regard to case and to blanks at either
end, and `WARN` is a second name of `WARNING`.  Where a name comes from configuration it must never
stop an application from starting: `Level.orInfo` takes any text, falls back to `INFO` and reports
the text it could not read.
-/

namespace Switchboard

/-- The severity of a log record. -/
inductive Level where
  | debug
  | info
  | warning
  | error
  | critical
  deriving DecidableEq

namespace Level

instance : Inhabited Level := ⟨info⟩

/-- The rank of a level, in ascending severity. -/
def rank : Level → Nat
  | debug => 0
  | info => 1
  | warning => 2
  | error => 3
  | critical => 4

instance : LE Level := ⟨fun a b => a.rank ≤ b.rank⟩

instance : LT Level := ⟨fun a b => a.rank < b.rank⟩

instance (a b : Level) : Decidable (a ≤ b) :=
  inferInstanceAs (Decidable (a.rank ≤ b.rank))

instance (a b : Level) : Decidable (a < b) :=
  inferInstanceAs (Decidable (a.rank < b.rank))

/-- The name of a level. -/
def name : Level → String
  | debug => "DEBUG"
  | info => "INFO"
  | warning => "WARNING"
  | error => "ERROR"
  | critical => "CRITICAL"

/-- All levels, in ascending severity. -/
def all : List Level :=
  [debug, info, warning, error, critical]

/-- The level with exactly that name. -/
def ofName? (s : String) : Option Level :=
  all.find? fun l => l.name == s

/-- The more severe of two levels. -/
def max (a b : Level) : Level :=
  if a ≤ b then b else a

/-- The text that counts when a level is named: without blanks at its ends, letters in upper
case. -/
def canonical (s : String) : String :=
  Text.upper (Text.trimmed s)

/-- Read the name of a level. -/
def parse (s : String) : Except SetupError Level :=
  let key := canonical s
  if key = "WARN" then .ok warning
  else match ofName? key with
    | some l => .ok l
    | none => .error (.unknownLevel key)

/-- The warning about a text that names no level. -/
def unrecognized (raw : String) : TraceLine :=
  ⟨.warn, "log level not recognized, using INFO by default", [("raw", .str raw)]⟩

/-- Read the name of a level, `INFO` standing in for a text that names none; such a text is
reported. -/
def orInfo (s : String) : Level × List TraceLine :=
  match parse s with
  | .ok l => (l, [])
  | .error _ => (info, [unrecognized s])

/-- The rank of a trace line that carries a record of this level. -/
def traceRank : Level → TraceRank
  | debug => .debug
  | info => .info
  | warning => .warn
  | error => .error
  | critical => .error

/-- The level with exactly that name, as data names it. -/
def ofVariant (s : String) : Except Json.Fault Level :=
  match ofName? s with
  | some l => .ok l
  | none => .error (.unknownVariant s (all.map name))

/-- The data that stands for a level. -/
def toJson (l : Level) : Json := .str l.name

/-- Read a level from data: its name, or an object whose only member has that name and no value. -/
def ofJson : Json → Except Json.Fault Level
  | .str s => ofVariant s
  | .obj [(key, value)] => do
    let l ← ofVariant key
    match value with
    | .null => .ok l
    | v => .error (.wrongType v "unit")
  | .obj _ => .error .notSingle
  | v => .error (.wrongType v "string or map")

theorem ofName?_name (l : Level) : ofName? l.name = some l := by
  cases l <;> rfl

end Level
end Switchboard
