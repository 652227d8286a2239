import Switchboard.Logging.Tracing

/-!
# Which trace lines are shown

A filter is a list of directives, each with a rank up to which lines are shown, and perhaps with a
target that it is about.  The target of a line says which part of the program it comes from.  Of all
directives whose target begins the target of a line, the one with the longest target decides; a line
that no directive is about is not shown.  Where two directives have the same target, the later one
counts.

In the text of a filter, directives stand between commas: a rank, a target, or both with an equals
sign between them.  Directives that cannot be read are passed over.  Only if none is left does the
default come in.
-/

namespace Switchboard

/-- One rule of a filter.  Without a target it is about every line; without a rank it shows
nothing. -/
structure Directive where
  target : Option String
  upTo : Option TraceRank
  deriving DecidableEq

namespace Directive

/-- Read a rank: a name in any case, or a number from 0, which shows nothing, to 5. -/
def rank? (s : String) : Option (Option TraceRank) :=
  let names : List (String × Option TraceRank) :=
    [("off", none), ("error", some .error), ("warn", some .warn), ("info", some .info),
      ("debug", some .debug), ("trace", some .trace), ("0", none), ("1", some .error),
      ("2", some .warn), ("3", some .info), ("4", some .debug), ("5", some .trace)]
  (names.find? fun n => n.1 == Text.lower s).map Prod.snd

/-- Whether a target can begin with this character. -/
def startsTarget (c : Char) : Bool :=
  c.isAlphanum || 0x80 ≤ c.toNat || c == '-' || c == ':' || c == '_'

/-- Read one directive. -/
def parse? (s : String) : Option Directive :=
  let cs := Text.trim s.toList
  let target := String.ofList (cs.takeWhile (· != '='))
  match cs with
  | [] => none
  | c :: _ =>
    if ¬ startsTarget c ∨ '[' ∈ cs then none
    else match cs.dropWhile (· != '=') with
      | [] =>
        match rank? target with
        | some upTo => some ⟨none, upTo⟩
        | none => some ⟨some target, some .trace⟩
      | [_] => some ⟨some target, some .trace⟩
      | _ :: level => (rank? (String.ofList level)).map fun upTo => ⟨some target, upTo⟩

/-- Whether a directive is about lines of a target. -/
def isAbout (d : Directive) (target : String) : Bool :=
  match d.target with
  | none => true
  | some t => t.toList.isPrefixOf target.toList

/-- How specific a directive is: the length of its target, more than none for the empty one. -/
def specificity (d : Directive) : Nat :=
  match d.target with
  | none => 0
  | some t => t.length + 1

end Directive

/-- A filter of trace lines. -/
structure TraceFilter where
  directives : List Directive
  deriving DecidableEq

namespace TraceFilter

/-- The pieces of a text between its commas. -/
def pieces (s : String) : List String :=
  let step (c : Char) (acc : List (List Char)) : List (List Char) :=
    match c, acc with
    | ',', acc => [] :: acc
    | c, w :: rest => (c :: w) :: rest
    | c, [] => [[c]]
  (s.toList.foldr step [[]]).map String.ofList

/-- The filter of a text, which may be missing; the default applies if the text has no directive
that can be read. -/
def ofText (default : TraceRank) (text : Option String) : TraceFilter :=
  match (pieces (text.getD "")).filterMap Directive.parse? with
  | [] => ⟨[⟨none, some default⟩]⟩
  | ds => ⟨ds⟩

/-- The directive that decides about lines of a target: the most specific one, and of those with the
same target the last. -/
def deciding? (f : TraceFilter) (target : String) : Option Directive :=
  (f.directives.filter (·.isAbout target)).foldl
    (fun best d =>
      match best with
      | none => some d
      | some b => if b.specificity ≤ d.specificity then some d else some b)
    none

/-- Whether a line of a rank and a target is shown. -/
def shows (f : TraceFilter) (target : String) (rank : TraceRank) : Bool :=
  match f.deciding? target with
  | none => false
  | some d =>
    match d.upTo with
    | none => false
    | some limit => limit.urgency ≤ rank.urgency

end TraceFilter

/-- The target of the lines that a tracing log writes. -/
def TracingLog.target : String :=
  "herald_domain::logging::tracing_provider"

/-- The one place of a process where a filter can be installed.  It takes the first and refuses all
others. -/
structure TraceOutlet where
  installed : Option TraceFilter

namespace TraceOutlet

/-- An outlet without a filter. -/
def fresh : TraceOutlet := ⟨none⟩

/-- Install the filter for a level and a filter text; `none` if there is one already. -/
def install? (o : TraceOutlet) (level : Level) (text : Option String) : Option TraceOutlet :=
  match o.installed with
  | some _ => none
  | none => some ⟨some (TraceFilter.ofText level.traceRank text)⟩

/-- The text of the refusal to install a second filter. -/
def refusal : String :=
  "a global default trace dispatcher has already been set"

/-- Whether a line comes out. -/
def emits (o : TraceOutlet) (target : String) (line : TraceLine) : Bool :=
  match o.installed with
  | none => false
  | some f => f.shows target line.rank

/-- The text of a line that has come out: its message and its fields. -/
def lineText (line : TraceLine) : String :=
  let field (f : String × Json) : String :=
    f.1 ++ "=" ++ match f.2 with
      | .str s => s
      | v => v.compact
  String.intercalate " " (line.message :: line.fields.map field)

end TraceOutlet
end Switchboard
