import Switchboard.Config.EnvText
import Switchboard.Config.Layers

/-!
# Settings from the environment

Six variables change the standard settings:

* `DOMAIN_EVENT_PROVIDER_TYPE`, `DOMAIN_EVENT_BUFFER_SIZE` and `DOMAIN_EVENT_WORKERS` the section on
  events, as does every variable whose name begins with `DOMAIN_EVENT_`,
* `LOGGER_TYPE` and `LOG_LEVEL` the section on logging,
* `SESSION_REFRESH_TTL_SECS` the section on sessions.

Names count without regard to case and to blanks at their ends.  A point in the name of an event
variable leads into the value; a variable with an empty name between points is passed over.
-/

namespace Switchboard

/-- The variables of a process, in the order in which they were set. -/
structure Environment where
  entries : List (String × String)

namespace Environment

/-- What the names of the variables on events begin with. -/
def eventFamily : String := "DOMAIN_EVENT_"

/-- The path that a variable on events sets. -/
def eventPath? (name : String) : Option (List String) :=
  let cs := (Text.trimmed name).toList
  let n := eventFamily.length
  if Text.sameLetters (String.ofList (cs.take n)) eventFamily then
    some ("events" :: Tree.dotted (Text.lower (String.ofList (cs.drop n))))
  else none

/-- The path that a variable sets which has the given name, and no other. -/
def ownPath? (own : String) (path : List String) (name : String) : Option (List String) :=
  if Text.sameLetters (Text.trimmed name) own then some path else none

/-- The tree of all variables whose names stand for paths; later ones lie over earlier ones. -/
def treeOf (path? : String → Option (List String)) (e : Environment) : Tree :=
  e.entries.foldl
    (fun t v =>
      match path? v.1 with
      | some path => if path.any String.isEmpty then t else t.merge (.nest path (EnvText.read v.2))
      | none => t)
    (.node [])

/-- The layers that the environment adds to the standard settings. -/
def layers (e : Environment) : List Layer :=
  [⟨.environment (some eventFamily), e.treeOf eventPath?⟩,
    ⟨.environment none, e.treeOf (ownPath? "LOGGER_TYPE" ["logging", "kind"])⟩,
    ⟨.environment none, e.treeOf (ownPath? "LOG_LEVEL" ["logging", "level"])⟩,
    ⟨.environment none,
      e.treeOf (ownPath? "SESSION_REFRESH_TTL_SECS" ["session", "refresh_ttl_secs"])⟩]

/-- The loader for an environment: its variables over the standard settings. -/
def loader (e : Environment) : Loader :=
  ⟨Layer.standard :: e.layers⟩

end Environment
end Switchboard
