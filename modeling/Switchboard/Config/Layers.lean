import Switchboard.Config.Settings
import Switchboard.Config.Tree

/-!
# Layered settings

A loader holds layers of settings, the later over the earlier, and reads the settings of an
application from the merged tree.  The lowest layer usually holds the standard settings.  What no
layer mentions is standard anyway.

A fault names the path to the bad value.  If the layer it comes from was read from the environment,
the message says so.
-/

namespace Switchboard

namespace Tree

/-- The fields of the section on events. -/
def eventForm : RecordForm Tree Fault EventSettings :=
  ⟨"EventsConfig",
    [field "provider_type" asText fun e s => ⟨s, e.bufferSize, e.workers⟩,
      field "buffer_size" asNat fun e n => ⟨e.providerType, n, e.workers⟩,
      field "workers" asNat fun e n => ⟨e.providerType, e.bufferSize, n⟩]⟩

/-- The fields of the section on logging. -/
def logForm : RecordForm Tree Fault LogSettings :=
  ⟨"LoggingConfig",
    [field "kind" asText fun l s => ⟨s, l.level⟩,
      field "level" asText fun l s => ⟨l.kind, s⟩]⟩

/-- The fields of the section on sessions. -/
def sessionForm : RecordForm Tree Fault SessionSettings :=
  ⟨"SessionConfig", [field "refresh_ttl_secs" asInt fun _ n => ⟨n⟩]⟩

/-- The sections of the settings. -/
def settingsForm : RecordForm Tree Fault Settings :=
  ⟨"HeraldConfig",
    [field "events" (asRecord eventForm .standard) fun s e => ⟨e, s.logging, s.session⟩,
      field "logging" (asRecord logForm .standard) fun s l => ⟨s.events, l, s.session⟩,
      field "session" (asRecord sessionForm .standard) fun s t => ⟨s.events, s.logging, t⟩]⟩

/-- The settings that a tree holds. -/
def asSettings (t : Tree) : Except Fault Settings :=
  asRecord settingsForm .standard t

end Tree

/-- The tree of settings. -/
def Settings.toTree (s : Settings) : Tree :=
  .node
    [("events", .node
      [("buffer_size", .unsigned s.events.bufferSize),
        ("provider_type", .text s.events.providerType),
        ("workers", .unsigned s.events.workers)]),
      ("logging", .node [("kind", .text s.logging.kind), ("level", .text s.logging.level)]),
      ("session", .node
        [("refresh_ttl_secs",
          if s.session.refreshTtlSecs < 0 then .signed s.session.refreshTtlSecs
          else .unsigned s.session.refreshTtlSecs.toNat)])]

/-- Where a layer comes from. -/
inductive Origin where
  /-- The program itself. -/
  | program
  /-- Variables of the environment, all of one family if their names begin alike. -/
  | environment (family : Option String)
  deriving DecidableEq

/-- How an origin is named at the end of a message. -/
def Origin.shown : Origin → Option String
  | program => none
  | environment none => some "environment variable(s)"
  | environment (some family) => some ("`" ++ family ++ "` environment variable(s)")

/-- Settings from one origin. -/
structure Layer where
  origin : Origin
  tree : Tree

namespace Layer

/-- The layer that holds a value at a dotted path. -/
def atPath (path : String) (value : Tree) : Layer :=
  ⟨.program, .nest (Tree.dotted path) value⟩

/-- The layer of the standard settings. -/
def standard : Layer := ⟨.program, Settings.standard.toTree⟩

/-- Whether a tree has a value at a path. -/
def reaches : Tree → List String → Bool
  | _, [] => true
  | .node members, name :: path =>
    match Members.lookup name members with
    | some t => reaches t path
    | none => false
  | .list items, name :: path =>
    match name.toNat? with
    | some i =>
      match items[i]? with
      | some t => reaches t path
      | none => false
    | none => false
  | _, _ => false

end Layer

/-- Settings that cannot be read, and the origin of the bad value. -/
structure LayerFault where
  fault : Tree.Fault
  origin : Origin

namespace LayerFault

/-- What is wrong with the value. -/
def reason (f : LayerFault) : String :=
  f.fault.mismatch.message

/-- The path to the value, with dots. -/
def path (f : LayerFault) : String :=
  String.intercalate "." f.fault.path

/-- The text of the fault. -/
def message (f : LayerFault) : String :=
  match f.origin.shown with
  | none => f.reason
  | some origin =>
    f.reason ++
      (if f.fault.path = [] then "" else " for key " ++ Text.quoted (Text.upper f.path)) ++
      " in " ++ origin

end LayerFault

/-- Layers of settings, the lowest first. -/
structure Loader where
  layers : List Layer

namespace Loader

/-- Lay the layers over one another.  A layer must be a node. -/
def overlay : Tree → List Layer → Except LayerFault Tree
  | below, [] => .ok below
  | below, layer :: rest =>
    match layer.tree with
    | .node members => overlay (below.merge (.node members)) rest
    | t => .error ⟨⟨.wrongType t "map", []⟩, layer.origin⟩

/-- The merged tree. -/
def tree (l : Loader) : Except LayerFault Tree :=
  overlay (.node []) l.layers

/-- The origin of the value at a path: the last layer that has one there. -/
def originAt (l : Loader) (path : List String) : Origin :=
  match l.layers.reverse.find? fun layer => Layer.reaches layer.tree path with
  | some layer => layer.origin
  | none => .program

/-- The settings that the layers hold, whether or not an application can run with them. -/
def extract (l : Loader) : Except LayerFault Settings := do
  let t ← l.tree
  match t.asSettings with
  | .ok s => .ok s
  | .error f => .error ⟨f, l.originAt f.path⟩

end Loader
end Switchboard
