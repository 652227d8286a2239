import Switchboard.Proofs.Application.Registrations
import Switchboard.Proofs.Eventing.Reached
import Switchboard.Proofs.Scenario.BusStep
import Switchboard.Scenario.Play

/-!
# Assembly stops at the first factory that fails

Factories are run one after the other, and each looks up what those before it, or the hub at the
beginning, have registered.  `Factory.Grants` says under which conditions a factory succeeds, what it
registers then and what the collaborators are that it has made; `Factory.Fails` says under which
conditions it fails, and with which error.  Every factory does one or the other (`Factory.run_spec`)
and never both (`Factory.Grants.not_fails`), and one that fails leaves the hub as it was.

`Scenario.World.assembly` is what follows for a list of factories.  The hub at the end is the hub at the
beginning with the registrations of all factories before the first that fails, in their order, and the
answer is the error of that one.

## Two validations

Loading settings validates them, and so does making a bus.  Settings that a factory has loaded are
therefore never the reason for which a bus cannot be made; only settings that were in the hub at the
beginning can be.
-/

namespace Switchboard

/-! ## What is registered -/

namespace AppHub

/-- The settings that are registered. -/
def settings? (h : AppHub) : Option Settings :=
  h.find? .settings

/-- The number of the logger that is registered. -/
def logger? (h : AppHub) : Option Nat :=
  h.find? .logger

theorem need_eq_ok {h : AppHub} {k : Slot} {v : k.Value} (hv : h.find? k = some v) :
    h.need k = .ok v := by
  rw [need, Hub.get, hv]

theorem need_eq_error {h : AppHub} {k : Slot} (hnone : h.find? k = none) :
    h.need k = .error (.providerNotFound k.typeName) := by
  rw [need, Hub.get, hnone]

end AppHub

/-! ## Validation -/

/-- Settings of a bus are refused for a reason. -/
theorem DispatcherConfig.invalidConfig_of_validate {c : DispatcherConfig} {e : SetupError}
    (h : c.validate = .error e) : ∃ reason, e = .invalidConfig reason := by
  rw [validate] at h
  split at h
  · exact ⟨_, (Except.error.inj h).symm⟩
  · split at h
    · exact ⟨_, (Except.error.inj h).symm⟩
    · split at h
      · exact ⟨_, (Except.error.inj h).symm⟩
      · cases h

/-- Settings that have been loaded are settings of which a bus can be made. -/
theorem Loader.validate_of_load {l : Loader} {now : Instant} {s : Settings}
    (h : l.load now = .ok s) : s.events.dispatcher.validate = .ok () := by
  rw [load] at h
  cases hread : l.extract with
  | error f =>
    rw [hread] at h
    cases h
  | ok t =>
    rw [hread] at h
    cases hv : t.validate now with
    | error e =>
      simp only [Except.mapError, bind, Except.bind, hv] at h
      cases h
    | ok u =>
      simp only [Except.mapError, bind, Except.bind, hv] at h
      cases h
      cases hbus : s.events.dispatcher.validate with
      | ok u => rfl
      | error e =>
        rw [Settings.validate, hbus] at hv
        cases hv

/-! ## One factory -/

namespace Application

variable {H : Type}

/-- One error has been written to a logger, and nothing else to any: a memory log has one record
more, and a tracing log has added one line to the trace. -/
def ErrorWritten (a c : Application H) (logger : Nat) (message : String) (data : Json) : Prop :=
  (∀ log, a.loggers[logger]? = some (.memory log) →
    c.loggers = a.loggers.set logger
        (.memory ⟨log.level, log.records ++ [⟨.error, message, data⟩]⟩) ∧ c.trace = a.trace) ∧
  ∀ log, a.loggers[logger]? = some (.tracing log) →
    c.loggers = a.loggers ∧ c.trace = a.trace ++ [log.line .error message data]

/-- Loggers and their trace are as they were. -/
def Silent (a c : Application H) : Prop :=
  c.loggers = a.loggers ∧ c.trace = a.trace

/-- An error is never dropped. -/
theorem errorWritten_write (a : Application H) (logger : Nat) (message : String) (data : Json) :
    ErrorWritten a (a.write logger .error message data) logger message data := by
  constructor
  · intro log hlog
    rw [write, hlog]
    exact ⟨rfl, List.append_nil _⟩
  · intro log hlog
    obtain ⟨hlt, hget⟩ := List.getElem?_eq_some_iff.1 hlog
    rw [write, hlog]
    refine ⟨?_, rfl⟩
    show a.loggers.set logger (.tracing log) = a.loggers
    rw [← hget, List.set_getElem_self]

end Application

namespace Factory

variable {H : Type} {now : Instant} {a c : Application H}

/-- A factory succeeds in an application: the conditions, what it registers, and what the collaborators
are that it has made.  They have numbers that nothing had before. -/
inductive Grants (now : Instant) (a c : Application H) :
    Factory → List (Sigma Slot.Value) → Prop where
  | config {loader : Loader} {s : Settings} (loaded : loader.load now = .ok s) :
    Grants now a c (.config loader) [⟨.loader, loader⟩, ⟨.settings, s⟩]
  | tracing {looked : Option LogSettings} {s : Settings}
    (set : a.hub.settings? = some s) (kind : s.logging.kind = "tracing")
    (made : c.loggers = a.loggers ++ [.tracing (.new s.logging.readLevel.1)]) :
    Grants now a c (.logger looked) [⟨.logger, a.loggers.length⟩]
  | memory {looked : Option LogSettings} {s : Settings}
    (set : a.hub.settings? = some s) (kind : s.logging.kind = "memory")
    (made : c.loggers = a.loggers ++ [.memory (.new s.logging.readLevel.1)]) :
    Grants now a c (.logger looked) [⟨.logger, a.loggers.length⟩]
  | events {looked : Option EventSettings} {found : Option Nat} {s : Settings} {logger : Nat}
    {b : Bus H} (set : a.hub.settings? = some s) (logged : a.hub.logger? = some logger)
    (kind : s.events.providerType = "in-memory") (valid : s.events.dispatcher.validate = .ok ())
    (made : c.buses = a.buses ++ [⟨b, logger⟩]) (config : b.config = s.events.dispatcher)
    (phase : b.phase = .collecting) :
    Grants now a c (.events looked found) [⟨.events, a.buses.length⟩]
  | serverEvents {id : String} (made : c.centers = a.centers ++ [.new id]) :
    Grants now a c (.serverEvents id) [⟨.serverEvents, a.centers.length⟩]

/-- A factory fails in an application: the conditions, the error, and what it leaves in the logs. -/
inductive Fails (now : Instant) (a c : Application H) : Factory → ServiceError → Prop where
  /-- The settings cannot be loaded. -/
  | load {loader : Loader} {e : ServiceError} (failed : loader.load now = .error e)
    (silent : a.Silent c) : Fails now a c (.config loader) e
  /-- A logger needs settings. -/
  | loggerUnset {looked : Option LogSettings} (unset : a.hub.settings? = none)
    (silent : a.Silent c) :
    Fails now a c (.logger looked) (.setup (.providerNotFound Slot.settings.typeName))
  /-- There is no such kind of logger. -/
  | loggerKind {looked : Option LogSettings} {s : Settings}
    (set : a.hub.settings? = some s)
    (kind : s.logging.kind ≠ "tracing" ∧ s.logging.kind ≠ "memory")
    (unlogged : c.loggers = a.loggers) :
    Fails now a c (.logger looked) (.setup (.unknownProvider ("logger:" ++ s.logging.kind)))
  /-- A bus needs settings in the first place. -/
  | eventsUnset {looked : Option EventSettings} {found : Option Nat}
    (unset : a.hub.settings? = none) (silent : a.Silent c) :
    Fails now a c (.events looked found) (.setup (.providerNotFound Slot.settings.typeName))
  /-- And it needs a logger. -/
  | eventsUnlogged {looked : Option EventSettings} {found : Option Nat} {s : Settings}
    (set : a.hub.settings? = some s) (unlogged : a.hub.logger? = none)
    (silent : a.Silent c) :
    Fails now a c (.events looked found) (.setup (.providerNotFound Slot.logger.typeName))
  /-- There is no such kind of bus, which is logged. -/
  | eventsKind {looked : Option EventSettings} {found : Option Nat} {s : Settings} {logger : Nat}
    (set : a.hub.settings? = some s) (logged : a.hub.logger? = some logger)
    (kind : s.events.providerType ≠ "in-memory")
    (written : a.ErrorWritten c logger "invalid domain event provider type"
      (.object [("type", .str s.events.providerType)])) :
    Fails now a c (.events looked found) (.setup (.unknownProvider s.events.providerType))
  /-- A bus cannot be made of the settings. -/
  | eventsInvalid {looked : Option EventSettings} {found : Option Nat} {s : Settings} {logger : Nat}
    {reason : SettingFault} (set : a.hub.settings? = some s)
    (logged : a.hub.logger? = some logger) (kind : s.events.providerType = "in-memory")
    (invalid : s.events.dispatcher.validate = .error (.invalidConfig reason))
    (silent : a.Silent c) :
    Fails now a c (.events looked found) (.setup (.invalidConfig reason))

/-- What a factory registers is determined. -/
theorem Grants.unique {c d : Application H} {f : Factory} {rs rs' : List (Sigma Slot.Value)}
    (h : Grants now a c f rs) (h' : Grants now a d f rs') : rs = rs' := by
  cases h <;> cases h' <;> simp_all

/-- No factory succeeds under conditions under which it fails. -/
theorem Grants.not_fails {c d : Application H} {f : Factory} {rs : List (Sigma Slot.Value)}
    (h : Grants now a c f rs) (e : ServiceError) : ¬ Fails now a d f e := by
  intro hf
  cases h <;> cases hf <;> simp_all

/-- A factory fails with one error only. -/
theorem Fails.unique {c d : Application H} {f : Factory} {e e' : ServiceError}
    (h : Fails now a c f e) (h' : Fails now a d f e') : e = e' := by
  cases h <;> cases h' <;> simp_all

/-- The settings in the hub are those that were there, if none are registered, or a bus can be made of
them. -/
theorem Grants.settings_cases {f : Factory} {rs : List (Sigma Slot.Value)} (h : Grants now a c f rs)
    {s : Settings} (hs : (a.hub.registerAll rs).find? .settings = some s) :
    ((∀ loader, .config loader ≠ f) ∧ a.hub.settings? = some s) ∨
      s.events.dispatcher.validate = .ok () := by
  rw [Hub.find?_registerAll] at hs
  cases h with
  | config loaded =>
    have hsame := Option.some.inj (show some _ = some s from hs)
    exact .inr (hsame ▸ Loader.validate_of_load loaded)
  | _ => exact .inl ⟨fun loader => Factory.noConfusion, hs⟩

theorem run_logger {s : Settings} (set : a.hub.settings? = some s) (looked : Option LogSettings) :
    (Factory.logger looked).run now a =
      ((registerLogger s.logging a).1, (registerLogger s.logging a).2.map .setup) := by
  rw [run, init, AppHub.need_eq_ok set]
  rfl

theorem run_logger_unset (unset : a.hub.settings? = none) (looked : Option LogSettings) :
    (Factory.logger looked).run now a =
      (a, some (.setup (.providerNotFound Slot.settings.typeName))) := by
  rw [run, init, AppHub.need_eq_error unset]
  rfl

theorem run_events {s : Settings} {logger : Nat} (set : a.hub.settings? = some s)
    (logged : a.hub.logger? = some logger) (looked : Option EventSettings) (found : Option Nat) :
    (Factory.events looked found).run now a =
      ((registerBus s.events logger a).1, (registerBus s.events logger a).2.map .setup) := by
  rw [run, init, AppHub.need_eq_ok set, AppHub.need_eq_ok logged]
  rfl

theorem run_events_unset (unset : a.hub.settings? = none) (looked : Option EventSettings)
    (found : Option Nat) :
    (Factory.events looked found).run now a =
      (a, some (.setup (.providerNotFound Slot.settings.typeName))) := by
  rw [run, init, AppHub.need_eq_error unset]
  rfl

theorem run_events_unlogged {s : Settings} (set : a.hub.settings? = some s)
    (unlogged : a.hub.logger? = none) (looked : Option EventSettings) (found : Option Nat) :
    (Factory.events looked found).run now a =
      (a, some (.setup (.providerNotFound Slot.logger.typeName))) := by
  rw [run, init, AppHub.need_eq_ok set, AppHub.need_eq_error unlogged]
  rfl

/-- A bus that has been made has its workers started, and nothing else in the application changes. -/
theorem registerBus_of_valid {s : EventSettings} (kind : s.providerType = "in-memory")
    (valid : s.dispatcher.validate = .ok ()) (logger : Nat) (a : Application H) :
    ∃ b : Bus H, b.config = s.dispatcher ∧ b.phase = .collecting ∧ ∃ due,
      registerBus s logger a =
        ({ a with
            hub := a.hub.register .events a.buses.length
            buses := a.buses ++ [⟨b, logger⟩]
            due := due }, none) := by
  obtain ⟨fresh, hnew⟩ : ∃ fresh : Bus H, Bus.new? s.dispatcher = .ok fresh := by
    rw [Bus.new?]
    split
    · exact ⟨_, rfl⟩
    · rename_i e he
      rw [valid] at he
      cases he
  have hfresh : fresh.config = s.dispatcher ∧ fresh.phase = .constructed := by
    obtain ⟨hvalid, rfl⟩ := Bus.eq_of_new? hnew
    exact ⟨rfl, rfl⟩
  have hcollect : ∃ b, b.config = fresh.config ∧ b.phase = .collecting ∧
      fresh.step (.collect true) =
        some (b, (List.range fresh.config.workers).map fun i => .wake (.worker i)) := by
    refine ⟨{ fresh with
      phase := .collecting, crew := List.replicate fresh.config.workers .ready }, rfl, rfl, ?_⟩
    rw [Bus.step, Bus.collect, if_neg (by simp), if_pos hfresh.2]
  obtain ⟨b, hconfig, hphase, hstep⟩ := hcollect
  have hsilent (c : Application H) :
      c.transcribe logger ((List.range fresh.config.workers).map fun i => .wake (.worker i)) = c := by
    induction List.range fresh.config.workers with
    | nil => rfl
    | cons i rest ih => exact ih
  have hset : (a.buses ++ [(⟨fresh, logger⟩ : HostedBus H)]).set a.buses.length ⟨b, logger⟩ =
      a.buses ++ [⟨b, logger⟩] := by
    rw [List.set_append_right _ _ (Nat.le_refl _), Nat.sub_self]
    rfl
  refine ⟨b, hconfig.trans hfresh.1, hphase, (registerBus s logger a).1.due, ?_⟩
  rw [registerBus, if_pos kind, hnew]
  simp only [Application.addBus, Application.register, Application.stepBus, Application.stepBus?,
    List.getElem?_concat_length, hstep, Option.map_some, Option.getD_some, Application.absorb_eq,
    hsilent, hset]

theorem registerBus_of_invalid {s : EventSettings} {e : SetupError}
    (kind : s.providerType = "in-memory") (invalid : s.dispatcher.validate = .error e)
    (logger : Nat) (a : Application H) : registerBus s logger a = (a, some e) := by
  have hnew : (Bus.new? s.dispatcher : Except SetupError (Bus H)) = .error e := by
    rw [Bus.new?]
    split
    · rename_i hvalid
      rw [invalid] at hvalid
      cases hvalid
    · rename_i e' he
      rw [invalid] at he
      cases he
      rfl
  rw [registerBus, if_pos kind, hnew]

/-- **A factory succeeds or fails.**  If it succeeds its registrations are in the hub; if it fails the
hub is as it was. -/
theorem run_spec (now : Instant) (a : Application H) (f : Factory) (due : List (Nat × Effect H)) :
    ((f.run now a).2 = none ∧ ∃ rs, Grants now a { (f.run now a).1 with due := due } f rs ∧
      (f.run now a).1.hub = a.hub.registerAll rs) ∨
    ∃ e, (f.run now a).2 = some e ∧ Fails now a { (f.run now a).1 with due := due } f e ∧
      (f.run now a).1.hub = a.hub := by
  cases f with
  | config loader =>
    cases hload : loader.load now with
    | ok s =>
      have hrun : (Factory.config loader).run now a =
          ((a.register .loader loader).register .settings s, none) := by
        show registerSettings loader now a = _
        rw [registerSettings, hload]
      rw [hrun]
      exact .inl ⟨rfl, _, .config hload, rfl⟩
    | error e =>
      have hrun : (Factory.config loader).run now a = (a, some e) := by
        show registerSettings loader now a = _
        rw [registerSettings, hload]
      rw [hrun]
      exact .inr ⟨e, rfl, .load hload ⟨rfl, rfl⟩, rfl⟩
  | logger looked =>
    cases hset : a.hub.settings? with
    | none =>
      rw [run_logger_unset hset]
      exact .inr ⟨_, rfl, .loggerUnset hset ⟨rfl, rfl⟩, rfl⟩
    | some s =>
      rw [run_logger hset, registerLogger, loggerOf]
      by_cases htracing : s.logging.kind = "tracing"
      · rw [if_pos htracing]
        exact .inl ⟨rfl, _, .tracing hset htracing rfl, rfl⟩
      · by_cases hmemory : s.logging.kind = "memory"
        · rw [if_neg htracing, if_pos hmemory]
          exact .inl ⟨rfl, _, .memory hset hmemory rfl, rfl⟩
        · rw [if_neg htracing, if_neg hmemory]
          exact .inr ⟨_, rfl, .loggerKind hset ⟨htracing, hmemory⟩ rfl, rfl⟩
  | events looked found =>
    cases hset : a.hub.settings? with
    | none =>
      rw [run_events_unset hset]
      exact .inr ⟨_, rfl, .eventsUnset hset ⟨rfl, rfl⟩, rfl⟩
    | some s =>
      cases hlogged : a.hub.logger? with
      | none =>
        rw [run_events_unlogged hset hlogged]
        exact .inr ⟨_, rfl, .eventsUnlogged hset hlogged ⟨rfl, rfl⟩, rfl⟩
      | some logger =>
        rw [run_events hset hlogged]
        by_cases hkind : s.events.providerType = "in-memory"
        · cases hvalid : s.events.dispatcher.validate with
          | ok u =>
            obtain ⟨b, hconfig, hphase, later, hbus⟩ := registerBus_of_valid hkind hvalid logger a
            rw [hbus]
            exact .inl ⟨rfl, _, .events hset hlogged hkind hvalid rfl hconfig hphase, rfl⟩
          | error e =>
            obtain ⟨reason, rfl⟩ := DispatcherConfig.invalidConfig_of_validate hvalid
            rw [registerBus_of_invalid hkind hvalid]
            exact .inr ⟨_, rfl, .eventsInvalid hset hlogged hkind hvalid ⟨rfl, rfl⟩, rfl⟩
        · obtain ⟨loggers, trace, hwrite⟩ := a.write_eq logger .error
            "invalid domain event provider type" (.object [("type", .str s.events.providerType)])
          have hwritten := a.errorWritten_write logger "invalid domain event provider type"
            (.object [("type", .str s.events.providerType)])
          rw [hwrite] at hwritten
          rw [registerBus, if_neg hkind, hwrite]
          exact .inr ⟨_, rfl, .eventsKind hset hlogged hkind hwritten, rfl⟩
  | serverEvents id => exact .inl ⟨rfl, _, .serverEvents rfl, rfl⟩

end Factory

namespace Scenario

/-- A factory that looks up what it depends on before it makes anything. -/
def Enlisted.ready (f : Factory) : Enlisted := ⟨f, true⟩

namespace World

/-- Factories have been run in a world, one after the other, and each has succeeded in the world that
the one before it has left.  Their registrations are listed in the order in which they were made. -/
inductive Assembled : World → List Factory → List (Sigma Slot.Value) → World → Prop where
  | nil (w : World) : Assembled w [] [] w
  | cons {w v u : World} {f : Factory} {rest : List Factory} {rs more : List (Sigma Slot.Value)}
    (done : w.enlist [.ready f] = (v, .done)) (grants : f.Grants w.now w.app v.app rs)
    (later : Assembled v rest more u) : Assembled w (f :: rest) (rs ++ more) u

/-- One factory. -/
theorem enlist_ready (w : World) (f : Factory) :
    (∃ v rs, w.enlist [.ready f] = (v, .done) ∧ f.Grants w.now w.app v.app rs ∧
      v.app.hub = w.app.hub.registerAll rs ∧
      ∀ rest, w.enlist (.ready f :: rest) = v.enlist rest) ∨
    ∃ v e, w.enlist [.ready f] = (v, .failed e) ∧ f.Fails w.now w.app v.app e ∧
      v.app.hub = w.app.hub ∧ ∀ rest, w.enlist (.ready f :: rest) = (v, .failed e) := by
  have happ : ({ w with app := (f.run w.now w.app).1 } : World).settleDue.app =
      { (f.run w.now w.app).1 with due := [] } := app_settleDue _
  rcases f.run_spec w.now w.app [] with ⟨hnone, rs, hgrants, hhub⟩ | ⟨e, hsome, hfails, hhub⟩
  · refine .inl ⟨({ w with app := (f.run w.now w.app).1 } : World).settleDue, rs, ?_, ?_, ?_, ?_⟩
    · simp only [enlist, Enlisted.ready, if_true, hnone]
    · rw [happ]
      exact hgrants
    · rw [happ]
      exact hhub
    · intro rest
      simp only [enlist, Enlisted.ready, if_true, hnone]
  · refine .inr ⟨({ w with app := (f.run w.now w.app).1 } : World).settleDue, e, ?_, ?_, ?_, ?_⟩
    · simp only [enlist, Enlisted.ready, if_true, hsome]
    · rw [happ]
      exact hfails
    · rw [happ]
      exact hhub
    · intro rest
      simp only [enlist, Enlisted.ready, if_true, hsome]

/-- A factory fails exactly under its conditions. -/
theorem enlist_eq_failed_iff (w : World) (f : Factory) (e : ServiceError) :
    (w.enlist [.ready f]).2 = .failed e ↔
      f.Fails w.now w.app (w.enlist [.ready f]).1.app e := by
  rcases w.enlist_ready f with ⟨v, rs, hrun, hgrants, -⟩ | ⟨v, e', hrun, hfails, -⟩
  · rw [hrun]
    exact ⟨fun h => Reply.noConfusion h, fun h => absurd h (hgrants.not_fails e)⟩
  · rw [hrun]
    constructor
    · intro h
      cases h
      exact hfails
    · intro h
      rw [h.unique hfails]

namespace Assembled

variable {w v : World} {fs : List Factory} {rs : List (Sigma Slot.Value)}

/-- All that has been registered is in the hub. -/
theorem hub_eq (h : Assembled w fs rs v) : v.app.hub = w.app.hub.registerAll rs := by
  induction h with
  | nil w => rfl
  | @cons w v u f rest rs more done grants later ih =>
    rcases w.enlist_ready f with ⟨v', rs', hrun, hgrants, hhub, -⟩ | ⟨v', e, hrun, -⟩
    · rw [done] at hrun
      cases hrun
      rw [ih, hhub, hgrants.unique grants, Hub.registerAll_append]
    · rw [done] at hrun
      cases hrun

/-- The settings in the hub have been there from the beginning, if no factory has loaded any, or a bus
can be made of them. -/
theorem settings_cases (h : Assembled w fs rs v) {s : Settings} (hs : v.app.hub.settings? = some s) :
    ((∀ loader, .config loader ∉ fs) ∧ w.app.hub.settings? = some s) ∨
      s.events.dispatcher.validate = .ok () := by
  induction h with
  | nil w => exact .inl ⟨fun loader => List.not_mem_nil, hs⟩
  | @cons w v u f rest rs more done grants later ih =>
    rcases ih hs with ⟨hnone, hset⟩ | hvalid
    · have hhub := (Assembled.cons done grants (.nil v)).hub_eq
      rw [List.append_nil] at hhub
      rw [hhub] at hset
      refine (grants.settings_cases hset).imp_left fun hfirst => ⟨fun loader hmem => ?_, hfirst.2⟩
      rcases List.mem_cons.1 hmem with heq | hmem
      · exact hfirst.1 loader heq
      · exact hnone loader hmem
    · exact .inr hvalid

end Assembled

/-- **Assembly stops at the first factory that fails, and the hub shows nothing of that one.**  Either
all factories succeed, the answer is that it is done, and all that they register is in the hub.  Or some
factories succeed and the next one fails; then the answer is the error of that one, and in the hub is
what those before it have registered, and nothing else beyond what was there.

After any factories that have succeeded, the next one fails exactly under the conditions of
`Factory.Fails`; that no bus can be made of the settings is possible only if they are those of the hub at
the beginning and no factory has loaded any. -/
theorem assembly (w : World) (fs : List Factory) :
    ((∃ rs v, w.Assembled fs rs v ∧ w.enlist (fs.map .ready) = (v, .done) ∧
        v.app.hub = w.app.hub.registerAll rs) ∨
      ∃ before f after rs v u e, fs = before ++ f :: after ∧ w.Assembled before rs v ∧
        f.Fails v.now v.app u.app e ∧ w.enlist (fs.map .ready) = (u, .failed e) ∧
        u.app.hub = w.app.hub.registerAll rs) ∧
    ∀ before rs v, w.Assembled before rs v →
      (∀ f e, (v.enlist [.ready f]).2 = .failed e ↔
        f.Fails v.now v.app (v.enlist [.ready f]).1.app e) ∧
      ∀ looked found reason u,
        (Factory.events looked found).Fails v.now v.app u (.setup (.invalidConfig reason)) →
        (∀ loader, .config loader ∉ before) ∧ ∃ s, w.app.hub.settings? = some s ∧
          s.events.dispatcher.validate = .error (.invalidConfig reason) := by
  refine ⟨?_, fun before rs v h => ⟨v.enlist_eq_failed_iff, ?_⟩⟩
  · induction fs generalizing w with
    | nil => exact .inl ⟨[], w, .nil w, rfl, rfl⟩
    | cons f rest ih =>
      rcases w.enlist_ready f with ⟨v, rs, hrun, hgrants, hhub, hrest⟩ |
        ⟨u, e, -, hfails, hhub, hrest⟩
      · rcases ih v with ⟨more, u, hlater, hdone, hmore⟩ |
          ⟨before, g, after, more, v', u, e, rfl, hlater, hfails, hfailed, hmore⟩
        · refine .inl ⟨rs ++ more, u, .cons hrun hgrants hlater, ?_, ?_⟩
          · rw [List.map_cons, hrest, hdone]
          · rw [hmore, hhub, Hub.registerAll_append]
        · refine .inr ⟨f :: before, g, after, rs ++ more, v', u, e, rfl, .cons hrun hgrants hlater,
            hfails, ?_, ?_⟩
          · rw [List.map_cons, hrest, hfailed]
          · rw [hmore, hhub, Hub.registerAll_append]
      · refine .inr ⟨[], f, rest, [], w, u, e, rfl, .nil w, hfails, ?_, hhub⟩
        rw [List.map_cons, hrest]
  · intro looked found reason u hfails
    cases hfails with
    | eventsInvalid set logged kind invalid silent =>
      rcases h.settings_cases set with ⟨hnone, hset⟩ | hvalid
      · exact ⟨hnone, _, hset, invalid⟩
      · rw [invalid] at hvalid
        cases hvalid

end World
end Scenario
end Switchboard
