import Switchboard.Proofs.Config.Variables

/-!
# How lenient the level of the log is

The level of the log is a text that is read leniently: where it names no level, `INFO` stands in for it,
with a warning.  One would like to conclude that whatever the variable of the level holds, settings are
loaded from an environment that sets nothing else (`Environment.Lenient`).

This is not so, since the text of a variable is read as a typed value before it gets that far.  A number,
a truth value, a list or a node is no text, and then no settings are loaded at all.  And a quoted name
loses its quotes, so that a text which names no level is taken for one that does.
`Environment.lenient_iff` says that nothing else can go wrong.
-/

namespace Switchboard

/-! ## Reading the level -/

namespace Level

/-- A text that names a level is read as that level, without a warning. -/
theorem orInfo_of_names {s : String} {l : Level} (h : Names s l) : orInfo s = (l, []) := by
  rw [orInfo, parse_eq_ok_iff.2 h]

/-- A text that names none is read as `INFO`, with a warning about it. -/
theorem orInfo_of_not_names {s : String} (h : ∀ l, ¬Names s l) : orInfo s = (info, [unrecognized s]) := by
  rw [orInfo]
  cases hs : parse s with
  | ok l => exact absurd (parse_eq_ok_iff.1 hs) (h l)
  | error e => rfl

end Level

/-! ## Where a bad value comes from -/

namespace Layer

theorem reaches_cons {t : Tree} (ht : t.InOrder) (name : String) (path : List String) :
    reaches t (name :: path) = ((t.member? name).map (reaches · path)).getD false := by
  obtain @⟨members, -⟩ := ht
  rw [reaches, Tree.member?]
  cases Members.lookup name members <;> rfl

/-- A tree in sections reaches a field if it has a leaf there. -/
theorem reaches_path {t : Tree} (ht : t.Sectioned) (f : Field) :
    reaches t f.path = (t.leaf? f).isSome := by
  rw [Field.path, reaches_cons ht.inOrder, Tree.leaf?]
  cases hu : t.member? f.part.name with
  | none => rfl
  | some u =>
    rw [Option.map_some, Option.getD_some, reaches_cons (ht.sections f.part u hu), Option.bind_some]
    cases u.member? f.name <;> rfl

end Layer

namespace Environment

/-- What is wrong with the level comes from the environment. -/
theorem Documented.originAt_logLevel {e : Environment} (he : e.Documented) {text : String}
    (htext : e.text? .logLevel = some text) :
    e.loader.originAt Field.logLevel.path = .environment none := by
  obtain ⟨httl, httl'⟩ := he.leaf?_ownTree (f := .refreshTtl) (by decide)
  obtain ⟨hlevel, hlevel'⟩ := he.leaf?_ownTree (f := .logLevel) (by decide)
  have hpast : Layer.reaches (e.ownTree .refreshTtl) Field.logLevel.path = false := by
    rw [Layer.reaches_path httl, httl', if_neg (by decide)]
    rfl
  have hthere : Layer.reaches (e.ownTree .logLevel) Field.logLevel.path = true := by
    rw [Layer.reaches_path hlevel, hlevel', if_pos rfl, htext]
    rfl
  rw [Loader.originAt, layers_loader]
  simp [List.find?, hpast, hthere]

/-- An environment in which the log level is the only field whose variable is set. -/
structure SetsLevel (e : Environment) (text : String) : Prop extends Documented e where
  level : e.text? .logLevel = some text
  others : ∀ f, f ≠ .logLevel → e.text? f = none

/-- What is promised about the log level: settings are loaded, and the level in force is the one that
the text names, or `INFO`, with one warning, if it names none. -/
def Lenient (e : Environment) (text : String) (now : Instant) : Prop :=
  ∃ s, e.loader.load now = .ok s ∧
    (∀ l, Level.Names text l → s.logging.readLevel = (l, [])) ∧
    ((∀ l, ¬Level.Names text l) → ∃ raw, s.logging.readLevel = (.info, [Level.unrecognized raw]))

/-- A level that is read as a text is all that is not standard. -/
theorem SetsLevel.extract_eq {e : Environment} {text raw : String} (he : e.SetsLevel text)
    (hraw : (EnvText.read text).asText = .ok raw) :
    e.loader.extract = .ok ⟨.standard, ⟨"tracing", raw⟩, .standard⟩ := by
  have hspelled : e.Spelled := by
    refine ⟨he.toDocumented, fun f t ht => ?_⟩
    by_cases hf : f = .logLevel
    · subst hf
      obtain rfl := Option.some.inj (he.level.symm.trans ht)
      exact ⟨raw, hraw⟩
    · exact absurd (he.others f hf ▸ ht) nofun
  obtain ⟨s, hs, hvalue⟩ := hspelled.exists_extract
  rw [hs]
  refine congrArg Except.ok (Field.settings_ext fun f => ?_)
  rw [hvalue]
  by_cases hf : f = .logLevel
  · subst hf
    rw [he.level, Option.bind_some]
    show ((EnvText.read text).asText.toOption).getD _ = _
    rw [hraw]
    rfl
  · rw [he.others f hf]
    cases f <;> first | rfl | exact absurd rfl hf

/-- Standard settings can be used as long as the standard lifetime ends within the calendar, whatever
the level of the log. -/
theorem validate_standard (logging : LogSettings) (now : Instant) :
    Settings.validate ⟨.standard, logging, .standard⟩ now = .ok () ↔
      now.seconds + SessionSettings.standardTtl ≤ Instant.lastSecond := by
  have hdemands : Settings.demands ⟨.standard, logging, .standard⟩ now =
      [(true, .noBuffer), (true, .bufferTooLarge), (true, .noWorkers),
        (true, .refreshTtl SessionSettings.standardTtl),
        (now.seconds + SessionSettings.standardTtl ≤ Instant.lastSecond,
          .refreshTtl SessionSettings.standardTtl)] := rfl
  rw [Settings.validate_eq, Settings.firstFault?, hdemands]
  by_cases hend : now.seconds + SessionSettings.standardTtl ≤ Instant.lastSecond <;> simp [hend]

/-- A level that is not read as a text is no string, and nothing is loaded. -/
theorem SetsLevel.load_eq_error {e : Environment} {text : String} (he : e.SetsLevel text)
    (htext : ∀ raw, (EnvText.read text).asText ≠ .ok raw) (now : Instant) : e.loader.load now =
      .error (.config ⟨⟨.wrongType (EnvText.read text) "a string", Field.logLevel.path⟩,
        .environment none⟩) := by
  obtain ⟨t, htree, hsectioned, hleaf⟩ := he.exists_tree
  have hu : t.leaf? .logLevel = some (EnvText.read text) := by
    rw [hleaf, he.level]
    rfl
  have hbad : Field.logLevel.read (EnvText.read text) =
      .error ⟨.wrongType (EnvText.read text) "a string", []⟩ := by
    show (EnvText.read text).asText = _
    cases hread : EnvText.read text with
    | text s => exact absurd (congrArg Tree.asText hread) (htext s)
    | char c => exact absurd (congrArg Tree.asText hread) (htext _)
    | _ => rfl
  have hothers : ∀ (g : Field) (u : Tree), g ≠ .logLevel → t.leaf? g = some u →
      ∃ v, g.read u = .ok v := by
    intro g u hg hgu
    rw [hleaf, he.others g hg] at hgu
    exact Tree.proper_standard.typed g u hgu
  have hextract : e.loader.extract =
      .error ⟨⟨.wrongType (EnvText.read text) "a string", Field.logLevel.path⟩, .environment none⟩ := by
    rw [← he.originAt_logLevel he.level]
    exact Loader.extract_of_asSettings_error htree (hsectioned.asSettings_eq_error hu hbad hothers)
  rw [Loader.load, hextract]
  rfl

/-- What is read as a text is as good a level as the text, unless the text is a quoted name. -/
theorem readLevel_iff {text raw : String} (hraw : (EnvText.read text).asText = .ok raw) :
    ((∀ l, Level.Names text l → Level.orInfo raw = (l, [])) ∧
      ((∀ l, ¬Level.Names text l) → ∃ r, Level.orInfo raw = (.info, [Level.unrecognized r]))) ↔
      ∀ l, EnvText.IsQuoted text.toList raw.toList → ¬Level.Names raw l := by
  constructor
  · rintro ⟨-, hnone⟩ l hquoted hl
    obtain ⟨body, tail, hs, -⟩ := hquoted
    obtain ⟨r, hr⟩ := hnone (Level.not_names_of_quote (Or.inl rfl) hs)
    rw [Level.orInfo_of_names hl] at hr
    exact absurd hr (by simp)
  · intro hquotes
    rcases EnvText.names_of_asText hraw with ⟨hquoted, hnone⟩ | hsame
    · have hinner : ∀ l, ¬Level.Names raw l := fun l => hquotes l hquoted
      exact ⟨fun l hl => absurd hl (hnone l), fun _ => ⟨raw, Level.orInfo_of_not_names hinner⟩⟩
    · exact ⟨fun l hl => Level.orInfo_of_names ((hsame l).2 hl), fun hnone =>
        ⟨raw, Level.orInfo_of_not_names fun l hl => hnone l ((hsame l).1 hl)⟩⟩

/-- **The level is lenient about texts that are read as texts**, as long as no quotes hide the name of
a level; and if the text is not read as one, what is answered is that the level is no string. -/
theorem lenient_iff {e : Environment} {text : String} (he : e.SetsLevel text) (now : Instant) :
    (e.Lenient text now ↔ now.seconds + SessionSettings.standardTtl ≤ Instant.lastSecond ∧
      ∃ raw, (EnvText.read text).asText = .ok raw ∧
        ∀ l, EnvText.IsQuoted text.toList raw.toList → ¬Level.Names raw l) ∧
      ((∀ raw, (EnvText.read text).asText ≠ .ok raw) → e.loader.load now =
        .error (.config ⟨⟨.wrongType (EnvText.read text) "a string", Field.logLevel.path⟩,
          .environment none⟩)) := by
  refine ⟨⟨?_, ?_⟩, fun htext => he.load_eq_error htext now⟩
  · rintro ⟨s, hload, hlevel⟩
    have hread : ∃ raw, (EnvText.read text).asText = .ok raw := by
      by_contra hnone
      have hfail := he.load_eq_error (fun raw hraw => hnone ⟨raw, hraw⟩) now
      exact absurd (hfail.symm.trans hload) nofun
    obtain ⟨raw, hraw⟩ := hread
    obtain ⟨rfl, hvalid⟩ := (Loader.load_eq_ok_iff (he.extract_eq hraw) now s).1 hload
    exact ⟨(validate_standard _ now).1 hvalid, raw, hraw, (readLevel_iff hraw).1 hlevel⟩
  · rintro ⟨hend, raw, hraw, hquotes⟩
    have hvalid := (validate_standard ⟨"tracing", raw⟩ now).2 hend
    exact ⟨_, (Loader.load_eq_ok_iff (he.extract_eq hraw) now _).2 ⟨rfl, hvalid⟩,
      (readLevel_iff hraw).2 hquotes⟩

/-- The environment in which the level is the only variable. -/
theorem setsLevel_single (text : String) : SetsLevel ⟨[("LOG_LEVEL", text)]⟩ text where
  nodup := List.pairwise_singleton ..
  known := fun _ hname => Or.inl ⟨.logLevel, List.mem_singleton.1 hname⟩
  level := rfl
  others := by
    intro f hf
    cases f <;> first | rfl | exact absurd rfl hf

/-- A second name of a level, in any case and between blanks. -/
theorem lenient_about_a_name : SetsLevel ⟨[("LOG_LEVEL", " Warn ")]⟩ " Warn " ∧
    Lenient ⟨[("LOG_LEVEL", " Warn ")]⟩ " Warn " .epoch := by
  have hsets := setsLevel_single " Warn "
  refine ⟨hsets, (lenient_iff hsets .epoch).1.2 ⟨by decide, "Warn", rfl, fun l hquoted => ?_⟩⟩
  obtain ⟨body, tail, hs, -⟩ := hquoted
  exact absurd (List.cons.inj hs).1 (by decide)

/-- There is nothing lenient about a number, which stops the application, nor about a quoted name, which
is taken for the name. -/
theorem not_always_lenient :
    (∃ fault, (loader ⟨[("LOG_LEVEL", "5")]⟩).load .epoch = .error (.config fault)) ∧
      ¬Lenient ⟨[("LOG_LEVEL", "5")]⟩ "5" .epoch ∧
      ¬Lenient ⟨[("LOG_LEVEL", "\"debug\"")]⟩ "\"debug\"" .epoch := by
  have hnumber : ∀ raw, (EnvText.read "5").asText ≠ .ok raw := nofun
  have hload := (setsLevel_single "5").load_eq_error hnumber .epoch
  refine ⟨⟨_, hload⟩, ?_, ?_⟩
  · rintro ⟨s, hs, -⟩
    exact absurd (hload.symm.trans hs) nofun
  · rintro ⟨s, hs, hlevel⟩
    have hraw : (EnvText.read "\"debug\"").asText = .ok "debug" := rfl
    have hextract := (setsLevel_single "\"debug\"").extract_eq hraw
    obtain ⟨rfl, -⟩ := (Loader.load_eq_ok_iff hextract .epoch s).1 hs
    have hquoted : EnvText.IsQuoted "\"debug\"".toList "debug".toList :=
      ⟨"debug\"".toList, [], by decide, by decide, rfl⟩
    exact (readLevel_iff hraw).1 hlevel .debug hquoted (by decide)

end Environment
end Switchboard
