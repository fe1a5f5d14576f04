import FactScope.Proofs.Settings.Outcome

/-!
Settings written out and read back. Checked settings are accepted again as they are. Given as
overrides they are what loading ends in, whatever stands in the files and in the environment: in the
place of every setting there is a value that is no object, and it covers all that stands below it.
-/

namespace FactScope

namespace Value

variable {base upper given : Value} {name : String} {settings : Settings}

/-- What an upper object gives under a name counts, or it is put on top of what is below. -/
theorem member?_merge_cases (base : Value) (hupper : upper.Plain)
    (hgiven : upper.member? name = some given) :
    (base.merge upper).member? name = some given ∨
      ∃ held, base.member? name = some held ∧
        (base.merge upper).member? name = some (held.merge given) := by
  by_cases hbase : base.isObject = true
  · have hstacked := stacked_merge hbase hupper name
    rw [hgiven] at hstacked
    generalize base.member? name = below at hstacked
    generalize (base.merge upper).member? name = result at hstacked
    cases hstacked with
    | above => exact .inl rfl
    | @both held _ value hvalue => exact .inr ⟨held, rfl, congrArg some hvalue.symm⟩
  · have hsame := (covers_merge base upper).1 (.inl (Bool.eq_false_iff.mpr hbase))
    rw [hsame]
    exact .inl hgiven

theorem member?_merge_of_flat (base : Value) (hupper : upper.Plain)
    (hgiven : upper.member? name = some given) (hflat : given.isObject = false) :
    (base.merge upper).member? name = some given := by
  rcases member?_merge_cases base hupper hgiven with hsame | ⟨held, -, hvalue⟩
  · exact hsame
  · rw [hvalue, (covers_merge held given).1 (.inr hflat)]

/-- An object that gives every setting the value it has in some settings, whatever else it holds. -/
structure Pins (value : Value) (settings : Settings) : Prop where
  plain : value.Plain
  sections : ∀ name ∈ Settings.sectionNames, ∃ held, value.member? name = some held ∧ held.Plain
  values : ∀ setting, value.given? setting = settings.dump.given? setting

theorem keys_dump (settings : Settings) : settings.dump.fields.keys = Settings.sectionNames := rfl

theorem pins_dump (settings : Settings) : settings.dump.Pins settings := by
  have hlogging : (settings.logging.fields .object).keys = ["level", "outputs"] := rfl
  have hcontext : settings.context.fields.keys = ["default_version"] := rfl
  have hdump : settings.dump.fields.keys.Nodup := by
    rw [keys_dump]
    decide
  refine ⟨plain_object hdump, fun name hname => ?_, fun setting => rfl⟩
  · rcases List.mem_cons.mp hname with rfl | hname
    · exact ⟨_, rfl, plain_object (hlogging ▸ by decide)⟩
    · cases List.mem_singleton.mp hname
      exact ⟨_, rfl, plain_object (hcontext ▸ by decide)⟩

theorem exists_given?_dump (settings : Settings) (setting : Setting) :
    ∃ value, settings.dump.given? setting = some value ∧ value.isObject = false := by
  cases setting with
  | level => exact ⟨_, rfl, rfl⟩
  | outputs => exact ⟨_, rfl, rfl⟩
  | version => exact ⟨_, rfl, rfl⟩

theorem sectionName_mem (setting : Setting) : setting.sectionName ∈ Settings.sectionNames := by
  cases setting <;> decide

namespace Pins

theorem given?_merge (h : upper.Pins settings) (base : Value) (setting : Setting) :
    (base.merge upper).given? setting = settings.dump.given? setting := by
  obtain ⟨value, hvalue, hflat⟩ := exists_given?_dump settings setting
  obtain ⟨given, hgiven, hplain⟩ := h.sections _ (sectionName_mem setting)
  have hfield : given.member? setting.fieldName = some value := by
    have hsetting := h.values setting
    rwa [hvalue, given?, hgiven] at hsetting
  rw [hvalue, given?]
  rcases member?_merge_cases base h.plain hgiven with hsame | ⟨held, -, hmerged⟩
  · rw [hsame]
    exact hfield
  · rw [hmerged]
    exact member?_merge_of_flat held hplain hfield hflat

theorem section_merge (h : upper.Pins settings) (base : Value) {held : Value}
    (hname : name ∈ Settings.sectionNames) (hheld : (base.merge upper).member? name = some held) :
    held.isObject = true := by
  obtain ⟨given, hgiven, hplain⟩ := h.sections name hname
  rcases member?_merge_cases base h.plain hgiven with hsame | ⟨below, -, hmerged⟩
  · cases hsame.symm.trans hheld
    exact hplain.isObject
  · cases hmerged.symm.trans hheld
    exact (covers_merge below given).2 hplain.isObject

theorem merge (h : upper.Pins settings) (hbase : base.Plain)
    (hsections : ∀ name held, base.member? name = some held → held.isObject = true → held.Plain) :
    (base.merge upper).Pins settings := by
  refine ⟨plain_merge hbase h.plain, fun name hname => ?_, h.given?_merge base⟩
  obtain ⟨given, hgiven, hplain⟩ := h.sections name hname
  rcases member?_merge_cases base h.plain hgiven with hsame | ⟨held, hheld, hmerged⟩
  · exact ⟨given, hsame, hplain⟩
  · refine ⟨_, hmerged, ?_⟩
    by_cases hobject : held.isObject = true
    · exact plain_merge (hsections name held hheld hobject) hplain
    · rw [(covers_merge held given).1 (.inl (Bool.eq_false_iff.mpr hobject))]
      exact hplain

end Pins

end Value

namespace Sources

open Value

variable {s : Sources} {globals project files : Value} {environment : Entries Value}
  {settings : Settings}

theorem settled_dump (home : String) (h : settings.logging.Normal) :
    Settled home (fun setting => settings.dump.given? setting) settings where
  level := Validation.level_name settings.logging.level
  outputs := Validation.outputs_list home h (Validation.model_object .output)
  version := Validation.version_text settings.context.version

theorem normal_of_load (h : s.load = .ok settings) : settings.logging.Normal :=
  normal_of_checked (s.load_eq_checked ▸ h)

theorem isObject_of_contents {file? : Option SettingsFile} {value : Value}
    (h : SettingsFile.contents file? = .ok value) : value.isObject = true := by
  unfold SettingsFile.contents at h
  split at h
  · cases h
    rfl
  · split at h
    · cases h
    · cases h
    · cases h
      rfl
    · split at h
      · next hentries =>
        cases h
        exact hentries
      · cases h

theorem namedOverrides_dump (settings : Settings) :
    namedOverrides settings.dump.fields = settings.dump.fields := by
  have hnames : ∀ name ∈ settings.dump.fields.keys, name ∈ Settings.sectionNames := by
    rw [keys_dump]
    exact fun _ => id
  rw [namedOverrides_eq hnames]
  rfl

/-- Settings that are all given as overrides are loaded, if the files can be put together. -/
theorem load_of_layer (h : settings.logging.Normal) (hoverrides : s.overrides = settings.dump.fields)
    (hfiles : s.fileContents = .ok files) (hobject : files.isObject = true)
    (hnamed : files.NamedBy Settings.sectionNames)
    (hcontributed : Environment.contribution s.environment = .ok environment) :
    s.load = .ok settings := by
  obtain ⟨hnames, hobjects⟩ := Environment.sections_contribution hcontributed
  have hplain : (Value.object environment).Plain := plain_object (hnames.nodup (by decide))
  have hpins := (pins_dump settings).merge hplain hobjects
  obtain ⟨upper, hupper, hupperNames⟩ : ∃ upper : Entries Value,
      (Value.object environment).merge settings.dump = .object upper ∧
        ∀ name ∈ upper.keys, name ∈ Settings.sectionNames :=
    named_merge hplain.isObject (namedBy_object fun name hname => hnames.subset hname) rfl
      (namedBy_object fun name => id)
  rw [hupper] at hpins
  obtain ⟨fields, hfields, hfieldNames⟩ := named_merge hobject hnamed rfl
    (namedBy_object hupperNames)
  have hmerged : s.merged = .ok (.object fields) := by
    have hfieldsUpper : Value.mergeFields environment settings.dump.fields = upper :=
      Value.object.inj ((merge_object environment settings.dump.fields).symm.trans hupper)
    rw [merged, hfiles, hcontributed, hoverrides, namedOverrides_dump, ← hfields, ← hfieldsUpper]
    rfl
  have hsections : ∀ name held, fields.get? name = some held →
      held.isObject = true ∨ TypedSection name held := by
    intro name held hheld
    have hname := hfieldNames name (List.mem_map_of_mem (Entries.mem_of_get? hheld))
    refine .inl (hpins.section_merge files hname ?_)
    rw [hfields]
    exact hheld
  have hvalues : (fun setting => (Value.object fields).given? setting) =
      fun setting => settings.dump.given? setting := by
    funext setting
    rw [← hfields]
    exact hpins.given?_merge files setting
  rw [load_eq_outcome hmerged hfieldNames, sections_eq_chosen s.home hsections, hvalues,
    outcome_eq_ok_iff, sections_chosen_eq_accepted_iff]
  exact settled_dump s.home h

/-- Settings that came out of a check are accepted again as they are, and as overrides they are
loaded whatever stands below them, if only the two files can be put together. -/
theorem load_dump
    (h : (∃ home value, Validation.settings home value = .accepted settings) ∨
      ∃ s : Sources, s.load = .ok settings) :
    (∀ home, Validation.settings home settings.dump = .accepted settings) ∧
    ∀ (s : Sources) (globals project : Value) (environment : Entries Value),
      s.overrides = settings.dump.fields →
      SettingsFile.contents s.globalFile = .ok globals →
      SettingsFile.contents s.projectFile = .ok project →
      globals.NamedBy Settings.sectionNames → project.NamedBy Settings.sectionNames →
      Environment.contribution s.environment = .ok environment →
      (s.load = .ok settings ↔ ∃ files, globals.layer project = .ok files) ∧
        (project.isTree = true → s.load = .ok settings) := by
  have hnormal : settings.logging.Normal := by
    rcases h with ⟨home, value, haccepted⟩ | ⟨s, hload⟩
    · obtain ⟨fields, hfields⟩ := Validation.model_eq_accepted haccepted
      exact Validation.normal_of_sections hfields
    · exact normal_of_load hload
  refine ⟨fun home => Validation.settings_dump home hnormal, ?_⟩
  intro s globals project environment hoverrides hglobals hproject hglobalNames hprojectNames
    hcontributed
  have hfiles : s.fileContents = (globals.layer project).mapError .fault := by
    rw [fileContents, hglobals, hproject]
    rfl
  have hload : ∀ files, globals.layer project = .ok files → s.load = .ok settings := by
    intro files hlayer
    rw [hlayer] at hfiles
    obtain ⟨fields, rfl, hnames⟩ := named_layerTo hlayer (isObject_of_contents hglobals)
      hglobalNames (isObject_of_contents hproject) hprojectNames
    exact load_of_layer hnormal hoverrides hfiles rfl (namedBy_object hnames) hcontributed
  refine ⟨⟨fun hok => ?_, ?_⟩, fun htree => ?_⟩
  · rcases hlayer : globals.layer project with fault | files
    · rw [hlayer] at hfiles
      cases (merged_of_fileContents hfiles).symm.trans hok
    · exact ⟨files, rfl⟩
  · rintro ⟨files, hlayer⟩
    exact hload files hlayer
  · exact hload _ (layer_eq_merge globals project htree)

def fullSettings : Settings :=
  ⟨⟨.debug,
      [⟨.json, .file (Path.parse (.ofString "/var/log/events")), some .error⟩, .default]⟩, ⟨.v310⟩⟩

/-- Sources that would be refused if the overrides did not cover all of them. -/
def coveredSources : Sources where
  home := "/root"
  globalFile := some ⟨"/root/global.yaml", .ok (.object
    [("context", .object [("default_version", looped)]), ("logging", .list [])])⟩
  projectFile := some ⟨"/project.yaml", .ok (.object
    [("logging", .object [("level", .object [("b", .int 1)]), ("outputs", .null)]),
      ("context", .text "none")])⟩
  environment := [("ANNOSCOPE__CONTEXT", "[3]"), ("ANNOSCOPE__LOGGING__LEVEL__X", "loud")]
  overrides := fullSettings.dump.fields

theorem load_coveredSources : coveredSources.load = .ok fullSettings := by
  have haccepted : Validation.settings "/home/user" (.object
      [("logging", .object
        [("level", .text "DEBUG"),
          ("outputs", .list
            [.object [("format", .text "json"), ("destination", .text "/var//log/./events"),
              ("level", .text "ERROR")], .object []])]),
        ("context", .object [("default_version", .text "3.1.0")])]) = .accepted fullSettings := by
    rfl
  obtain ⟨-, hload⟩ := load_dump (.inl ⟨_, _, haccepted⟩)
  obtain ⟨-, htree⟩ := hload coveredSources _ _
    [("logging", .object [("level", .object [("x", .text "loud")])]), ("context", .list [.int 3])]
    rfl rfl rfl (namedBy_object (by decide)) (namedBy_object (by decide)) rfl
  exact htree rfl

/-- Of files that cannot be put together not even settings given in full are loaded. -/
theorem load_dump_above_loopedSources :
    let s : Sources := { loopedSources with overrides := Settings.default.dump.fields }
    Validation.settings s.home Settings.default.dump = .accepted Settings.default ∧
    (∃ globals project, SettingsFile.contents s.globalFile = .ok globals ∧
      SettingsFile.contents s.projectFile = .ok project ∧
      globals.NamedBy Settings.sectionNames ∧ project.NamedBy Settings.sectionNames) ∧
    Environment.contribution s.environment = .ok [] ∧
    s.load = .error (.fault .tooDeep) := by
  intro s
  refine ⟨rfl, ⟨_, _, rfl, rfl, ?_, ?_⟩, rfl, merged_of_fileContents fileContents_loopedSources⟩
  · exact namedBy_object (by decide)
  · exact namedBy_object (by decide)

end Sources

end FactScope
