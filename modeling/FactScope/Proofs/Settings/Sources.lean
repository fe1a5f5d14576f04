import FactScope.Proofs.Except
import FactScope.Proofs.Settings.Contribution
import FactScope.Proofs.Settings.Normal
import FactScope.Proofs.Value.Overlay
import FactScope.Settings.Loading

namespace FactScope

namespace Sources

theorem normal_of_checked {s : Sources} {settings : Settings} (h : s.checked = .ok settings) :
    settings.logging.Normal := by
  obtain ⟨value, -, hvalue⟩ := Except.bind_eq_ok_iff.mp h
  split at hvalue
  · split at hvalue
    · cases hvalue
    · split at hvalue <;> cases hvalue
  · split at hvalue
    · next haccepted =>
      cases hvalue
      obtain ⟨checked, extras, hchecked, -, rfl⟩ := Verdict.both_eq_accepted_iff.mp haccepted
      exact Validation.normal_of_sections hchecked
    · cases hvalue
    · cases hvalue

theorem load_eq_checked (s : Sources) : s.load = s.checked := by
  unfold load
  cases hchecked : s.checked with
  | error failure => rfl
  | ok settings =>
      have hdump := Validation.settings_dump s.home (normal_of_checked hchecked)
      simp only [bind, Except.bind, hdump]

end Sources

inductive Setting where
  | level
  | outputs
  | version
deriving DecidableEq, Repr

namespace Setting

def sectionName : Setting → String
  | level => "logging"
  | outputs => "logging"
  | version => "context"

def fieldName : Setting → String
  | level => "level"
  | outputs => "outputs"
  | version => "default_version"

end Setting

/-- A typed section, built from some data, under the name of its section. -/
inductive TypedSection : String → Value → Prop where
  | logging {home : String} {data : Value} {logging : LoggingSettings}
      (h : Validation.logging home data = .accepted logging) :
      TypedSection "logging" logging.record
  | context {data : Value} {context : ContextSettings}
      (h : Validation.context data = .accepted context) :
      TypedSection "context" context.record

namespace TypedSection

variable {name : String} {value : Value}

theorem merge_eq (h : TypedSection name value) (base : Value) : base.merge value = value := by
  cases h <;> exact Value.merge_of_not_object _ _ nofun nofun

theorem exists_logging (h : TypedSection "logging" value) :
    ∃ fields, value = .record Section.logging.model fields := by
  generalize hname : "logging" = name at h
  cases h with
  | logging => exact ⟨_, rfl⟩
  | context => exact absurd hname (by decide)

theorem exists_context (h : TypedSection "context" value) :
    ∃ fields, value = .record Section.context.model fields := by
  generalize hname : "context" = name at h
  cases h with
  | logging => exact absurd hname (by decide)
  | context => exact ⟨_, rfl⟩

theorem exists_member {setting : Setting} (h : TypedSection setting.sectionName value) :
    ∃ held, value.member? setting.fieldName = some held ∧ held.isObject = false := by
  generalize hname : setting.sectionName = name at h
  cases h <;> cases setting <;> first | exact ⟨_, rfl, rfl⟩ | exact absurd hname (by decide)

end TypedSection

namespace Value

variable {lower upper : Value}

def given? (value : Value) (setting : Setting) : Option Value :=
  (value.member? setting.sectionName).bind (·.member? setting.fieldName)

/-- An object of sections, each of them an object in turn. -/
structure Sectioned (value : Value) : Prop where
  distinct : value.Distinct
  named : value.NamedBy Settings.sectionNames
  sections : ∀ name held, value.member? name = some held → held.Distinct

theorem sectioned_object {fields : Entries Value} (honce : fields.keys.Nodup)
    (hnames : ∀ name ∈ fields.keys, name ∈ Settings.sectionNames)
    (hsections : ∀ entry ∈ fields, entry.2.Distinct) : (Value.object fields).Sectioned :=
  ⟨(plain_object honce).distinct, namedBy_object hnames,
    fun name held hheld => hsections (name, held) (Entries.mem_of_get? hheld)⟩

theorem sectioned_single {name : String} {held : Value} (hname : name ∈ Settings.sectionNames)
    (hheld : held.Distinct) : (Value.object [(name, held)]).Sectioned := by
  refine sectioned_object (by simp [Entries.keys]) ?_ ?_
  · intro other hother
    rwa [List.mem_singleton.mp hother]
  · intro entry hentry
    rwa [List.mem_singleton.mp hentry]

theorem section_merge {P : Value → Prop} (hplain : ∀ given, given.Plain → P given)
    (hmerge : ∀ held given, P held → given.Plain → P (held.merge given)) {name : String}
    {below above result : Option Value} (hbelow : ∀ held, below = some held → P held)
    (habove : ∀ given, above = some given → given.Plain ∨ TypedSection name given)
    (h : Stacked (fun held given value => held.merge given = value) below above result) :
    ∀ value, result = some value → P value ∨ TypedSection name value := by
  intro value hvalue
  cases h with
  | below => exact .inl (hbelow value hvalue)
  | above given =>
      cases hvalue
      exact (habove value rfl).imp_left (hplain value)
  | @both held given _ hsame =>
      cases hvalue
      rcases habove given rfl with hgiven | htyped
      · exact .inl (hsame ▸ hmerge held given (hbelow held rfl) hgiven)
      · exact .inr (hsame ▸ (htyped.merge_eq held).symm ▸ htyped)

theorem stacked_section {held given : Value} {setting : Setting} (hheld : held.isObject = true)
    (hgiven : given.Plain ∨ TypedSection setting.sectionName given) :
    Stacked Merges (held.member? setting.fieldName) (given.member? setting.fieldName)
      ((held.merge given).member? setting.fieldName) := by
  rcases hgiven with hplain | htyped
  · exact stacked_merge hheld hplain setting.fieldName
  · obtain ⟨value, hvalue, hflat⟩ := htyped.exists_member
    rw [htyped.merge_eq, hvalue]
    cases held.member? setting.fieldName with
    | none => exact .above value
    | some below => exact .both ((covers_merge below value).1 (.inr hflat))

theorem stacked_given {setting : Setting} (hlower : lower.isObject = true)
    (hlowerSections : ∀ name held, lower.member? name = some held → held.isObject = true)
    (hupper : upper.Plain)
    (hupperSections : ∀ name held, upper.member? name = some held →
      held.Plain ∨ TypedSection name held) :
    Stacked Merges (lower.given? setting) (upper.given? setting)
      ((lower.merge upper).given? setting) := by
  refine (stacked_merge hlower hupper setting.sectionName).members ?_
  rintro held given _ hheld hgiven rfl
  exact stacked_section (hlowerSections _ held hheld) (hupperSections _ given hgiven)

theorem stacked_given_layer {value : Value} (hlower : lower.Sectioned) (hupper : upper.Sectioned)
    (h : lower.layer upper = .ok value) (setting : Setting) :
    Stacked Layers (lower.given? setting) (upper.given? setting) (value.given? setting) := by
  obtain ⟨depth, hstacked⟩ := stacked_layerTo h hlower.distinct.isObject hupper.distinct
  refine (hstacked setting.sectionName).members ?_
  intro held given value hheld hgiven hvalue
  have hheldObject := (hlower.sections _ held hheld).isObject
  obtain ⟨remaining, hmembers⟩ := stacked_layerTo hvalue hheldObject (hupper.sections _ given hgiven)
  exact (hmembers setting.fieldName).mono fun _ _ _ hlayer => ⟨remaining, hlayer⟩

theorem sections_layer {value : Value} (hlower : lower.Sectioned) (hupper : upper.Sectioned)
    (h : lower.layer upper = .ok value) {name : String} {held : Value}
    (hheld : value.member? name = some held) : held.isObject = true := by
  obtain ⟨depth, hstacked⟩ := stacked_layerTo h hlower.distinct.isObject hupper.distinct
  have hname := hstacked name
  rw [hheld] at hname
  generalize hbelow : lower.member? name = below at hname
  generalize habove : upper.member? name = above at hname
  cases hname with
  | below => exact (hlower.sections name held hbelow).isObject
  | above => exact (hupper.sections name held habove).isObject
  | @both _ given _ hvalue =>
      exact (covers_layerTo hvalue).2 (hupper.sections name given habove).isObject

end Value

namespace Environment

theorem lowerText_sectionName {name : String} (h : name ∈ Settings.sectionNames) :
    lowerText name = name := by
  simp only [Settings.sectionNames, List.mem_cons, List.not_mem_nil, or_false] at h
  rcases h with rfl | rfl <;> decide +kernel

end Environment

namespace Sources

variable {overrides : Entries Value}

theorem keys_sectionOverrides (overrides : Entries Value) (keys : List String) :
    (sectionOverrides overrides keys).keys.Sublist keys := by
  induction keys with
  | nil => exact .slnil
  | cons key rest ih =>
      rw [sectionOverrides]
      split
      · exact ih.cons_cons key
      · exact ih.cons key

theorem namedOverrides_eq (h : ∀ name ∈ overrides.keys, name ∈ Settings.sectionNames) :
    namedOverrides overrides = sectionOverrides overrides Settings.sectionNames := by
  have hrest : overrides.filter (fun entry =>
      !Settings.sectionNames.contains (Environment.lowerText entry.1)) = [] := by
    refine List.filter_eq_nil_iff.mpr fun entry hentry => ?_
    have hname := h entry.1 (List.mem_map_of_mem hentry)
    rw [Environment.lowerText_sectionName hname]
    simpa using hname
  rw [namedOverrides, hrest, List.append_nil]

theorem get?_namedOverrides_eq (h : ∀ name ∈ overrides.keys, name ∈ Settings.sectionNames)
    (name : String) : (namedOverrides overrides).get? name = overrides.get? name := by
  by_cases hname : name ∈ Settings.sectionNames
  · rw [get?_namedOverrides overrides hname, sectionOverride?]
    cases hget : overrides.get? name with
    | some value => rfl
    | none =>
        have hfind : overrides.find? (fun entry => Environment.lowerText entry.1 = name) = none := by
          refine List.find?_eq_none.mpr fun entry hentry => ?_
          have hmem := List.mem_map_of_mem (f := (·.1)) hentry
          rw [Environment.lowerText_sectionName (h entry.1 hmem)]
          rw [decide_eq_true_eq]
          rintro rfl
          exact Entries.get?_eq_none_iff.mp hget hmem
        rw [hfind]
        rfl
  · have hnone : overrides.get? name = none :=
      Entries.get?_eq_none_iff.mpr fun hmem => hname (h name hmem)
    rw [hnone, namedOverrides_eq h, Entries.get?_eq_none_iff]
    exact fun hmem => hname ((keys_sectionOverrides overrides _).subset hmem)

/-- Sources that can be read and hold sections alone: files whose layering comes to an end, objects
in the environment, and in the overrides objects or typed sections. -/
structure Read (s : Sources) (globals project : Value) (environment : Entries Value) : Prop where
  globalFile : SettingsFile.contents s.globalFile = .ok globals
  projectFile : SettingsFile.contents s.projectFile = .ok project
  ends : ∃ files, globals.layer project = .ok files
  contributed : Environment.contribution s.environment = .ok environment
  globalSections : globals.Sectioned
  projectSections : project.Sectioned
  environmentSections : ∀ name held, environment.get? name = some held →
    ∃ fields, held = .object fields
  overridesNamed : ∀ name ∈ s.overrides.keys, name ∈ Settings.sectionNames
  overridesSections : ∀ name held, s.overrides.get? name = some held →
    held.Plain ∨ TypedSection name held

def given (s : Sources) (globals project : Value) (environment : Entries Value)
    (setting : Setting) : List Value :=
  ((Value.object s.overrides).given? setting).toList ++
    ((Value.object environment).given? setting).toList ++
      ((project.given? setting).toList ++ (globals.given? setting).toList)

/-- What the sources give for a setting, put together: the project's value on the global one, the
overrides' value on that of the environment, and what these come to on what those come to. -/
def Together (s : Sources) (globals project : Value) (environment : Entries Value)
    (setting : Setting) (result : Option Value) : Prop :=
  ∃ files above, Value.Stacked Value.Layers (globals.given? setting) (project.given? setting) files ∧
    Value.Stacked Value.Merges ((Value.object environment).given? setting)
      ((Value.object s.overrides).given? setting) above ∧
    Value.Stacked Value.Merges files above result

variable {s : Sources} {globals project : Value} {environment : Entries Value}

theorem Together.prevails {setting : Setting} {result : Option Value}
    (h : s.Together globals project environment setting result) :
    Value.Prevails (s.given globals project environment setting) result := by
  obtain ⟨files, above, hfiles, habove, hresult⟩ := h
  have hlower := (Value.Prevails.of_option _).stacked (Value.Prevails.of_option _)
    (hfiles.mono fun _ _ _ => Value.Layers.covers)
  have hupper := (Value.Prevails.of_option _).stacked (Value.Prevails.of_option _)
    (habove.mono fun _ _ _ => Value.Merges.covers)
  exact hlower.stacked hupper (hresult.mono fun _ _ _ => Value.Merges.covers)

theorem Read.exists_files (h : s.Read globals project environment) :
    ∃ fields : Entries Value, s.fileContents = .ok (.object fields) ∧
      (∀ name ∈ fields.keys, name ∈ Settings.sectionNames) ∧
      (∀ name held, fields.get? name = some held → held.isObject = true) ∧
      ∀ setting, Value.Stacked Value.Layers (globals.given? setting) (project.given? setting)
        ((Value.object fields).given? setting) := by
  obtain ⟨files, hfiles⟩ := h.ends
  obtain ⟨fields, rfl, hnames⟩ := Value.named_layerTo hfiles
    h.globalSections.distinct.isObject h.globalSections.named
    h.projectSections.distinct.isObject h.projectSections.named
  refine ⟨fields, ?_, hnames, ?_, ?_⟩
  · rw [fileContents, h.globalFile, h.projectFile]
    exact congrArg (·.mapError LoadFailure.fault) hfiles
  · intro name held hheld
    exact Value.sections_layer h.globalSections h.projectSections hfiles hheld
  · intro setting
    exact Value.stacked_given_layer h.globalSections h.projectSections hfiles setting

theorem Read.exists_overridden (h : s.Read globals project environment) :
    ∃ fields : Entries Value,
      Value.mergeFields environment (namedOverrides s.overrides) = fields ∧
      (∀ name ∈ fields.keys, name ∈ Settings.sectionNames) ∧ (Value.object fields).Plain ∧
      (∀ name held, fields.get? name = some held → held.Plain ∨ TypedSection name held) ∧
      ∀ setting, Value.Stacked Value.Merges ((Value.object environment).given? setting)
        ((Value.object s.overrides).given? setting) ((Value.object fields).given? setting) := by
  obtain ⟨hsections, hobjects⟩ := Environment.sections_contribution h.contributed
  have hplain : ∀ name held, environment.get? name = some held → held.Plain := by
    intro name held hheld
    obtain ⟨fields, rfl⟩ := h.environmentSections name held hheld
    exact hobjects name _ hheld rfl
  have henvironment : (Value.object environment).Plain :=
    Value.plain_object (hsections.nodup (by decide))
  have hnamed := keys_sectionOverrides s.overrides Settings.sectionNames
  rw [← namedOverrides_eq h.overridesNamed] at hnamed
  have hoverrides : (Value.object (namedOverrides s.overrides)).Plain :=
    Value.plain_object (hnamed.nodup (by decide))
  have hsame : ∀ name,
      (Value.object (namedOverrides s.overrides)).member? name = s.overrides.get? name :=
    get?_namedOverrides_eq h.overridesNamed
  have hoverridesSections : ∀ name held,
      (Value.object (namedOverrides s.overrides)).member? name = some held →
        held.Plain ∨ TypedSection name held :=
    fun name held hheld => h.overridesSections name held (hsame name ▸ hheld)
  -- the overrides are read by name only, so their order and spelling do not matter from here on
  obtain ⟨fields, hfields, hnames⟩ := Value.named_merge henvironment.isObject
    (Value.namedBy_object fun name hname => hsections.subset hname) rfl
    (Value.namedBy_object fun name hname => hnamed.subset hname)
  refine ⟨fields, ?_, hnames, hfields ▸ Value.plain_merge henvironment hoverrides, ?_, ?_⟩
  · rw [Value.merge_object] at hfields
    exact Value.object.inj hfields
  · intro name
    rw [← Value.member?_object, ← hfields]
    exact Value.section_merge (fun _ => id) (fun _ _ => Value.plain_merge) (hplain name)
      (hoverridesSections name) (Value.stacked_merge henvironment.isObject hoverrides name)
  · intro setting
    have hgiven : (Value.object (namedOverrides s.overrides)).given? setting =
        (Value.object s.overrides).given? setting := by
      rw [Value.given?, hsame]
      rfl
    rw [← hgiven, ← hfields]
    exact Value.stacked_given henvironment.isObject (fun name held hheld =>
      (hplain name held hheld).isObject) hoverrides hoverridesSections

/-- What is merged has sections alone, and for every setting what the sources give is put together. -/
theorem Read.exists_merged (h : s.Read globals project environment) :
    ∃ fields : Entries Value, s.merged = .ok (.object fields) ∧
      (∀ name ∈ fields.keys, name ∈ Settings.sectionNames) ∧
      (∀ name held, fields.get? name = some held →
        held.isObject = true ∨ TypedSection name held) ∧
      ∀ setting, s.Together globals project environment setting
        ((Value.object fields).given? setting) := by
  obtain ⟨lower, hlower, hlowerNames, hlowerSections, hlowerGiven⟩ := h.exists_files
  obtain ⟨upper, hupper, hupperNames, hupperPlain, hupperSections, hupperGiven⟩ :=
    h.exists_overridden
  obtain ⟨fields, hfields, hnames⟩ := Value.named_merge (Value.isObject_object lower)
    (Value.namedBy_object hlowerNames) rfl (Value.namedBy_object hupperNames)
  refine ⟨fields, ?_, hnames, ?_, ?_⟩
  · rw [merged, hlower, h.contributed, ← hfields, ← hupper]
    rfl
  · intro name
    rw [← Value.member?_object, ← hfields]
    exact Value.section_merge (fun _ => Value.Plain.isObject)
      (fun held given _ hgiven => (Value.covers_merge held given).2 hgiven.isObject)
      (hlowerSections name) (hupperSections name)
      (Value.stacked_merge (Value.isObject_object lower) hupperPlain name)
  · intro setting
    rw [← hfields]
    exact ⟨_, _, hlowerGiven setting, hupperGiven setting,
      Value.stacked_given (Value.isObject_object lower) hlowerSections hupperPlain hupperSections⟩

end Sources

end FactScope
