import FactScope.Proofs.Settings.Sources

/-!
Precedence among the sources of settings, field by field. What is checked in the place of a setting
is the first value that the overrides, the environment, the project file and the global file give
for it, and the default if none does; only where that value is an object above another object are
the two put together, and then an object is refused.
-/

namespace FactScope

open Value

namespace Validation

theorem exists_fields {required : Section} {value : Value}
    (h : value.isObject = true ∨ ∃ fields, value = .record required.model fields) :
    ∃ fields : Entries Value,
      (∀ {α : Type} (check : Entries Value → Verdict α), model required check value = check fields) ∧
      ∀ name, fields.get? name = value.member? name := by
  rcases h with hobject | ⟨fields, rfl⟩
  · obtain ⟨pairs, hpairs⟩ := exists_entries hobject
    have hnamed : ∃ fields, value.namedEntries? = some fields := by
      unfold namedEntries?
      cases hcontent : value.content <;>
        first | exact ⟨_, rfl⟩ | (rw [hcontent] at hpairs; cases hpairs)
    obtain ⟨fields, hfields⟩ := hnamed
    cases value with
    | record model held => cases hpairs
    | _ =>
        refine ⟨fields, fun check => ?_, fun name => ?_⟩
        · simp only [model, hfields]
        · simp only [member?, hfields, Option.bind_some]
  · exact ⟨fields, fun check => model_record required check fields, fun name => rfl⟩

/-- A section is checked as an object of its fields, and a missing one as an empty object. -/
theorem exists_section {α : Type} {required : Section} {checkFields : Entries Value → Verdict α}
    (check : Value → Verdict α) (hcheck : check = model required checkFields) {default : α}
    (hdefault : check (.object []) = .accepted default) {fields : Entries Value} {name : String}
    (hsection : ∀ held, fields.get? name = some held →
      held.isObject = true ∨ ∃ others, held = .record required.model others) :
    ∃ others : Entries Value,
      field fields name default check = (check (.object others)).within (.field name) ∧
      ∀ other, others.get? other = (fields.get? name).bind (·.member? other) := by
  unfold field
  cases hheld : fields.get? name with
  | none =>
      refine ⟨[], ?_, fun other => rfl⟩
      rw [hdefault]
      rfl
  | some held =>
      obtain ⟨others, hothers, hfields⟩ := exists_fields (hsection held hheld)
      refine ⟨others, ?_, hfields⟩
      rw [hcheck]
      exact congrArg (Verdict.within (.field name)) (hothers checkFields)

theorem logging_congr (home : String) {fields others : Entries Value}
    (hlevel : fields.get? "level" = others.get? "level")
    (houtputs : fields.get? "outputs" = others.get? "outputs") :
    Validation.logging home (.object fields) = Validation.logging home (.object others) := by
  rw [Validation.logging, model_object, model_object, field_congr hlevel, field_congr houtputs]

theorem context_congr {fields others : Entries Value}
    (hversion : fields.get? "default_version" = others.get? "default_version") :
    Validation.context (.object fields) = Validation.context (.object others) := by
  rw [Validation.context, model_object, model_object, field_congr hversion]

theorem level_ne_accepted {value : Value} (h : value.isObject = true) (level : Level) :
    Validation.level value ≠ .accepted level := by
  cases value with
  | object fields => nofun
  | mapping pairs => nofun
  | loop mark whole => nofun
  | _ => cases h

theorem outputs_ne_accepted {home : String} {value : Value} (h : value.isObject = true)
    (outputs : List OutputSettings) : Validation.outputs home value ≠ .accepted outputs := by
  obtain ⟨pairs, hpairs⟩ := exists_entries h
  unfold Validation.outputs
  split
  · next hcontent => rw [hcontent] at hpairs; cases hpairs
  · next hcontent => rw [hcontent] at hpairs; cases hpairs
  · nofun

theorem version_ne_accepted {value : Value} (h : value.isObject = true) (version : Version) :
    Validation.version value ≠ .accepted version := by
  cases value with
  | object fields => nofun
  | mapping pairs => nofun
  | loop mark whole => nofun
  | _ => cases h

end Validation

namespace Sources

def entry (setting : Setting) (given : Option Value) : Entries Value :=
  (given.map fun value => (setting.fieldName, value)).toList

/-- The sections that hold some values and nothing else. -/
def chosen (values : Setting → Option Value) : Entries Value :=
  [("logging", .object (entry .level (values .level) ++ entry .outputs (values .outputs))),
    ("context", .object (entry .version (values .version)))]

def outcome : Verdict Settings → Except LoadFailure Settings
  | .accepted settings => .ok settings
  | .rejected first _ => .error first.failure
  | .undecided fault => .error (.fault fault)

/-- Settings in which every field is the checked value, or the default where there is none. -/
structure Settled (home : String) (values : Setting → Option Value) (settings : Settings) :
    Prop where
  level : Validation.Takes Validation.level LoggingSettings.default.level (values .level)
    settings.logging.level
  outputs : Validation.Takes (Validation.outputs home) LoggingSettings.default.outputs
    (values .outputs) settings.logging.outputs
  version : Validation.Takes Validation.version ContextSettings.default.version (values .version)
    settings.context.version

theorem get?_entry (setting other : Setting) (given : Option Value) :
    (entry setting given).get? other.fieldName = if setting = other then given else none := by
  cases given <;> cases setting <;> cases other <;> rfl

theorem exists_chosen (values : Setting → Option Value) :
    ∃ logging context : Entries Value,
      chosen values = [("logging", .object logging), ("context", .object context)] ∧
        logging.get? "level" = values .level ∧ logging.get? "outputs" = values .outputs ∧
        context.get? "default_version" = values .version := by
  refine ⟨_, _, rfl, ?_, ?_, get?_entry .version .version _⟩
  · have hother := get?_entry .outputs .level (values .outputs)
    exact (Entries.get?_append _ _ _).trans
      ((congr (congrArg Option.or (get?_entry .level .level _)) hother).trans Option.or_none)
  · have hother := get?_entry .level .outputs (values .level)
    exact (Entries.get?_append _ _ _).trans
      ((congr (congrArg Option.or hother) (get?_entry .outputs .outputs _)).trans Option.none_or)

theorem sections_chosen_eq_accepted_iff {home : String} {values : Setting → Option Value}
    {settings : Settings} :
    Validation.sections home (chosen values) = .accepted settings ↔
      Settled home values settings := by
  obtain ⟨logging, context, hchosen, hlevel, houtputs, hversion⟩ := exists_chosen values
  rw [hchosen, Validation.sections, Verdict.both_eq_accepted_iff]
  constructor
  · rintro ⟨checkedLogging, checkedContext, hlogging, hcontext, rfl⟩
    obtain ⟨level, outputs, hlevelField, houtputsField, rfl⟩ :=
      Verdict.both_eq_accepted_iff.mp (Validation.field_eq_accepted_iff.mp hlogging)
    obtain ⟨version, hversionField, rfl⟩ :=
      Verdict.map_eq_accepted_iff.mp (Validation.field_eq_accepted_iff.mp hcontext)
    exact ⟨hlevel ▸ Validation.field_eq_accepted_iff.mp hlevelField,
      houtputs ▸ Validation.field_eq_accepted_iff.mp houtputsField,
      hversion ▸ Validation.field_eq_accepted_iff.mp hversionField⟩
  · intro h
    refine ⟨settings.logging, settings.context, ?_, ?_, rfl⟩
    · refine Validation.field_eq_accepted_iff.mpr (Verdict.both_eq_accepted_iff.mpr ?_)
      refine ⟨settings.logging.level, settings.logging.outputs, ?_, ?_, rfl⟩
      · exact Validation.field_eq_accepted_iff.mpr (hlevel ▸ h.level)
      · exact Validation.field_eq_accepted_iff.mpr (houtputs ▸ h.outputs)
    · refine Validation.field_eq_accepted_iff.mpr (Verdict.map_eq_accepted_iff.mpr ?_)
      exact ⟨settings.context.version,
        Validation.field_eq_accepted_iff.mpr (hversion ▸ h.version), rfl⟩

theorem sections_eq_chosen (home : String) {fields : Entries Value}
    (hsections : ∀ name held, fields.get? name = some held →
      held.isObject = true ∨ TypedSection name held) :
    Validation.sections home fields =
      Validation.sections home (chosen fun setting => (Value.object fields).given? setting) := by
  obtain ⟨logging, context, hchosen, hlevel, houtputs, hversion⟩ :=
    exists_chosen fun setting => (Value.object fields).given? setting
  obtain ⟨heldLogging, hlogging, hloggingFields⟩ :=
    Validation.exists_section (Validation.logging home) rfl rfl
      fun held hheld => (hsections "logging" held hheld).imp_right TypedSection.exists_logging
  obtain ⟨heldContext, hcontext, hcontextFields⟩ :=
    Validation.exists_section Validation.context rfl rfl
      fun held hheld => (hsections "context" held hheld).imp_right TypedSection.exists_context
  rw [hchosen, Validation.sections, Validation.sections]
  refine congr (congrArg _ (hlogging.trans ?_)) (hcontext.trans ?_)
  · refine congrArg (Verdict.within (.field "logging")) (Validation.logging_congr home ?_ ?_)
    · exact (hloggingFields "level").trans hlevel.symm
    · exact (hloggingFields "outputs").trans houtputs.symm
  · refine congrArg (Verdict.within (.field "context")) (Validation.context_congr ?_)
    exact (hcontextFields "default_version").trans hversion.symm

theorem noExtras_eq_accepted {fields : Entries Value}
    (hnames : ∀ name ∈ fields.keys, name ∈ Settings.sectionNames) :
    Validation.noExtras fields = .accepted () := by
  induction fields with
  | nil => rfl
  | cons entry rest ih =>
      obtain ⟨name, value⟩ := entry
      obtain ⟨hname, hrest⟩ := List.forall_mem_cons.mp hnames
      have hsection : name = "logging" ∨ name = "context" := by
        simpa [Settings.sectionNames] using hname
      rw [Validation.noExtras, if_pos hsection]
      exact ih hrest

theorem load_eq_outcome {s : Sources} {fields : Entries Value}
    (h : s.merged = .ok (.object fields))
    (hnames : ∀ name ∈ fields.keys, name ∈ Settings.sectionNames) :
    s.load = outcome (Validation.sections s.home fields) := by
  have hclosed : Validation.closedSettings s.home fields =
      Validation.sections s.home fields := by
    rw [Validation.closedSettings, noExtras_eq_accepted hnames]
    exact Verdict.both_accepted_unit _ (fun _ => rfl) _
  rw [load_eq_checked, checked, h, ← hclosed]
  rfl

theorem outcome_eq_ok_iff {verdict : Verdict Settings} {settings : Settings} :
    outcome verdict = .ok settings ↔ verdict = .accepted settings := by
  cases verdict <;> simp [outcome]

variable {s other : Sources} {globals project globals' project' : Value}
  {environment environment' : Entries Value}

theorem Read.exists_values (h : s.Read globals project environment) :
    ∃ values : Setting → Option Value,
      (∀ setting, s.Together globals project environment setting (values setting)) ∧
      s.load = outcome (Validation.sections s.home (chosen values)) := by
  obtain ⟨fields, hmerged, hnames, hsections, hgiven⟩ := h.exists_merged
  refine ⟨fun setting => (Value.object fields).given? setting, hgiven, ?_⟩
  rw [load_eq_outcome hmerged hnames, sections_eq_chosen s.home hsections]

theorem load_eq_ok_iff {values : Setting → Option Value}
    (h : s.load = outcome (Validation.sections s.home (chosen values))) (settings : Settings) :
    s.load = .ok settings ↔ Settled s.home values settings := by
  rw [h, outcome_eq_ok_iff, sections_chosen_eq_accepted_iff]

theorem given_of_override (setting : Setting) {held value : Value}
    (hheld : s.overrides.get? setting.sectionName = some held)
    (hvalue : held.member? setting.fieldName = some value) :
    ∃ others, s.given globals project environment setting = value :: others := by
  have hgiven : (Value.object s.overrides).given? setting = some value := by
    rw [given?, member?_object, hheld]
    exact hvalue
  rw [given, hgiven]
  exact ⟨_, rfl⟩

theorem settled_iff_of_logging {home : String} {logging : LoggingSettings}
    {values : Setting → Option Value} (hlogging : logging.Normal)
    (hoverride : s.overrides.get? "logging" = some logging.record)
    (hvalues : ∀ setting, Prevails (s.given globals project environment setting) (values setting))
    (settings : Settings) :
    Settled home values settings ↔ settings.logging = logging ∧
      Validation.Takes Validation.version ContextSettings.default.version (values .version)
        settings.context.version := by
  have hlevel : values .level = some (.text logging.level.name) := by
    obtain ⟨others, hgiven⟩ := given_of_override .level hoverride rfl
    exact (hgiven ▸ hvalues .level).eq_first rfl
  have houtputs : values .outputs = some (.list (logging.outputs.map OutputSettings.record)) := by
    obtain ⟨others, hgiven⟩ := given_of_override .outputs hoverride rfl
    exact (hgiven ▸ hvalues .outputs).eq_first rfl
  have hchecked : Validation.outputs home (.list (logging.outputs.map OutputSettings.record)) =
      .accepted logging.outputs :=
    Validation.outputs_list home hlogging (Validation.model_record .output)
  constructor
  · rintro ⟨htakesLevel, htakesOutputs, hversion⟩
    rw [hlevel] at htakesLevel
    rw [houtputs] at htakesOutputs
    have hsameLevel := Verdict.accepted.inj
      ((Validation.level_name logging.level).symm.trans htakesLevel)
    have hsameOutputs := Verdict.accepted.inj (hchecked.symm.trans htakesOutputs)
    refine ⟨?_, hversion⟩
    obtain ⟨level, outputs⟩ := logging
    cases hsameLevel
    cases hsameOutputs
    rfl
  · rintro ⟨rfl, hversion⟩
    refine ⟨?_, ?_, hversion⟩
    · rw [hlevel]
      exact Validation.level_name _
    · rw [houtputs]
      exact hchecked

theorem settled_iff_of_context {home : String} {context : ContextSettings}
    {values : Setting → Option Value}
    (hoverride : s.overrides.get? "context" = some context.record)
    (hvalues : ∀ setting, Prevails (s.given globals project environment setting) (values setting))
    (settings : Settings) :
    Settled home values settings ↔ settings.context = context ∧
      Validation.Takes Validation.level LoggingSettings.default.level (values .level)
        settings.logging.level ∧
      Validation.Takes (Validation.outputs home) LoggingSettings.default.outputs (values .outputs)
        settings.logging.outputs := by
  have hversion : values .version = some (.text context.version.text) := by
    obtain ⟨others, hgiven⟩ := given_of_override .version hoverride rfl
    exact (hgiven ▸ hvalues .version).eq_first rfl
  constructor
  · rintro ⟨hlevel, houtputs, htakesVersion⟩
    rw [hversion] at htakesVersion
    have hsame := Verdict.accepted.inj
      ((Validation.version_text context.version).symm.trans htakesVersion)
    refine ⟨?_, hlevel, houtputs⟩
    obtain ⟨version⟩ := context
    cases hsame
    rfl
  · rintro ⟨rfl, hlevel, houtputs⟩
    refine ⟨hlevel, houtputs, ?_⟩
    rw [hversion]
    exact Validation.version_text _

/-- What a setting becomes depends on the first value given for it alone: an object is refused,
whatever it is put together with. -/
theorem takes_congr {α : Type} {check : Value → Verdict α}
    (hobject : ∀ value, value.isObject = true → ∀ result, check value ≠ .accepted result)
    {givens givens' : List Value} {value value' : Option Value} (h : Prevails givens value)
    (h' : Prevails givens' value') (hhead : givens'.head? = givens.head?) (default result : α) :
    Validation.Takes check default value' result ↔ Validation.Takes check default value result := by
  -- whatever an object is put together with is an object again
  have hrefused : ∀ {first : Value} {others : List Value} {value : Option Value},
      Prevails (first :: others) value → first.isObject = true →
        ¬Validation.Takes check default value result := by
    intro first others value h hfirst htakes
    obtain ⟨taken, rfl, htaken⟩ := h.2 hfirst
    exact hobject taken htaken result htakes
  cases givens with
  | nil =>
      have hnil : givens' = [] := List.head?_eq_none_iff.mp hhead
      subst hnil
      cases h
      cases h'
      rfl
  | cons first others =>
      obtain ⟨others', rfl⟩ := List.head?_eq_some_iff.mp hhead
      cases hfirst : first.isObject with
      | false => rw [h.eq_first hfirst, h'.eq_first hfirst]
      | true => exact iff_of_false (hrefused h' hfirst) (hrefused h hfirst)

/-- Precedence among sources, field by field. -/
theorem Read.load_precedence (h : s.Read globals project environment) :
    (∃ values : Setting → Option Value,
      (∀ setting, Prevails (s.given globals project environment setting) (values setting)) ∧
      (∀ setting, s.Together globals project environment setting (values setting)) ∧
      s.load = outcome (Validation.sections s.home (chosen values)) ∧
      (∀ settings, s.load = .ok settings ↔ Settled s.home values settings) ∧
      (∀ setting value, values setting = some value → value.isObject = true →
        ∀ settings, s.load ≠ .ok settings) ∧
      (∀ home data logging, Validation.logging home data = .accepted logging →
        s.overrides.get? "logging" = some logging.record →
          ∀ settings, s.load = .ok settings ↔ settings.logging = logging ∧
            Validation.Takes Validation.version ContextSettings.default.version (values .version)
              settings.context.version) ∧
      (∀ context, s.overrides.get? "context" = some context.record →
        ∀ settings, s.load = .ok settings ↔ settings.context = context ∧
          Validation.Takes Validation.level LoggingSettings.default.level (values .level)
            settings.logging.level ∧
          Validation.Takes (Validation.outputs s.home) LoggingSettings.default.outputs
            (values .outputs) settings.logging.outputs)) ∧
    ∀ (other : Sources) (globals' project' : Value) (environment' : Entries Value),
      other.Read globals' project' environment' → other.home = s.home →
      (∀ setting, (other.given globals' project' environment' setting).head? =
        (s.given globals project environment setting).head?) →
      (∀ settings, other.load = .ok settings ↔ s.load = .ok settings) ∧
        ((∀ setting, Apart (other.given globals' project' environment' setting)) →
          (∀ setting, Apart (s.given globals project environment setting)) →
            other.load = s.load) := by
  obtain ⟨values, htogether, hload⟩ := h.exists_values
  have hvalues := fun setting => (htogether setting).prevails
  have hsettled := load_eq_ok_iff hload
  refine ⟨⟨values, hvalues, htogether, hload, hsettled, ?_, ?_, ?_⟩, ?_⟩
  · intro setting value hvalue hobject settings hok
    obtain ⟨hlevel, houtputs, hversion⟩ := (hsettled settings).mp hok
    cases setting with
    | level => exact Validation.level_ne_accepted hobject _ (hvalue ▸ hlevel)
    | outputs => exact Validation.outputs_ne_accepted hobject _ (hvalue ▸ houtputs)
    | version => exact Validation.version_ne_accepted hobject _ (hvalue ▸ hversion)
  · intro home data logging hlogging hoverride settings
    rw [hsettled]
    exact settled_iff_of_logging (Validation.normal_of_logging hlogging) hoverride hvalues settings
  · intro context hoverride settings
    rw [hsettled]
    exact settled_iff_of_context hoverride hvalues settings
  · intro other globals' project' environment' hother hhome hheads
    obtain ⟨values', htogether', hload'⟩ := hother.exists_values
    have hvalues' := fun setting => (htogether' setting).prevails
    refine ⟨fun settings => ?_, fun hapart' hapart => ?_⟩
    · rw [load_eq_ok_iff hload', hsettled, hhome]
      have hlevel := takes_congr (fun _ => Validation.level_ne_accepted) (hvalues .level)
        (hvalues' .level) (hheads .level) LoggingSettings.default.level settings.logging.level
      have houtputs := takes_congr (fun _ => @Validation.outputs_ne_accepted s.home _)
        (hvalues .outputs) (hvalues' .outputs) (hheads .outputs) LoggingSettings.default.outputs
        settings.logging.outputs
      have hversion := takes_congr (fun _ => Validation.version_ne_accepted) (hvalues .version)
        (hvalues' .version) (hheads .version) ContextSettings.default.version
        settings.context.version
      exact ⟨fun ⟨hl, ho, hv⟩ => ⟨hlevel.mp hl, houtputs.mp ho, hversion.mp hv⟩,
        fun ⟨hl, ho, hv⟩ => ⟨hlevel.mpr hl, houtputs.mpr ho, hversion.mpr hv⟩⟩
    · have hsame : values' = values := by
        funext setting
        exact (hvalues' setting).unique (hvalues setting) (hheads setting) (hapart' setting)
          (hapart setting)
      rw [hload', hload, hsame, hhome]

def fourSources : Sources where
  home := "/root"
  globalFile := some ⟨"/root/global.yaml", .ok (.object
    [("context", .object []), ("logging", .object [("level", .null), ("outputs", .list [])])])⟩
  projectFile := some ⟨"/project.yaml", .ok (.object
    [("logging", .object [("level", .object []), ("other", .null)])])⟩
  environment := [("ANNOSCOPE__LOGGING__LEVEL", "ERROR")]
  overrides := [("context", ContextSettings.record ⟨.v310⟩)]

theorem load_fourSources :
    fourSources.load = .ok ⟨⟨.error, []⟩, ⟨.v310⟩⟩ := by
  have hread : fourSources.Read
      (.object [("context", .object []),
        ("logging", .object [("level", .null), ("outputs", .list [])])])
      (.object [("logging", .object [("level", .object []), ("other", .null)])])
      [("logging", .object [("level", .text "ERROR")])] := {
    globalFile := rfl
    projectFile := rfl
    ends := ⟨_, layer_eq_merge _ _ rfl⟩
    contributed := rfl
    globalSections := by
      refine sectioned_object (by decide) (by decide) fun entry hentry => ?_
      rcases List.mem_cons.mp hentry with rfl | hentry
      · exact (plain_object (by decide)).distinct
      · cases List.mem_singleton.mp hentry
        exact (plain_object (by decide)).distinct
    projectSections := sectioned_single (by decide) (plain_object (by decide)).distinct
    environmentSections := by
      intro name held hheld
      cases List.mem_singleton.mp (Entries.mem_of_get? hheld)
      exact ⟨_, rfl⟩
    overridesNamed := by decide
    overridesSections := by
      intro name held hheld
      cases List.mem_singleton.mp (Entries.mem_of_get? hheld)
      exact .inr (@TypedSection.context (.object [("default_version", .text "3.1.0")]) _ rfl) }
  obtain ⟨⟨values, hvalues, -, -, hsettled, -⟩, -⟩ := hread.load_precedence
  refine (hsettled _).mpr ⟨?_, ?_, ?_⟩
  · rw [(hvalues .level).eq_first rfl]
    rfl
  · rw [(hvalues .outputs).eq_first rfl]
    rfl
  · rw [(hvalues .version).eq_first rfl]
    rfl

def objectSources : Sources where
  home := "/root"
  globalFile := none
  projectFile := some ⟨"/project.yaml", .ok (.object
    [("logging", .object [("level", .object [("b", .text "y")])])])⟩
  environment := []
  overrides := [("logging", .object [("level", .object [("a", .text "x")])])]

def looped : Value :=
  .loop [] (.object [("y", .again [])])

/-- Two files with objects that stand inside themselves, under a name that is no setting. -/
def loopedSources : Sources where
  home := "/root"
  globalFile := some ⟨"/root/global.yaml", .ok (.object [("logging", .object [("other", looped)])])⟩
  projectFile := some ⟨"/project.yaml", .ok (.object [("logging", .object [("other", looped)])])⟩
  environment := []
  overrides := []

theorem layerWith_single {deeper : Value → Value → Except Fault Value} {base held given : Value}
    {name : String} {fault : Fault} (hbase : base.content.entries? = some [(.text name, held)])
    (h : layerWith deeper held given = .error fault) :
    layerWith deeper base (.object [(name, given)]) = .error fault := by
  have hpair : pair? [(.text name, held)] (.text name) = some held := if_pos (sameKey_self _)
  rw [layerWith, hbase]
  simp only [layerFields, hpair, h]
  rfl

theorem exists_layerTo_eq (depth : Nat) : ∃ deeper, layerTo depth = layerWith deeper := by
  cases depth with
  | zero => exact ⟨_, rfl⟩
  | succ depth => exact ⟨_, rfl⟩

theorem layerTo_looped (depth : Nat) : layerTo depth looped looped = .error .tooDeep := by
  induction depth with
  | zero => rfl
  | succ depth ih =>
      have hdeeper : layerTo (depth + 1) looped looped =
          layerTo depth looped (.object [("y", looped)]) := rfl
      obtain ⟨deeper, hlayer⟩ := exists_layerTo_eq depth
      rw [hdeeper, hlayer]
      exact layerWith_single rfl (hlayer ▸ ih)

theorem fileContents_loopedSources : loopedSources.fileContents = .error (.fault .tooDeep) := by
  have hlayer : (Value.object [("logging", .object [("other", looped)])]).layer
      (.object [("logging", .object [("other", looped)])]) = .error .tooDeep := by
    have hlooped := layerTo_looped greatestDepth
    obtain ⟨deeper, hdeeper⟩ := exists_layerTo_eq greatestDepth
    rw [hdeeper] at hlooped
    rw [layer, hdeeper]
    exact layerWith_single rfl (layerWith_single rfl hlooped)
  have hglobal : SettingsFile.contents loopedSources.globalFile =
      .ok (.object [("logging", .object [("other", looped)])]) := rfl
  have hproject : SettingsFile.contents loopedSources.projectFile =
      .ok (.object [("logging", .object [("other", looped)])]) := rfl
  rw [fileContents, hglobal, hproject]
  simp only [bind, Except.bind, hlayer]
  rfl

theorem load_loopedSources : loopedSources.load = .error (.fault .tooDeep) := by
  rw [load_eq_checked, checked, merged, fileContents_loopedSources]
  rfl

/-- The first value alone does not decide where it is an object above another object: these are put
together, in the files perhaps without end. -/
theorem load_not_by_first :
    (∃ globals project environment, objectSources.Read globals project environment ∧
      objectSources.load ≠ outcome (Validation.sections objectSources.home
        (chosen fun setting =>
          (objectSources.given globals project environment setting).head?))) ∧
    ∃ globals project, SettingsFile.contents loopedSources.globalFile = .ok globals ∧
      SettingsFile.contents loopedSources.projectFile = .ok project ∧
      globals.Sectioned ∧ project.Sectioned ∧
      loopedSources.load ≠ outcome (Validation.sections loopedSources.home
        (chosen fun setting => (loopedSources.given globals project [] setting).head?)) := by
  constructor
  · have hread : objectSources.Read (.object [])
        (.object [("logging", .object [("level", .object [("b", .text "y")])])]) [] := {
      globalFile := rfl
      projectFile := rfl
      ends := ⟨_, layer_eq_merge _ _ rfl⟩
      contributed := rfl
      globalSections := sectioned_object (by decide) (by decide) nofun
      projectSections := sectioned_single (by decide) (plain_object (by decide)).distinct
      environmentSections := nofun
      overridesNamed := by decide
      overridesSections := by
        intro name held hheld
        cases List.mem_singleton.mp (Entries.mem_of_get? hheld)
        exact .inl (plain_object (by decide)) }
    refine ⟨_, _, _, hread, fun hsame => ?_⟩
    have hload : objectSources.load = .error (.problem (.invalidValue (.text "logging.level")
        (.object [("b", .text "y"), ("a", .text "x")]) (.text Rule.level.message))) := rfl
    have hfirst := hload.symm.trans (hsame.trans (b := .error (.problem (.invalidValue
        (.text "logging.level") (.object [("a", .text "x")]) (.text Rule.level.message)))) rfl)
    exact absurd (Except.error.inj hfirst) (by decide)
  · refine ⟨_, _, rfl, rfl, ?_, ?_, fun hsame => ?_⟩
    · exact sectioned_single (by decide) (plain_object (by decide)).distinct
    · exact sectioned_single (by decide) (plain_object (by decide)).distinct
    · have hdefault := load_loopedSources.symm.trans
        (hsame.trans (b := .ok Settings.default) rfl)
      cases hdefault

end Sources

end FactScope
