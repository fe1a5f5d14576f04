import FactScope.Proofs.Settings.Listing
import FactScope.Proofs.Settings.Normal
import FactScope.Proofs.Settings.Unknown
import FactScope.Proofs.Value.Json

namespace FactScope

namespace Validation

open Requirement (Broken BrokenField Extends broken_model_iff broken_outputs_iff broken_leaf_iff)

def Given (fields : Entries Value) (name : String) (P : Value → Prop) : Prop :=
  ∀ value, fields.get? name = some value → P value

/-- A standard stream, or a path that is absolute once the home directory is put in. -/
def DestinationText (home s : String) : Prop :=
  s = "stderr" ∨ s = "stdout" ∨
    ∃ path, (Path.parse (.ofString s)).expandHome home = .ok path ∧ path.isAbsolute = true

def OutputData (home : String) (value : Value) : Prop :=
  ∃ fields, value = .object fields ∧
    Given fields "format" (fun held => ∃ format : Format, held = .text format.name) ∧
    Given fields "destination" (fun held => ∃ s, held = .text s ∧ DestinationText home s) ∧
    Given fields "level" fun held => held = .null ∨ ∃ level : Level, held = .text level.name

def LoggingData (home : String) (value : Value) : Prop :=
  ∃ fields, value = .object fields ∧
    Given fields "level" (fun held => ∃ level : Level, held = .text level.name) ∧
    Given fields "outputs" fun held =>
      ∃ items, held = .list items ∧ ∀ item ∈ items, OutputData home item

def ContextData (value : Value) : Prop :=
  ∃ fields, value = .object fields ∧
    Given fields "default_version" fun held => ∃ version : Version, held = .text version.text

def SettingsData (home : String) (value : Value) : Prop :=
  ∃ fields, value = .object fields ∧ Given fields "logging" (LoggingData home) ∧
    Given fields "context" ContextData

variable {home : String} {value : Value}

theorem fieldsOf?_eq_some_iff_of_isJson (h : value.isJson = true) {required : Section}
    {fields : Entries Value} : fieldsOf? required value = some fields ↔ value = .object fields := by
  cases value with
  | object others => simp [fieldsOf?, Value.namedEntries?, Value.content]
  | mapping pairs => cases h
  | loop mark whole => cases h
  | record name others => cases h
  | _ => simp [fieldsOf?, Value.namedEntries?, Value.content]

theorem items?_eq_some_iff_of_isJson (h : value.isJson = true) {values : List Value} :
    items? value = some values ↔ value = .list values := by
  cases value with
  | list others => simp [items?, Value.content]
  | set others => cases h
  | loop mark whole => cases h
  | _ => simp [items?, Value.content]

theorem textOf?_eq_ok_iff_of_isJson (h : value.isJson = true) {points : Text.Points} :
    textOf? value = .ok points ↔ ∃ s : String, value = .text s ∧ points = .ofString s := by
  cases value with
  | text s => simp [textOf?, eq_comm]
  | datum d => cases h
  | _ => simp [textOf?]

theorem isJson_of_mem {values : List Value} (h : (Value.list values).isJson = true) {held : Value}
    (hheld : held ∈ values) : held.isJson = true := by
  rw [Value.isJson] at h
  induction values with
  | nil => cases hheld
  | cons first rest ih =>
      rw [Value.areJson, Bool.and_eq_true] at h
      rcases List.mem_cons.mp hheld with rfl | hrest
      · exact h.1
      · exact ih h.2 hrest

def Sound (home : String) (required : Requirement) (value : Value) : Prop :=
  ∀ v, ¬Broken home required value v

theorem sound_leaf_iff {required : Requirement} (h : required.isLeaf = true) :
    Sound home required value ↔ required.Allows home value := by
  constructor
  · intro hsound
    refine Classical.byContradiction fun hallows => ?_
    exact hsound _ ((broken_leaf_iff h).mpr ⟨hallows, rfl⟩)
  · intro hallows v hbroken
    exact ((broken_leaf_iff h).mp hbroken).1 hallows

theorem sound_model_iff (h : value.isJson = true) {required : Section} :
    Sound home (.model required) value ↔ ∃ fields, value = .object fields ∧
      ∀ member ∈ required.members, Given fields member.1 (Sound home member.2) := by
  constructor
  · intro hsound
    cases hfields : fieldsOf? required value with
    | none => exact absurd (broken_model_iff.mpr (.inl ⟨hfields, rfl⟩)) (hsound _)
    | some fields =>
        refine ⟨fields, (fieldsOf?_eq_some_iff_of_isJson h).mp hfields, ?_⟩
        intro member hmember held hheld v hbroken
        have hfield : BrokenField home fields member (v.within (.field member.1)) :=
          ⟨held, hheld, v, hbroken, rfl⟩
        exact hsound _ (broken_model_iff.mpr (.inr ⟨fields, hfields, member, hmember, hfield⟩))
  · rintro ⟨fields, hvalue, hsound⟩ v hbroken
    have hfields : fieldsOf? required value = some fields :=
      (fieldsOf?_eq_some_iff_of_isJson h).mpr hvalue
    rcases broken_model_iff.mp hbroken with ⟨hnone, -⟩ | ⟨others, hothers, member, hmember, held,
      hheld, w, hw, -⟩
    · cases hfields.symm.trans hnone
    · cases hfields.symm.trans hothers
      exact hsound member hmember held hheld w hw

theorem sound_outputs_iff (h : value.isJson = true) :
    Sound home .outputs value ↔
      ∃ items, value = .list items ∧ ∀ item ∈ items, Sound home (.model .output) item := by
  constructor
  · intro hsound
    cases hitems : items? value with
    | none => exact absurd (broken_outputs_iff.mpr (.inl ⟨hitems, rfl⟩)) (hsound _)
    | some items =>
        refine ⟨items, (items?_eq_some_iff_of_isJson h).mp hitems, ?_⟩
        intro item hitem v hbroken
        obtain ⟨n, hn⟩ := List.mem_iff_getElem?.mp hitem
        exact hsound _ (broken_outputs_iff.mpr (.inr ⟨items, hitems, n, item, hn, v, hbroken, rfl⟩))
  · rintro ⟨items, hvalue, hsound⟩ v hbroken
    have hitems := (items?_eq_some_iff_of_isJson h).mpr hvalue
    rcases broken_outputs_iff.mp hbroken with ⟨hnone, -⟩ | ⟨others, hothers, n, item, hitem, w,
      hw, -⟩
    · cases hitems.symm.trans hnone
    · cases hitems.symm.trans hothers
      exact hsound item (List.mem_of_getElem? hitem) w hw

theorem given_congr {fields : Entries Value} (h : (Value.object fields).isJson = true)
    (name : String) {P Q : Value → Prop} (hPQ : ∀ held, held.isJson = true → (P held ↔ Q held)) :
    Given fields name P ↔ Given fields name Q := by
  obtain ⟨-, hheld⟩ := Value.isJson_object_iff.mp h
  exact forall_congr' fun held => imp_congr_right fun hget => hPQ held (hheld name held hget)

theorem allows_destination_iff (h : value.isJson = true) :
    Requirement.destination.Allows home value ↔ ∃ s, value = .text s ∧ DestinationText home s := by
  rw [Requirement.Allows]
  constructor
  · rintro ⟨points, htext, hdestination⟩
    obtain ⟨s, rfl, rfl⟩ := (textOf?_eq_ok_iff_of_isJson h).mp htext
    rw [Text.Points.ofString_inj, Text.Points.ofString_inj] at hdestination
    exact ⟨s, rfl, hdestination⟩
  · rintro ⟨s, rfl, hdestination⟩
    refine ⟨.ofString s, rfl, ?_⟩
    rwa [Text.Points.ofString_inj, Text.Points.ofString_inj]

theorem allows_version_iff (h : value.isJson = true) :
    Requirement.version.Allows home value ↔ ∃ version : Version, value = .text version.text := by
  rw [Requirement.Allows]
  constructor
  · rintro ⟨points, htext, version, hversion⟩
    obtain ⟨s, rfl, rfl⟩ := (textOf?_eq_ok_iff_of_isJson h).mp htext
    rw [Text.Points.string?_ofChars, String.ofList_toList] at hversion
    exact ⟨version, congrArg Value.text (Option.some.inj hversion)⟩
  · rintro ⟨version, rfl⟩
    refine ⟨.ofChars version.text.toList, rfl, version, ?_⟩
    rw [Text.Points.string?_ofChars, String.ofList_toList]

theorem sound_output_iff (h : value.isJson = true) :
    Sound home (.model .output) value ↔ OutputData home value := by
  rw [sound_model_iff h]
  refine exists_congr fun fields => and_congr_right ?_
  rintro rfl
  simp only [Section.members, List.forall_mem_cons, List.not_mem_nil, false_imp_iff, implies_true,
    and_true]
  refine and_congr ?_ (and_congr ?_ ?_)
  · exact given_congr h _ fun held _ => sound_leaf_iff rfl
  · refine given_congr h _ fun held hheld => (sound_leaf_iff rfl).trans ?_
    exact allows_destination_iff hheld
  · exact given_congr h _ fun held _ => sound_leaf_iff rfl

theorem sound_logging_iff (h : value.isJson = true) :
    Sound home (.model .logging) value ↔ LoggingData home value := by
  rw [sound_model_iff h]
  refine exists_congr fun fields => and_congr_right ?_
  rintro rfl
  simp only [Section.members, List.forall_mem_cons, List.not_mem_nil, false_imp_iff, implies_true,
    and_true]
  refine and_congr ?_ ?_
  · exact given_congr h _ fun held _ => sound_leaf_iff rfl
  · refine given_congr h _ fun held hheld => (sound_outputs_iff hheld).trans ?_
    refine exists_congr fun items => and_congr_right ?_
    rintro rfl
    exact forall₂_congr fun item hitem => sound_output_iff (isJson_of_mem hheld hitem)

theorem sound_context_iff (h : value.isJson = true) :
    Sound home (.model .context) value ↔ ContextData value := by
  rw [sound_model_iff h]
  refine exists_congr fun fields => and_congr_right ?_
  rintro rfl
  simp only [Section.members, List.forall_mem_singleton]
  exact given_congr h _ fun held hheld => (sound_leaf_iff rfl).trans (allows_version_iff hheld)

theorem sound_settings_iff (h : value.isJson = true) :
    Sound home (.model .settings) value ↔ SettingsData home value := by
  rw [sound_model_iff h]
  refine exists_congr fun fields => and_congr_right ?_
  rintro rfl
  simp only [Section.members, List.forall_mem_cons, List.not_mem_nil, false_imp_iff, implies_true,
    and_true]
  refine and_congr ?_ ?_
  · exact given_congr h _ fun held hheld => sound_logging_iff hheld
  · exact given_congr h _ fun held hheld => sound_context_iff hheld

theorem Undecidable.eq_noHome {fault : Fault} (h : Undecidable home value fault)
    (hjson : value.isJson = true) : fault = .noHome := by
  cases h with
  | noHome => rfl
  | unencodable htext hword hpath hrelative hrun =>
      obtain ⟨s, -, rfl⟩ := (textOf?_eq_ok_iff_of_isJson hjson).mp htext
      rw [Text.Points.unencodable?_eq_none_of_ofChars] at hrun
      cases hrun

theorem isJson_of_get? {fields : Entries Value} (h : (Value.object fields).isJson = true)
    {name : String} (hget : fields.get? name = some value) : value.isJson = true :=
  (Value.isJson_object_iff.mp h).2 name value hget

theorem isJson_of_fieldsOf? {required : Section} {fields : Entries Value} (h : value.isJson = true)
    (hfields : fieldsOf? required value = some fields) : (Value.object fields).isJson = true :=
  (fieldsOf?_eq_some_iff_of_isJson h).mp hfields ▸ h

theorem isJson_of_mem_itemsOf (h : value.isJson = true) {item : Value}
    (hitem : item ∈ itemsOf value) : item.isJson = true := by
  cases value with
  | list values => exact isJson_of_mem h hitem
  | set values => cases h
  | loop mark whole => cases h
  | _ => cases hitem

theorem isJson_of_mem_destinations {fields : Entries Value}
    (h : (Value.object fields).isJson = true) (hmem : value ∈ destinations fields) :
    value.isJson = true := by
  obtain ⟨output, houtput, hvalue⟩ := List.mem_filterMap.mp hmem
  obtain ⟨inner, hinner, hdestination⟩ := Option.bind_eq_some_iff.mp hvalue
  obtain ⟨outputs, houtputs, hitem⟩ := List.mem_flatMap.mp houtput
  obtain ⟨held, hlogging, hheld⟩ := Option.bind_eq_some_iff.mp (Option.mem_toList.mp houtputs)
  obtain ⟨value, hget, hfields⟩ := Option.bind_eq_some_iff.mp hlogging
  have hjson := isJson_of_get? (isJson_of_fieldsOf? (isJson_of_get? h hget) hfields) hheld
  exact isJson_of_get? (isJson_of_fieldsOf? (isJson_of_mem_itemsOf hjson hitem) hinner) hdestination

/-- JSON data are judged unless they name a destination below an unknown home directory. -/
theorem fault?_settings_eq_none (hjson : value.isJson = true)
    (hhome : ∀ fields, value = .object fields →
      ∀ named ∈ destinations fields, ¬Undecidable home named .noHome) :
    (settings home value).fault? = none := by
  rw [settings, fault?_model]
  cases hfields : fieldsOf? .settings value with
  | none => rfl
  | some fields =>
      obtain rfl := (fieldsOf?_eq_some_iff_of_isJson hjson).mp hfields
      rw [Option.bind_some, fault?_sections, List.findSome?_eq_none_iff]
      intro named hnamed
      refine Option.eq_none_iff_forall_ne_some.mpr fun fault hfault => ?_
      refine hhome fields rfl named hnamed ?_
      have hundecidable := destination_eq_undecided_iff.mp (Verdict.fault?_eq_some_iff.mp hfault)
      exact hundecidable.eq_noHome (isJson_of_mem_destinations hjson hnamed) ▸ hundecidable

theorem violations_field {α : Type} (fields : Entries Value) (name : String) (default : α)
    (check : Value → Verdict α) : (field fields name default check).violations =
      (fields.get? name).toList.flatMap fun held =>
        (check held).violations.map (·.within (.field name)) := by
  unfold field
  cases fields.get? name with
  | none => rfl
  | some held => simp [Verdict.violations_within]

theorem violations_sections {fields : Entries Value} (h : (sections home fields).fault? = none) :
    (sections home fields).violations =
      ((fields.get? "logging").toList.flatMap fun held =>
        (logging home held).violations.map (·.within (.field "logging"))) ++
      (fields.get? "context").toList.flatMap fun held =>
        (context held).violations.map (·.within (.field "context")) := by
  rw [sections, Verdict.fault?_both, Option.or_eq_none_iff] at h
  rw [sections, Verdict.violations_both_of_decided _ h.1 h.2, violations_field, violations_field]

theorem exists_accepted_or_rejected {α : Type} {verdict : Verdict α} (h : verdict.fault? = none) :
    (∃ result, verdict = .accepted result) ∧ verdict.violations = [] ∨
      (∃ first others, verdict = .rejected first others) ∧ verdict.violations ≠ [] := by
  cases verdict with
  | accepted result => exact .inl ⟨⟨result, rfl⟩, rfl⟩
  | rejected first others => exact .inr ⟨⟨first, others, rfl⟩, nofun⟩
  | undecided fault => cases h

/-- JSON data without a destination below an unknown home directory are accepted if they hold what
they have to. Otherwise they are rejected for every value that is at fault at its place, each listed
once in the order of the places and none inside another; these are the violations of the sections
alone. An unknown name changes nothing. -/
theorem accepts_or_lists_broken {home : String} {data : Value} (hjson : data.isJson = true)
    (hhome : ∀ fields, data = .object fields →
      ∀ value ∈ destinations fields, ¬Undecidable home value .noHome) :
    ((∃ result, settings home data = .accepted result) ↔ SettingsData home data) ∧
    (¬SettingsData home data → ∃ first others, settings home data = .rejected first others) ∧
    (∀ v, v ∈ (settings home data).violations ↔ Broken home (.model .settings) data v) ∧
    ((settings home data).violations.Pairwise fun v w =>
      Violation.Before v.place w.place ∧ ¬v.place <+: w.place ∧ ¬w.place <+: v.place) ∧
    (∀ fields : Entries Value, data = .object fields → (settings home data).violations =
      ((fields.get? "logging").toList.flatMap fun held =>
        (logging home held).violations.map (·.within (.field "logging"))) ++
      (fields.get? "context").toList.flatMap fun held =>
        (context held).violations.map (·.within (.field "context"))) ∧
    ∀ other, Extends (.model .settings) data other → settings home other = settings home data := by
  have hfault := fault?_settings_eq_none hjson hhome
  obtain ⟨hmem, hordered⟩ := lists_settings home data hfault
  have hsound : (settings home data).violations = [] ↔ SettingsData home data := by
    rw [← sound_settings_iff hjson, List.eq_nil_iff_forall_not_mem]
    exact forall_congr' fun v => not_congr (hmem v)
  refine ⟨?_, fun hdata => ?_, hmem, ?_, ?_, fun other => ignores_settings data other⟩
  · rw [← hsound]
    rcases exists_accepted_or_rejected hfault with ⟨haccepted, hnil⟩ | ⟨⟨first, others, h⟩, hne⟩
    · exact iff_of_true haccepted hnil
    · refine iff_of_false ?_ hne
      rintro ⟨result, hresult⟩
      cases h.symm.trans hresult
  · rcases exists_accepted_or_rejected hfault with ⟨-, hnil⟩ | ⟨hrejected, -⟩
    · exact absurd (hsound.mp hnil) hdata
    · exact hrejected
  · exact hordered.imp fun hbefore => ⟨hbefore, hbefore.not_prefix⟩
  · rintro fields rfl
    exact violations_sections hfault

theorem accepts_or_lists_broken_faults :
    let data : Value := .object [("x", .int 1),
      ("logging", .object [("outputs", .list [.null, .object [("level", .int 10),
        ("destination", .text "a/b"), ("format", .text "json")]]), ("level", .text "info")]),
      ("context", .list [.object [("default_version", .null)]])]
    data.isJson = true ∧ (∀ fields, data = .object fields →
      ∀ value ∈ destinations fields, ¬Undecidable "/root" value .noHome) ∧
    ¬SettingsData "/root" data ∧
    (settings "/root" data).violations.map (·.place) =
      [[.field "logging", .field "level"], [.field "logging", .field "outputs", .index 0],
        [.field "logging", .field "outputs", .index 1, .field "destination"],
        [.field "logging", .field "outputs", .index 1, .field "level"], [.field "context"]] ∧
    Broken "/root" (.model .settings) data ⟨[.field "context"], .model .context,
      .list [.object [("default_version", .null)]]⟩ := by
  intro data
  have hjson : data.isJson = true := by decide +kernel
  have hhome : ∀ fields, data = .object fields →
      ∀ value ∈ destinations fields, ¬Undecidable "/root" value .noHome := by
    rintro fields hdata value hvalue hundecidable
    obtain rfl := Value.object.inj hdata
    obtain rfl : value = .text "a/b" := List.mem_singleton.mp hvalue
    cases destination_eq_undecided_iff.mpr hundecidable
  obtain ⟨haccepts, -, hmem, -⟩ := accepts_or_lists_broken hjson hhome
  refine ⟨hjson, hhome, fun hdata => ?_, by decide +kernel, (hmem _).mp (by decide +kernel)⟩
  obtain ⟨result, hresult⟩ := haccepts.mpr hdata
  cases hresult

end Validation

end FactScope
