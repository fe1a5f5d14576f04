import FactScope.Proofs.Settings.Dump
import FactScope.Proofs.Settings.Outcome
import FactScope.Proofs.Value.Without

namespace FactScope

open Value

theorem Settings.mem_sectionNames_iff {name : String} :
    name ∈ Settings.sectionNames ↔ name = "logging" ∨ name = "context" := by
  simp [Settings.sectionNames]

namespace Validation

theorem sections_congr (home : String) {fields others : Entries Value}
    (hlogging : fields.get? "logging" = others.get? "logging")
    (hcontext : fields.get? "context" = others.get? "context") :
    sections home fields = sections home others := by
  rw [sections, sections, field_congr hlogging, field_congr hcontext]

theorem fault?_sections_eq (home : String) (fields : Entries Value) :
    (sections home fields).fault? =
      (field fields "logging" Settings.default.logging (logging home)).fault? := by
  simp only [sections, Verdict.fault?_both, fault?_field, fault?_context, Option.bind_fun_none,
    Option.or_none]

theorem noExtras_dropName {name : String} (hname : name ∈ Settings.sectionNames)
    (pairs : List (Value × Value)) :
    noExtras (textEntries (dropName name pairs)) = noExtras (textEntries pairs) := by
  have hsection := Settings.mem_sectionNames_iff.mp hname
  induction pairs with
  | nil => rfl
  | cons entry rest ih =>
      obtain ⟨key, value⟩ := entry
      by_cases hkey : key = .text name
      · subst hkey
        rw [dropName_cons_self, ih, textEntries, noExtras, if_pos hsection]
      · rw [dropName_cons_of_ne hkey]
        cases key with
        | text other => rw [textEntries, textEntries, noExtras, noExtras, ih]
        | _ => exact ih

end Validation

namespace Verdict

variable {α β γ : Type}

theorem both_rejected (f : α → β → γ) (first : Violation) (others : List Violation)
    {v : Verdict β} (h : v.fault? = none) :
    ∃ more, both f (rejected first others) v = rejected first more := by
  cases v with
  | accepted b => exact ⟨_, rfl⟩
  | rejected next rest => exact ⟨_, rfl⟩
  | undecided fault => cases h

end Verdict

namespace SettingsFile

def without (name : String) (file : SettingsFile) : SettingsFile :=
  { file with content := file.content.map (Value.without name) }

variable {file : Option SettingsFile} {value : Value}

theorem contents_of_isObject (path : String) (h : value.isObject = true) :
    contents (some ⟨path, .ok value⟩) = .ok value := by
  have hentries : value.content.entries?.isSome = true := h
  cases value with
  | null => cases h
  | _ => simp only [contents, hentries, if_true]

theorem exists_whole_of_contents {file : SettingsFile} (h : contents (some file) = .ok value) :
    file.content = .ok .null ∧ value = .object [] ∨ file.content = .ok value := by
  unfold contents at h
  split at h
  · next hnone => cases hnone
  · next same hsame =>
    cases hsame
    split at h
    · cases h
    · cases h
    · next hcontent =>
      cases h
      exact .inl ⟨hcontent, rfl⟩
    · next hcontent =>
      split at h
      · cases h
        exact .inr hcontent
      · cases h

theorem contents_without (h : contents file = .ok value) (name : String) :
    contents (file.map (without name)) = .ok (value.without name) := by
  cases file with
  | none =>
      cases h
      rfl
  | some file =>
      rw [Option.map_some, without]
      rcases exists_whole_of_contents h with ⟨hcontent, rfl⟩ | hcontent
      · rw [hcontent]
        rfl
      · rw [hcontent]
        obtain ⟨pairs, hpairs⟩ := exists_entries (Sources.isObject_of_contents h)
        refine contents_of_isObject file.path ?_
        rw [without_of_entries hpairs]
        exact isObject_ofEntries _

end SettingsFile

namespace Sources

def withoutGlobal (name : String) (s : Sources) : Sources :=
  { s with globalFile := s.globalFile.map (SettingsFile.without name) }

def withoutProject (name : String) (s : Sources) : Sources :=
  { s with projectFile := s.projectFile.map (SettingsFile.without name) }

def Silent (s : Sources) (name : String) : Prop :=
  ∃ environment, Environment.contribution s.environment = .ok environment ∧
    environment.get? name = none ∧ sectionOverride? s.overrides name = none

def nullSection (name : String) : Violation :=
  ⟨[.field name], .model (if name = "logging" then .logging else .context), .null⟩

/-- A section comes to be checked: all keys are strings and no violation or fault of the logging
section comes before it. -/
def Reaches (s : Sources) (name : String) : Prop :=
  ∃ fields : Entries Value, s.merged = .ok (.object fields) ∧
    (name = "context" → ∃ logging, Validation.field fields "logging" Settings.default.logging
      (Validation.logging s.home) = .accepted logging)

/-- How sources with a null section load, against sources without the section. -/
structure Refuses (s : Sources) (name : String) (other : Sources) : Prop where
  reached : other.Reaches name → s.load = .error (.problem (nullSection name).toProblem)
  unreached : ¬other.Reaches name → s.load = other.load
  never : ∀ settings, s.load ≠ .ok settings

variable {s other : Sources} {name : String} {pairs others : List (Value × Value)}

theorem load_of_texts (h : s.merged = .ok (ofEntries pairs))
    (htexts : pairs.all (fun entry => entry.1.isText) = true) :
    s.load = outcome (Validation.closedSettings s.home (textEntries pairs)) := by
  rw [ofEntries, if_pos htexts] at h
  rw [load_eq_outcome_verdict h]
  · rfl
  · intro key hkey
    obtain ⟨entry, -, rfl⟩ := List.mem_map.mp hkey
    rfl

theorem load_of_not_texts (h : s.merged = .ok (ofEntries pairs))
    (htexts : ¬pairs.all (fun entry => entry.1.isText) = true) :
    s.load =
      if pairs.any (fun entry => entry.1.kind ≠ .text) then .error (.fault .notNamed)
      else match (Validation.sections s.home (textEntries pairs)).fault? with
        | some fault => .error (.fault fault)
        | none => .error (Violation.failure ⟨[], .unpaired, unpairedKey pairs⟩) := by
  rw [ofEntries, if_neg htexts] at h
  rw [load_eq_checked, checked, h]
  change (if _ then _ else _) = _
  congr 1
  cases Validation.sections s.home (textEntries pairs) <;> rfl

theorem get?_eq_of_dropName (h : dropName name pairs = dropName name others) {key : String}
    (hkey : key ≠ name) : (textEntries pairs).get? key = (textEntries others).get? key := by
  have hne : Value.text key ≠ .text name := fun heq => hkey (Value.text.inj heq)
  rw [get?_textEntries, get?_textEntries, ← pair?_dropName hne, h, pair?_dropName hne]

theorem all_isText_eq_of_dropName (h : dropName name pairs = dropName name others) :
    pairs.all (fun entry => entry.1.isText) = others.all fun entry => entry.1.isText := by
  rw [List.all_eq_not_any_not, List.all_eq_not_any_not]
  refine congrArg Bool.not ?_
  rw [← any_dropName name (fun _ => rfl), h, any_dropName name fun _ => rfl]

theorem noExtras_eq_of_dropName (hname : name ∈ Settings.sectionNames)
    (h : dropName name pairs = dropName name others) :
    Validation.noExtras (textEntries pairs) = Validation.noExtras (textEntries others) := by
  rw [← Validation.noExtras_dropName hname, h, Validation.noExtras_dropName hname]

theorem load_eq_of_not_texts (h : s.merged = .ok (ofEntries pairs))
    (hother : other.merged = .ok (ofEntries others))
    (hdrop : dropName name pairs = dropName name others)
    (hfault : (Validation.sections s.home (textEntries pairs)).fault? =
      (Validation.sections other.home (textEntries others)).fault?)
    (htexts : ¬pairs.all (fun entry => entry.1.isText) = true) : s.load = other.load := by
  have hkinds : pairs.any (fun entry => entry.1.kind ≠ .text) =
      others.any fun entry => entry.1.kind ≠ .text := by
    rw [← any_dropName name (fun _ => rfl), hdrop, any_dropName name fun _ => rfl]
  have hkey : unpairedKey pairs = unpairedKey others := by
    rw [unpairedKey, unpairedKey, ← find?_dropName name (fun _ => rfl), hdrop,
      find?_dropName name fun _ => rfl]
  rw [load_of_not_texts h htexts,
    load_of_not_texts hother (all_isText_eq_of_dropName hdrop ▸ htexts), hkinds, hfault, hkey]

theorem load_congr (h : s.merged = .ok (ofEntries pairs))
    (hother : other.merged = .ok (ofEntries others)) (hhome : s.home = other.home)
    (hname : name ∈ Settings.sectionNames) (hdrop : dropName name pairs = dropName name others)
    (hsame : pair? pairs (.text name) = pair? others (.text name)) : s.load = other.load := by
  have hget : ∀ key, (textEntries pairs).get? key = (textEntries others).get? key := by
    intro key
    by_cases hkey : key = name
    · rw [hkey, get?_textEntries, get?_textEntries, hsame]
    · exact get?_eq_of_dropName hdrop hkey
  have hsections : Validation.sections s.home (textEntries pairs) =
      Validation.sections other.home (textEntries others) :=
    hhome ▸ Validation.sections_congr s.home (hget "logging") (hget "context")
  by_cases htexts : pairs.all (fun entry => entry.1.isText) = true
  · rw [load_of_texts h htexts, load_of_texts hother (all_isText_eq_of_dropName hdrop ▸ htexts),
      Validation.closedSettings, Validation.closedSettings, hsections,
      noExtras_eq_of_dropName hname hdrop]
  · exact load_eq_of_not_texts h hother hdrop (congrArg Verdict.fault? hsections) htexts

theorem failure_nullSection (name : String) :
    (nullSection name).failure = .problem (nullSection name).toProblem := rfl

theorem outcome_of_rejected_logging {fields : Entries Value} {home : String} {first : Violation}
    {more : List Violation}
    (h : Validation.field fields "logging" Settings.default.logging (Validation.logging home) =
      .rejected first more) :
    outcome (Validation.closedSettings home fields) = .error first.failure := by
  have hcontext : (Validation.field fields "context" Settings.default.context
      Validation.context).fault? = none := by
    simp [Validation.fault?_field, Validation.fault?_context]
  obtain ⟨rest, hsections⟩ := Verdict.both_rejected Settings.mk first more hcontext
  obtain ⟨all, hclosed⟩ :=
    Verdict.both_rejected (fun settings _ => settings) first rest (fault?_noExtras fields)
  rw [Validation.closedSettings, Validation.sections, h, hsections, hclosed]
  rfl

theorem outcome_of_rejected_context {fields : Entries Value} {home : String} {first : Violation}
    {more : List Violation} {logging : LoggingSettings}
    (hlogging : Validation.field fields "logging" Settings.default.logging
      (Validation.logging home) = .accepted logging)
    (h : Validation.field fields "context" Settings.default.context Validation.context =
      .rejected first more) :
    outcome (Validation.closedSettings home fields) = .error first.failure := by
  obtain ⟨all, hclosed⟩ :=
    Verdict.both_rejected (fun settings _ => settings) first more (fault?_noExtras fields)
  rw [Validation.closedSettings, Validation.sections, hlogging, h]
  exact congrArg outcome hclosed

theorem outcome_of_undecided_logging {fields : Entries Value} {home : String} {fault : Fault}
    (h : Validation.field fields "logging" Settings.default.logging (Validation.logging home) =
      .undecided fault) :
    outcome (Validation.closedSettings home fields) = .error (.fault fault) := by
  rw [Validation.closedSettings, Validation.sections, h]
  rfl

theorem Refuses.of_reaches (hreaches : other.Reaches name)
    (h : s.load = .error (.problem (nullSection name).toProblem)) : s.Refuses name other :=
  ⟨fun _ => h, fun hnot => absurd hreaches hnot, fun _ hok => nomatch h.symm.trans hok⟩

theorem Refuses.of_not_reaches {failure : LoadFailure} (hnot : ¬other.Reaches name)
    (h : s.load = .error failure) (hother : other.load = .error failure) :
    s.Refuses name other :=
  ⟨fun hreaches => absurd hreaches hnot, fun _ => h.trans hother.symm,
    fun _ hok => nomatch h.symm.trans hok⟩

section

variable (h : s.merged = .ok (ofEntries pairs)) (hother : other.merged = .ok (ofEntries others))

include h hother

theorem refuses_null_logging (hdrop : dropName "logging" pairs = dropName "logging" others)
    (hnull : pair? pairs (.text "logging") = some .null)
    (htexts : pairs.all (fun entry => entry.1.isText) = true) : s.Refuses "logging" other := by
  have hrejected : Validation.field (textEntries pairs) "logging" Settings.default.logging
      (Validation.logging s.home) = .rejected (nullSection "logging") [] := by
    rw [Validation.field, get?_textEntries, hnull]
    rfl
  refine .of_reaches ⟨textEntries others, ?_, fun hcontext => absurd hcontext (by decide)⟩ ?_
  · rw [hother, ofEntries, if_pos (all_isText_eq_of_dropName hdrop ▸ htexts)]
  · rw [load_of_texts h htexts, outcome_of_rejected_logging hrejected, failure_nullSection]

variable (hhome : s.home = other.home)

include hhome

/-- A null context section comes after the violations and faults of the logging section. -/
theorem refuses_null_context (hdrop : dropName "context" pairs = dropName "context" others)
    (hnull : pair? pairs (.text "context") = some .null)
    (htexts : pairs.all (fun entry => entry.1.isText) = true) : s.Refuses "context" other := by
  have hothers := all_isText_eq_of_dropName hdrop ▸ htexts
  have hload := load_of_texts h htexts
  have hotherLoad := load_of_texts hother hothers
  have hobject : other.merged = .ok (.object (textEntries others)) := by
    rw [hother, ofEntries, if_pos hothers]
  have hlogging : Validation.field (textEntries pairs) "logging" Settings.default.logging
      (Validation.logging s.home) = Validation.field (textEntries others) "logging"
        Settings.default.logging (Validation.logging other.home) := by
    rw [hhome, Validation.field_congr (get?_eq_of_dropName hdrop (by decide))]
  have hnot (hrefused : ∀ logging, Validation.field (textEntries others) "logging"
      Settings.default.logging (Validation.logging other.home) ≠ .accepted logging) :
      ¬other.Reaches "context" := by
    rintro ⟨fields, hfields, haccepted⟩
    cases Except.ok.inj (hobject.symm.trans hfields)
    obtain ⟨logging, hlogging⟩ := haccepted rfl
    exact hrefused logging hlogging
  cases hverdict : Validation.field (textEntries others) "logging" Settings.default.logging
      (Validation.logging other.home) with
  | accepted logging =>
      have hrejected : Validation.field (textEntries pairs) "context" Settings.default.context
          Validation.context = .rejected (nullSection "context") [] := by
        rw [Validation.field, get?_textEntries, hnull]
        rfl
      refine .of_reaches ⟨_, hobject, fun _ => ⟨logging, hverdict⟩⟩ ?_
      rw [hload, outcome_of_rejected_context (hlogging.trans hverdict) hrejected,
        failure_nullSection]
  | rejected first more =>
      refine .of_not_reaches (hnot fun logging haccepted => ?_)
        (hload.trans (outcome_of_rejected_logging (hlogging.trans hverdict)))
        (hotherLoad.trans (outcome_of_rejected_logging hverdict))
      cases hverdict.symm.trans haccepted
  | undecided fault =>
      refine .of_not_reaches (hnot fun logging haccepted => ?_)
        (hload.trans (outcome_of_undecided_logging (hlogging.trans hverdict)))
        (hotherLoad.trans (outcome_of_undecided_logging hverdict))
      cases hverdict.symm.trans haccepted

theorem refuses_of_not_texts (hdrop : dropName name pairs = dropName name others)
    (hnull : pair? pairs (.text name) = some .null) (hnone : pair? others (.text name) = none)
    (htexts : ¬pairs.all (fun entry => entry.1.isText) = true) : s.Refuses name other := by
  have hfault : (Validation.sections s.home (textEntries pairs)).fault? =
      (Validation.sections other.home (textEntries others)).fault? := by
    rw [Validation.fault?_sections_eq, Validation.fault?_sections_eq, Validation.fault?_field,
      Validation.fault?_field, hhome]
    by_cases hlogging : "logging" = name
    · rw [get?_textEntries, get?_textEntries, hlogging, hnull, hnone]
      rfl
    · rw [get?_eq_of_dropName hdrop hlogging]
  have hnot : ¬other.Reaches name := by
    rintro ⟨fields, hfields, -⟩
    rw [hother, ofEntries, if_neg (all_isText_eq_of_dropName hdrop ▸ htexts)] at hfields
    cases hfields
  have hsame := load_eq_of_not_texts h hother hdrop hfault htexts
  cases hload : s.load with
  | error failure => exact .of_not_reaches hnot hload (hsame ▸ hload)
  | ok settings =>
      rw [load_of_not_texts h htexts] at hload
      split at hload
      · cases hload
      · split at hload <;> cases hload

theorem refuses_of_null (hname : name ∈ Settings.sectionNames)
    (hdrop : dropName name pairs = dropName name others)
    (hnull : pair? pairs (.text name) = some .null) (hnone : pair? others (.text name) = none) :
    s.Refuses name other := by
  by_cases htexts : pairs.all (fun entry => entry.1.isText) = true
  · rcases Settings.mem_sectionNames_iff.mp hname with rfl | rfl
    · exact refuses_null_logging h hother hdrop hnull htexts
    · exact refuses_null_context h hother hhome hdrop hnull htexts
  · exact refuses_of_not_texts h hother hhome hdrop hnull hnone htexts

end

def above (s : Sources) (environment : Entries Value) : List (Value × Value) :=
  pairsOf (mergeFields environment (namedOverrides s.overrides))

theorem get?_mergeFields_eq_none_iff {lower upper : Entries Value} :
    Entries.get? (mergeFields lower upper) name = none ↔
      lower.get? name = none ∧ upper.get? name = none := by
  induction upper generalizing lower with
  | nil => simp [Entries.get?]
  | cons entry rest ih =>
      obtain ⟨key, given⟩ := entry
      rw [mergeFields, ih, Entries.get?_put, Entries.get?]
      by_cases hkey : key = name
      · simp [hkey]
      · simp [hkey, Ne.symm hkey]

theorem pair?_above_eq_none_iff {environment : Entries Value}
    (hname : name ∈ Settings.sectionNames) :
    pair? (s.above environment) (.text name) = none ↔
      environment.get? name = none ∧ sectionOverride? s.overrides name = none := by
  rw [above, pair?_pairsOf, get?_mergeFields_eq_none_iff, get?_namedOverrides _ hname]

theorem nodup_above {environment : Entries Value}
    (h : Environment.contribution s.environment = .ok environment) :
    (textEntries (s.above environment)).keys.Nodup := by
  rw [above, pairsOf_mergeFields]
  refine (written_mergePairs _ _).nodup ?_
  rw [textEntries_pairsOf]
  exact (Environment.sections_contribution h).1.nodup (by decide)

theorem merged_of_files {environment : Entries Value}
    (hfiles : s.fileContents = .ok (ofEntries pairs))
    (h : Environment.contribution s.environment = .ok environment) :
    s.merged = .ok (ofEntries (mergePairs pairs (s.above environment))) := by
  rw [merged, hfiles, h, above]
  refine congrArg Except.ok (merge_eq_ofEntries ?_ rfl)
  exact content_of_entries? (entries?_ofEntries pairs)

theorem load_of_contribution {failure : Environment.Unreadable}
    (hfiles : s.fileContents = .ok (ofEntries pairs))
    (h : Environment.contribution s.environment = .error failure) :
    s.load = .error (.environment failure) := by
  rw [load_eq_checked, checked, merged, hfiles, h]
  rfl

/-- Sources whose files agree but for a section load alike if they agree on the section or give it
above the files; where one of them has a null section, it is refused otherwise. -/
theorem load_of_files (hfiles : s.fileContents = .ok (ofEntries pairs))
    (hothers : other.fileContents = .ok (ofEntries others))
    (habove : s.home = other.home ∧ s.environment = other.environment ∧
      s.overrides = other.overrides) (hname : name ∈ Settings.sectionNames)
    (hdrop : dropName name pairs = dropName name others) :
    (pair? pairs (.text name) = pair? others (.text name) → s.load = other.load) ∧
    (pair? pairs (.text name) = some .null → pair? others (.text name) = none →
      (¬s.Silent name → s.load = other.load) ∧ (s.Silent name → s.Refuses name other)) := by
  obtain ⟨hhome, henvironment, hoverrides⟩ := habove
  cases hcontribution : Environment.contribution s.environment with
  | error failure =>
      have hsame : s.load = other.load := by
        rw [load_of_contribution hfiles hcontribution,
          load_of_contribution hothers (henvironment ▸ hcontribution)]
      refine ⟨fun _ => hsame, fun _ _ => ⟨fun _ => hsame, ?_⟩⟩
      rintro ⟨environment, hread, -⟩
      cases hcontribution.symm.trans hread
  | ok environment =>
      have hmerged := merged_of_files hfiles hcontribution
      have hotherMerged := merged_of_files hothers (henvironment ▸ hcontribution)
      have hsame : other.above environment = s.above environment := by
        rw [above, above, hoverrides]
      rw [hsame] at hotherMerged
      have hnodup := nodup_above hcontribution
      have hmergedDrop : dropName name (mergePairs pairs (s.above environment)) =
          dropName name (mergePairs others (s.above environment)) := by
        rw [mergePairs_dropName, mergePairs_dropName, hdrop]
      have hcongr := load_congr hmerged hotherMerged hhome hname hmergedDrop
      rw [pair?_mergePairs hnodup, pair?_mergePairs hnodup] at hcongr
      refine ⟨fun hpair => hcongr (congrArg (stack · _) hpair), fun hnull hnone => ⟨?_, ?_⟩⟩
      · intro hgiven
        cases hvalue : pair? (s.above environment) (.text name) with
        | none =>
            have hsilent := (pair?_above_eq_none_iff hname).mp hvalue
            exact absurd ⟨environment, hcontribution, hsilent⟩ hgiven
        | some value =>
            refine hcongr ?_
            rw [hnull, hnone, hvalue]
            exact congrArg some (merge_eq_upper (.inl rfl))
      · rintro ⟨others', hread, hsilent⟩
        cases Except.ok.inj (hcontribution.symm.trans hread)
        have hvalue := (pair?_above_eq_none_iff (s := s) hname).mpr hsilent
        refine refuses_of_null hmerged hotherMerged hhome hname hmergedDrop ?_ ?_
        · rw [pair?_mergePairs hnodup, hnull, hvalue]
          rfl
        · rw [pair?_mergePairs hnodup, hnone, hvalue]
          rfl

/-- The same for what the two files hold; `given` and `given'` are what they give as the section. -/
theorem load_of_layers {layered layered' : Except Fault Value} {given given' : Option Value}
    (hfiles : s.fileContents = layered.mapError .fault)
    (hothers : other.fileContents = layered'.mapError .fault)
    (habove : s.home = other.home ∧ s.environment = other.environment ∧
      s.overrides = other.overrides) (hname : name ∈ Settings.sectionNames)
    (h : (∃ fault, layered = .error fault ∧ layered' = .error fault) ∨
      ∃ written rest, layered = .ok (ofEntries written) ∧ layered' = .ok (ofEntries rest) ∧
        dropName name written = dropName name rest ∧
        pair? written (.text name) = given ∧ pair? rest (.text name) = given') :
    (given = given' → s.load = other.load) ∧
    (given = some .null → given' = none →
      (¬s.Silent name → s.load = other.load) ∧ (s.Silent name → s.Refuses name other)) := by
  rcases h with ⟨fault, rfl, rfl⟩ | ⟨written, rest, rfl, rfl, hdrop, rfl, rfl⟩
  · have hload := merged_of_fileContents hfiles
    have hotherLoad := merged_of_fileContents hothers
    have hnot : ¬other.Reaches name := by
      rintro ⟨fields, hfields, -⟩
      rw [merged, hothers] at hfields
      cases hfields
    have hsame := hload.trans hotherLoad.symm
    exact ⟨fun _ => hsame, fun _ _ => ⟨fun _ => hsame,
      fun _ => .of_not_reaches hnot hload hotherLoad⟩⟩
  · exact load_of_files hfiles hothers habove hname hdrop

/-- A section that a settings file gives as null is not loaded as one that is missing. In the
project file it hides the global file's, so that only a source above the files can give the section.
If none does it is refused, unless something else is refused before it. -/
theorem load_null_section {globals project : Value} (hname : name ∈ Settings.sectionNames)
    (hglobals : SettingsFile.contents s.globalFile = .ok globals)
    (hproject : SettingsFile.contents s.projectFile = .ok project) (hdistinct : project.Distinct) :
    (project.member? name = some .null →
      (project.entries?.isSome = true ∨ ∃ files, globals.layer project = .ok files) →
      (¬s.Silent name → s.load = ((s.withoutProject name).withoutGlobal name).load) ∧
      (s.Silent name → s.Refuses name ((s.withoutProject name).withoutGlobal name))) ∧
    (globals.member? name = some .null →
      (project.member? name ≠ none ∨ ¬s.Silent name → s.load = (s.withoutGlobal name).load) ∧
      (project.member? name = none → s.Silent name → s.Refuses name (s.withoutGlobal name))) := by
  have hglobalObject := isObject_of_contents hglobals
  have hprojectObject := isObject_of_contents hproject
  have hfiles := fileContents_eq hglobals hproject
  have hglobalsWithout := SettingsFile.contents_without hglobals name
  have hprojectWithout := SettingsFile.contents_without hproject name
  obtain ⟨lower, hlower⟩ := exists_entries hglobalObject
  obtain ⟨pairs, hpairs, hnodup⟩ := hdistinct
  rw [without_of_entries hlower] at hglobalsWithout
  rw [without_of_entries hpairs] at hprojectWithout
  have hbelow := content_of_entries? (entries?_ofEntries (dropName name lower))
  have hlowerNone : ∀ held, pair? (dropName name lower) (.text name) ≠ some held := by
    rw [pair?_dropName_self]
    exact nofun
  rw [member?_of_entries hpairs, member?_of_entries hlower]
  refine ⟨fun hnull hends => ?_, fun hnull => ?_⟩
  · rw [layer_content hglobalObject hprojectObject hends] at hfiles
    have hothers := fileContents_eq (s := (s.withoutProject name).withoutGlobal name)
      hglobalsWithout hprojectWithout
    have hlayers := layerTo_apart name greatestDepth hlower hpairs hbelow
      (entries?_ofEntries (dropName name pairs)) hnodup (nodup_dropName hnodup)
      (dropName_dropName ..).symm (dropName_dropName ..).symm
      (fun held given _ hgiven => .inr (Option.some.inj (hnull.symm.trans hgiven) ▸ rfl))
      (fun held given hheld => absurd hheld (hlowerNone held))
    have hload := load_of_layers hfiles hothers ⟨rfl, rfl, rfl⟩ hname hlayers
    rw [hnull, pair?_dropName_self, pair?_dropName_self] at hload
    exact hload.2 rfl rfl
  · -- what stands on top of the null replaces it, however deep the project's object goes
    obtain ⟨depth, -, -, hlayer⟩ := exists_layer_eq_content hprojectObject
    have hothers := fileContents_eq (s := s.withoutGlobal name) hglobalsWithout hproject
    rw [hlayer hglobalObject] at hfiles
    rw [hlayer (isObject_ofEntries _)] at hothers
    have hlayers := layerTo_apart name depth hlower hpairs hbelow hpairs hnodup hnodup
      (dropName_dropName ..).symm rfl
      (fun held given hheld _ => .inl (Option.some.inj (hnull.symm.trans hheld) ▸ rfl))
      (fun held given hheld => absurd hheld (hlowerNone held))
    have hload := load_of_layers hfiles hothers ⟨rfl, rfl, rfl⟩ hname hlayers
    rw [hnull, pair?_dropName_self] at hload
    cases hgiven : pair? pairs (.text name) with
    | none =>
        rw [hgiven] at hload
        obtain ⟨habove, hsilent⟩ := hload.2 rfl rfl
        exact ⟨fun h => habove (h.resolve_left (absurd rfl)), fun _ => hsilent⟩
    | some given =>
        rw [hgiven] at hload
        exact ⟨fun _ => hload.1 rfl, nofun⟩

/-- A null section in the project file alone. -/
theorem load_null_logging :
    let s : Sources :=
      ⟨"/", none, some ⟨"config.yaml", .ok (.object [("logging", .null)])⟩, [], []⟩
    s.Silent "logging" ∧ s.load = .error (.problem (nullSection "logging").toProblem) := by
  intro s
  have hdistinct : (Value.object [("logging", .null)]).Distinct :=
    (plain_object (by decide)).distinct
  have hsilent : s.Silent "logging" := ⟨[], rfl, rfl, rfl⟩
  have hsection : "logging" ∈ Settings.sectionNames := by decide
  obtain ⟨-, hrefuses⟩ :=
    (load_null_section (s := s) hsection rfl rfl hdistinct).1 rfl (.inl rfl)
  exact ⟨hsilent, (hrefuses hsilent).reached ⟨_, rfl, nofun⟩⟩

/-- Deleting a null section from the project file changes what is loaded: it is refused no more,
and it hides the global file's no more. -/
theorem load_ne_of_null_logging :
    let project : SettingsFile := ⟨"config.yaml", .ok (.object [("logging", .null)])⟩
    let globals : SettingsFile :=
      ⟨"config.yaml", .ok (.object [("logging", .object [("level", .text "DEBUG")])])⟩
    let alone : Sources := ⟨"/", none, some project, [], []⟩
    let hidden : Sources :=
      ⟨"/", some globals, some project, [], [("logging", .object [("outputs", .list [])])]⟩
    alone.load ≠ (alone.withoutProject "logging").load ∧
      hidden.load = .ok ⟨⟨.info, []⟩, Settings.default.context⟩ ∧
      (hidden.withoutProject "logging").load = .ok ⟨⟨.debug, []⟩, Settings.default.context⟩ := by
  intro project globals alone hidden
  have hrefused : alone.load = .error (.problem (nullSection "logging").toProblem) := rfl
  have hloaded : (alone.withoutProject "logging").load = .ok Settings.default := rfl
  refine ⟨?_, rfl, rfl⟩
  rw [hrefused, hloaded]
  nofun

end Sources

end FactScope
