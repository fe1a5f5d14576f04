import FactScope.Proofs.Settings.Destination
import FactScope.Proofs.Settings.Precedence

/-!
What loading settings can end in. It gives settings that pass their own rules, or a problem that
names the file or the setting at fault, or it escapes with something else. Main statement: when and
with what it escapes.
-/

namespace FactScope

namespace Sources

def sectionsOf : Value → Entries Value
  | .mapping pairs => Value.textEntries pairs
  | merged => merged.fields

def verdict (home : String) : Value → Verdict Settings
  | .mapping pairs =>
      match Validation.sections home (Value.textEntries pairs) with
      | .undecided fault => .undecided fault
      | _ => .rejected ⟨[], .unpaired, unpairedKey pairs⟩ []
  | merged => Validation.closedSettings home merged.fields

/-- What loading ends in where it gives no settings and no problem: a scalar in a file names no
value, the files cannot be put together, a variable cannot be read, a key is no text, a destination
cannot be judged, or the value at fault cannot be told. -/
inductive Escapes (s : Sources) : LoadFailure → Prop where
  | globalScalar {file : SettingsFile} {failure : Yaml.Failure} (hfile : s.globalFile = some file)
      (hcontent : file.content = .error failure) (hscalar : failure.isMalformed = false) :
      Escapes s (.scalar failure)
  | projectScalar {globals : Value} {file : SettingsFile} {failure : Yaml.Failure}
      (hglobals : SettingsFile.contents s.globalFile = .ok globals)
      (hfile : s.projectFile = some file) (hcontent : file.content = .error failure)
      (hscalar : failure.isMalformed = false) : Escapes s (.scalar failure)
  | files {globals project : Value} {fault : Fault}
      (hglobals : SettingsFile.contents s.globalFile = .ok globals)
      (hproject : SettingsFile.contents s.projectFile = .ok project)
      (hlayer : globals.layer project = .error fault) : Escapes s (.fault fault)
  | contribution {files : Value} {e : Environment.Unreadable} (hfiles : s.fileContents = .ok files)
      (hvariables : Environment.contribution s.environment = .error e) :
      Escapes s (.environment e)
  | key {merged key : Value} (hmerged : s.merged = .ok merged) (hkey : key ∈ Value.keysOf merged)
      (hkind : key.kind ≠ .text) : Escapes s (.fault .notNamed)
  | destination {merged value : Value} {before after : List Value} {fault : Fault}
      (hmerged : s.merged = .ok merged) (hkeys : ∀ key ∈ Value.keysOf merged, key.kind = .text)
      (hdestinations : Validation.destinations (sectionsOf merged) = before ++ value :: after)
      (hbefore : ∀ other ∈ before, ∀ fault, ¬Validation.Undecidable s.home other fault)
      (hvalue : Validation.Undecidable s.home value fault) : Escapes s (.fault fault)
  | deep {merged : Value} {first : Violation} {others : List Violation}
      (hmerged : s.merged = .ok merged) (hkeys : ∀ key ∈ Value.keysOf merged, key.kind = .text)
      (hfirst : verdict s.home merged = .rejected first others)
      (hdeep : Value.greatestDepth < first.input.depth) : Escapes s (.fault .tooDeep)
  | long {merged : Value} {first : Violation} {others : List Violation}
      (hmerged : s.merged = .ok merged) (hkeys : ∀ key ∈ Value.keysOf merged, key.kind = .text)
      (hfirst : verdict s.home merged = .rejected first others)
      (hdepth : first.input.depth ≤ Value.greatestDepth) (hlong : first.input.hasText = false) :
      Escapes s (.fault .longInteger)

variable {s : Sources} {merged : Value}

theorem load_of_key {key : Value} (hmerged : s.merged = .ok merged)
    (hkey : key ∈ Value.keysOf merged) (hkind : key.kind ≠ .text) :
    s.load = .error (.fault .notNamed) := by
  cases merged with
  | object fields =>
      obtain ⟨entry, -, rfl⟩ := List.mem_map.mp hkey
      exact absurd rfl hkind
  | mapping pairs =>
      obtain ⟨entry, hentry, rfl⟩ := List.mem_map.mp hkey
      have hany : pairs.any (fun entry => entry.1.kind ≠ .text) = true :=
        List.any_eq_true.mpr ⟨entry, hentry, decide_eq_true hkind⟩
      rw [load_eq_checked, checked, hmerged]
      exact if_pos hany
  | _ => cases hkey

theorem load_eq_outcome_verdict (hmerged : s.merged = .ok merged)
    (hkeys : ∀ key ∈ Value.keysOf merged, key.kind = .text) :
    s.load = outcome (verdict s.home merged) := by
  cases merged with
  | mapping pairs =>
      have hany : ¬pairs.any (fun entry => entry.1.kind ≠ .text) = true := by
        rw [List.any_eq_true]
        rintro ⟨entry, hentry, hkind⟩
        exact of_decide_eq_true hkind (hkeys entry.1 (List.mem_map_of_mem hentry))
      rw [load_eq_checked, checked, hmerged]
      refine (if_neg hany).trans ?_
      rw [verdict]
      cases Validation.sections s.home (Value.textEntries pairs) <;> rfl
  | _ =>
      rw [load_eq_checked, checked, hmerged]
      rfl

theorem fault?_noExtras (fields : Entries Value) : (Validation.noExtras fields).fault? = none := by
  induction fields with
  | nil => rfl
  | cons entry rest ih =>
      rw [Validation.noExtras]
      split
      · exact ih
      · rw [Verdict.fault?_both, Verdict.fault?_within, ih]
        rfl

theorem fault?_verdict (home : String) (merged : Value) :
    (verdict home merged).fault? = (Validation.sections home (sectionsOf merged)).fault? := by
  cases merged with
  | mapping pairs =>
      rw [verdict, sectionsOf]
      cases Validation.sections home (Value.textEntries pairs) <;> rfl
  | _ =>
      rw [verdict, sectionsOf, Validation.closedSettings, Verdict.fault?_both, fault?_noExtras,
        Option.or_none] <;> simp

theorem verdict_eq_undecided_iff {home : String} {fault : Fault} :
    verdict home merged = .undecided fault ↔
      ∃ before value after,
        Validation.destinations (sectionsOf merged) = before ++ value :: after ∧
        Validation.Undecidable home value fault ∧
        ∀ other ∈ before, ∀ fault, ¬Validation.Undecidable home other fault := by
  have hfault : ∀ value fault, (Validation.destination home value).fault? = some fault ↔
      Validation.Undecidable home value fault := fun value fault =>
    Verdict.fault?_eq_some_iff.trans Validation.destination_eq_undecided_iff
  have hnone : ∀ value, (Validation.destination home value).fault? = none ↔
      ∀ fault, ¬Validation.Undecidable home value fault := by
    intro value
    rw [Option.eq_none_iff_forall_ne_some]
    exact forall_congr' fun fault => not_congr (hfault value fault)
  rw [← Verdict.fault?_eq_some_iff, fault?_verdict, Validation.fault?_sections,
    List.findSome?_eq_some_iff]
  simp only [hfault, hnone]

theorem contents_eq_error {file? : Option SettingsFile} {failure : LoadFailure}
    (h : SettingsFile.contents file? = .error failure) :
    ∃ file, file? = some file ∧
      ((∃ reason : String, failure = .problem (.unreadable (.text file.path) (.text reason))) ∨
        ∃ f : Yaml.Failure, file.content = .error f ∧ f.isMalformed = false ∧
          failure = .scalar f) := by
  unfold SettingsFile.contents at h
  split at h
  · cases h
  · next file =>
    refine ⟨file, rfl, ?_⟩
    split at h
    · cases h
      exact .inl ⟨_, rfl⟩
    · next f hmalformed hcontent =>
      cases h
      refine .inr ⟨f, hcontent, ?_, rfl⟩
      cases f with
      | malformed reason => exact absurd rfl (hmalformed reason)
      | _ => rfl
    · cases h
    · split at h
      · cases h
      · cases h
        exact .inl ⟨_, rfl⟩

theorem contents_of_scalar {file : SettingsFile} {failure : Yaml.Failure}
    (hcontent : file.content = .error failure) (hscalar : failure.isMalformed = false) :
    SettingsFile.contents (some file) = .error (.scalar failure) := by
  cases failure with
  | malformed reason => cases hscalar
  | _ => simp only [SettingsFile.contents, hcontent]

theorem fileContents_eq {globals project : Value}
    (hglobals : SettingsFile.contents s.globalFile = .ok globals)
    (hproject : SettingsFile.contents s.projectFile = .ok project) :
    s.fileContents = (globals.layer project).mapError .fault := by
  rw [fileContents, hglobals, hproject]
  rfl

theorem merged_of_fileContents {failure : LoadFailure} (h : s.fileContents = .error failure) :
    s.load = .error failure := by
  rw [load_eq_checked, checked, merged, h]
  rfl

theorem load_of_rejected {first : Violation} {others : List Violation}
    (hmerged : s.merged = .ok merged) (hkeys : ∀ key ∈ Value.keysOf merged, key.kind = .text)
    (hfirst : verdict s.home merged = .rejected first others) :
    s.load = .error first.failure := by
  rw [load_eq_outcome_verdict hmerged hkeys, hfirst]
  rfl

theorem Escapes.load_eq {failure : LoadFailure} (h : s.Escapes failure) :
    s.load = .error failure ∧ ∀ p, failure ≠ .problem p := by
  refine ⟨?_, by cases h <;> nofun⟩
  cases h with
  | globalScalar hfile hcontent hscalar =>
      refine merged_of_fileContents ?_
      rw [fileContents, hfile, contents_of_scalar hcontent hscalar]
      rfl
  | projectScalar hglobals hfile hcontent hscalar =>
      refine merged_of_fileContents ?_
      rw [fileContents, hglobals, hfile, contents_of_scalar hcontent hscalar]
      rfl
  | files hglobals hproject hlayer =>
      refine merged_of_fileContents ?_
      rw [fileContents, hglobals, hproject]
      exact congrArg (·.mapError LoadFailure.fault) hlayer
  | contribution hfiles hvariables =>
      rw [load_eq_checked, checked, Sources.merged, hfiles, hvariables]
      rfl
  | key hmerged hkey hkind => exact load_of_key hmerged hkey hkind
  | destination hmerged hkeys hdestinations hbefore hvalue =>
      rw [load_eq_outcome_verdict hmerged hkeys,
        verdict_eq_undecided_iff.mpr ⟨_, _, _, hdestinations, hvalue, hbefore⟩]
      rfl
  | deep hmerged hkeys hfirst hdeep =>
      rw [load_of_rejected hmerged hkeys hfirst, Violation.failure, if_pos hdeep]
  | long hmerged hkeys hfirst hdepth hlong =>
      rw [load_of_rejected hmerged hkeys hfirst, Violation.failure,
        if_neg (Nat.not_lt.mpr hdepth), hlong]
      rfl

theorem normal_of_verdict {home : String} {settings : Settings}
    (h : verdict home merged = .accepted settings) : settings.logging.Normal := by
  have hsections : ∃ fields, Validation.sections home fields = .accepted settings := by
    unfold verdict at h
    split at h
    · split at h <;> cases h
    · obtain ⟨checked, extras, hchecked, -, rfl⟩ := Verdict.both_eq_accepted_iff.mp h
      exact ⟨_, hchecked⟩
  obtain ⟨fields, hfields⟩ := hsections
  exact Validation.normal_of_sections hfields

/-- Settings that pass their own rules once more, or a problem of a file or a setting. -/
inductive Expected (s : Sources) : Except LoadFailure Settings → Prop where
  | settings {settings : Settings}
      (h : Validation.settings s.home settings.dump = .accepted settings) :
      Expected s (.ok settings)
  | file {file : SettingsFile} {reason : String}
      (h : s.globalFile = some file ∨ s.projectFile = some file) :
      Expected s (.error (.problem (.unreadable (.text file.path) (.text reason))))
  | setting (violation : Violation) : Expected s (.error (.problem violation.toProblem))

theorem expected_or_escapes_of_files {failure : LoadFailure}
    (h : s.fileContents = .error failure) :
    Expected s (.error failure) ∨ s.Escapes failure := by
  cases hglobals : SettingsFile.contents s.globalFile with
  | error other =>
      have hsame : failure = other := by
        rw [fileContents, hglobals] at h
        exact (Except.error.inj h).symm
      subst hsame
      obtain ⟨file, hfile, ⟨reason, rfl⟩ | ⟨f, hcontent, hscalar, rfl⟩⟩ := contents_eq_error hglobals
      · exact .inl (.file (.inl hfile))
      · exact .inr (.globalScalar hfile hcontent hscalar)
  | ok globals =>
      cases hproject : SettingsFile.contents s.projectFile with
      | error other =>
          have hsame : failure = other := by
            rw [fileContents, hglobals, hproject] at h
            exact (Except.error.inj h).symm
          subst hsame
          obtain ⟨file, hfile, ⟨reason, rfl⟩ | ⟨f, hcontent, hscalar, rfl⟩⟩ :=
            contents_eq_error hproject
          · exact .inl (.file (.inr hfile))
          · exact .inr (.projectScalar hglobals hfile hcontent hscalar)
      | ok project =>
          cases hlayer : globals.layer project with
          | error fault =>
              have hsame : failure = .fault fault := by
                rw [fileContents, hglobals, hproject] at h
                have hmapped := congrArg (·.mapError LoadFailure.fault) hlayer
                exact (Except.error.inj (hmapped.symm.trans h)).symm
              subst hsame
              exact .inr (.files hglobals hproject hlayer)
          | ok files =>
              rw [fileContents, hglobals, hproject] at h
              have hmapped := congrArg (·.mapError LoadFailure.fault) hlayer
              cases hmapped.symm.trans h

theorem expected_or_escapes_of_merged (hmerged : s.merged = .ok merged)
    (hkeys : ∀ key ∈ Value.keysOf merged, key.kind = .text) :
    Expected s s.load ∨ ∃ failure, s.Escapes failure := by
  cases hverdict : verdict s.home merged with
  | accepted settings =>
      rw [load_eq_outcome_verdict hmerged hkeys, hverdict]
      exact .inl (.settings (Validation.settings_dump s.home (normal_of_verdict hverdict)))
  | undecided fault =>
      obtain ⟨before, value, after, hdestinations, hvalue, hbefore⟩ :=
        verdict_eq_undecided_iff.mp hverdict
      exact .inr ⟨_, .destination hmerged hkeys hdestinations hbefore hvalue⟩
  | rejected first others =>
      by_cases hdeep : Value.greatestDepth < first.input.depth
      · exact .inr ⟨_, .deep hmerged hkeys hverdict hdeep⟩
      · cases hlong : first.input.hasText with
        | false => exact .inr ⟨_, .long hmerged hkeys hverdict (Nat.not_lt.mp hdeep) hlong⟩
        | true =>
            rw [load_of_rejected hmerged hkeys hverdict, Violation.failure, if_neg hdeep, hlong]
            exact .inl (.setting first)

theorem expected_or_escapes (s : Sources) : Expected s s.load ∨ ∃ failure, s.Escapes failure := by
  cases hfiles : s.fileContents with
  | error failure =>
      rw [merged_of_fileContents hfiles]
      exact (expected_or_escapes_of_files hfiles).imp_right fun h => ⟨failure, h⟩
  | ok files =>
      cases hvariables : Environment.contribution s.environment with
      | error e => exact .inr ⟨_, .contribution hfiles hvariables⟩
      | ok environment =>
          obtain ⟨merged, hmerged⟩ : ∃ merged, s.merged = .ok merged := by
            rw [Sources.merged, hfiles, hvariables]
            exact ⟨_, rfl⟩
          by_cases hkeys : ∀ key ∈ Value.keysOf merged, key.kind = .text
          · exact expected_or_escapes_of_merged hmerged hkeys
          · obtain ⟨key, hkey⟩ := Classical.not_forall.mp hkeys
            obtain ⟨hmem, hkind⟩ := Classical.not_imp.mp hkey
            exact .inr ⟨_, .key hmerged hmem hkind⟩

/-- Loading gives settings that pass their own rules, or a problem with the code of an unreadable
file or of an invalid value, in all cases but those in which it escapes. -/
theorem load_expected_or_escapes (s : Sources) :
    ((∃ settings, s.load = .ok settings ∧
        Validation.settings s.home settings.dump = .accepted settings) ∨
      (∃ p, s.load = .error (.problem p) ∧
        (p.code.number = 2001 ∧ (∃ file reason,
            (s.globalFile = some file ∨ s.projectFile = some file) ∧
              p = .unreadable (.text file.path) (.text reason)) ∨
          p.code.number = 2002 ∧ ∃ violation : Violation, p = violation.toProblem)) ∨
      ∃ failure, s.load = .error failure ∧ s.Escapes failure) ∧
    ∀ failure, s.Escapes failure ↔ s.load = .error failure ∧ ∀ p, failure ≠ .problem p := by
  constructor
  · rcases expected_or_escapes s with hexpected | ⟨failure, hescapes⟩
    · generalize hload : s.load = result at hexpected
      cases hexpected with
      | settings haccepted => exact .inl ⟨_, rfl, haccepted⟩
      | file hfile => exact .inr (.inl ⟨_, rfl, .inl ⟨rfl, _, _, hfile, rfl⟩⟩)
      | setting violation => exact .inr (.inl ⟨_, rfl, .inr ⟨rfl, violation, rfl⟩⟩)
    · exact .inr (.inr ⟨failure, hescapes.load_eq.1, hescapes⟩)
  · intro failure
    refine ⟨Escapes.load_eq, fun ⟨hload, hproblem⟩ => ?_⟩
    rcases expected_or_escapes s with hexpected | ⟨other, hescapes⟩
    · rw [hload] at hexpected
      cases hexpected with
      | file => exact absurd rfl (hproblem _)
      | setting => exact absurd rfl (hproblem _)
    · -- loading ends in one failure only
      have hsame := Except.error.inj (hescapes.load_eq.1.symm.trans hload)
      exact hsame ▸ hescapes

/-- A destination below the home directory of a user that does not exist is no problem of a
setting. -/
theorem load_below_unknown_home :
    let sources : Sources := ⟨"/root", none, none, [], [("logging", .object
      [("outputs", .list [.object [("destination", .text "~nosuchuser_zz/x")]])])]⟩
    sources.load = .error (.fault .noHome) ∧
      ¬((∃ settings, sources.load = .ok settings) ∨ ∃ p, sources.load = .error (.problem p)) := by
  intro sources
  have hload : sources.load = .error (.fault .noHome) := rfl
  refine ⟨hload, ?_⟩
  rw [hload]
  rintro (⟨settings, hsettings⟩ | ⟨p, hp⟩)
  · cases hsettings
  · cases hp

end Sources

end FactScope
