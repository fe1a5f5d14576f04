import FactScope.Proofs.Settings.Listing
import FactScope.Proofs.Settings.Outcome

/-!
Which problem is reported where sources have several. The global file comes before the project
file, the files before all settings, and settings before names that are none. Main statement: this
ranking holds just where nothing escapes and all names of what is merged are texts.
-/

namespace FactScope

inductive SettingsFile.Refused (file : SettingsFile) : String → Prop where
  | malformed {reason : String} (h : file.content = .error (.malformed reason)) :
      Refused file reason
  | shape {value : Value} (h : file.content = .ok value) (hnull : value ≠ .null)
      (hentries : value.content.entries? = none) :
      Refused file "top-level value must be a mapping"

namespace SettingsFile

variable {file : SettingsFile} {reason : String}

theorem contents_of_refused (h : file.Refused reason) :
    contents (some file) = .error (.problem (.unreadable (.text file.path) (.text reason))) := by
  cases h with
  | malformed h => simp only [contents, h]
  | @shape value h hnull hentries =>
      cases value with
      | null => exact absurd rfl hnull
      | _ => simp [contents, h, hentries]

theorem refused_of_contents {p : ConfigProblem}
    (h : contents (some file) = .error (.problem p)) :
    ∃ reason, file.Refused reason ∧ p = .unreadable (.text file.path) (.text reason) := by
  unfold contents at h
  split at h
  · cases h
  · next found hfound =>
    cases hfound
    split at h
    · next reason hcontent =>
      cases h
      exact ⟨reason, .malformed hcontent, rfl⟩
    · cases h
    · cases h
    · next value hnull hcontent =>
      split at h
      · cases h
      · next hentries =>
        cases h
        exact ⟨_, .shape hcontent hnull (by simpa using hentries), rfl⟩

end SettingsFile

namespace Validation

open Requirement (Broken)

def unknowns (fields : Entries Value) : Entries Value :=
  fields.filter fun entry => entry.1 ∉ Settings.sectionNames

/-- The violation that is reported: the first one in a section or, if there is none, the first
unknown name. -/
inductive First (home : String) (fields : Entries Value) : Violation → Prop where
  | setting {v : Violation} (hbroken : Broken home (.model .settings) (.object fields) v)
      (hfirst : ∀ w, Broken home (.model .settings) (.object fields) w →
        w = v ∨ Violation.Before v.place w.place) : First home fields v
  | unknown {name : String} {value : Value} {rest : Entries Value}
      (hsound : ∀ v, ¬Broken home (.model .settings) (.object fields) v)
      (hunknown : unknowns fields = (name, value) :: rest) :
      First home fields ⟨[.field name], .noExtra, value⟩

variable {home : String}

theorem violations_noExtras (fields : Entries Value) :
    (noExtras fields).violations =
      (unknowns fields).map fun entry => ⟨[.field entry.1], .noExtra, entry.2⟩ := by
  induction fields with
  | nil => rfl
  | cons entry rest ih =>
      obtain ⟨name, value⟩ := entry
      rw [noExtras]
      by_cases hname : name = "logging" ∨ name = "context"
      · have hsection : name ∈ Settings.sectionNames := by simpa [Settings.sectionNames] using hname
        rw [if_pos hname, ih, unknowns, unknowns, List.filter_cons_of_neg (by simpa using hsection)]
      · have hunknown : name ∉ Settings.sectionNames := by simpa [Settings.sectionNames] using hname
        rw [if_neg hname, unknowns, List.filter_cons_of_pos (by simpa using hunknown)]
        rw [Verdict.violations_both_of_decided _ rfl (Sources.fault?_noExtras rest), ih]
        rfl

theorem violations_closedSettings {fields : Entries Value}
    (h : (closedSettings home fields).fault? = none) :
    (closedSettings home fields).violations = (settings home (.object fields)).violations ++
        (unknowns fields).map (fun entry => ⟨[.field entry.1], .noExtra, entry.2⟩) ∧
      (∀ v, v ∈ (settings home (.object fields)).violations ↔
        Broken home (.model .settings) (.object fields) v) ∧
      (settings home (.object fields)).violations.Pairwise fun v w =>
        Violation.Before v.place w.place := by
  rw [closedSettings, Verdict.fault?_both, Sources.fault?_noExtras, Option.or_none] at h
  refine ⟨?_, lists_settings home (.object fields) h⟩
  rw [closedSettings, Verdict.violations_both_of_decided _ h (Sources.fault?_noExtras fields),
    violations_noExtras]
  rfl

theorem first_of_rejected {fields : Entries Value} {v : Violation} {others : List Violation}
    (h : closedSettings home fields = .rejected v others) : First home fields v := by
  obtain ⟨hviolations, hmem, hordered⟩ := violations_closedSettings (congrArg Verdict.fault? h)
  rw [h, Verdict.violations] at hviolations
  cases hsettings : (settings home (.object fields)).violations with
  | nil =>
      -- nothing is broken in the sections, so the first violation is an unknown name
      rw [hsettings, List.nil_append] at hviolations
      obtain ⟨⟨name, value⟩, rest, hunknown, rfl, -⟩ := List.map_eq_cons_iff.mp hviolations.symm
      refine .unknown (fun w hw => ?_) hunknown
      have hlisted := (hmem w).mpr hw
      rw [hsettings] at hlisted
      cases hlisted
  | cons first rest =>
      rw [hsettings] at hviolations hmem hordered
      obtain rfl := (List.cons.inj hviolations).1
      refine .setting ((hmem v).mp List.mem_cons_self) fun w hw => ?_
      exact (List.mem_cons.mp ((hmem w).mpr hw)).imp_right ((List.pairwise_cons.mp hordered).1 w)

theorem sound_of_accepted {fields : Entries Value} {settings : Settings}
    (h : closedSettings home fields = .accepted settings) :
    (∀ v, ¬Broken home (.model .settings) (.object fields) v) ∧ unknowns fields = [] := by
  obtain ⟨hviolations, hmem, -⟩ := violations_closedSettings (congrArg Verdict.fault? h)
  rw [h] at hviolations
  obtain ⟨hsettings, hunknown⟩ := List.append_eq_nil_iff.mp hviolations.symm
  refine ⟨fun v hv => ?_, List.map_eq_nil_iff.mp hunknown⟩
  have hlisted := (hmem v).mpr hv
  rw [hsettings] at hlisted
  cases hlisted

end Validation

namespace Sources

open Validation (First unknowns)
open Requirement (Broken)

/-- What loading ends in where the sources are ranked: an error with the code and the details of the
first thing at fault, or settings if nothing is. -/
inductive Ranked (s : Sources) : Except LoadFailure Settings → Prop where
  | globalFile {file : SettingsFile} {reason : String} {p : ConfigProblem}
      (hfile : s.globalFile = some file) (hrefused : file.Refused reason)
      (hcode : p.code.number = 2001)
      (hdetails : p.details = [("path", .text file.path), ("reason", .text reason)]) :
      Ranked s (.error (.problem p))
  | projectFile {file : SettingsFile} {reason : String} {p : ConfigProblem}
      (hglobal : ∀ other ∈ s.globalFile, ∀ reason, ¬other.Refused reason)
      (hfile : s.projectFile = some file) (hrefused : file.Refused reason)
      (hcode : p.code.number = 2001)
      (hdetails : p.details = [("path", .text file.path), ("reason", .text reason)]) :
      Ranked s (.error (.problem p))
  | setting {fields : Entries Value} {v : Violation} {p : ConfigProblem}
      (hmerged : s.merged = .ok (.object fields)) (hfirst : First s.home fields v)
      (hcode : p.code.number = 2002)
      (hdetails : p.details = [("field", .text (".".intercalate (v.place.map PlaceStep.text))),
        ("value", .text v.input.toText), ("reason", .text v.rule.message)]) :
      Ranked s (.error (.problem p))
  | settings {fields : Entries Value} {settings : Settings}
      (hmerged : s.merged = .ok (.object fields))
      (hsound : ∀ v, ¬Broken s.home (.model .settings) (.object fields) v)
      (hknown : unknowns fields = []) : Ranked s (.ok settings)

variable {s : Sources}

theorem fileContents_of_global {failure : LoadFailure}
    (h : SettingsFile.contents s.globalFile = .error failure) :
    s.fileContents = .error failure := by
  rw [fileContents, h]
  rfl

theorem fileContents_of_project {globals : Value} {failure : LoadFailure}
    (hglobals : SettingsFile.contents s.globalFile = .ok globals)
    (h : SettingsFile.contents s.projectFile = .error failure) :
    s.fileContents = .error failure := by
  rw [fileContents, hglobals, h]
  rfl

theorem merged_ne_of_fileContents {failure : LoadFailure} (h : s.fileContents = .error failure)
    (merged : Value) : s.merged ≠ .ok merged := by
  rw [Sources.merged, h]
  rintro ⟨⟩

theorem ranked_of_globalFile {failure : LoadFailure}
    (h : SettingsFile.contents s.globalFile = .error failure)
    (hescapes : ∀ failure, ¬s.Escapes failure) : s.Ranked s.load := by
  rw [merged_of_fileContents (fileContents_of_global h)]
  obtain ⟨file, hfile, ⟨_, rfl⟩ | ⟨f, hcontent, hscalar, rfl⟩⟩ := contents_eq_error h
  · obtain ⟨reason, hrefused, hp⟩ := SettingsFile.refused_of_contents (hfile ▸ h)
    rw [hp]
    exact .globalFile hfile hrefused rfl rfl
  · exact absurd (.globalScalar hfile hcontent hscalar) (hescapes _)

theorem ranked_of_projectFile {globals : Value} {failure : LoadFailure}
    (hglobals : SettingsFile.contents s.globalFile = .ok globals)
    (h : SettingsFile.contents s.projectFile = .error failure)
    (hescapes : ∀ failure, ¬s.Escapes failure) : s.Ranked s.load := by
  rw [merged_of_fileContents (fileContents_of_project hglobals h)]
  obtain ⟨file, hfile, ⟨_, rfl⟩ | ⟨f, hcontent, hscalar, rfl⟩⟩ := contents_eq_error h
  · obtain ⟨reason, hrefused, hp⟩ := SettingsFile.refused_of_contents (hfile ▸ h)
    rw [hp]
    refine .projectFile (fun other hother reason hrefused => ?_) hfile hrefused rfl rfl
    rw [hother, SettingsFile.contents_of_refused hrefused] at hglobals
    cases hglobals
  · exact absurd (.projectScalar hglobals hfile hcontent hscalar) (hescapes _)

theorem exists_merged {globals project : Value}
    (hglobals : SettingsFile.contents s.globalFile = .ok globals)
    (hproject : SettingsFile.contents s.projectFile = .ok project)
    (hescapes : ∀ failure, ¬s.Escapes failure) : ∃ merged, s.merged = .ok merged := by
  have hfiles := fileContents_eq hglobals hproject
  cases hlayer : globals.layer project with
  | error fault => exact absurd (.files hglobals hproject hlayer) (hescapes _)
  | ok files =>
      rw [hlayer] at hfiles
      cases hvariables : Environment.contribution s.environment with
      | error e => exact absurd (.contribution hfiles hvariables) (hescapes _)
      | ok environment =>
          rw [Sources.merged, hfiles, hvariables]
          exact ⟨_, rfl⟩

theorem ranked_of_merged {fields : Entries Value} (hmerged : s.merged = .ok (.object fields))
    (hescapes : ∀ failure, ¬s.Escapes failure) : s.Ranked s.load := by
  have hkeys : ∀ key ∈ Value.keysOf (.object fields), key.kind = .text := by
    rintro key hkey
    obtain ⟨entry, -, rfl⟩ := List.mem_map.mp hkey
    rfl
  cases hverdict : verdict s.home (.object fields) with
  | accepted settings =>
      rw [load_eq_outcome_verdict hmerged hkeys, hverdict]
      obtain ⟨hsound, hknown⟩ := Validation.sound_of_accepted hverdict
      exact .settings hmerged hsound hknown
  | undecided fault =>
      obtain ⟨before, value, after, hdestinations, hvalue, hbefore⟩ :=
        verdict_eq_undecided_iff.mp hverdict
      exact absurd (.destination hmerged hkeys hdestinations hbefore hvalue) (hescapes _)
  | rejected first others =>
      have hdepth : ¬Value.greatestDepth < first.input.depth := fun hdeep =>
        hescapes _ (.deep hmerged hkeys hverdict hdeep)
      have htext : first.input.hasText = true := eq_true_of_ne_false fun hlong =>
        hescapes _ (.long hmerged hkeys hverdict (Nat.not_lt.mp hdepth) hlong)
      rw [load_of_rejected hmerged hkeys hverdict, Violation.failure, if_neg hdepth, if_pos htext]
      exact .setting hmerged (Validation.first_of_rejected hverdict) rfl rfl

theorem object_of_ranked {result : Except LoadFailure Settings} (h : s.Ranked result)
    {merged : Value} (hmerged : s.merged = .ok merged) :
    ∃ fields : Entries Value, merged = .object fields := by
  cases h with
  | globalFile hfile hrefused =>
      have hcontents := SettingsFile.contents_of_refused hrefused
      rw [← hfile] at hcontents
      exact absurd hmerged (merged_ne_of_fileContents (fileContents_of_global hcontents) merged)
  | projectFile hglobal hfile hrefused =>
      have hcontents := SettingsFile.contents_of_refused hrefused
      rw [← hfile] at hcontents
      refine absurd hmerged ?_
      cases hglobals : SettingsFile.contents s.globalFile with
      | error failure => exact merged_ne_of_fileContents (fileContents_of_global hglobals) merged
      | ok globals =>
          exact merged_ne_of_fileContents (fileContents_of_project hglobals hcontents) merged
  | setting hobject => exact ⟨_, Except.ok.inj (hmerged.symm.trans hobject)⟩
  | settings hobject => exact ⟨_, Except.ok.inj (hmerged.symm.trans hobject)⟩

/-- Loading ends as the sources are ranked just where nothing escapes and every name of what is
merged is a text. -/
theorem load_ranked_iff (s : Sources) : s.Ranked s.load ↔ (∀ failure, ¬s.Escapes failure) ∧
    ∀ merged, s.merged = .ok merged → ∃ fields : Entries Value, merged = .object fields := by
  constructor
  · intro hranked
    refine ⟨fun failure hescapes => ?_, fun merged => object_of_ranked hranked⟩
    obtain ⟨hload, hproblem⟩ := hescapes.load_eq
    rw [hload] at hranked
    cases hranked with
    | globalFile => exact hproblem _ rfl
    | projectFile => exact hproblem _ rfl
    | setting => exact hproblem _ rfl
  · rintro ⟨hescapes, hobject⟩
    cases hglobals : SettingsFile.contents s.globalFile with
    | error failure => exact ranked_of_globalFile hglobals hescapes
    | ok globals =>
        cases hproject : SettingsFile.contents s.projectFile with
        | error failure => exact ranked_of_projectFile hglobals hproject hescapes
        | ok project =>
            obtain ⟨merged, hmerged⟩ := exists_merged hglobals hproject hescapes
            obtain ⟨fields, rfl⟩ := hobject merged hmerged
            exact ranked_of_merged hmerged hescapes

/-- A relative destination that cannot be told is at fault, but what loading ends in is no report of
it. -/
theorem load_not_ranked :
    let destination : Value := .datum (.points [0x61, 0xD83D, 0xDE00])
    let merged : Value :=
      .object [("logging", .object [("outputs", .list [.object [("destination", destination)]])])]
    let sources : Sources := ⟨"/root", none, some ⟨"config.yaml", .ok merged⟩, [], []⟩
    sources.merged = .ok merged ∧
      Broken "/root" (.model .settings) merged
        ⟨[.field "logging", .field "outputs", .index 0, .field "destination"],
          .absolutePath "a😀", destination⟩ ∧
      ¬Validation.Undecidable "/root" destination .noHome ∧
      sources.load = .error (.fault (.unencodable 41 [0xD83D, 0xDE00])) ∧
      ¬sources.Ranked sources.load := by
  intro destination merged sources
  have hload : sources.load = .error (.fault (.unencodable 41 [0xD83D, 0xDE00])) := rfl
  have hallows : ¬Requirement.destination.Allows "/root" destination := by
    rintro ⟨points, htext, hpoints⟩
    cases htext
    rcases hpoints with hstderr | hstdout | ⟨path, hpath, habsolute⟩
    · exact absurd hstderr (by decide +kernel)
    · exact absurd hstdout (by decide +kernel)
    · cases hpath
      cases habsolute
  refine ⟨rfl, ⟨.destination, ?_, hallows, by decide +kernel⟩, ?_, hload, ?_⟩
  · refine .inside (.field rfl (.head _) rfl) (.inside (.field rfl (.tail _ (.head _)) rfl) ?_)
    exact .inside (.item rfl rfl) (.inside (.field rfl (.tail _ (.head _)) rfl) (.here ..))
  · intro hundecidable
    cases Validation.destination_eq_undecided_iff.mpr hundecidable
  · rw [hload]
    nofun

end Sources

end FactScope
