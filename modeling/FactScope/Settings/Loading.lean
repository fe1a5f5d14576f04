import FactScope.Settings.Environment
import FactScope.Settings.Validation
import FactScope.Value.Layer
import FactScope.Yaml.Failure

/-!
Loading settings from their sources. From the weakest to the strongest these are the built-in
defaults, the global file, the project file, the environment and the caller's overrides.
-/

namespace FactScope

/-- A file of settings: its path, and the value that its text is, or the reason why it is none. -/
structure SettingsFile where
  path : String
  content : Yaml.Reading Value

structure Sources where
  home : String
  globalFile : Option SettingsFile
  projectFile : Option SettingsFile
  environment : List (String × String)
  overrides : Entries Value

inductive LoadFailure where
  | problem (p : ConfigProblem)
  | scalar (f : Yaml.Failure)
  | environment (e : Environment.Unreadable)
  | fault (f : Fault)
  | invalid (first : Violation)
deriving DecidableEq, Repr

def Violation.failure (v : Violation) : LoadFailure :=
  if Value.greatestDepth < v.input.depth then .fault .tooDeep
  else if v.input.hasText then .problem v.toProblem
  else .fault .longInteger

namespace SettingsFile

/-- The object or mapping that a file holds. An empty file holds an empty one, and anything else is
refused. A scalar that names no value is no fault of the file as a whole. -/
def contents (file : Option SettingsFile) : Except LoadFailure Value :=
  match file with
  | none => .ok (.object [])
  | some file =>
      match file.content with
      | .error (.malformed reason) =>
          .error (.problem (.unreadable (.text file.path) (.text reason)))
      | .error failure => .error (.scalar failure)
      | .ok .null => .ok (.object [])
      | .ok value =>
          if value.content.entries?.isSome then .ok value
          else
            let reason := "top-level value must be a mapping"
            .error (.problem (.unreadable (.text file.path) (.text reason)))

end SettingsFile

namespace Sources

def fileContents (sources : Sources) : Except LoadFailure Value := do
  let lower ← SettingsFile.contents sources.globalFile
  let upper ← SettingsFile.contents sources.projectFile
  (lower.layer upper).mapError .fault

/-- What overrides hold for a section: the value under its name or, failing that, the first one
under a name that differs from it in case only. -/
def sectionOverride? (overrides : Entries Value) (key : String) : Option Value :=
  (overrides.get? key).or
    ((overrides.find? fun entry => Environment.lowerText entry.1 = key).map (·.2))

def sectionOverrides (overrides : Entries Value) : List String → Entries Value
  | [] => []
  | key :: keys =>
      match sectionOverride? overrides key with
      | some value => (key, value) :: sectionOverrides overrides keys
      | none => sectionOverrides overrides keys

/-- The overrides under the names that settings know, those of sections first. -/
def namedOverrides (overrides : Entries Value) : Entries Value :=
  sectionOverrides overrides Settings.sectionNames ++
    overrides.filter fun entry =>
      !Settings.sectionNames.contains (Environment.lowerText entry.1)

theorem mem_of_mem_keys_sectionOverrides {overrides : Entries Value} {key : String}
    {keys : List String} (h : key ∈ (sectionOverrides overrides keys).keys) : key ∈ keys := by
  induction keys with
  | nil => simp [sectionOverrides] at h
  | cons other rest ih =>
      unfold sectionOverrides at h
      split at h
      · rcases List.mem_cons.mp h with heq | hrest
        · simp [heq]
        · exact List.mem_cons_of_mem _ (ih hrest)
      · exact List.mem_cons_of_mem _ (ih h)

theorem get?_sectionOverrides (overrides : Entries Value) {key : String} {keys : List String}
    (h : key ∈ keys) :
    (sectionOverrides overrides keys).get? key = sectionOverride? overrides key := by
  induction keys with
  | nil => simp at h
  | cons other rest ih =>
      unfold sectionOverrides
      by_cases hkey : other = key
      · subst hkey
        cases hvalue : sectionOverride? overrides other with
        | none =>
            by_cases hrest : other ∈ rest
            · exact (ih hrest).trans hvalue
            · exact Entries.get?_eq_none_iff.mpr (hrest ∘ mem_of_mem_keys_sectionOverrides)
        | some value => simp [Entries.get?]
      · have hrest : key ∈ rest := by simpa [Ne.symm hkey] using h
        split
        · simpa [Entries.get?, hkey] using ih hrest
        · exact ih hrest

theorem get?_namedOverrides (overrides : Entries Value) {key : String}
    (h : key ∈ Settings.sectionNames) :
    (namedOverrides overrides).get? key = sectionOverride? overrides key := by
  have hlower : Environment.lowerText key = key := by
    rcases List.mem_cons.mp h with rfl | h
    · decide +kernel
    · rcases List.mem_cons.mp h with rfl | h
      · decide +kernel
      · simp at h
  have hrest : Entries.get? (overrides.filter fun entry =>
      !Settings.sectionNames.contains (Environment.lowerText entry.1)) key = none := by
    refine Entries.get?_eq_none_iff.mpr fun hmem => ?_
    obtain ⟨entry, hentry, rfl⟩ := List.mem_map.mp hmem
    have hother := (List.mem_filter.mp hentry).2
    simp [hlower, h] at hother
  rw [namedOverrides, Entries.get?_append, hrest, Option.or_none]
  exact get?_sectionOverrides overrides h

def merged (sources : Sources) : Except LoadFailure Value := do
  let files ← sources.fileContents
  let environment ← (Environment.contribution sources.environment).mapError .environment
  let overrides := namedOverrides sources.overrides
  return files.merge (.object (Value.mergeFields environment overrides))

/-- The key of an entry that a mapping has beside those under strings: a text that is no string. -/
def unpairedKey (pairs : List (Value × Value)) : Value :=
  ((pairs.find? fun entry => !entry.1.isText).map (·.1)).getD .null

/-- The settings that the sources hold; of several violations the first is reported. All keys must
be texts, and one that is no string is reported in the place of all violations. -/
def checked (sources : Sources) : Except LoadFailure Settings := do
  match ← sources.merged with
  | .mapping pairs =>
      if pairs.any fun entry => entry.1.kind ≠ .text then .error (.fault .notNamed)
      else
        match Validation.sections sources.home (Value.textEntries pairs) with
        | .undecided fault => .error (.fault fault)
        | _ => .error (Violation.failure ⟨[], .unpaired, unpairedKey pairs⟩)
  | value =>
      match Validation.closedSettings sources.home value.fields with
      | .accepted settings => .ok settings
      | .rejected first _ => .error first.failure
      | .undecided fault => .error (.fault fault)

/-- The checked settings, which are written out and checked once more. -/
def load (sources : Sources) : Except LoadFailure Settings := do
  let settings ← sources.checked
  match Validation.settings sources.home settings.dump with
  | .accepted settings => .ok settings
  | .rejected first _ => .error (.invalid first)
  | .undecided fault => .error (.fault fault)

end Sources

def Entries.lookup (fields : Entries Value) (name : String) : Value × String × Bool :=
  let value := (fields.get? name).getD .null
  (value, name, value != .null)

end FactScope
