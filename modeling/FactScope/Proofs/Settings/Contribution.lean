import FactScope.Proofs.Value.Member
import FactScope.Settings.Environment

namespace FactScope

open Value

namespace Json

theorem isObject_ofPoints (points : Text.Points) : (Value.ofPoints points).isObject = false := by
  unfold Value.ofPoints
  split
  · rfl
  · rfl

theorem isObject_of_readNumber {text rest : List Char} {value : Value}
    (h : readNumber text = some (value, rest)) : value.isObject = false := by
  revert h
  fun_cases readNumber text
  case case1 => nofun
  case case3 => nofun
  all_goals
    intro h
    obtain ⟨rfl, -⟩ := Prod.mk.inj (Option.some.inj h)
    rfl

theorem exists_fields_of_readValue {fuel room : Nat} {text rest : List Char} {value : Value}
    (h : readValue fuel room text = .ok (value, rest)) (hobject : value.isObject = true) :
    ∃ fields, value = .object fields := by
  revert h
  fun_cases readValue fuel room text
  case case2 rest =>
    rcases readString [] rest with _ | found
    · nofun
    · intro h
      cases h
      exact absurd hobject (by simp [isObject_ofPoints])
  case case5 rest _ _ =>
    rcases readItems _ _ (skip rest) with failure | found
    · nofun
    · intro h
      cases h
      cases hobject
  case case8 rest _ _ =>
    rcases readFields _ _ (skip rest) with failure | found
    · nofun
    · intro h
      cases h
      exact ⟨_, rfl⟩
  case case15 =>
    rcases hnumber : readNumber text with _ | found
    · nofun
    · intro h
      cases h
      exact absurd hobject (by simp [isObject_of_readNumber hnumber])
  all_goals
    intro h
    cases h <;> first | exact ⟨_, rfl⟩ | cases hobject

theorem exists_fields_of_read {text : String} {value : Value} (h : read text = .ok value)
    (hobject : value.isObject = true) : ∃ fields, value = .object fields := by
  unfold read at h
  simp only at h
  split at h
  · next hvalue =>
    split at h
    · cases h
      exact exists_fields_of_readValue hvalue hobject
    · cases h
  · cases h

end Json

namespace Environment

/-- An object that the environment makes of a section has its fields in the section's spelling. -/
theorem exists_respelled {vars : Entries String} {key : String} {fieldNames listKeys : List String}
    {value : Value} (h : sectionValue vars key fieldNames listKeys = .ok (some value))
    (hobject : value.isObject = true) : ∃ written, value = .object (respell fieldNames written) := by
  unfold sectionValue at h
  simp only at h
  split at h
  · rcases hnested : nested (lowerText lead ++ key) listKeys vars [] with failure | written
    · rw [hnested] at h
      cases h
    · rw [hnested] at h
      cases hempty : written.isEmpty with
      | true => simp [hempty, bind, Except.bind, pure, Except.pure] at h
      | false =>
          refine ⟨written, ?_⟩
          simpa [hempty, bind, Except.bind, pure, Except.pure] using h.symm
  · next text _ =>
    rcases hread : Json.read text with failure | base
    · rw [hread] at h
      cases h
    · rw [hread] at h
      by_cases hbase : base.isObject = true
      · obtain ⟨fields, rfl⟩ := Json.exists_fields_of_read hread hbase
        rcases hnested : nested (lowerText lead ++ key) listKeys vars [] with failure | written
        · simp [hnested, bind, Except.bind] at h
        · refine ⟨Value.mergeFields fields written, ?_⟩
          simpa [hnested, bind, Except.bind, pure, Except.pure] using h.symm
      · -- anything but an object is contributed as it is
        have hsame : value = base := by
          cases base with
          | object fields => exact absurd rfl hbase
          | null => simp [bind, Except.bind, pure, Except.pure] at h
          | _ => simpa [bind, Except.bind, pure, Except.pure] using h.symm
        exact absurd hobject (hsame ▸ hbase)

theorem contribution_eq_ok {vars : List (String × String)} {environment : Entries Value}
    (h : contribution vars = .ok environment) :
    ∃ logging context,
      sectionValue (variablesByName vars) "logging" ["level", "outputs"] ["outputs"] =
        .ok logging ∧
      sectionValue (variablesByName vars) "context" ["default_version"] [] = .ok context ∧
      environment = (logging.map fun value => ("logging", value)).toList ++
        (context.map fun value => ("context", value)).toList := by
  unfold contribution at h
  simp only at h
  cases hlogging :
      sectionValue (variablesByName vars) "logging" ["level", "outputs"] ["outputs"] with
  | error failure =>
      rw [hlogging] at h
      cases h
  | ok logging =>
      cases hcontext : sectionValue (variablesByName vars) "context" ["default_version"] [] with
      | error failure =>
          rw [hlogging, hcontext] at h
          cases h
      | ok context =>
          rw [hlogging, hcontext] at h
          cases h
          exact ⟨logging, context, rfl, rfl, rfl⟩

/-- The environment contributes sections, each once, and no object with a name twice. -/
theorem sections_contribution {vars : List (String × String)} {environment : Entries Value}
    (h : contribution vars = .ok environment) :
    environment.keys.Sublist Settings.sectionNames ∧
      ∀ name held, environment.get? name = some held → held.isObject = true → held.Plain := by
  obtain ⟨logging, context, hlogging, hcontext, rfl⟩ := contribution_eq_ok h
  refine ⟨?_, fun name held hheld hobject => ?_⟩
  · cases logging <;> cases context <;> simp [Entries.keys, Settings.sectionNames]
  · have hrespelled : ∃ fieldNames written, held = .object (respell fieldNames written) := by
      rcases List.mem_append.mp (Entries.mem_of_get? hheld) with hmem | hmem
      · obtain ⟨value, rfl, heq⟩ := Option.map_eq_some_iff.mp (Option.mem_toList.mp hmem)
        cases heq
        exact ⟨_, exists_respelled hlogging hobject⟩
      · obtain ⟨value, rfl, heq⟩ := Option.map_eq_some_iff.mp (Option.mem_toList.mp hmem)
        cases heq
        exact ⟨_, exists_respelled hcontext hobject⟩
    obtain ⟨fieldNames, written, rfl⟩ := hrespelled
    exact plain_object (Entries.nodup_keys_ofList _)

end Environment

end FactScope
