import FactScope.Proofs.Settings.Place

namespace FactScope

theorem Level.ofName?_eq_some_iff {s : String} {level : Level} :
    ofName? s = some level ↔ level.name = s := by
  constructor
  · intro h
    simpa using List.find?_some h
  · rintro rfl
    exact ofName?_name level

theorem Format.ofName?_eq_some_iff {s : String} {format : Format} :
    ofName? s = some format ↔ format.name = s := by
  constructor
  · intro h
    simpa using List.find?_some h
  · rintro rfl
    exact ofName?_name format

namespace Verdict

variable {α β γ : Type}

theorem violations_both_of_decided (f : α → β → γ) {a : Verdict α} {b : Verdict β}
    (ha : a.fault? = none) (hb : b.fault? = none) :
    (both f a b).violations = a.violations ++ b.violations := by
  refine violations_both f ?_ ?_
  · rintro fault rfl
    cases ha
  · rintro fault rfl
    cases hb

/-- Unless it is undecided, a verdict lists the violations with a property, in the order in which
their places are checked. -/
def Lists (verdict : Verdict α) (broken : Violation → Prop) : Prop :=
  verdict.fault? = none → (∀ v, v ∈ verdict.violations ↔ broken v) ∧
    verdict.violations.Pairwise fun v w => Violation.Before v.place w.place

theorem Lists.congr {verdict : Verdict α} {p q : Violation → Prop} (h : verdict.Lists p)
    (hpq : ∀ v, p v ↔ q v) : verdict.Lists q :=
  fun hfault => ⟨fun v => ((h hfault).1 v).trans (hpq v), (h hfault).2⟩

theorem lists_accepted (result : α) : (accepted result).Lists fun _ => False :=
  fun _ => ⟨by simp [violations], .nil⟩

theorem lists_refuse (rule : Rule) (input : Value) :
    (refuse rule input : Verdict α).Lists fun v => v = ⟨[], rule, input⟩ :=
  fun _ => ⟨by simp [refuse, violations], List.pairwise_singleton ..⟩

theorem Lists.map {verdict : Verdict α} {p : Violation → Prop} (h : verdict.Lists p)
    (f : α → β) : (verdict.map f).Lists p := by
  cases verdict <;> exact h

theorem Lists.within {verdict : Verdict α} {p : Violation → Prop} (h : verdict.Lists p)
    (step : PlaceStep) : (verdict.within step).Lists fun v => ∃ w, p w ∧ v = w.within step := by
  intro hfault
  obtain ⟨hmem, hordered⟩ := h ((fault?_within step verdict).symm.trans hfault)
  rw [violations_within]
  constructor
  · intro v
    simp only [List.mem_map, hmem, eq_comm]
  · exact List.pairwise_map.mpr (hordered.imp fun hbefore => .within step hbefore)

theorem Lists.both {a : Verdict α} {b : Verdict β} {p q : Violation → Prop} (ha : a.Lists p)
    (hb : b.Lists q) (hpq : ∀ v w, p v → q w → Violation.Before v.place w.place)
    (f : α → β → γ) : (both f a b).Lists fun v => p v ∨ q v := by
  intro hfault
  rw [fault?_both, Option.or_eq_none_iff] at hfault
  obtain ⟨hmemA, horderedA⟩ := ha hfault.1
  obtain ⟨hmemB, horderedB⟩ := hb hfault.2
  rw [violations_both_of_decided f hfault.1 hfault.2]
  constructor
  · intro v
    rw [List.mem_append, hmemA, hmemB]
  · refine List.pairwise_append.mpr ⟨horderedA, horderedB, fun v hv w hw => ?_⟩
    exact hpq v w ((hmemA v).mp hv) ((hmemB w).mp hw)

end Verdict

namespace Validation

open Requirement (Broken BrokenField broken_model_iff broken_outputs_iff broken_leaf_iff)
open Verdict (Lists lists_accepted lists_refuse)

variable {α : Type} {home : String}

theorem lists_field {required : Requirement} {check : Value → Verdict α}
    (h : ∀ held, (check held).Lists (Broken home required held)) (fields : Entries Value)
    (name : String) (default : α) :
    (field fields name default check).Lists (BrokenField home fields (name, required)) := by
  unfold field
  cases hheld : fields.get? name with
  | none => exact (lists_accepted default).congr fun v => by simp [BrokenField, hheld]
  | some held => exact ((h held).within _).congr fun v => by simp [BrokenField, hheld]

theorem lists_model {required : Section} {check : Entries Value → Verdict α} {value : Value}
    (h : ∀ fields, (check fields).Lists fun v =>
      ∃ member ∈ required.members, BrokenField home fields member v) :
    (model required check value).Lists (Broken home (.model required) value) := by
  rw [model_eq]
  cases hfields : fieldsOf? required value with
  | none => exact (lists_refuse _ _).congr fun v => by simp [broken_model_iff, hfields]
  | some fields => exact (h fields).congr fun v => by simp [broken_model_iff, hfields]

theorem lists_leaf {required : Requirement} {check : Verdict α} {value : Value}
    (hleaf : required.isLeaf = true)
    (haccepts : required.Allows home value → ∃ result, check = .accepted result)
    (hrefuses : ¬required.Allows home value → check.fault? = none →
      check = .refuse (required.rule home value) value) :
    check.Lists (Broken home required value) := by
  intro hfault
  by_cases hallows : required.Allows home value
  · obtain ⟨result, rfl⟩ := haccepts hallows
    exact ((lists_accepted result).congr fun v => by
      simp [broken_leaf_iff hleaf, hallows]) rfl
  · rw [hrefuses hallows hfault]
    exact ((lists_refuse _ _).congr fun v => by
      simp [broken_leaf_iff hleaf, hallows]) rfl

theorem lists_word {required : Requirement} {value : Value} {ofName? : String → Option α}
    {name : α → String} {rule : Rule}
    (hleaf : required.isLeaf = true)
    (hname : ∀ {s result}, ofName? s = some result ↔ name result = s)
    (hallows : required.Allows home value ↔ ∃ result, value = .text (name result))
    (hrule : required.rule home value = Requirement.wordRule rule value) :
    (word ofName? rule value).Lists (Broken home required value) := by
  refine lists_leaf hleaf (fun h => ?_) fun h _ => ?_
  · obtain ⟨result, rfl⟩ := hallows.mp h
    exact ⟨result, by simp [word, hname.mpr rfl]⟩
  · rw [hrule]
    cases value with
    | text s =>
        have hnone : ofName? s = none := by
          refine Option.eq_none_iff_forall_ne_some.mpr fun result hresult => h (hallows.mpr ?_)
          exact ⟨result, congrArg Value.text (hname.mp hresult).symm⟩
        simp [word, hnone, Requirement.wordRule]
    | datum d => cases d <;> rfl
    | _ => rfl

theorem lists_level (home : String) (value : Value) :
    (level value).Lists (Broken home .level value) :=
  lists_word rfl Level.ofName?_eq_some_iff Iff.rfl rfl

theorem lists_format (home : String) (value : Value) :
    (format value).Lists (Broken home .format value) :=
  lists_word rfl Format.ofName?_eq_some_iff Iff.rfl rfl

theorem lists_optionalLevel (home : String) (value : Value) :
    (optionalLevel value).Lists (Broken home .optionalLevel value) := by
  unfold optionalLevel
  split
  · refine lists_leaf rfl (fun _ => ⟨none, rfl⟩) fun h => ?_
    exact absurd (.inl rfl) h
  · next hnull =>
    refine Lists.map (lists_word rfl Level.ofName?_eq_some_iff ?_ rfl) some
    exact or_iff_right hnull

theorem lists_destination (home : String) (value : Value) :
    (destination home value).Lists (Broken home .destination value) := by
  refine lists_leaf rfl ?_ ?_
  · rintro ⟨points, htext, hstream | hstream | ⟨path, hpath, habsolute⟩⟩
    · exact ⟨.stderr, by simp only [destination, htext, if_pos hstream]⟩
    · by_cases hstderr : points = .ofString "stderr"
      · exact ⟨.stderr, by simp only [destination, htext, if_pos hstderr]⟩
      · exact ⟨.stdout, by simp only [destination, htext, if_neg hstderr, if_pos hstream]⟩
    · simp only [destination, htext, hpath, if_pos habsolute]
      split
      · exact ⟨.stderr, rfl⟩
      · split
        · exact ⟨.stdout, rfl⟩
        · exact ⟨.file path, rfl⟩
  · intro hallows hfault
    cases htext : textOf? value with
    | error rule => simp only [destination, Requirement.rule, htext]
    | ok points =>
        have hstderr : points ≠ .ofString "stderr" := fun h => hallows ⟨points, htext, .inl h⟩
        have hstdout : points ≠ .ofString "stdout" := fun h =>
          hallows ⟨points, htext, .inr (.inl h)⟩
        simp only [destination, htext, if_neg hstderr, if_neg hstdout] at hfault ⊢
        simp only [Requirement.rule, htext]
        unfold Requirement.pathRule
        cases hpath : (Path.parse points).expandHome home with
        | error fault =>
            simp only [hpath] at hfault ⊢
            -- the fault of the user's name is told, unless it leaves the verdict open
            cases huser : (Path.parse points).user?.map Path.faultOfUser with
            | none => simp [huser, Verdict.fault?] at hfault
            | some other => cases other <;> simp_all [Verdict.fault?]
        | ok path =>
            have habsolute : ¬path.isAbsolute = true := fun h =>
              hallows ⟨points, htext, .inr (.inr ⟨path, hpath, h⟩)⟩
            simp only [hpath, if_neg habsolute, refusePath] at hfault ⊢
            split at hfault
            · cases hfault
            · simp only

theorem lists_version (home : String) (value : Value) :
    (version value).Lists (Broken home .version value) := by
  refine lists_leaf rfl ?_ ?_
  · rintro ⟨points, htext, found, hfound⟩
    refine ⟨found, ?_⟩
    simp only [version, htext, hfound, Option.bind_some, Version.ofText?_eq_some_iff.mpr rfl]
  · intro hallows _
    cases htext : textOf? value with
    | error rule => simp only [version, Requirement.rule, htext]
    | ok points =>
        have hnone : points.string?.bind Version.ofText? = none := by
          refine Option.eq_none_iff_forall_ne_some.mpr fun found hfound => hallows ?_
          obtain ⟨s, hs, hversion⟩ := Option.bind_eq_some_iff.mp hfound
          refine ⟨points, htext, found, ?_⟩
          rw [hs, Version.ofText?_eq_some_iff.mp hversion]
        simp only [version, Requirement.rule, htext, hnone]

theorem before_of_brokenField {fields : Entries Value} {first second : String × Requirement}
    {v w : Violation} (required : Section)
    (h : [first.1, second.1].Sublist (required.members.map (·.1)))
    (hv : BrokenField home fields first v) (hw : BrokenField home fields second w) :
    Violation.Before v.place w.place := by
  obtain ⟨-, -, v, -, rfl⟩ := hv
  obtain ⟨-, -, w, -, rfl⟩ := hw
  exact .step (.field required h) v.place w.place

theorem lists_output (home : String) (value : Value) :
    (output home value).Lists (Broken home (.model .output) value) := by
  refine lists_model fun fields => ?_
  have hformat := lists_field (lists_format home) fields "format"
  have hdestination := lists_field (lists_destination home) fields "destination"
  have hlevel := lists_field (lists_optionalLevel home) fields "level"
  refine ((hformat _).both ((hdestination _).both (hlevel _) ?_ _) ?_ _).congr fun v => ?_
  · exact fun v w hv hw => before_of_brokenField .output (by decide) hv hw
  · rintro v w hv (hw | hw)
    · exact before_of_brokenField .output (by decide) hv hw
    · exact before_of_brokenField .output (by decide) hv hw
  · simp [Section.members]

def BrokenItem (home : String) (n : Nat) (values : List Value) (v : Violation) : Prop :=
  ∃ i held, values[i]? = some held ∧
    ∃ w, Broken home (.model .output) held w ∧ v = w.within (.index (n + i))

theorem brokenItem_cons {n : Nat} {value : Value} {rest : List Value} {v : Violation} :
    BrokenItem home n (value :: rest) v ↔
      (∃ w, Broken home (.model .output) value w ∧ v = w.within (.index n)) ∨
        BrokenItem home (n + 1) rest v := by
  constructor
  · rintro ⟨i, held, hheld, w, hw, rfl⟩
    cases i with
    | zero =>
        cases hheld
        exact .inl ⟨w, hw, rfl⟩
    | succ i => exact .inr ⟨i, held, hheld, w, hw, by rw [Nat.add_right_comm, Nat.add_assoc]⟩
  · rintro (⟨w, hw, rfl⟩ | ⟨i, held, hheld, w, hw, rfl⟩)
    · exact ⟨0, value, rfl, w, hw, rfl⟩
    · exact ⟨i + 1, held, hheld, w, hw, by rw [Nat.add_right_comm, Nat.add_assoc]⟩

theorem lists_items {check : Value → Verdict α}
    (h : ∀ held, (check held).Lists (Broken home (.model .output) held)) (n : Nat)
    (values : List Value) : (items check n values).Lists (BrokenItem home n values) := by
  induction values generalizing n with
  | nil => exact (lists_accepted []).congr fun v => by simp [BrokenItem]
  | cons value rest ih =>
      refine (((h value).within (.index n)).both (ih (n + 1)) ?_ _).congr fun v =>
        brokenItem_cons.symm
      -- what is broken in the rest has a greater index than this item
      rintro v w ⟨v, -, rfl⟩ ⟨i, held, -, w, -, rfl⟩
      exact .step (.index (by omega)) v.place w.place

theorem outputs_eq (home : String) (value : Value) :
    outputs home value =
      match items? value with
      | some values => items (output home) 0 values
      | none => .refuse .list value := by
  unfold outputs items?
  cases value.content <;> rfl

theorem lists_outputs (home : String) (value : Value) :
    (outputs home value).Lists (Broken home .outputs value) := by
  rw [outputs_eq]
  cases hvalues : items? value with
  | none => exact (lists_refuse _ _).congr fun v => by simp [broken_outputs_iff, hvalues]
  | some values =>
      refine (lists_items (lists_output home) 0 values).congr fun v => ?_
      simp [broken_outputs_iff, hvalues, BrokenItem]

theorem lists_logging (home : String) (value : Value) :
    (logging home value).Lists (Broken home (.model .logging) value) := by
  refine lists_model fun fields => ?_
  have hlevel := lists_field (lists_level home) fields "level"
  have houtputs := lists_field (lists_outputs home) fields "outputs"
  refine ((hlevel _).both (houtputs _) ?_ _).congr fun v => ?_
  · exact fun v w hv hw => before_of_brokenField .logging (by decide) hv hw
  · simp [Section.members]

theorem lists_context (home : String) (value : Value) :
    (context value).Lists (Broken home (.model .context) value) := by
  refine lists_model fun fields => ?_
  have hversion := lists_field (lists_version home) fields "default_version"
  exact ((hversion _).map _).congr fun v => by simp [Section.members]

theorem lists_sections (home : String) (fields : Entries Value) :
    (sections home fields).Lists fun v =>
      ∃ member ∈ Section.settings.members, BrokenField home fields member v := by
  have hlogging := lists_field (lists_logging home) fields "logging"
  have hcontext := lists_field (lists_context home) fields "context"
  refine ((hlogging _).both (hcontext _) ?_ _).congr fun v => ?_
  · exact fun v w hv hw => before_of_brokenField .settings (by decide) hv hw
  · simp [Section.members]

theorem lists_settings (home : String) (value : Value) :
    (settings home value).Lists (Broken home (.model .settings) value) :=
  lists_model (lists_sections home)

end Validation

end FactScope
