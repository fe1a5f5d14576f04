import FactScope.Proofs.Settings.Destination

namespace FactScope

/-- What the rules of settings require of a value. -/
inductive Requirement where
  | model (required : Section)
  | outputs
  | level
  | optionalLevel
  | format
  | destination
  | version
deriving DecidableEq, Repr

def Section.members : Section → List (String × Requirement)
  | output => [("format", .format), ("destination", .destination), ("level", .optionalLevel)]
  | logging => [("level", .level), ("outputs", .outputs)]
  | context => [("default_version", .version)]
  | settings => [("logging", .model .logging), ("context", .model .context)]

namespace Validation

def items? (value : Value) : Option (List Value) :=
  match value.content with
  | .list values => some values
  | .set values => some values
  | _ => none

end Validation

namespace Requirement

open Validation (fieldsOf? items? textOf?)

def Allows (home : String) : Requirement → Value → Prop
  | model required, value => (fieldsOf? required value).isSome
  | outputs, value => (items? value).isSome
  | level, value => ∃ level : Level, value = .text level.name
  | optionalLevel, value => value = .null ∨ ∃ level : Level, value = .text level.name
  | format, value => ∃ format : Format, value = .text format.name
  | destination, value => ∃ points, textOf? value = .ok points ∧
      (points = .ofString "stderr" ∨ points = .ofString "stdout" ∨
        ∃ path, (Path.parse points).expandHome home = .ok path ∧ path.isAbsolute = true)
  | version, value => ∃ points, textOf? value = .ok points ∧
      ∃ version : Version, points.string? = some version.text

def wordRule (rule : Rule) : Value → Rule
  | .datum (.points _) => .unpaired
  | _ => rule

def pathRule (home : String) (points : Text.Points) : Rule :=
  match (Path.parse points).expandHome home,
      (Path.parse points).user?.map Path.faultOfUser with
  | .error _, some fault => .user fault
  | _, _ => .absolutePath points.shown

def rule (home : String) : Requirement → Value → Rule
  | model required, _ => .model required
  | outputs, _ => .list
  | level, value => wordRule .level value
  | optionalLevel, value => wordRule .level value
  | format, value => wordRule .format value
  | destination, value =>
      match textOf? value with
      | .error rule => rule
      | .ok points => pathRule home points
  | version, value =>
      match textOf? value with
      | .error rule => rule
      | .ok points => .version points

def isLeaf : Requirement → Bool
  | model _ => false
  | outputs => false
  | _ => true

/-- What is one step inside a value, and what is required of it. -/
inductive Inside : Requirement → Value → PlaceStep → Requirement → Value → Prop where
  | field {required : Section} {value held : Value} {fields : Entries Value} {name : String}
      {inner : Requirement} (hfields : fieldsOf? required value = some fields)
      (hmember : (name, inner) ∈ required.members) (hheld : fields.get? name = some held) :
      Inside (.model required) value (.field name) inner held
  | item {value held : Value} {values : List Value} {n : Nat}
      (hvalues : items? value = some values) (hheld : values[n]? = some held) :
      Inside .outputs value (.index n) (.model .output) held

inductive At : Requirement → Value → List PlaceStep → Requirement → Value → Prop where
  | here (required : Requirement) (value : Value) : At required value [] required value
  | inside {required inner final : Requirement} {value held found : Value} {step : PlaceStep}
      {place : List PlaceStep} (hstep : Inside required value step inner held)
      (hplace : At inner held place final found) : At required value (step :: place) final found

/-- A value at some place inside another is not allowed there. -/
def Broken (home : String) (required : Requirement) (value : Value) (v : Violation) : Prop :=
  ∃ final, At required value v.place final v.input ∧ ¬final.Allows home v.input ∧
    v.rule = final.rule home v.input

variable {home : String} {value : Value} {v : Violation} {required : Requirement}

theorem broken_iff : Broken home required value v ↔
    (¬required.Allows home value ∧ v = ⟨[], required.rule home value, value⟩) ∨
      ∃ step inner held w, Inside required value step inner held ∧ Broken home inner held w ∧
        v = w.within step := by
  obtain ⟨place, rule, input⟩ := v
  constructor
  · rintro ⟨final, hat, hallows, hrule⟩
    cases hat with
    | here =>
        obtain rfl : rule = required.rule home input := hrule
        exact .inl ⟨hallows, rfl⟩
    | inside hstep hplace =>
        exact .inr ⟨_, _, _, ⟨_, rule, input⟩, hstep, ⟨final, hplace, hallows, hrule⟩, rfl⟩
  · rintro (⟨hallows, hv⟩ | ⟨step, inner, held, w, hstep, ⟨final, hat, hallows, hrule⟩, hv⟩)
    · cases hv
      exact ⟨required, .here required value, hallows, rfl⟩
    · cases hv
      exact ⟨final, .inside hstep hat, hallows, hrule⟩

def BrokenField (home : String) (fields : Entries Value) (member : String × Requirement)
    (v : Violation) : Prop :=
  ∃ held, fields.get? member.1 = some held ∧
    ∃ w, Broken home member.2 held w ∧ v = w.within (.field member.1)

theorem broken_model_iff {required : Section} : Broken home (.model required) value v ↔
    (fieldsOf? required value = none ∧ v = ⟨[], .model required, value⟩) ∨
      ∃ fields, fieldsOf? required value = some fields ∧
        ∃ member ∈ required.members, BrokenField home fields member v := by
  rw [broken_iff, Allows, Option.not_isSome_iff_eq_none]
  refine or_congr_right ⟨?_, ?_⟩
  · rintro ⟨step, inner, held, w, hstep, hw, rfl⟩
    cases hstep with
    | field hfields hmember hheld => exact ⟨_, hfields, _, hmember, held, hheld, w, hw, rfl⟩
  · rintro ⟨fields, hfields, ⟨name, inner⟩, hmember, held, hheld, w, hw, rfl⟩
    exact ⟨_, _, _, w, .field hfields hmember hheld, hw, rfl⟩

theorem broken_outputs_iff : Broken home .outputs value v ↔
    (items? value = none ∧ v = ⟨[], .list, value⟩) ∨
      ∃ values, items? value = some values ∧ ∃ n held, values[n]? = some held ∧
        ∃ w, Broken home (.model .output) held w ∧ v = w.within (.index n) := by
  rw [broken_iff, Allows, Option.not_isSome_iff_eq_none]
  refine or_congr_right ⟨?_, ?_⟩
  · rintro ⟨step, inner, held, w, hstep, hw, rfl⟩
    cases hstep with
    | item hvalues hheld => exact ⟨_, hvalues, _, held, hheld, w, hw, rfl⟩
  · rintro ⟨values, hvalues, n, held, hheld, w, hw, rfl⟩
    exact ⟨_, _, _, w, .item hvalues hheld, hw, rfl⟩

theorem broken_leaf_iff (h : required.isLeaf = true) :
    Broken home required value v ↔
      ¬required.Allows home value ∧ v = ⟨[], required.rule home value, value⟩ := by
  rw [broken_iff]
  refine or_iff_left ?_
  rintro ⟨step, inner, held, w, hstep, -⟩
  cases hstep <;> cases h

end Requirement

/-- One step is checked before another: fields in the order of their section, items by index. -/
inductive PlaceStep.Before : PlaceStep → PlaceStep → Prop where
  | field (required : Section) {first second : String}
      (h : [first, second].Sublist (required.members.map (·.1))) :
      Before (.field first) (.field second)
  | index {m n : Nat} (h : m < n) : Before (.index m) (.index n)

/-- One place is checked before another: they part at some step, and neither is inside the other. -/
inductive Violation.Before : List PlaceStep → List PlaceStep → Prop where
  | step {first second : PlaceStep} (h : first.Before second) (rest others : List PlaceStep) :
      Before (first :: rest) (second :: others)
  | within (step : PlaceStep) {place other : List PlaceStep} (h : Before place other) :
      Before (step :: place) (step :: other)

theorem PlaceStep.Before.ne {first second : PlaceStep} (h : first.Before second) :
    first ≠ second := by
  rintro rfl
  cases h with
  | field required h =>
      have hnodup : (required.members.map (·.1)).Nodup := by cases required <;> decide
      simpa using h.nodup hnodup
  | index h => exact Nat.lt_irrefl _ h

theorem Violation.Before.not_prefix {place other : List PlaceStep} (h : Before place other) :
    ¬place <+: other ∧ ¬other <+: place := by
  induction h with
  | step h =>
      refine ⟨fun hprefix => ?_, fun hprefix => ?_⟩
      · exact h.ne (List.cons_prefix_cons.mp hprefix).1
      · exact h.ne (List.cons_prefix_cons.mp hprefix).1.symm
  | within step h ih =>
      refine ⟨fun hprefix => ?_, fun hprefix => ?_⟩
      · exact ih.1 (List.cons_prefix_cons.mp hprefix).2
      · exact ih.2 (List.cons_prefix_cons.mp hprefix).2

end FactScope
