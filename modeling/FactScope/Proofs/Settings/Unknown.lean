import FactScope.Proofs.Settings.Place

namespace FactScope

namespace Requirement

/-- The second value has one entry more than the first: somewhere inside, in an object that stands
for a section, under a name that is none of the section's fields. -/
inductive Extends : Requirement → Value → Value → Prop where
  | here {required : Section} {name : String} (hname : name ∉ required.members.map (·.1))
      (before after : Entries Value) (value : Value) :
      Extends (.model required) (.object (before ++ after))
        (.object (before ++ (name, value) :: after))
  | field {required : Section} {name : String} {inner : Requirement} {held given : Value}
      (hmember : (name, inner) ∈ required.members) (h : Extends inner held given)
      (before after : Entries Value) :
      Extends (.model required) (.object (before ++ (name, held) :: after))
        (.object (before ++ (name, given) :: after))
  | item {held given : Value} (h : Extends (.model .output) held given)
      (before after : List Value) :
      Extends .outputs (.list (before ++ held :: after)) (.list (before ++ given :: after))

def SameField (fields others : Entries Value) (member : String × Requirement) : Prop :=
  fields.get? member.1 = others.get? member.1 ∨
    ∃ held given, fields.get? member.1 = some held ∧ others.get? member.1 = some given ∧
      Extends member.2 held given

theorem eq_of_mem_members {required : Section} {name : String} {first second : Requirement}
    (hfirst : (name, first) ∈ required.members) (hsecond : (name, second) ∈ required.members) :
    first = second := by
  cases required <;> simp only [Section.members] at hfirst hsecond <;> grind

theorem Extends.sameField {required : Section} {value other : Value}
    (h : Extends (.model required) value other) :
    ∃ fields others, value = .object fields ∧ other = .object others ∧
      ∀ member ∈ required.members, SameField fields others member := by
  cases h with
  | @here _ name hname before after value =>
      refine ⟨_, _, rfl, rfl, fun member hmember => .inl ?_⟩
      have hne : name ≠ member.1 := by
        rintro rfl
        exact hname (List.mem_map_of_mem hmember)
      rw [Entries.get?_append, Entries.get?_append, Entries.get?, if_neg hne]
  | @field _ name inner held given hmember h before after =>
      refine ⟨_, _, rfl, rfl, ?_⟩
      rintro ⟨key, wanted⟩ hwanted
      rw [SameField, Entries.get?_append, Entries.get?_append, Entries.get?, Entries.get?]
      by_cases hkey : name = key
      · subst hkey
        cases eq_of_mem_members hmember hwanted
        -- an entry before this one hides it in both
        cases before.get? name with
        | none => exact .inr ⟨held, given, if_pos rfl, if_pos rfl, h⟩
        | some value => exact .inl rfl
      · exact .inl (by rw [if_neg hkey, if_neg hkey])

end Requirement

namespace Validation

open Requirement (Extends SameField)

variable {α : Type} {home : String}

/-- A check takes values that extend each other for the same. -/
def Ignores (required : Requirement) (check : Value → Verdict α) : Prop :=
  ∀ held given, Extends required held given → check given = check held

theorem ignores_leaf {required : Requirement} (h : required.isLeaf = true)
    (check : Value → Verdict α) : Ignores required check := by
  intro held given hextends
  cases hextends <;> cases h

theorem field_of_sameField {required : Requirement} {check : Value → Verdict α}
    (hcheck : Ignores required check) {fields others : Entries Value} {name : String}
    (h : SameField fields others (name, required)) (default : α) :
    field others name default check = field fields name default check := by
  obtain hsame | ⟨held, given, hheld, hgiven, hextends⟩ := h
  · exact field_congr hsame.symm default check
  · simp only [field, hheld, hgiven, hcheck held given hextends]

theorem ignores_model {required : Section} {check : Entries Value → Verdict α}
    (h : ∀ fields others, (∀ member ∈ required.members, SameField fields others member) →
      check others = check fields) :
    Ignores (.model required) (model required check) := by
  intro held given hextends
  obtain ⟨fields, others, rfl, rfl, hsame⟩ := hextends.sameField
  exact h fields others hsame

theorem ignores_output : Ignores (.model .output) (output home) := by
  refine ignores_model fun fields others h => ?_
  simp only [Section.members, List.forall_mem_cons] at h
  obtain ⟨hformat, hdestination, hlevel, -⟩ := h
  rw [field_of_sameField (ignores_leaf rfl _) hformat,
    field_of_sameField (ignores_leaf rfl _) hdestination,
    field_of_sameField (ignores_leaf rfl _) hlevel]

theorem items_congr {check : Value → Verdict α} {held given : Value} (h : check given = check held)
    (before after : List Value) (n : Nat) :
    items check n (before ++ given :: after) = items check n (before ++ held :: after) := by
  induction before generalizing n with
  | nil => rw [List.nil_append, List.nil_append, items, items, h]
  | cons first rest ih => rw [List.cons_append, List.cons_append, items, items, ih]

theorem ignores_outputs : Ignores .outputs (outputs home) := by
  intro held given hextends
  cases hextends with
  | item h before after => exact items_congr (ignores_output _ _ h) before after 0

theorem ignores_logging : Ignores (.model .logging) (logging home) := by
  refine ignores_model fun fields others h => ?_
  simp only [Section.members, List.forall_mem_cons] at h
  obtain ⟨hlevel, houtputs, -⟩ := h
  rw [field_of_sameField (ignores_leaf rfl _) hlevel, field_of_sameField ignores_outputs houtputs]

theorem ignores_context : Ignores (.model .context) context := by
  refine ignores_model fun fields others h => ?_
  simp only [Section.members, List.forall_mem_cons] at h
  rw [field_of_sameField (ignores_leaf rfl _) h.1]

theorem ignores_settings : Ignores (.model .settings) (settings home) := by
  refine ignores_model fun fields others h => ?_
  simp only [Section.members, List.forall_mem_cons] at h
  obtain ⟨hlogging, hcontext, -⟩ := h
  rw [sections, sections, field_of_sameField ignores_logging hlogging,
    field_of_sameField ignores_context hcontext]

end Validation

end FactScope
