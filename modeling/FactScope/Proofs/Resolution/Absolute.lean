import FactScope.Forest.Query
import FactScope.Proofs.Resolution.Name
import FactScope.Session

namespace FactScope

open QualifiedName

namespace Scope

/-- The namespace is text or counts as not given, and the enclosing type, if any, is text. -/
structure Textual (scope : Scope) : Prop where
  space_text : scope.space.truthy = true → ∃ space, scope.space = .text space
  type_text : ∀ {type}, scope.enclosingType? = some type → ∃ name, type = .text name

/-- A reference that does not name the enclosing type. -/
def Foreign (scope : Scope) (written : String) : Prop :=
  ∀ type, scope.enclosingType? = some (.text type) → sameName written.toList type.toList = false

variable {scope : Scope}

theorem exists_currentNamespace
    (h : scope.space.truthy = true → ∃ space, scope.space = .text space) :
    ∃ space, scope.currentNamespace = .ok space ∧ isAbsolute space.toList = true := by
  unfold currentNamespace
  cases hgiven : scope.space.truthy with
  | false => exact ⟨_, rfl, by decide⟩
  | true =>
      obtain ⟨space, hspace⟩ := h hgiven
      refine ⟨String.ofList (collapse (sep :: space.toList ++ [sep])), by simp [hspace], ?_⟩
      simp [isAbsolute_collapse]

theorem Textual.exists_currentNamespace (h : scope.Textual) :
    ∃ space, scope.currentNamespace = .ok space ∧ isAbsolute space.toList = true :=
  Scope.exists_currentNamespace h.space_text

end Scope

namespace Resolution

variable {scope : Scope} {space : String}

theorem truthy_text {written : String} (h : written ≠ "") : (Value.text written).truthy = true := by
  simp [Value.truthy, h]

theorem resolve_self {type written : String} (hne : written ≠ "")
    (hspace : scope.currentNamespace = .ok space)
    (htype : scope.enclosingType? = some (.text type))
    (hsame : sameName written.toList type.toList = true) :
    resolve scope (.text written) = .ok ⟨space ++ type, none⟩ := by
  simp only [resolve, truthy_text hne, if_true, hspace, htype]
  change (if sameName written.toList type.toList then _ else _) = _
  rw [if_pos hsame]
  rfl

theorem resolve_foreign (h : scope.Textual) {written : String} (hne : written ≠ "")
    (hspace : scope.currentNamespace = .ok space) (hforeign : scope.Foreign written) :
    resolve scope (.text written) = .ok (ofOther scope space written) := by
  simp only [resolve, truthy_text hne, if_true, hspace]
  cases htype : scope.enclosingType? with
  | none => rfl
  | some type =>
      obtain ⟨name, rfl⟩ := h.type_text htype
      change (if sameName written.toList name.toList then _ else _) = _
      rw [if_neg (by rw [hforeign name htype]; decide)]
      rfl

theorem isAbsolute_ofOther (hspace : isAbsolute space.toList = true) (written : String) :
    isAbsolute (ofOther scope space written).name.toList = true := by
  unfold ofOther
  split
  · assumption
  · split
    · next resolution hvia =>
      obtain ⟨entry, -, rfl⟩ := Option.map_eq_some_iff.mp hvia
      simp [byAlias, expand]
    · rw [String.toList_append, isAbsolute_iff, List.head?_append, isAbsolute_iff.mp hspace]
      rfl

theorem exists_resolve_absolute (h : scope.Textual) {written : String} (hne : written ≠ "") :
    ∃ resolution, resolve scope (.text written) = .ok resolution ∧
      isAbsolute resolution.name.toList = true := by
  obtain ⟨space, hspace, habsolute⟩ := h.exists_currentNamespace
  by_cases hforeign : scope.Foreign written
  · exact ⟨_, resolve_foreign h hne hspace hforeign, isAbsolute_ofOther habsolute written⟩
  · simp only [Scope.Foreign, Classical.not_forall, Bool.not_eq_false] at hforeign
    obtain ⟨type, htype, hsame⟩ := hforeign
    refine ⟨_, resolve_self hne hspace htype hsame, ?_⟩
    rw [String.toList_append, isAbsolute_iff, List.head?_append, isAbsolute_iff.mp habsolute]
    rfl

theorem resolve_absolute (h : scope.Textual)
    (htype : ∀ type, scope.enclosingType? = some (.text type) → isAbsolute type.toList = false)
    {written : String} (hwritten : isAbsolute written.toList = true) :
    resolve scope (.text written) = .ok ⟨written, none⟩ := by
  have hne : written ≠ "" := by
    rintro rfl
    cases hwritten
  have hforeign : scope.Foreign written := by
    intro type hseen
    cases hsame : sameName written.toList type.toList with
    | false => rfl
    | true =>
        rw [isAbsolute_of_sameName hsame, htype type hseen] at hwritten
        cases hwritten
  obtain ⟨space, hspace, -⟩ := h.exists_currentNamespace
  rw [resolve_foreign h hne hspace hforeign, ofOther, if_pos hwritten]

theorem resolve_empty (scope : Scope) : resolve scope (.text "") = .ok ⟨"", none⟩ := rfl

theorem resolve_null (scope : Scope) : resolve scope .null = .ok ⟨"", none⟩ := rfl

end Resolution

namespace Forest

open Resolution

/-- What a reference resolves to is empty only if the reference is, begins with the separator
otherwise, and resolves to itself at every node of every tree, without an alias. -/
theorem resolveAt_absolute_and_stable (f : Forest) (i : Nat) (h : (f.scope i).Textual)
    (reference : Value) (hreference : reference = .null ∨ ∃ written, reference = .text written) :
    ∃ first, f.resolveAt i reference = .ok first ∧
      (first.name = "" ↔ reference = .null ∨ reference = .text "") ∧
      (first.name ≠ "" → isAbsolute first.name.toList = true) ∧
      ∀ (g : Forest) (j : Nat), (g.scope j).Textual →
        (∀ type, (g.scope j).enclosingType? = some (.text type) →
          isAbsolute type.toList = false) →
        g.resolveAt j (.text first.name) = .ok ⟨first.name, none⟩ := by
  have hempty : reference = .null ∨ reference = .text "" →
      f.resolveAt i reference = .ok ⟨"", none⟩ := by
    rintro (rfl | rfl)
    · exact resolve_null _
    · exact resolve_empty _
  by_cases hasked : reference = .null ∨ reference = .text ""
  · exact ⟨⟨"", none⟩, hempty hasked, by simp [hasked], by simp, fun _ _ _ _ => resolve_empty _⟩
  · obtain ⟨written, rfl⟩ := hreference.resolve_left fun hnull => hasked (.inl hnull)
    have hne : written ≠ "" := fun hwritten => hasked (.inr (hwritten ▸ rfl))
    obtain ⟨first, hfirst, habsolute⟩ := exists_resolve_absolute h hne
    have hname : first.name ≠ "" := by
      intro hname
      rw [hname] at habsolute
      cases habsolute
    refine ⟨first, hfirst, by simp [hname, hne], fun _ => habsolute, ?_⟩
    intro g j hg htype
    exact resolve_absolute hg htype habsolute

theorem resolveAt_stable_in_class :
    let f := (Session.start.newRoot [("namespace", .text "App"), ("class", .text "User"),
      ("uses", .object [("Foo", .text "Lib\\Foo"), ("\\Lib", .text "Other")])]).forest
    ∃ first, f.resolveAt 0 (.text "foo\\Bar") = .ok first ∧ first.name = "\\Lib\\Foo\\Bar" ∧
      f.resolveAt 0 (.text first.name) = .ok ⟨first.name, none⟩ := by
  intro f
  have htype : (f.scope 0).enclosingType? = some (.text "User") := by decide +kernel
  have htextual : (f.scope 0).Textual := by
    refine ⟨fun _ => ⟨"App", by decide +kernel⟩, ?_⟩
    intro type hseen
    rw [htype] at hseen
    cases hseen
    exact ⟨"User", rfl⟩
  obtain ⟨first, hfirst, -, -, hstable⟩ :=
    resolveAt_absolute_and_stable f 0 htextual (.text "foo\\Bar") (.inr ⟨_, rfl⟩)
  refine ⟨first, hfirst, ?_, ?_⟩
  · have hname : (f.resolveAt 0 (.text "foo\\Bar")).toOption.map (·.name) =
        some "\\Lib\\Foo\\Bar" := by
      decide +kernel
    rw [hfirst] at hname
    exact Option.some.inj hname
  · apply hstable f 0 htextual
    intro type hseen
    rw [htype] at hseen
    cases hseen
    decide

end Forest

end FactScope
