import FactScope.Proofs.Resolution.Dependence
import FactScope.Proofs.Resolution.Qualified

/-!
The course of a resolution where namespace and enclosing type are texts. A reference stands for
itself, for a name in the current namespace, or for what the first alias that covers it leads to.
Which of these it is does not depend on the namespace, and on the alias table through that alias
only.
-/

namespace FactScope

open QualifiedName

/-- What a reference stands for. -/
inductive Course where
  | itself
  | inNamespace (name : String)
  | byAlias (entry : Value × Value)
deriving DecidableEq, Repr

def Course.resolution (space written : String) : Course → Resolution
  | .itself => ⟨written, none⟩
  | .inNamespace name => ⟨space ++ name, none⟩
  | .byAlias entry => Resolution.byAlias written entry

namespace Scope

def courseOfOther (scope : Scope) (written : String) : Course :=
  if isAbsolute written.toList then .itself
  else
    match Resolution.firstCovering? scope.aliases written with
    | some entry => .byAlias entry
    | none => .inNamespace written

/-- The course of a reference. The enclosing type stands in the current namespace in its own
spelling. -/
def course (scope : Scope) (written : String) : Course :=
  if written = "" then .itself
  else
    match scope.enclosingType? with
    | some (.text type) =>
        if sameName written.toList type.toList then .inNamespace type
        else scope.courseOfOther written
    | _ => scope.courseOfOther written

theorem course_space (scope : Scope) (space : Value) (written : String) :
    { scope with space := space }.course written = scope.course written := rfl

theorem course_uses {scope : Scope} {uses : Value} {written : String}
    (h : Resolution.firstCovering? { scope with uses := uses }.aliases written =
      Resolution.firstCovering? scope.aliases written) :
    { scope with uses := uses }.course written = scope.course written := by
  have hother : { scope with uses := uses }.courseOfOther written =
      scope.courseOfOther written := by
    rw [courseOfOther, courseOfOther, h]
  have htype : { scope with uses := uses }.enclosingType? = scope.enclosingType? := rfl
  simp only [course, htype, hother]

theorem courseOfOther_eq_inNamespace {scope : Scope} {written name : String}
    (h : scope.courseOfOther written = .inNamespace name) :
    isAbsolute written.toList = false ∧ name = written := by
  unfold courseOfOther at h
  cases habsolute : isAbsolute written.toList with
  | true =>
      rw [if_pos habsolute] at h
      cases h
  | false =>
      rw [if_neg (by simp [habsolute])] at h
      split at h <;> cases h
      exact ⟨rfl, rfl⟩

theorem course_eq_inNamespace {scope : Scope} {written name : String}
    (h : scope.course written = .inNamespace name) :
    scope.enclosingType? = some (.text name) ∨
      isAbsolute written.toList = false ∧ name = written := by
  unfold course at h
  split at h
  · cases h
  · split at h
    · next type htype =>
      split at h
      · cases h
        exact .inl htype
      · exact .inr (courseOfOther_eq_inNamespace h)
    · exact .inr (courseOfOther_eq_inNamespace h)

theorem courseOfOther_eq_byAlias {scope : Scope} {written : String} {entry : Value × Value}
    (h : scope.courseOfOther written = .byAlias entry) :
    Resolution.firstCovering? scope.aliases written = some entry := by
  unfold courseOfOther at h
  split at h
  · cases h
  · split at h
    · next found hfound =>
      cases h
      exact hfound
    · cases h

theorem course_eq_byAlias {scope : Scope} {written : String} {entry : Value × Value}
    (h : scope.course written = .byAlias entry) :
    Resolution.firstCovering? scope.aliases written = some entry := by
  unfold course at h
  split at h
  · cases h
  · split at h
    · split at h
      · cases h
      · exact courseOfOther_eq_byAlias h
    · exact courseOfOther_eq_byAlias h

end Scope

namespace Resolution

variable {scope : Scope} {space : String}

theorem ofOther_eq_course (scope : Scope) (space written : String) :
    ofOther scope space written = (scope.courseOfOther written).resolution space written := by
  unfold ofOther viaAlias? Scope.courseOfOther
  cases isAbsolute written.toList with
  | true => rfl
  | false => cases firstCovering? scope.aliases written <;> rfl

theorem resolve_eq_course (h : scope.Textual) (hspace : scope.currentNamespace = .ok space)
    (written : String) :
    resolve scope (.text written) = .ok ((scope.course written).resolution space written) := by
  by_cases hne : written = ""
  · subst hne
    rfl
  · rw [resolve_text hne hspace, Scope.course, if_neg hne]
    cases htype : scope.enclosingType? with
    | none => exact congrArg Except.ok (ofOther_eq_course scope space written)
    | some type =>
        obtain ⟨name, rfl⟩ := h.type_text htype
        simp only [ofOther_eq_course]
        split <;> rfl

end Resolution

end FactScope
