import FactScope.Proofs.Verbatim.Refusal

namespace FactScope

namespace Verbatim

open Text (Points)

variable {scope : Scope} {site : Site}

theorem exists_memberText_eq_error_iff :
    (∃ fault, memberText site = .error fault) ↔
      Untold (if site.method.truthy then site.method else site.property) := by
  unfold memberText Untold
  split <;> simp [Except.bind_eq_error_iff, pure, Except.pure]

theorem exists_withFile_eq_error_iff (known : Points) :
    (∃ fault, withFile site known = .error fault) ↔
      site.filename.truthy = true ∧ Untold site.filename := by
  unfold withFile Untold
  split
  · next hgiven => simp [Except.bind_eq_error_iff, pure, Except.pure, hgiven]
  · next hgiven => simp [pure, Except.pure, hgiven]

theorem exists_withLine_eq_error_iff (known : Points) :
    (∃ fault, withLine site known = .error fault) ↔ site.line.truthy = true ∧
      (Untold site.line ∨ site.character.truthy = true ∧ Untold site.character) := by
  unfold withLine
  split
  · next hgiven =>
    rw [and_iff_right hgiven]
    refine Except.exists_bind_eq_error_iff fun line => ?_
    cases site.character.truthy <;> simp [Untold, Except.bind_eq_error_iff, pure, Except.pure]
  · next hgiven => simp [pure, Except.pure, hgiven]

/-- A class that is text is its own enclosing type, so nothing but the namespace can be at fault. -/
theorem exists_resolve_classType_eq_error_iff (hclass : scope.classType.truthy = true) :
    (∃ fault, resolve scope scope.classType = .error fault) ↔
      scope.classType.points? = none ∨ ¬Joinable scope := by
  have henclosed : scope.enclosingType? = some scope.classType := by
    simp [Scope.enclosingType?, hclass]
  rw [exists_resolve_eq_error_iff, exists_refuses_iff, and_iff_right hclass]
  constructor
  · rintro (hspace | hpoints | ⟨type, htype, huncased⟩ | ⟨written, -, hforeign, -⟩)
    · exact .inr hspace
    · exact .inl hpoints
    · rw [henclosed, Option.some.injEq] at htype
      subst htype
      exact .inl (Classical.not_not.mp (not_or.mp huncased).1)
    · exact absurd rfl (hforeign _ henclosed).2
  · rintro (hpoints | hspace)
    · exact .inr (.inl hpoints)
    · exact .inl hspace

theorem exists_ownerName_eq_error_iff (hclass : site.scope.classType.truthy = true) :
    (∃ fault, ownerName site = .error fault) ↔
      site.scope.classType.points? = none ∨ ¬Joinable site.scope := by
  unfold ownerName
  cases hspace : site.scope.space.truthy with
  | true =>
      rw [← exists_resolve_classType_eq_error_iff hclass]
      simp [Except.bind_eq_error_iff, pure, Except.pure]
  | false =>
      have hjoinable : Joinable site.scope := fun h => by rw [hspace] at h; cases h
      simp [joined_eq_error_iff, hjoinable]

theorem exists_member_eq_error_iff :
    (∃ fault, member site = .error fault) ↔ site.hasMember = true ∧
      ((site.scope.classType.points? = none ∨ ¬Joinable site.scope) ∨
        Untold (if site.method.truthy then site.method else site.property)) := by
  unfold member
  split
  · next hmember =>
    have hclass : site.scope.classType.truthy = true := by
      rw [Site.hasMember, Bool.and_eq_true] at hmember
      exact hmember.1
    rw [and_iff_right hmember, ← exists_ownerName_eq_error_iff hclass,
      ← exists_memberText_eq_error_iff]
    refine Except.exists_bind_eq_error_iff fun name => ?_
    simp [Except.bind_eq_error_iff, pure, Except.pure]
  · next hmember => simp [pure, Except.pure, hmember]

/-- A description fails if it has a class or a namespace that is no text, or shows a value without a
text. -/
theorem exists_describe_eq_error_iff :
    (∃ fault, describe site = .error fault) ↔
      site.hasMember = true ∧ (site.scope.classType.points? = none ∨ ¬Joinable site.scope) ∨
        ∃ value ∈ shown site, Untold value := by
  have hdescribe : (∃ fault, describe site = .error fault) ↔
      (∃ fault, member site = .error fault) ∨
        site.filename.truthy = true ∧ Untold site.filename ∨
          site.line.truthy = true ∧
            (Untold site.line ∨ site.character.truthy = true ∧ Untold site.character) :=
    Except.exists_bind_eq_error_iff fun known =>
      (Except.exists_bind_eq_error_iff exists_withLine_eq_error_iff).trans
        (or_congr_left (exists_withFile_eq_error_iff known))
  have hshown : (∃ value ∈ shown site, Untold value) ↔
      site.hasMember = true ∧ Untold (if site.method.truthy then site.method else site.property) ∨
        site.filename.truthy = true ∧ Untold site.filename ∨
          site.line.truthy = true ∧
            (Untold site.line ∨ site.character.truthy = true ∧ Untold site.character) := by
    unfold shown
    cases site.hasMember <;> cases site.filename.truthy <;> cases site.line.truthy <;>
      cases site.character.truthy <;> simp
  rw [hdescribe, hshown, exists_member_eq_error_iff, and_or_left, or_assoc]

end Verbatim

namespace World

open Verbatim

theorem nameAt_eq_error_iff (w : World) (i : Nat) (reference : Value) (time : String)
    (fault : Fault) :
    (w.nameAt i reference time).2 = .error fault ↔
      w.session.forest.nameAt i reference = .error fault ∨
        ∃ name use, w.session.forest.nameAt i reference = .ok ⟨name, some use⟩ ∧
          (w.log.logAlias use.reference use.used use.resolved time).fault = some fault := by
  cases hnamed : w.session.forest.nameAt i reference with
  | error other => simp [nameAt, hnamed]
  | ok naming =>
      obtain ⟨name, _ | use⟩ := naming
      · simp [nameAt, hnamed]
      · have hresult : (w.nameAt i reference time).2 = .error fault ↔
            (w.log.logAlias use.reference use.used use.resolved time).fault = some fault := by
          cases hlogged : (w.log.logAlias use.reference use.used use.resolved time).fault <;>
            simp [nameAt, hnamed, hlogged]
        rw [hresult]
        constructor
        · exact fun h => .inr ⟨name, use, rfl, h⟩
        · rintro (hfails | ⟨_, _, hsame, hfault⟩)
          · cases hfails
          · cases hsame
            exact hfault

/-- Exactly when queries fail. A given reference is not resolved if the namespace is given and no
text, if the reference is no text, if the enclosing type is neither text nor bytes, or if the search
for an alias comes to a value without a text; `Refuses` tells which of these is the fault. To log
the alias adds what ends the logging. A description fails if there is a member to tell and its class
is no text or the namespace is given and no text, or if a value that it shows has no text. Otherwise
both give a result. -/
theorem queries_fail_iff (w : World) (i : Nat) :
    let f := w.session.forest
    (∀ reference : Value,
      let refused := reference.truthy = true ∧
        ((f.see i .space).truthy = true ∧ (f.see i .space).points? = none ∨
          reference.points? = none ∨
          (∃ type, (f.scope i).enclosingType? = some type ∧ ¬type.Cased) ∨
          ∃ written, reference.points? = some written ∧ Foreign (f.scope i) reference ∧
            Stalls (f.scope i) written)
      ((∃ fault, f.nameAt i reference = .error fault) ↔ refused) ∧
      ((∃ naming, f.nameAt i reference = .ok naming) ↔ ¬refused) ∧
      ∀ fault,
        (f.nameAt i reference = .error fault ↔
          reference.truthy = true ∧ Refuses (f.scope i) reference fault) ∧
        ∀ time, (w.nameAt i reference time).2 = .error fault ↔
          f.nameAt i reference = .error fault ∨
            ∃ name use, f.nameAt i reference = .ok ⟨name, some use⟩ ∧
              (w.log.logAlias use.reference use.used use.resolved time).fault = some fault) ∧
    (let refused := ((f.see i .classType).truthy = true ∧
        ((f.see i .method).truthy = true ∨ (f.see i .property).truthy = true)) ∧
          ((f.see i .classType).points? = none ∨
            (f.see i .space).truthy = true ∧ (f.see i .space).points? = none) ∨
        ∃ value ∈ shown (f.site i), Untold value
     ((∃ fault, f.locate i = .error fault) ↔ refused) ∧
      ((∃ text, f.locate i = .ok text) ↔ ¬refused)) ∧
    ∀ value, Untold value ↔ value.points? = none ∧
      (Value.greatestDepth < value.depth ∨ value.hasText = false) := by
  intro f
  have hspace : ¬Joinable (f.scope i) ↔
      (f.see i .space).truthy = true ∧ (f.see i .space).points? = none := by
    rw [Joinable, Classical.not_imp, Classical.not_not]
    rfl
  refine ⟨fun reference => ?_, ?_, fun value => ?_⟩
  · intro refused
    have hfails : (∃ fault, f.nameAt i reference = .error fault) ↔ refused := by
      simp only [refused, ← hspace, ← exists_refuses_iff]
      exact exists_resolve_eq_error_iff
    refine ⟨hfails, Except.exists_ok_iff.trans (not_congr hfails), fun fault => ?_⟩
    exact ⟨resolve_eq_error_iff, fun time => w.nameAt_eq_error_iff i reference time fault⟩
  · intro refused
    have hmember : (f.site i).hasMember = true ↔ (f.see i .classType).truthy = true ∧
        ((f.see i .method).truthy = true ∨ (f.see i .property).truthy = true) := by
      rw [Site.hasMember, Bool.and_eq_true, Bool.or_eq_true]
      rfl
    have hfails : (∃ fault, f.locate i = .error fault) ↔ refused := by
      simp only [refused, ← hspace, ← hmember]
      exact exists_describe_eq_error_iff
    exact ⟨hfails, Except.exists_ok_iff.trans (not_congr hfails)⟩
  · exact untold_iff

def strange : World :=
  ⟨Session.start.newRoot
      [("class", .datum (.bytes [66])), ("line", .int (Nat.pow 10 Text.Digits.greatestCount : Nat))],
    .start (.ofDirectories [])⟩

/-- A type of bytes does not keep a reference from being resolved, and where nothing is joined to a
text a line may still keep a location from being told. -/
theorem queries_fail_not_by_kinds_alone :
    let f := strange.session.forest
    (f.scope 0).enclosingType? = some (.datum (.bytes [66])) ∧
      (f.nameAt 0 (.text "Foo")).toOption = some ⟨.ofString "\\Foo", none⟩ ∧
      (f.see 0 .method).truthy = false ∧ (f.see 0 .property).truthy = false ∧
      (f.locate 0).toOption = none := by
  decide +kernel

end World

end FactScope
