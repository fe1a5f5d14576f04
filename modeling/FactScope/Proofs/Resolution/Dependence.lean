import FactScope.Proofs.Forest.Chain
import FactScope.Proofs.Resolution.Absolute

namespace FactScope

open QualifiedName

namespace Scope

def facts : List Fact :=
  [.space, .classType, .interfaceType, .traitType, .uses]

/-- References that no alias can be for. -/
inductive Unaliased (scope : Scope) : Value → Prop where
  | null : Unaliased scope .null
  | empty : Unaliased scope (.text "")
  | self {type written : String} (seen : scope.enclosingType? = some (.text type))
      (same : sameName written.toList type.toList = true) : Unaliased scope (.text written)
  | absolute {written : String} (h : isAbsolute written.toList = true) :
      Unaliased scope (.text written)

end Scope

namespace Forest

variable {f g : Forest} {i j : Nat}

/-- Node `j` of `g` sees the facts of a scope as node `i` of `f` does, all but `spared`. -/
def SeesAlike (f : Forest) (i : Nat) (g : Forest) (j : Nat) (spared : List Fact) : Prop :=
  ∀ fact ∈ Scope.facts, fact ∉ spared → g.see j fact = f.see i fact

theorem scope_eq (h : SeesAlike f i g j []) : g.scope j = f.scope i := by
  have hsee : ∀ fact ∈ Scope.facts, g.see j fact = f.see i fact :=
    fun fact hmem => h fact hmem (by simp)
  simp only [scope]
  rw [hsee .space (by decide), hsee .classType (by decide), hsee .interfaceType (by decide),
    hsee .traitType (by decide), hsee .uses (by decide)]

theorem scope_eq_but_uses (h : SeesAlike f i g j [.uses]) :
    g.scope j = { f.scope i with uses := (g.scope j).uses } := by
  simp only [scope]
  rw [h .space (by decide) (by decide), h .classType (by decide) (by decide),
    h .interfaceType (by decide) (by decide), h .traitType (by decide) (by decide)]

theorem scope_eq_but_space (h : SeesAlike f i g j [.space]) :
    g.scope j = { f.scope i with space := (g.scope j).space } := by
  simp only [scope]
  rw [h .uses (by decide) (by decide), h .classType (by decide) (by decide),
    h .interfaceType (by decide) (by decide), h .traitType (by decide) (by decide)]

/-- A fact that no node records from `i` up to an ancestor is seen as the ancestor sees it. -/
theorem get?_of_ancestor {a : Nat} {name : String} (ha : a ∈ f.ancestors i)
    (h : ∀ k ∈ f.chain i, a ∈ f.ancestors k → f.hasOwn k name = false) :
    f.get? i name = f.get? a name := by
  induction i using f.parentInduction with
  | root i hp => simp [ancestors_of_root hp] at ha
  | child i p hp ih =>
      have hi : f.hasOwn i name = false := h i (by simp [chain]) ha
      rw [get?_of_parent hi hp]
      rw [ancestors_of_parent hp] at ha
      rcases List.mem_cons.mp ha with rfl | hmem
      · rfl
      · refine ih hmem ?_
        intro k hk
        refine h k ?_
        rw [chain, ancestors_of_parent hp]
        exact List.mem_cons_of_mem _ hk

end Forest

namespace Resolution

variable {scope : Scope} {written : String}

theorem ne_empty_of_enclosingType? {type : String} (h : scope.enclosingType? = some (.text type)) :
    type ≠ "" := by
  have htruthy := Scope.truthy_of_enclosingType? h
  rintro rfl
  cases htruthy

theorem ne_empty_of_self {type : String} (h : scope.enclosingType? = some (.text type))
    (hsame : sameName written.toList type.toList = true) : written ≠ "" := by
  rintro rfl
  rw [sameName_iff] at hsame
  have hnil : type.toList = [] := Text.Lowercase.lower_eq_nil_iff.mp (by rw [← hsame]; rfl)
  exact ne_empty_of_enclosingType? h (String.toList_eq_nil_iff.mp hnil)

/-- References that no alias is for are resolved alike under all alias tables, without an alias. -/
theorem resolve_unaliased (h : scope.Textual) {reference : Value} (hr : scope.Unaliased reference)
    (uses : Value) :
    ∃ name, resolve scope reference = .ok ⟨name, none⟩ ∧
      resolve { scope with uses := uses } reference = .ok ⟨name, none⟩ := by
  have hother : { scope with uses := uses }.Textual := ⟨h.space_text, h.type_text⟩
  obtain ⟨space, hspace, -⟩ := h.exists_currentNamespace
  cases hr with
  | null => exact ⟨"", resolve_null _, resolve_null _⟩
  | empty => exact ⟨"", resolve_empty _, resolve_empty _⟩
  | @self type written hseen hsame =>
      have hne := ne_empty_of_self hseen hsame
      exact ⟨space ++ type, resolve_self hne hspace hseen hsame,
        resolve_self hne hspace hseen hsame⟩
  | @absolute written habsolute =>
      -- an absolute name can still be the enclosing type's, if that begins with a separator
      by_cases hforeign : scope.Foreign written
      · have hne : written ≠ "" := by
          rintro rfl
          cases habsolute
        refine ⟨written, ?_, ?_⟩
        · rw [resolve_foreign h hne hspace hforeign, ofOther, if_pos habsolute]
        · rw [resolve_foreign hother hne hspace hforeign, ofOther, if_pos habsolute]
      · simp only [Scope.Foreign, Classical.not_forall, Bool.not_eq_false] at hforeign
        obtain ⟨type, hseen, hsame⟩ := hforeign
        have hne := ne_empty_of_self hseen hsame
        exact ⟨space ++ type, resolve_self hne hspace hseen hsame,
          resolve_self hne hspace hseen hsame⟩

theorem ofOther_space (scope : Scope) (value : Value) (space other written : String) :
    ofOther { scope with space := value } other written = ofOther scope space written ∨
      ofOther scope space written = ⟨space ++ written, none⟩ ∧
        ofOther { scope with space := value } other written = ⟨other ++ written, none⟩ := by
  have haliases : { scope with space := value }.aliases = scope.aliases := rfl
  unfold ofOther
  rw [haliases]
  cases isAbsolute written.toList with
  | true => exact .inl rfl
  | false =>
      cases viaAlias? scope.aliases written with
      | some resolution => exact .inl rfl
      | none => exact .inr ⟨rfl, rfl⟩

theorem resolve_text (hne : written ≠ "") {space : String}
    (hspace : scope.currentNamespace = .ok space) :
    resolve scope (.text written) =
      match scope.enclosingType? with
      | none => .ok (ofOther scope space written)
      | some (.text type) =>
          if sameName written.toList type.toList then .ok ⟨space ++ type, none⟩
          else .ok (ofOther scope space written)
      | some other => .error (.noLowerCase other.kind) := by
  simp only [resolve, truthy_text hne, if_true, hspace]
  cases scope.enclosingType? with
  | none => rfl
  | some type => cases type <;> rfl

/-- The namespace takes part in a resolution as the beginning of the result or not at all. -/
theorem resolve_space {value : Value} {space other : String}
    (hspace : scope.currentNamespace = .ok space)
    (hother : { scope with space := value }.currentNamespace = .ok other) (written : String) :
    resolve { scope with space := value } (.text written) = resolve scope (.text written) ∨
      ∃ x, (x = written ∨ scope.enclosingType? = some (.text x)) ∧
        resolve scope (.text written) = .ok ⟨space ++ x, none⟩ ∧
        resolve { scope with space := value } (.text written) = .ok ⟨other ++ x, none⟩ := by
  by_cases hne : written = ""
  · subst hne
    exact .inl rfl
  have htypes : { scope with space := value }.enclosingType? = scope.enclosingType? := rfl
  have hends := ofOther_space scope value space other written
  rw [resolve_text hne hspace, resolve_text hne hother, htypes]
  cases scope.enclosingType? with
  | none =>
      rcases hends with heq | ⟨hleft, hright⟩
      · exact .inl (congrArg Except.ok heq)
      · exact .inr ⟨written, .inl rfl, congrArg Except.ok hleft, congrArg Except.ok hright⟩
  | some type =>
      cases type with
      | text type =>
          cases hsame : sameName written.toList type.toList with
          | true => exact .inr ⟨type, .inr rfl, by simp [hsame], by simp [hsame]⟩
          | false =>
              simp only [hsame, Bool.false_eq_true, if_false]
              rcases hends with heq | ⟨hleft, hright⟩
              · exact .inl (congrArg Except.ok heq)
              · exact .inr ⟨written, .inl rfl, congrArg Except.ok hleft,
                  congrArg Except.ok hright⟩
      | _ => exact .inl rfl

end Resolution

namespace Forest

open Resolution

variable {f g : Forest} {i j : Nat}

/-- What flows into a resolution. Nodes that see the facts of a scope alike resolve alike, so a node
resolves as an ancestor if no node from it up to there records such a fact. References that no
alias can be for do not depend on the alias table, and the enclosing type leads to itself. Two
namespaces make no difference but for what the result begins with. -/
theorem resolveAt_flow (f g : Forest) (i j : Nat) :
    (SeesAlike f i g j [] → ∀ reference, g.resolveAt j reference = f.resolveAt i reference) ∧
    (∀ a ∈ f.ancestors i,
      (∀ k ∈ f.chain i, a ∈ f.ancestors k →
        ∀ fact ∈ Scope.facts, f.hasOwn k fact.name = false) →
      ∀ reference, f.resolveAt i reference = f.resolveAt a reference) ∧
    ((f.scope i).Textual →
      (SeesAlike f i g j [.uses] → ∀ reference, (f.scope i).Unaliased reference →
        ∃ name, f.resolveAt i reference = .ok ⟨name, none⟩ ∧
          g.resolveAt j reference = .ok ⟨name, none⟩) ∧
      ∃ space, (f.scope i).currentNamespace = .ok space ∧
        ∀ type written, (f.scope i).enclosingType? = some (.text type) →
          sameName written.toList type.toList = true →
          f.resolveAt i (.text written) = .ok ⟨space ++ type, none⟩) ∧
    (((f.scope i).space.truthy = true → ∃ space, (f.scope i).space = .text space) →
      ((g.scope j).space.truthy = true → ∃ space, (g.scope j).space = .text space) →
      SeesAlike f i g j [.space] →
      ∃ space other, (f.scope i).currentNamespace = .ok space ∧
        (g.scope j).currentNamespace = .ok other ∧
        ∀ written, g.resolveAt j (.text written) = f.resolveAt i (.text written) ∨
          ∃ x, (x = written ∨ (f.scope i).enclosingType? = some (.text x)) ∧
            f.resolveAt i (.text written) = .ok ⟨space ++ x, none⟩ ∧
            g.resolveAt j (.text written) = .ok ⟨other ++ x, none⟩) := by
  refine ⟨?_, ?_, ?_, ?_⟩
  · intro halike reference
    rw [resolveAt, resolveAt, scope_eq halike]
  · intro a ha hunowned reference
    have halike : SeesAlike f a f i [] := by
      intro fact hfact _
      have hget := get?_of_ancestor ha fun k hk hak => hunowned k hk hak fact hfact
      rw [see, see, get, get, hget]
    rw [resolveAt, resolveAt, scope_eq halike]
  · intro htextual
    constructor
    · intro halike reference hreference
      rw [resolveAt, resolveAt, scope_eq_but_uses halike]
      exact resolve_unaliased htextual hreference _
    · obtain ⟨space, hspace, -⟩ := htextual.exists_currentNamespace
      refine ⟨space, hspace, ?_⟩
      intro type written hseen hsame
      exact resolve_self (ne_empty_of_self hseen hsame) hspace hseen hsame
  · intro hleft hright halike
    obtain ⟨space, hspace, -⟩ := Scope.exists_currentNamespace hleft
    obtain ⟨other, hother, -⟩ := Scope.exists_currentNamespace hright
    refine ⟨space, other, hspace, hother, ?_⟩
    intro written
    rw [scope_eq_but_space halike] at hother
    rw [resolveAt, resolveAt, scope_eq_but_space halike]
    exact resolve_space hspace hother written

theorem resolveAt_flow_between_classes :
    let uses : Value := .object [("Foo", .text "Lib\\Foo")]
    let other : Value := .object [("user", .text "Lib\\User")]
    let inClass (space : String) (uses : Value) : Entries Value :=
      [("namespace", .text space), ("class", .text "User"), ("uses", uses)]
    let f := (Session.start.run
      [.newRoot (inClass "App" uses), .child 0 [("method", .text "save")],
        .newRoot (inClass "App" other), .newRoot (inClass "Lib" uses)]).forest
    (∀ reference, f.resolveAt 1 reference = f.resolveAt 0 reference) ∧
      f.resolveAt 1 (.text "USER") = .ok ⟨"\\App\\User", none⟩ ∧
      f.resolveAt 2 (.text "USER") = f.resolveAt 1 (.text "USER") ∧
      (f.resolveAt 3 (.text "Bar") = f.resolveAt 1 (.text "Bar") ∨
        ∃ x, (x = "Bar" ∨ (f.scope 1).enclosingType? = some (.text x)) ∧
          f.resolveAt 1 (.text "Bar") = .ok ⟨"\\App\\" ++ x, none⟩ ∧
          f.resolveAt 3 (.text "Bar") = .ok ⟨"\\Lib\\" ++ x, none⟩) := by
  intro uses other inClass f
  have hscope : f.scope 1 = ⟨.text "App", .text "User", .null, .null, uses⟩ := by decide +kernel
  have hlibScope : f.scope 3 = ⟨.text "Lib", .text "User", .null, .null, uses⟩ := by
    decide +kernel
  have htype : (f.scope 1).enclosingType? = some (.text "User") := by rw [hscope]; rfl
  have htextual : (f.scope 1).Textual := by
    refine ⟨fun _ => ⟨"App", by rw [hscope]⟩, ?_⟩
    intro type hseen
    rw [htype] at hseen
    cases hseen
    exact ⟨"User", rfl⟩
  have hself : (f.scope 1).Unaliased (.text "USER") := .self htype (by decide)
  obtain ⟨-, hinherited, -⟩ := resolveAt_flow f f 1 1
  obtain ⟨-, -, htable, -⟩ := resolveAt_flow f f 1 2
  obtain ⟨hunaliased, space, hspace, hname⟩ := htable htextual
  obtain ⟨-, -, -, hends⟩ := resolveAt_flow f f 1 3
  obtain ⟨left, right, hleft, hright, hbar⟩ :=
    hends htextual.space_text (fun _ => ⟨"Lib", by rw [hlibScope]⟩)
      (by unfold SeesAlike; decide +kernel)
  have happ : (f.scope 1).currentNamespace = .ok "\\App\\" := by rw [hscope]; rfl
  have hlib : (f.scope 3).currentNamespace = .ok "\\Lib\\" := by rw [hlibScope]; rfl
  rw [happ] at hspace hleft
  rw [hlib] at hright
  cases hspace
  cases hleft
  cases hright
  refine ⟨hinherited 0 (by decide +kernel) (by decide +kernel),
    hname "User" "USER" htype (by decide), ?_, hbar "Bar"⟩
  obtain ⟨name, hfirst, hsecond⟩ := hunaliased (by unfold SeesAlike; decide +kernel) _ hself
  exact hsecond.trans hfirst.symm

end Forest

end FactScope
