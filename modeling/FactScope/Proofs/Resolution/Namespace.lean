import Mathlib.Data.List.Chain
import FactScope.Proofs.Resolution.Course
import FactScope.Proofs.Session.Ownership

namespace FactScope

namespace QualifiedName

/-- No two separators of a name are adjacent. -/
def Spaced (name : List Char) : Prop :=
  name.IsChain fun c d => ¬(c = sep ∧ d = sep)

instance (name : List Char) : Decidable (Spaced name) :=
  inferInstanceAs (Decidable (name.IsChain fun c d => ¬(c = sep ∧ d = sep)))

variable {name inner left right rest : List Char} {c : Char}

theorem spaced_append_iff :
    Spaced (left ++ right) ↔
      Spaced left ∧ Spaced right ∧ ¬(left.getLast? = some sep ∧ right.head? = some sep) := by
  rw [Spaced, List.isChain_append]
  refine and_congr_right fun _ => and_congr_right fun _ => ?_
  constructor
  · rintro h ⟨hlast, hhead⟩
    exact h sep hlast sep hhead ⟨rfl, rfl⟩
  · rintro h c hlast d hhead ⟨rfl, rfl⟩
    exact h ⟨hlast, hhead⟩

theorem spaced_cons_iff :
    Spaced (c :: rest) ↔ ¬(c = sep ∧ rest.head? = some sep) ∧ Spaced rest := by
  have h := @spaced_append_iff [c] rest
  simp only [List.singleton_append, List.getLast?_singleton, Option.some.injEq] at h
  rw [h, and_comm (b := ¬_)]
  exact ⟨fun h => h.2, fun h => ⟨List.isChain_singleton c, h⟩⟩

theorem Spaced.of_suffix (h : Spaced name) (hsuffix : rest <:+ name) : Spaced rest :=
  List.IsChain.suffix h hsuffix

theorem spaced_of_not_mem (h : sep ∉ name) : Spaced name := by
  induction name with
  | nil => exact List.isChain_nil
  | cons c rest ih =>
      rw [List.mem_cons, not_or] at h
      rw [spaced_cons_iff]
      exact ⟨fun hpair => h.1 hpair.1.symm, ih h.2⟩

theorem collapse_of_spaced (h : Spaced name) : collapse name = name := by
  fun_induction collapse name with
  | case1 => rfl
  | case2 => rfl
  | case3 c d rest hpair => exact absurd ⟨hpair.1, by simp [hpair.2]⟩ (spaced_cons_iff.mp h).1
  | case4 c d rest hpair ih => rw [ih (spaced_cons_iff.mp h).2]

theorem collapse_sep_sep (rest : List Char) :
    collapse (sep :: sep :: rest) = sep :: collapse rest := by
  rw [collapse, if_pos ⟨rfl, rfl⟩]

theorem collapse_cons_of_head? (h : ¬(c = sep ∧ rest.head? = some sep)) :
    collapse (c :: rest) = c :: collapse rest := by
  cases rest with
  | nil => rfl
  | cons d rest =>
      rw [collapse, if_neg]
      simpa using h

theorem collapse_append (h : left.getLast? ≠ some sep) (right : List Char) :
    collapse (left ++ right) = collapse left ++ collapse right := by
  fun_induction collapse left with
  | case1 => rfl
  | case2 c =>
      have hc : c ≠ sep := by simpa using h
      exact collapse_cons_of_head? fun hpair => hc hpair.1
  | case3 c d rest hpair ih =>
      -- A pair is consumed at once, so the last character must be looked for behind it.
      obtain ⟨rfl, rfl⟩ := hpair
      cases rest with
      | nil => simp at h
      | cons e rest =>
          rw [List.getLast?_cons_cons, List.getLast?_cons_cons] at h
          rw [List.cons_append, List.cons_append, collapse, if_pos ⟨rfl, rfl⟩, ih h,
            List.cons_append]
  | case4 c d rest hpair ih =>
      rw [List.getLast?_cons_cons] at h
      rw [List.cons_append, List.cons_append, collapse, if_neg hpair, ← List.cons_append, ih h,
        List.cons_append]

/-- A namespace without separators at its ends and without adjacent ones. -/
structure Inner (name : List Char) : Prop where
  ne_nil : name ≠ []
  head?_ne : name.head? ≠ some sep
  getLast?_ne : name.getLast? ≠ some sep
  spaced : Spaced name

/-- A name with at most one separator on either side. -/
inductive Padded (inner : List Char) : List Char → Prop where
  | bare : Padded inner inner
  | before : Padded inner (sep :: inner)
  | after : Padded inner (inner ++ [sep])
  | around : Padded inner (sep :: inner ++ [sep])

theorem Padded.ne_nil (h : Padded inner name) (hinner : Inner inner) : name ≠ [] := by
  cases h with
  | bare => exact hinner.ne_nil
  | before => simp
  | after => simp
  | around => simp

/-- A namespace that begins with no separator is one without separators at its ends, or such a one
before a separator. -/
theorem exists_inner_of_head? (h : Spaced name) (hne : name ≠ []) (hhead : name.head? ≠ some sep) :
    ∃ inner, Inner inner ∧ (name = inner ∨ name = inner ++ [sep]) := by
  by_cases hlast : name.getLast? = some sep
  · obtain ⟨inner, rfl⟩ := List.getLast?_eq_some_iff.mp hlast
    rw [spaced_append_iff] at h
    have hinner : inner ≠ [] := by
      rintro rfl
      exact hhead rfl
    refine ⟨inner, ⟨hinner, ?_, ?_, h.1⟩, .inr rfl⟩
    · rwa [List.head?_append_of_ne_nil _ hinner] at hhead
    · exact fun hend => h.2.2 ⟨hend, rfl⟩
  · exact ⟨name, ⟨hne, hhead, hlast, h⟩, .inl rfl⟩

theorem exists_inner (h : Spaced name) (hne : name ≠ []) (hlone : name ≠ [sep]) :
    ∃ inner, Inner inner ∧ Padded inner name := by
  by_cases hhead : name.head? = some sep
  · obtain ⟨rest, rfl⟩ := List.head?_eq_some_iff.mp hhead
    obtain ⟨hfirst, hrest⟩ := spaced_cons_iff.mp h
    have hne : rest ≠ [] := by
      rintro rfl
      exact hlone rfl
    obtain ⟨inner, hinner, rfl | rfl⟩ :=
      exists_inner_of_head? hrest hne fun hsecond => hfirst ⟨rfl, hsecond⟩
    · exact ⟨_, hinner, .before⟩
    · exact ⟨_, hinner, .around⟩
  · obtain ⟨inner, hinner, rfl | rfl⟩ := exists_inner_of_head? h hne hhead
    · exact ⟨_, hinner, .bare⟩
    · exact ⟨_, hinner, .after⟩

namespace Inner

theorem collapse_append (h : Inner inner) (right : List Char) :
    collapse (inner ++ right) = inner ++ collapse right := by
  rw [QualifiedName.collapse_append h.getLast?_ne, collapse_of_spaced h.spaced]

theorem collapse_behind (h : Inner inner) (right : List Char) :
    collapse (sep :: inner ++ right) = sep :: inner ++ collapse right := by
  have hhead : ¬((sep : Char) = sep ∧ (inner ++ right).head? = some sep) := by
    rw [List.head?_append_of_ne_nil _ h.ne_nil]
    exact fun hpair => h.head?_ne hpair.2
  rw [List.cons_append, collapse_cons_of_head? hhead, h.collapse_append, List.cons_append]

theorem collapse_padded (h : Inner inner) (hname : Padded inner name) :
    collapse (sep :: name ++ [sep]) = sep :: inner ++ [sep] := by
  cases hname with
  | bare => exact h.collapse_behind [sep]
  | before =>
      rw [List.cons_append, List.cons_append, collapse_sep_sep, h.collapse_append]
      rfl
  | after =>
      rw [← List.cons_append, List.append_assoc, h.collapse_behind]
      rfl
  | around =>
      -- Both ends have a pair now, and neither pair touches a third separator.
      rw [List.cons_append, List.cons_append, List.cons_append, collapse_sep_sep,
        List.append_assoc, h.collapse_append]
      rfl

end Inner

end QualifiedName

open QualifiedName

namespace Scope

variable {scope : Scope} {space : String}

def SpaceSpaced (scope : Scope) : Prop :=
  scope.space.truthy = true → ∃ space, scope.space = .text space ∧ Spaced space.toList

theorem SpaceSpaced.textual (h : scope.SpaceSpaced)
    (htype : ∀ type, scope.enclosingType? = some type → ∃ name, type = .text name) :
    scope.Textual :=
  ⟨fun hgiven => (h hgiven).imp fun _ => And.left, fun {type} => htype type⟩

/-- What the current namespace is for a recorded one without adjacent separators. -/
inductive Rendered : Value → String → Prop where
  | whole {value : Value} (h : value.truthy = false) : Rendered value "\\"
  | lone : Rendered (.text "\\") "\\\\"
  | named {written : String} {inner : List Char} (inside : Inner inner)
      (padded : Padded inner written.toList) :
      Rendered (.text written) (String.ofList (sep :: inner ++ [sep]))

theorem currentNamespace_text {written : String} (hspace : scope.space = .text written)
    (hne : written ≠ "") :
    scope.currentNamespace = .ok (String.ofList (collapse (sep :: written.toList ++ [sep]))) := by
  simp [currentNamespace, hspace, Resolution.truthy_text hne]

theorem Rendered.currentNamespace_eq {value : Value} (h : Rendered value space)
    (hspace : scope.space = value) : scope.currentNamespace = .ok space := by
  cases h with
  | whole hgiven =>
      rw [currentNamespace, hspace, hgiven]
      rfl
  | lone => exact currentNamespace_text hspace (by decide)
  | @named written inner hinner hpadded =>
      have hne : written ≠ "" := mt String.toList_eq_nil_iff.mpr (hpadded.ne_nil hinner)
      rw [currentNamespace_text hspace hne, hinner.collapse_padded hpadded]

theorem exists_rendered (h : scope.SpaceSpaced) : ∃ space, Rendered scope.space space := by
  cases hgiven : scope.space.truthy with
  | false => exact ⟨_, .whole hgiven⟩
  | true =>
      obtain ⟨written, hspace, hspaced⟩ := h hgiven
      rw [hspace] at hgiven ⊢
      by_cases hlone : written = "\\"
      · subst hlone
        exact ⟨_, .lone⟩
      · have hne : written.toList ≠ [] := by
          rw [ne_eq, String.toList_eq_nil_iff]
          rintro rfl
          cases hgiven
        obtain ⟨inner, hinner, hpadded⟩ := exists_inner hspaced hne fun hsingle =>
          hlone (String.toList_inj.mp hsingle)
        exact ⟨_, .named hinner hpadded⟩

/-- A current namespace that is recorded as it is written stays what it is if it comes from a
recorded one, and becomes two separators if it is the global one. -/
theorem Rendered.exists_again {value : Value} (h : Rendered value space)
    (hspace : scope.space = .text space) :
    ∃ other, scope.currentNamespace = .ok other ∧ (other = space ↔ value.truthy = true) ∧
      (value.truthy = false → space = "\\" ∧ other = "\\\\") := by
  cases h with
  | whole hgiven =>
      refine ⟨_, Rendered.lone.currentNamespace_eq hspace, ?_, fun _ => ⟨rfl, rfl⟩⟩
      rw [hgiven]
      decide
  | lone =>
      -- Two separators are four between separators, of which each pair becomes one.
      refine ⟨"\\\\", currentNamespace_text hspace (by decide), by decide, ?_⟩
      intro hgiven
      cases hgiven
  | @named written inner hinner hpadded =>
      have hagain : Padded inner (String.ofList (sep :: inner ++ [sep])).toList := by
        rw [String.toList_ofList]
        exact .around
      have hgiven : (Value.text written).truthy = true :=
        Resolution.truthy_text (mt String.toList_eq_nil_iff.mpr (hpadded.ne_nil hinner))
      refine ⟨_, (Rendered.named hinner hagain).currentNamespace_eq hspace, by simp [hgiven], ?_⟩
      simp [hgiven]

end Scope

namespace Resolution

variable {scope : Scope} {space other written : String}

/-- Under two different current namespaces a reference is resolved alike exactly if it does not lie
in the current namespace. -/
theorem course_resolution_eq_iff (hspace : other ≠ space) (course : Course) :
    course.resolution other written = course.resolution space written ↔
      ∀ name, course ≠ .inNamespace name := by
  cases course with
  | itself => simp [Course.resolution]
  | byAlias entry => simp [Course.resolution]
  | inNamespace name =>
      simp only [Course.resolution, Resolution.mk.injEq, and_true, ne_eq, Course.inNamespace.injEq,
        forall_eq', iff_false]
      intro hname
      rw [← String.toList_inj, String.toList_append, String.toList_append] at hname
      exact hspace (String.toList_inj.mp (List.append_cancel_right hname))

end Resolution

namespace Scope

theorem name_ne_of_mem_facts :
    ∀ fact ∈ facts, fact.name ≠ Fact.version.name ∧ fact.name ≠ Fact.logger.name := by
  decide

end Scope

namespace Forest

open Resolution

theorem see_child_of_lt (f : Forest) (default : Version) (of : Fin f.size)
    (supplied : Entries Value) {i : Nat} (hi : i < f.size) {fact : Fact}
    (hversion : fact.name ≠ Fact.version.name) :
    (f.child default of supplied).see i fact = f.see i fact := by
  have hpush : ∀ own, (f.push own (some of)).see i fact = f.see i fact := fun own => by
    rw [see, see, get, get, get?_push_of_lt f own (some of) hi]
  rw [child, create_eq]
  split
  · exact hpush _
  · rw [see_put_of_ne hversion, hpush]

/-- Apart from logger and version, a child sees what it records and else what its parent sees. -/
theorem see_child_last (f : Forest) (default : Version) (of : Fin f.size)
    (supplied : Entries Value) {fact : Fact} (hversion : fact.name ≠ Fact.version.name)
    (hlogger : fact.name ≠ Fact.logger.name) :
    (f.child default of supplied).see f.size fact =
      (supplied.get? fact.name).getD (f.see of fact) := by
  have hown : f.ownFacts default supplied (some of) = f.withLogger supplied (some of) := by
    simp [ownFacts]
  rw [child, see_create_last default hversion, hown, foresee_withLogger _ _ _ hlogger, foresee]
  cases supplied.get? fact.name <;> rfl

theorem scope_child_last (f : Forest) (default : Version) (of : Fin f.size) (space : Value) :
    (f.child default of [(Fact.space.name, space)]).scope f.size =
      { f.scope of with space := space } := by
  have hsee : ∀ fact ∈ Scope.facts,
      (f.child default of [(Fact.space.name, space)]).see f.size fact =
        (Entries.get? [(Fact.space.name, space)] fact.name).getD (f.see of fact) := by
    intro fact hfact
    obtain ⟨hversion, hlogger⟩ := Scope.name_ne_of_mem_facts fact hfact
    exact see_child_last f default of _ hversion hlogger
  simp only [scope]
  rw [hsee .space (by decide), hsee .classType (by decide), hsee .interfaceType (by decide),
    hsee .traitType (by decide), hsee .uses (by decide)]
  rfl

theorem scope_child_of_lt (f : Forest) (default : Version) (of : Fin f.size)
    (supplied : Entries Value) {i : Nat} (hi : i < f.size) :
    (f.child default of supplied).scope i = f.scope i := by
  apply scope_eq
  intro fact hfact _
  exact see_child_of_lt f default of supplied hi (Scope.name_ne_of_mem_facts fact hfact).1

/-- A child that records the current namespace of its parent has the same current namespace exactly
if a namespace is recorded; the global one becomes two separators. The child resolves a reference
as its parent does exactly if a namespace is recorded or the reference does not lie in it. -/
theorem currentNamespace_child_iff (f : Forest) (default : Version) (of : Fin f.size)
    (h : (f.scope of).SpaceSpaced) :
    ∃ space other, (f.scope of).currentNamespace = .ok space ∧
      let g := f.child default of [(Fact.space.name, .text space)]
      g.scope of = f.scope of ∧ (g.scope f.size).currentNamespace = .ok other ∧
        (other = space ↔ (f.scope of).space.truthy = true) ∧
        ((f.scope of).space.truthy = false → space = "\\" ∧ other = "\\\\") ∧
        ((∀ type, (f.scope of).enclosingType? = some type → ∃ name, type = .text name) →
          ∀ written, ∃ first second, g.resolveAt of (.text written) = .ok first ∧
            g.resolveAt f.size (.text written) = .ok second ∧
            (second = first ↔ (f.scope of).space.truthy = true ∨
              ∀ name, (f.scope of).course written ≠ .inNamespace name)) := by
  obtain ⟨space, hrendered⟩ := Scope.exists_rendered h
  have hspace := hrendered.currentNamespace_eq rfl
  obtain ⟨other, hother, hiff, hglobal⟩ :
      ∃ other, { f.scope of with space := .text space }.currentNamespace = .ok other ∧
        (other = space ↔ (f.scope of).space.truthy = true) ∧
        ((f.scope of).space.truthy = false → space = "\\" ∧ other = "\\\\") :=
    hrendered.exists_again rfl
  refine ⟨space, other, hspace, ?_⟩
  intro g
  have hof : g.scope of = f.scope of := scope_child_of_lt f default of _ of.isLt
  have hlast : g.scope f.size = { f.scope of with space := .text space } :=
    scope_child_last f default of _
  refine ⟨hof, hlast ▸ hother, hiff, hglobal, ?_⟩
  intro htype written
  have htextual : (f.scope of).Textual := h.textual htype
  have hchild : { f.scope of with space := .text space }.Textual :=
    ⟨fun _ => ⟨space, rfl⟩, fun {type} => htype type⟩
  have hfirst : g.resolveAt of (.text written) =
      .ok (((f.scope of).course written).resolution space written) := by
    rw [resolveAt, hof]
    exact resolve_eq_course htextual hspace written
  have hsecond : g.resolveAt f.size (.text written) =
      .ok (((f.scope of).course written).resolution other written) := by
    rw [resolveAt, hlast, resolve_eq_course hchild hother written, Scope.course_space]
  refine ⟨_, _, hfirst, hsecond, ?_⟩
  by_cases hgiven : (f.scope of).space.truthy = true
  · simp [hgiven, hiff.mpr hgiven]
  · rw [course_resolution_eq_iff (mt hiff.mp hgiven)]
    simp [hgiven]

theorem currentNamespace_child_of_class :
    let f := (Session.start.newRoot
      [("namespace", .text "App\\"), ("class", .text "User")]).forest
    ∃ space other, (f.scope 0).currentNamespace = .ok space ∧ space = "\\App\\" ∧
      let g := f.child .initial ⟨0, by decide +kernel⟩ [(Fact.space.name, .text space)]
      (g.scope f.size).currentNamespace = .ok other ∧ other = space ∧
        ∀ written, ∃ first second, g.resolveAt 0 (.text written) = .ok first ∧
          g.resolveAt f.size (.text written) = .ok second ∧ second = first := by
  intro f
  have hspace : (f.scope 0).space = .text "App\\" := by decide +kernel
  have htype : (f.scope 0).enclosingType? = some (.text "User") := by decide +kernel
  obtain ⟨space, other, hcurrent, -, hother, hiff, -, hresolve⟩ :=
    currentNamespace_child_iff f .initial ⟨0, by decide +kernel⟩
      fun _ => ⟨"App\\", hspace, by decide⟩
  have hgiven : (f.scope 0).space.truthy = true := by rw [hspace]; decide
  refine ⟨space, other, hcurrent, ?_, hother, hiff.mpr hgiven, ?_⟩
  · have hvalue : (f.scope 0).currentNamespace = .ok "\\App\\" := by decide +kernel
    rw [hcurrent] at hvalue
    exact Except.ok.inj hvalue
  · intro written
    obtain ⟨first, second, hfirst, hsecond, hsame⟩ := hresolve (fun type hseen => by
      rw [htype] at hseen
      cases hseen
      exact ⟨"User", rfl⟩) written
    exact ⟨first, second, hfirst, hsecond, hsame.mpr (.inl hgiven)⟩

/-- Without a namespace the current one is the lone separator. A child that records it has two
separators as its current namespace and resolves to other names. -/
theorem currentNamespace_child_without_namespace :
    let f := (Session.start.run [.newRoot [], .child 0 [("namespace", .text "\\")]]).forest
    f.see 0 .space = .null ∧ (f.scope 0).enclosingType? = none ∧
      (f.scope 0).currentNamespace = .ok "\\" ∧ (f.scope 1).currentNamespace = .ok "\\\\" ∧
      (f.scope 1).currentNamespace ≠ (f.scope 0).currentNamespace ∧
      f.resolveAt 0 (.text "Foo") = .ok ⟨"\\Foo", none⟩ ∧
      f.resolveAt 1 (.text "Foo") = .ok ⟨"\\\\Foo", none⟩ ∧
      f.resolveAt 1 (.text "Foo") ≠ f.resolveAt 0 (.text "Foo") := by
  decide +kernel

end Forest

end FactScope
