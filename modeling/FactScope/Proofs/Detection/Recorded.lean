import FactScope.Proofs.Detection.Module
import FactScope.Proofs.Entries

namespace FactScope

namespace Frame

/-- The class that a call belongs to, and whether the call is static: the class of the object that
`self` is, or else the class that `cls` is. -/
inductive BelongsTo (frame : Frame) : String → Bool → Prop where
  | object {name : String} (self : frame.locals.get? "self" = some (.object name)) :
      BelongsTo frame name false
  | typeAsObject {name className : String}
      (self : frame.locals.get? "self" = some (.type name className)) :
      BelongsTo frame className false
  | type {name className : String}
      (self : frame.locals.get? "self" = none ∨ frame.locals.get? "self" = some .nothing)
      (cls : frame.locals.get? "cls" = some (.type name className)) : BelongsTo frame name true

variable {frame : Frame} {name : String} {static : Bool} {value : Value}

theorem objectClass?_eq_none_iff :
    frame.objectClass? = none ↔
      frame.locals.get? "self" = none ∨ frame.locals.get? "self" = some .nothing := by
  unfold objectClass?
  cases frame.locals.get? "self" with
  | none => simp
  | some held => cases held <;> simp [Local.className?]

theorem objectClass?_eq_some_iff :
    frame.objectClass? = some name ↔ frame.BelongsTo name false := by
  constructor
  · intro h
    obtain ⟨held, hself, hclass⟩ := Option.bind_eq_some_iff.mp h
    cases held with
    | nothing => cases hclass
    | object className =>
        cases hclass
        exact .object hself
    | type typeName className =>
        cases hclass
        exact .typeAsObject hself
  · rintro (hself | hself)
    · rw [objectClass?, hself]
      rfl
    · rw [objectClass?, hself]
      rfl

theorem classItself?_eq_some_iff :
    frame.classItself? = some name ↔
      ∃ className, frame.locals.get? "cls" = some (.type name className) := by
  constructor
  · intro h
    obtain ⟨held, hcls, hname⟩ := Option.bind_eq_some_iff.mp h
    cases held with
    | nothing => cases hname
    | object className => cases hname
    | type typeName className =>
        cases hname
        exact ⟨className, hcls⟩
  · rintro ⟨className, hcls⟩
    rw [classItself?, hcls]
    rfl

theorem BelongsTo.classFacts_eq (h : frame.BelongsTo name static) :
    frame.classFacts =
      (Fact.classType.name, .text name) ::
        if static then [(Fact.static.name, .bool true)] else [] := by
  cases static with
  | false =>
      rw [classFacts, objectClass?_eq_some_iff.mpr h]
      rfl
  | true =>
      cases h with
      | type hself hcls =>
          rw [classFacts, objectClass?_eq_none_iff.mpr hself,
            classItself?_eq_some_iff.mpr ⟨_, hcls⟩]
          rfl

theorem BelongsTo.unique {other : String} {otherStatic : Bool} (h : frame.BelongsTo name static)
    (hother : frame.BelongsTo other otherStatic) : other = name ∧ otherStatic = static := by
  have hfacts := hother.classFacts_eq
  rw [h.classFacts_eq] at hfacts
  cases static <;> cases otherStatic <;> simp_all

theorem belongsTo_or_classFacts_eq_nil (frame : Frame) :
    (∃ name static, frame.BelongsTo name static) ∨ frame.classFacts = [] := by
  cases hobject : frame.objectClass? with
  | some name => exact .inl ⟨name, false, objectClass?_eq_some_iff.mp hobject⟩
  | none =>
      cases hitself : frame.classItself? with
      | some name =>
          obtain ⟨className, hcls⟩ := classItself?_eq_some_iff.mp hitself
          exact .inl ⟨name, true, .type (objectClass?_eq_none_iff.mp hobject) hcls⟩
      | none => exact .inr (by rw [classFacts, hobject, hitself])

theorem classFacts_ne_nil_iff :
    frame.classFacts ≠ [] ↔ ∃ name static, frame.BelongsTo name static := by
  constructor
  · exact (belongsTo_or_classFacts_eq_nil frame).resolve_right
  · rintro ⟨name, static, h⟩
    rw [h.classFacts_eq]
    exact List.cons_ne_nil _ _

theorem get?_class_iff :
    frame.classFacts.get? Fact.classType.name = some value ↔
      ∃ name static, frame.BelongsTo name static ∧ value = .text name := by
  constructor
  · intro h
    rcases belongsTo_or_classFacts_eq_nil frame with ⟨name, static, hbelongs⟩ | hnil
    · rw [hbelongs.classFacts_eq, Entries.get?, if_pos rfl, Option.some.injEq] at h
      exact ⟨name, static, hbelongs, h.symm⟩
    · rw [hnil] at h
      cases h
  · rintro ⟨name, static, hbelongs, rfl⟩
    rw [hbelongs.classFacts_eq, Entries.get?, if_pos rfl]

theorem get?_static_iff :
    frame.classFacts.get? Fact.static.name = some value ↔
      (∃ name, frame.BelongsTo name true) ∧ value = .bool true := by
  constructor
  · intro h
    rcases belongsTo_or_classFacts_eq_nil frame with ⟨name, static, hbelongs⟩ | hnil
    · rw [hbelongs.classFacts_eq] at h
      cases static with
      | false => cases h
      | true =>
          cases h
          exact ⟨⟨name, hbelongs⟩, rfl⟩
    · rw [hnil] at h
      cases h
  · rintro ⟨⟨name, hbelongs⟩, rfl⟩
    rw [hbelongs.classFacts_eq]
    rfl

theorem get?_method_iff :
    frame.methodFacts.get? Fact.method.name = some value ↔
      frame.function.toList.head? ≠ some '<' ∧ value = .text frame.function := by
  have hnamed : frame.hasName = true ↔ frame.function.toList.head? ≠ some '<' := by
    simp [hasName]
  rw [methodFacts, Entries.get?_ite_iff, hnamed]

theorem get?_space_iff :
    frame.namespaceFacts.get? Fact.space.name = some value ↔
      (∃ name static, frame.BelongsTo name static) ∧
        ∃ moduleName, frame.moduleName = some moduleName ∧ moduleName ≠ "" ∧
          value = .text (namespaceOf moduleName) := by
  rw [← classFacts_ne_nil_iff, namespaceFacts]
  cases frame.moduleName with
  | none => simp
  | some moduleName =>
      simp only [Entries.get?_ite_iff, Option.some.injEq, exists_eq_left']
      constructor
      · rintro ⟨⟨hname, hclass⟩, hvalue⟩
        exact ⟨hclass, hname, hvalue⟩
      · rintro ⟨hclass, hname, hvalue⟩
        exact ⟨⟨hname, hclass⟩, hvalue⟩

theorem keys_methodFacts (frame : Frame) : frame.methodFacts.keys ⊆ [Fact.method.name] :=
  Entries.keys_ite_subset

theorem keys_classFacts (frame : Frame) :
    frame.classFacts.keys ⊆ [Fact.classType.name, Fact.static.name] := by
  rcases belongsTo_or_classFacts_eq_nil frame with ⟨name, static, hbelongs⟩ | hnil
  · rw [hbelongs.classFacts_eq]
    cases static <;> simp
  · rw [hnil]
    exact List.nil_subset _

theorem keys_namespaceFacts (frame : Frame) :
    frame.namespaceFacts.keys ⊆ [Fact.space.name] := by
  unfold namespaceFacts
  split
  · exact Entries.keys_ite_subset
  · exact List.nil_subset _

def recordable : List Fact :=
  [.filename, .line, .method, .classType, .static, .space]

theorem keys_facts (frame : Frame) : frame.facts.keys ⊆ recordable.map Fact.name := by
  have hplace : [Fact.filename.name, Fact.line.name] ⊆ recordable.map Fact.name := by decide
  simp only [facts, Entries.keys, List.map_append, List.append_subset]
  refine ⟨⟨⟨hplace, ?_⟩, ?_⟩, ?_⟩
  · exact List.Subset.trans frame.keys_methodFacts (by decide)
  · exact List.Subset.trans frame.keys_classFacts (by decide)
  · exact List.Subset.trans frame.keys_namespaceFacts (by decide)

/-- What a root records of a call. -/
structure Recorded (frame : Frame) (own : Entries Value) : Prop where
  filename_eq : own.get? Fact.filename.name = some frame.filename
  line_eq : own.get? Fact.line.name = some frame.line
  method_iff : ∀ value, own.get? Fact.method.name = some value ↔
    frame.function.toList.head? ≠ some '<' ∧ value = .text frame.function
  class_iff : ∀ value, own.get? Fact.classType.name = some value ↔
    ∃ name static, frame.BelongsTo name static ∧ value = .text name
  static_iff : ∀ value, own.get? Fact.static.name = some value ↔
    (∃ name, frame.BelongsTo name true) ∧ value = .bool true
  space_iff : ∀ value, own.get? Fact.space.name = some value ↔
    (∃ name static, frame.BelongsTo name static) ∧
      ∃ moduleName, frame.moduleName = some moduleName ∧ moduleName ≠ "" ∧
        value = .text (namespaceOf moduleName)
  keys_subset : own.keys ⊆ (recordable ++ [Fact.logger, Fact.version]).map Fact.name

theorem Recorded.get?_static {own : Entries Value} (h : frame.Recorded own)
    (hbelongs : frame.BelongsTo name static) :
    own.get? Fact.static.name = if static then some (.bool true) else none := by
  cases static with
  | true => exact (h.static_iff _).mpr ⟨⟨name, hbelongs⟩, rfl⟩
  | false =>
      apply Option.eq_none_iff_forall_ne_some.mpr
      intro value hvalue
      obtain ⟨⟨other, hother⟩, -⟩ := (h.static_iff value).mp hvalue
      cases (hbelongs.unique hother).2

theorem get?_facts (frame : Frame) (name : String) :
    frame.facts.get? name =
      (Entries.get? [(Fact.filename.name, frame.filename), (Fact.line.name, frame.line)] name).or
        ((frame.methodFacts.get? name).or
          ((frame.classFacts.get? name).or (frame.namespaceFacts.get? name))) := by
  rw [facts, Entries.get?_append, Entries.get?_append, Entries.get?_append, Option.or_assoc,
    Option.or_assoc]

theorem get?_facts_append (frame : Frame) (logger version : Value)
    (hname : name ∈ recordable.map Fact.name) :
    Entries.get? (frame.facts ++ [(Fact.logger.name, logger), (Fact.version.name, version)]) name =
      frame.facts.get? name := by
  have hapart : ∀ name ∈ recordable.map Fact.name,
      name ∉ [Fact.logger.name, Fact.version.name] := by decide
  have hbehind : Entries.get? [(Fact.logger.name, logger), (Fact.version.name, version)] name =
      none := Entries.get?_of_keys_subset (List.Subset.refl _) (hapart name hname)
  rw [Entries.get?_append, hbehind, Option.or_none]

theorem recorded_facts (frame : Frame) (logger version : Value) :
    frame.Recorded
      (frame.facts ++ [(Fact.logger.name, logger), (Fact.version.name, version)]) where
  filename_eq := by
    rw [get?_facts_append _ _ _ (by decide), get?_facts]
    rfl
  line_eq := by
    rw [get?_facts_append _ _ _ (by decide), get?_facts]
    rfl
  method_iff value := by
    rw [get?_facts_append _ _ _ (by decide), get?_facts,
      Entries.get?_of_keys_subset frame.keys_classFacts (by decide),
      Entries.get?_of_keys_subset frame.keys_namespaceFacts (by decide), Option.or_none,
      Option.or_none]
    exact get?_method_iff
  class_iff value := by
    rw [get?_facts_append _ _ _ (by decide), get?_facts,
      Entries.get?_of_keys_subset frame.keys_methodFacts (by decide),
      Entries.get?_of_keys_subset frame.keys_namespaceFacts (by decide), Option.or_none]
    exact get?_class_iff
  static_iff value := by
    rw [get?_facts_append _ _ _ (by decide), get?_facts,
      Entries.get?_of_keys_subset frame.keys_methodFacts (by decide),
      Entries.get?_of_keys_subset frame.keys_namespaceFacts (by decide), Option.or_none]
    exact get?_static_iff
  space_iff value := by
    rw [get?_facts_append _ _ _ (by decide), get?_facts,
      Entries.get?_of_keys_subset frame.keys_methodFacts (by decide),
      Entries.get?_of_keys_subset frame.keys_classFacts (by decide)]
    exact get?_space_iff
  keys_subset := by
    have hbehind : [Fact.logger.name, Fact.version.name] ⊆
        (recordable ++ [Fact.logger, Fact.version]).map Fact.name := by decide
    simp only [Entries.keys, List.map_append, List.append_subset]
    exact ⟨List.subset_append_of_subset_left _ frame.keys_facts, hbehind⟩

end Frame

end FactScope
