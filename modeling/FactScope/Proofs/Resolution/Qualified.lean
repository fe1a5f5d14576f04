import Mathlib.Data.List.Basic
import FactScope.Proofs.Resolution.Absolute

namespace FactScope

open QualifiedName Text.Lowercase

namespace Resolution

variable {segment used rest : List Char}

theorem covers_alone (hsegment : sep ∉ segment) (used : List Char) :
    covers segment used = sameName used segment := by
  rw [covers, if_neg (mt isQualified_iff.mp hsegment)]

theorem isQualified_split (segment rest : List Char) :
    isQualified (segment ++ sep :: rest) = true :=
  isQualified_iff.mpr (by simp)

/-- As many characters as an alias and its separator have, where the alias is no shorter than the
segment. -/
theorem take_split (hle : segment.length ≤ used.length) (rest : List Char) :
    (segment ++ sep :: rest).take (used.length + 1) =
      segment ++ sep :: rest.take (used.length - segment.length) := by
  have hcount : used.length + 1 - segment.length = used.length - segment.length + 1 := by omega
  rw [List.take_append, List.take_of_length_le (by omega), hcount, List.take_succ_cons]

/-- An alias stands for the segment before others if it is that segment without regard to case and
not shorter. If it is longer, nothing else may follow, and it takes the separator with it. -/
theorem covers_split_iff (hsegment : sep ∉ segment) (hused : sep ∉ used) (rest : List Char) :
    covers (segment ++ sep :: rest) used = true ↔
      sameName used segment = true ∧ segment.length ≤ used.length ∧
        (used.length = segment.length ∨ rest = []) := by
  rw [covers, if_pos (isQualified_split segment rest), sameName_iff, sameName_iff]
  have hlower : lower (used ++ [sep]) = lower used ++ [sep] := boundary_sep.lower_split used []
  rw [hlower]
  rcases Nat.lt_or_ge used.length segment.length with hlt | hle
  · -- What is compared ends inside the segment, where there is no separator.
    rw [List.take_append_of_le_length (by omega)]
    constructor
    · intro h
      have hmem : sep ∈ lower (segment.take (used.length + 1)) := by simp [h]
      rw [boundary_sep.mem_lower_iff] at hmem
      exact absurd (List.mem_of_mem_take hmem) hsegment
    · rintro ⟨-, hle, -⟩
      omega
  · have hfirst : sep ∉ lower used := mt (boundary_sep.mem_lower_iff used).mp hused
    rw [take_split hle, boundary_sep.lower_split, eq_comm,
      List.append_cons_inj_of_notMem hfirst (by simp), eq_comm (a := []), lower_eq_nil_iff,
      List.take_eq_nil_iff]
    constructor
    · rintro ⟨hname, -, hcount⟩
      exact ⟨hname, hle, hcount.imp_left fun _ => by omega⟩
    · rintro ⟨hname, -, hcount⟩
      exact ⟨hname, rfl, hcount.imp_left fun _ => by omega⟩

theorem expand_alone (hsegment : sep ∉ segment) (used target : List Char) :
    expand segment used target = sep :: relative target := by
  rw [expand, remainder, if_neg (mt isQualified_iff.mp hsegment), List.append_nil]

theorem expand_split (segment used rest target : List Char) :
    expand (segment ++ sep :: rest) used target =
      sep :: relative target ++ (segment ++ sep :: rest).drop used.length := by
  rw [expand, remainder, if_pos (isQualified_split segment rest)]

/-- What an alias leaves of a reference is what stands behind the segment only if both are of one
length. -/
theorem drop_split_iff {count : Nat} :
    (segment ++ sep :: rest).drop count = sep :: rest ↔ count = segment.length := by
  constructor
  · intro h
    have hlength := congrArg List.length h
    simp only [List.length_drop, List.length_append, List.length_cons] at hlength
    omega
  · rintro rfl
    exact List.drop_left

theorem told_alone (hsegment : sep ∉ segment) (used : Value) : told segment used = used :=
  if_neg (mt isQualified_iff.mp hsegment)

theorem told_split (segment rest : List Char) (used : Value) :
    told (segment ++ sep :: rest) used = .text used.toText :=
  if_pos (isQualified_split segment rest)

/-- A resolution of a segment and one of the segment before `rest` that lead to the same place by
the same alias, if by one. -/
structure Continues (bare qualified : Resolution) (rest : String) : Prop where
  name_eq : qualified.name = bare.name ++ "\\" ++ rest
  used_eq : qualified.aliasUse.map (·.used) = bare.aliasUse.map (·.used)

def firstNamed? (aliases : List (Value × Value)) (segment : String) : Option (Value × Value) :=
  aliases.find? fun entry => sameName entry.1.toText.toList segment.toList

section Aliases

variable {aliases : List (Value × Value)} {segment rest : String} {entry : Value × Value}

/-- All aliases are texts without separators. -/
def Plain (aliases : List (Value × Value)) : Prop :=
  ∀ entry ∈ aliases, ∃ used, entry.1 = .text used ∧ sep ∉ used.toList

theorem toList_qualified (segment rest : String) :
    (segment ++ "\\" ++ rest).toList = segment.toList ++ sep :: rest.toList := by
  rw [String.toList_append, String.toList_append, List.append_assoc]
  rfl

theorem covers_qualified_iff (hsep : sep ∉ segment.toList) {used : List Char} (hused : sep ∉ used)
    (rest : String) :
    covers (segment ++ "\\" ++ rest).toList used = true ↔
      sameName used segment.toList = true ∧ segment.length ≤ used.length ∧
        (used.length = segment.length ∨ rest = "") := by
  rw [toList_qualified, covers_split_iff hsep hused, String.length_toList,
    String.toList_eq_nil_iff]

theorem firstCovering?_alone (hsep : sep ∉ segment.toList) :
    firstCovering? aliases segment = firstNamed? aliases segment := by
  simp only [firstCovering?, covers_alone hsep, firstNamed?]

theorem sameName_of_firstNamed? (h : firstNamed? aliases segment = some entry) :
    sameName entry.1.toText.toList segment.toList = true :=
  (List.find?_eq_some_iff_append.mp h).1

theorem covers_of_firstCovering? {reference : String}
    (h : firstCovering? aliases reference = some entry) :
    covers reference.toList entry.1.toText.toList = true :=
  (List.find?_eq_some_iff_append.mp h).1

namespace Plain

theorem not_mem (h : Plain aliases) (hmem : entry ∈ aliases) :
    sep ∉ entry.1.toText.toList := by
  obtain ⟨used, hused, hsep⟩ := h entry hmem
  rwa [hused]

theorem named_of_covers (h : Plain aliases) (hsep : sep ∉ segment.toList) (hmem : entry ∈ aliases)
    (hcovers : covers (segment ++ "\\" ++ rest).toList entry.1.toText.toList = true) :
    sameName entry.1.toText.toList segment.toList = true :=
  ((covers_qualified_iff hsep (h.not_mem hmem) rest).mp hcovers).1

/-- If the first alias of that name stands for the segment before others, it is the first one that
does. -/
theorem firstCovering?_of_covers (h : Plain aliases) (hsep : sep ∉ segment.toList)
    (hfirst : firstNamed? aliases segment = some entry)
    (hcovers : covers (segment ++ "\\" ++ rest).toList entry.1.toText.toList = true) :
    firstCovering? aliases (segment ++ "\\" ++ rest) = some entry := by
  obtain ⟨-, before, after, rfl, hbefore⟩ := List.find?_eq_some_iff_append.mp hfirst
  refine List.find?_eq_some_iff_append.mpr ⟨hcovers, before, after, rfl, ?_⟩
  intro other hother
  have hmem : other ∈ before ++ entry :: after := List.mem_append_left _ hother
  have hunnamed := hbefore other hother
  rw [Bool.not_eq_true'] at hunnamed ⊢
  cases hcov : covers (segment ++ "\\" ++ rest).toList other.1.toText.toList with
  | false => rfl
  | true =>
      rw [h.named_of_covers hsep hmem hcov] at hunnamed
      cases hunnamed

theorem firstCovering?_of_length (h : Plain aliases) (hsep : sep ∉ segment.toList)
    (hfirst : firstNamed? aliases segment = some entry)
    (hlength : entry.1.toText.length = segment.length) (rest : String) :
    firstCovering? aliases (segment ++ "\\" ++ rest) = some entry := by
  have hmem : entry ∈ aliases := List.mem_of_find?_eq_some hfirst
  apply h.firstCovering?_of_covers hsep hfirst
  rw [covers_qualified_iff hsep (h.not_mem hmem), String.length_toList]
  exact ⟨sameName_of_firstNamed? hfirst, Nat.le_of_eq hlength.symm, .inl hlength⟩

/-- An alias that is used before others and is spelled like the first one of that name is the first
one. -/
theorem eq_of_spelling (h : Plain aliases) (hsep : sep ∉ segment.toList)
    (hfirst : firstNamed? aliases segment = some entry) {other : Value × Value}
    (hother : firstCovering? aliases (segment ++ "\\" ++ rest) = some other)
    (hspelling : other.1.toText = entry.1.toText) : other = entry := by
  have hcovers := covers_of_firstCovering? hother
  rw [hspelling] at hcovers
  rw [h.firstCovering?_of_covers hsep hfirst hcovers] at hother
  exact (Option.some.inj hother).symm

theorem firstCovering?_eq_none (h : Plain aliases) (hsep : sep ∉ segment.toList)
    (hfirst : firstNamed? aliases segment = none) (rest : String) :
    firstCovering? aliases (segment ++ "\\" ++ rest) = none := by
  rw [firstCovering?, List.find?_eq_none]
  intro entry hmem hcovers
  exact List.find?_eq_none.mp hfirst entry hmem (h.named_of_covers hsep hmem hcovers)

end Plain

theorem used_byAlias_alone (hsep : sep ∉ segment.toList) (entry : Value × Value) :
    (byAlias segment entry).aliasUse.map (·.used) = some entry.1 := by
  simp only [byAlias, Option.map_some, told_alone hsep]

theorem used_byAlias_split (segment rest : String) (entry : Value × Value) :
    (byAlias (segment ++ "\\" ++ rest) entry).aliasUse.map (·.used) =
      some (.text entry.1.toText) := by
  simp only [byAlias, Option.map_some, toList_qualified, told_split]

/-- One alias leads a segment alone and before others to the same place if it is as long as the
segment. -/
theorem continues_byAlias_iff (hsep : sep ∉ segment.toList)
    (htext : ∃ used, entry.1 = .text used) (rest : String) :
    (byAlias segment entry).Continues (byAlias (segment ++ "\\" ++ rest) entry) rest ↔
      entry.1.toText.length = segment.length := by
  have hname : (byAlias (segment ++ "\\" ++ rest) entry).name =
      (byAlias segment entry).name ++ "\\" ++ rest ↔
        entry.1.toText.length = segment.length := by
    rw [← String.toList_inj, toList_qualified]
    simp only [byAlias, String.toList_ofList, toList_qualified, expand_split, expand_alone hsep,
      List.append_cancel_left_eq, drop_split_iff, String.length_toList]
  constructor
  · intro hcontinues
    exact hname.mp hcontinues.name_eq
  · intro hlength
    refine ⟨hname.mpr hlength, ?_⟩
    obtain ⟨used, hused⟩ := htext
    rw [used_byAlias_split, used_byAlias_alone hsep, hused]
    rfl

end Aliases

section Nodes

variable {scope : Scope} {space segment : String} {entry : Value × Value}

theorem ofOther_byAlias {written : String} (h : isAbsolute written.toList = false)
    (hfirst : firstCovering? scope.aliases written = some entry) :
    ofOther scope space written = byAlias written entry := by
  simp [ofOther, h, viaAlias?, hfirst]

theorem ofOther_unaliased {written : String} (h : isAbsolute written.toList = false)
    (hfirst : firstCovering? scope.aliases written = none) :
    ofOther scope space written = ⟨space ++ written, none⟩ := by
  simp [ofOther, h, viaAlias?, hfirst]

theorem isAbsolute_qualified (hne : segment ≠ "") (hsep : sep ∉ segment.toList) (rest : String) :
    isAbsolute (segment ++ "\\" ++ rest).toList = false := by
  rw [toList_qualified]
  exact isAbsolute_append (mt String.toList_eq_nil_iff.mp hne) hsep _

/-- Where the segment alone is resolved by an alias, it is resolved alike before others only if
that alias is as long as the segment. -/
theorem length_of_continues (h : Plain scope.aliases) (hne : segment ≠ "")
    (hsep : sep ∉ segment.toList) (hfirst : firstNamed? scope.aliases segment = some entry)
    {rest : String}
    (hcontinues : (byAlias segment entry).Continues
      (ofOther scope space (segment ++ "\\" ++ rest)) rest) :
    entry.1.toText.length = segment.length := by
  have hqualified := isAbsolute_qualified hne hsep rest
  have hmem : entry ∈ scope.aliases := List.mem_of_find?_eq_some hfirst
  have htext : ∃ used, entry.1 = .text used := (h entry hmem).imp fun _ => And.left
  have hused := hcontinues.used_eq
  rw [used_byAlias_alone hsep] at hused
  cases hother : firstCovering? scope.aliases (segment ++ "\\" ++ rest) with
  | none =>
      rw [ofOther_unaliased hqualified hother] at hused
      cases hused
  | some other =>
      rw [ofOther_byAlias hqualified hother, used_byAlias_split, Option.some.injEq] at hused
      have hspelling : other.1.toText = entry.1.toText := by
        rw [← hused]
        rfl
      have hsame : other = entry := h.eq_of_spelling hsep hfirst hother hspelling
      subst hsame
      rw [ofOther_byAlias hqualified hother] at hcontinues
      exact (continues_byAlias_iff hsep htext rest).mp hcontinues

/-- The segment before others is resolved like the segment alone exactly where the first alias of
that name is as long as the segment. -/
theorem continues_ofOther_iff (h : Plain scope.aliases) (hne : segment ≠ "")
    (hsep : sep ∉ segment.toList) (rest : String) :
    (ofOther scope space segment).Continues (ofOther scope space (segment ++ "\\" ++ rest)) rest ↔
      ∀ entry, firstNamed? scope.aliases segment = some entry →
        entry.1.toText.length = segment.length := by
  have hbare : isAbsolute segment.toList = false := isAbsolute_of_not_mem hsep
  have hqualified := isAbsolute_qualified hne hsep rest
  have halone : firstCovering? scope.aliases segment = firstNamed? scope.aliases segment :=
    firstCovering?_alone hsep
  cases hfirst : firstNamed? scope.aliases segment with
  | none =>
      rw [ofOther_unaliased hbare (halone.trans hfirst),
        ofOther_unaliased hqualified (h.firstCovering?_eq_none hsep hfirst rest)]
      simp only [reduceCtorEq, false_implies, implies_true, iff_true]
      exact ⟨by simp [String.append_assoc], rfl⟩
  | some entry =>
      have hmem : entry ∈ scope.aliases := List.mem_of_find?_eq_some hfirst
      have htext : ∃ used, entry.1 = .text used := (h entry hmem).imp fun _ => And.left
      rw [ofOther_byAlias hbare (halone.trans hfirst)]
      simp only [Option.some.injEq, forall_eq']
      constructor
      · intro hcontinues
        exact length_of_continues h hne hsep hfirst hcontinues
      · intro hlength
        rw [ofOther_byAlias hqualified (h.firstCovering?_of_length hsep hfirst hlength rest)]
        exact (continues_byAlias_iff hsep htext rest).mpr hlength

end Nodes

end Resolution

namespace Forest

open Resolution

/-- A segment that does not name the enclosing type does not name it before others either. -/
theorem foreign_split {scope : Scope}
    (htype : ∀ type, scope.enclosingType? = some (.text type) → sep ∉ type.toList)
    (segment rest : String) : scope.Foreign (segment ++ "\\" ++ rest) := by
  intro type hseen
  cases hsame : sameName (segment ++ "\\" ++ rest).toList type.toList with
  | false => rfl
  | true =>
      have hmem : sep ∈ (segment ++ "\\" ++ rest).toList := by
        rw [toList_qualified]
        simp
      exact absurd ((sep_mem_of_sameName hsame).mp hmem) (htype type hseen)

/-- At a node with plain aliases a segment that is not the enclosing type and the same segment
before others are both resolved. They are resolved alike if and only if the first alias that is the
segment without regard to case, if there is one, has as many characters as the segment. -/
theorem resolveAt_segment_iff (f : Forest) (i : Nat) (h : (f.scope i).Textual)
    (htype : ∀ type, (f.scope i).enclosingType? = some (.text type) → sep ∉ type.toList)
    (haliases : Plain (f.scope i).aliases) {segment : String} (hne : segment ≠ "")
    (hsep : sep ∉ segment.toList) (hforeign : (f.scope i).Foreign segment) (rest : String) :
    ∃ bare qualified, f.resolveAt i (.text segment) = .ok bare ∧
      f.resolveAt i (.text (segment ++ "\\" ++ rest)) = .ok qualified ∧
      (bare.Continues qualified rest ↔
        ∀ entry, firstNamed? (f.scope i).aliases segment = some entry →
          entry.1.toText.length = segment.length) := by
  obtain ⟨space, hspace, -⟩ := h.exists_currentNamespace
  have hne' : segment ++ "\\" ++ rest ≠ "" := by
    intro hempty
    have htoList := toList_qualified segment rest
    rw [hempty] at htoList
    simp at htoList
  refine ⟨_, _, resolve_foreign h hne hspace hforeign,
    resolve_foreign h hne' hspace (foreign_split htype segment rest), ?_⟩
  exact continues_ofOther_iff haliases hne hsep rest

theorem resolveAt_segment_by_alias :
    let f := (Session.start.newRoot [("uses", .object [("Foo", .text "Lib")])]).forest
    ∃ bare qualified, f.resolveAt 0 (.text "FOO") = .ok bare ∧
      f.resolveAt 0 (.text "FOO\\Bar") = .ok qualified ∧ bare.Continues qualified "Bar" := by
  intro f
  have htype : (f.scope 0).enclosingType? = none := by decide +kernel
  have haliases : (f.scope 0).aliases = [(.text "Foo", .text "Lib")] := by decide +kernel
  have htextual : (f.scope 0).Textual := by
    refine ⟨fun hgiven => absurd hgiven (by decide +kernel), ?_⟩
    intro type hseen
    rw [htype] at hseen
    cases hseen
  obtain ⟨bare, qualified, hbare, hqualified, hiff⟩ :=
    resolveAt_segment_iff f 0 htextual (by simp [htype]) (by simp [haliases, Plain]; decide)
      (by decide : "FOO" ≠ "") (by decide) (by simp [Scope.Foreign, htype]) "Bar"
  refine ⟨bare, qualified, hbare, hqualified, hiff.mpr ?_⟩
  intro entry hentry
  have hfirst : firstNamed? (f.scope 0).aliases "FOO" = some (.text "Foo", .text "Lib") := by
    decide +kernel
  rw [hfirst] at hentry
  cases hentry
  rfl

/-- The lower case of the capital I with a dot above has two characters. Written so, a segment is
found by the alias alone and not before others. -/
theorem resolveAt_segment_without_alias :
    let f := (Session.start.newRoot [("uses", .object [("İ", .text "T")])]).forest
    let bare : Resolution := ⟨"\\T", some ⟨"i\u0307", .text "İ", "\\T"⟩⟩
    let qualified : Resolution := ⟨"\\i\u0307\\x", none⟩
    f.resolveAt 0 (.text "i\u0307") = .ok bare ∧
      f.resolveAt 0 (.text "i\u0307\\x") = .ok qualified ∧ ¬bare.Continues qualified "x" := by
  refine ⟨by decide +kernel, by decide +kernel, ?_⟩
  intro hcontinues
  exact absurd hcontinues.name_eq (by decide)

end Forest

end FactScope
