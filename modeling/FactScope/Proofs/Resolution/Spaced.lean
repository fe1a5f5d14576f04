import FactScope.Proofs.Resolution.Namespace

namespace FactScope

open QualifiedName Text.Lowercase

namespace QualifiedName

/-- A name behind which a separator is already there: an empty one, as it stands behind a separator
itself, or one that ends with a separator. -/
def EndsOpen (name : List Char) : Prop :=
  name = [] ∨ name.getLast? = some sep

instance (name : List Char) : Decidable (EndsOpen name) :=
  inferInstanceAs (Decidable (name = [] ∨ name.getLast? = some sep))

theorem getLast?_cons_relative_iff (name : List Char) :
    (sep :: relative name).getLast? = some sep ↔ EndsOpen name := by
  induction name with
  | nil => simp [relative, EndsOpen]
  | cons c rest ih =>
      by_cases hc : c = sep
      · have hrelative : relative (c :: rest) = relative rest := by simp [relative, hc]
        rw [hrelative, ih, hc]
        cases rest <;> simp [EndsOpen]
      · have hrelative : relative (c :: rest) = c :: rest := by simp [relative, hc]
        rw [hrelative, List.getLast?_cons_cons]
        simp [EndsOpen]

theorem spaced_cons_of_relative {name : List Char} (h : Spaced name)
    (hrelative : isAbsolute name = false) : Spaced (sep :: name) := by
  rw [spaced_cons_iff]
  refine ⟨fun hpair => ?_, h⟩
  rw [isAbsolute_iff.mpr hpair.2] at hrelative
  cases hrelative

theorem Padded.ne_lone {inner name : List Char} (h : Padded inner name) (hinner : Inner inner) :
    name ≠ [sep] := by
  intro hlone
  cases h with
  | bare => exact hinner.head?_ne (by rw [hlone]; rfl)
  | before => exact hinner.ne_nil (List.cons_eq_cons.mp hlone).2
  | after => exact hinner.ne_nil (by simpa using hlone)
  | around => simp at hlone

end QualifiedName

namespace Scope

/-- Namespace, aliases and targets are texts without adjacent separators, and the enclosing type, if
there is one, is text without separators. -/
structure AllSpaced (scope : Scope) : Prop where
  space : scope.SpaceSpaced
  type : ∀ {type}, scope.enclosingType? = some type →
    ∃ name, type = .text name ∧ sep ∉ name.toList
  aliases : ∀ entry ∈ scope.aliases, ∃ used target,
    entry = (.text used, .text target) ∧ Spaced used.toList ∧ Spaced target.toList

theorem AllSpaced.textual {scope : Scope} (h : scope.AllSpaced) : scope.Textual :=
  h.space.textual fun _ hseen => (h.type hseen).imp fun _ => And.left

theorem Rendered.spaced_append_iff {value : Value} {space : String} (h : Rendered value space)
    {name : List Char} (hname : Spaced name) (hrelative : isAbsolute name = false) :
    Spaced (space.toList ++ name) ↔ value ≠ .text "\\" := by
  have hsecond : Spaced (sep :: name) := spaced_cons_of_relative hname hrelative
  cases h with
  | whole hgiven =>
      refine iff_of_true hsecond ?_
      rintro rfl
      cases hgiven
  | lone =>
      refine iff_of_false (fun hspaced => ?_) (fun hne => hne rfl)
      exact (spaced_cons_iff.mp hspaced).1 ⟨rfl, rfl⟩
  | @named written inner hinner hpadded =>
      refine iff_of_true ?_ ?_
      · have hbody : Spaced (inner ++ sep :: name) := by
          rw [QualifiedName.spaced_append_iff]
          exact ⟨hinner.spaced, hsecond, fun hpair => hinner.getLast?_ne hpair.1⟩
        rw [String.toList_ofList, List.append_assoc, List.cons_append, spaced_cons_iff,
          List.head?_append_of_ne_nil _ hinner.ne_nil]
        exact ⟨fun hpair => hinner.head?_ne hpair.2, hbody⟩
      · intro hlone
        rw [Value.text.injEq] at hlone
        exact hpadded.ne_lone hinner (by rw [hlone]; rfl)

end Scope

namespace Resolution

variable {reference used : List Char}

theorem remainder_of_covers (h : covers reference used = true) :
    remainder reference used = [] ∨ (remainder reference used).head? = some sep := by
  unfold covers at h
  unfold remainder
  split at h
  · next hqualified =>
    rw [if_pos hqualified]
    rw [sameName_iff, boundary_sep.lower_split used []] at h
    -- Lower case keeps no positions, but a separator at its end is one at the end of the slice.
    have hlast : (reference.take (used.length + 1)).getLast? = some sep := by
      apply boundary_sep.getLast?_of_getLast?_lower
      rw [h]
      simp
    cases hrest : reference.drop used.length with
    | nil => exact .inl rfl
    | cons c rest =>
        have htake : reference.take (used.length + 1) = reference.take used.length ++ [c] := by
          rw [List.take_add_one, ← List.head?_drop, hrest]
          rfl
        rw [htake, List.getLast?_concat, Option.some.injEq] at hlast
        exact .inr (by rw [hlast]; rfl)
  · next hqualified =>
    exact .inl (if_neg hqualified)

theorem spaced_remainder (h : Spaced reference) (used : List Char) :
    Spaced (remainder reference used) := by
  unfold remainder
  split
  · exact h.of_suffix (List.drop_suffix _ _)
  · exact List.isChain_nil

theorem spaced_expand_iff (hreference : Spaced reference) (h : covers reference used = true)
    {target : List Char} (htarget : Spaced target) :
    Spaced (expand reference used target) ↔
      remainder reference used = [] ∨ ¬EndsOpen target := by
  have hfirst : Spaced (sep :: relative target) :=
    spaced_cons_of_relative (htarget.of_suffix (List.dropWhile_suffix _))
      (isAbsolute_relative _)
  have hrest := spaced_remainder hreference used
  rw [expand, spaced_append_iff, getLast?_cons_relative_iff]
  rcases remainder_of_covers h with hnil | hhead
  · rw [hnil]
    exact iff_of_true ⟨hfirst, List.isChain_nil, by simp⟩ (.inl rfl)
  · have hne : remainder reference used ≠ [] := by
      intro hnil
      rw [hnil] at hhead
      cases hhead
    simp [hfirst, hrest, hhead, hne]

end Resolution

namespace Forest

open Resolution

/-- Where no ingredient has adjacent separators, every reference without them is resolved, and the
name has none either exactly if it lies in no namespace recorded as the lone separator and comes
from no alias before more segments whose target is empty or ends with the separator. -/
theorem resolveAt_spaced_iff (f : Forest) (i : Nat) (h : (f.scope i).AllSpaced) {written : String}
    (hwritten : Spaced written.toList) :
    ∃ resolution, f.resolveAt i (.text written) = .ok resolution ∧
      (Spaced resolution.name.toList ↔
        match (f.scope i).course written with
        | .itself => True
        | .inNamespace _ => (f.scope i).space ≠ .text "\\"
        | .byAlias entry =>
            remainder written.toList entry.1.toText.toList = [] ∨
              ¬EndsOpen entry.2.toText.toList) := by
  obtain ⟨space, hrendered⟩ := Scope.exists_rendered h.space
  refine ⟨_, resolve_eq_course h.textual (hrendered.currentNamespace_eq rfl) written, ?_⟩
  cases hcourse : (f.scope i).course written with
  | itself => exact iff_true_intro hwritten
  | inNamespace name =>
      have hname : Spaced name.toList ∧ isAbsolute name.toList = false := by
        rcases Scope.course_eq_inNamespace hcourse with htype | ⟨hrelative, rfl⟩
        · obtain ⟨type, htext, hsegment⟩ := h.type htype
          cases htext
          exact ⟨spaced_of_not_mem hsegment, isAbsolute_of_not_mem hsegment⟩
        · exact ⟨hwritten, hrelative⟩
      simp only [Course.resolution, String.toList_append]
      exact hrendered.spaced_append_iff hname.1 hname.2
  | byAlias entry =>
      have hfirst := Scope.course_eq_byAlias hcourse
      obtain ⟨used, target, hentry, -, htarget⟩ :=
        h.aliases entry (List.mem_of_find?_eq_some hfirst)
      have htext : Spaced entry.2.toText.toList := by
        rw [hentry]
        exact htarget
      simp only [Course.resolution, byAlias, String.toList_ofList]
      exact spaced_expand_iff hwritten (covers_of_firstCovering? hfirst) htext

theorem resolveAt_spaced_by_aliases :
    let table : Entries Value := [("Foo", .text "\\Lib\\Foo"), ("Bar", .text "Lib\\")]
    let f := (Session.start.newRoot [("namespace", .text "\\App\\"), ("class", .text "User"),
      ("uses", .object table)]).forest
    (∃ resolution, f.resolveAt 0 (.text "foo\\X") = .ok resolution ∧
      Spaced resolution.name.toList) ∧
    ∃ resolution, f.resolveAt 0 (.text "bar\\X") = .ok resolution ∧
      ¬Spaced resolution.name.toList := by
  intro table f
  have htype : (f.scope 0).enclosingType? = some (.text "User") := by decide +kernel
  have haliases : (f.scope 0).aliases =
      [(.text "Foo", .text "\\Lib\\Foo"), (.text "Bar", .text "Lib\\")] := by decide +kernel
  have hspaced : (f.scope 0).AllSpaced := by
    refine ⟨fun _ => ⟨"\\App\\", by decide +kernel, by decide⟩, ?_, ?_⟩
    · intro type hseen
      rw [htype] at hseen
      cases hseen
      exact ⟨"User", rfl, by decide⟩
    · intro entry hentry
      rw [haliases] at hentry
      rcases List.mem_pair.mp hentry with rfl | rfl
      · exact ⟨"Foo", "\\Lib\\Foo", rfl, by decide, by decide⟩
      · exact ⟨"Bar", "Lib\\", rfl, by decide, by decide⟩
  have hfoo : (f.scope 0).course "foo\\X" = .byAlias (.text "Foo", .text "\\Lib\\Foo") := by
    decide +kernel
  have hbar : (f.scope 0).course "bar\\X" = .byAlias (.text "Bar", .text "Lib\\") := by
    decide +kernel
  obtain ⟨first, hfirst, hfirstSpaced⟩ :=
    resolveAt_spaced_iff f 0 hspaced (by decide : Spaced "foo\\X".toList)
  obtain ⟨second, hsecond, hsecondSpaced⟩ :=
    resolveAt_spaced_iff f 0 hspaced (by decide : Spaced "bar\\X".toList)
  rw [hfoo] at hfirstSpaced
  rw [hbar] at hsecondSpaced
  refine ⟨⟨first, hfirst, hfirstSpaced.mpr (.inr (by decide))⟩, second, hsecond, ?_⟩
  intro hopen
  exact absurd (hsecondSpaced.mp hopen) (by decide)

/-- A namespace recorded as the lone separator and a target with a separator at its end double a
separator, though no ingredient has adjacent ones. -/
theorem resolveAt_not_spaced :
    let f := (Session.start.run [.newRoot [("namespace", .text "\\")],
      .newRoot [("uses", .object [("Foo", .text "App\\")])]]).forest
    let byAlias : Resolution :=
      ⟨"\\App\\\\User", some ⟨"Foo\\User", .text "Foo", "\\App\\\\User"⟩⟩
    ((f.scope 0).AllSpaced ∧ Spaced "Foo".toList ∧
      f.resolveAt 0 (.text "Foo") = .ok ⟨"\\\\Foo", none⟩ ∧ ¬Spaced "\\\\Foo".toList) ∧
    (f.scope 1).AllSpaced ∧ Spaced "Foo\\User".toList ∧
      f.resolveAt 1 (.text "Foo\\User") = .ok byAlias ∧ ¬Spaced byAlias.name.toList := by
  intro f byAlias
  have hnoType : ∀ i < 2, (f.scope i).enclosingType? = none := by decide +kernel
  have hnoAlias : (f.scope 0).aliases = [] := by decide +kernel
  have haliases : (f.scope 1).aliases = [(.text "Foo", .text "App\\")] := by decide +kernel
  have hfirst : (f.scope 0).AllSpaced := by
    refine ⟨fun _ => ⟨"\\", by decide +kernel, by decide⟩, ?_, by simp [hnoAlias]⟩
    simp [hnoType 0 (by decide)]
  have hsecond : (f.scope 1).AllSpaced := by
    refine ⟨fun hgiven => absurd hgiven (by decide +kernel), ?_, ?_⟩
    · simp [hnoType 1 (by decide)]
    · intro entry hentry
      rw [haliases, List.mem_singleton] at hentry
      exact ⟨"Foo", "App\\", hentry, by decide, by decide⟩
  exact ⟨⟨hfirst, by decide, by decide +kernel, by decide⟩, hsecond, by decide,
    by decide +kernel, by decide⟩

end Forest

end FactScope
