import Mathlib.Data.List.Pairwise
import FactScope.Proofs.Resolution.Course
import FactScope.Proofs.Resolution.Segment

namespace FactScope

open QualifiedName

namespace Resolution

/-- No two aliases are the same without regard to case. -/
def Distinct (aliases : List (Value × Value)) : Prop :=
  aliases.Pairwise fun first second =>
    sameName first.1.toText.toList second.1.toText.toList = false

instance (aliases : List (Value × Value)) : Decidable (Distinct aliases) :=
  List.instDecidablePairwise aliases

def Matches (reference : Value) (entry : Value × Value) : Prop :=
  ∃ written, reference = .text written ∧
    covers written.toList entry.1.toText.toList = true

variable {aliases others : List (Value × Value)} {reference : String}

theorem sameName_comm (a b : List Char) : sameName a b = sameName b a := by
  rw [Bool.eq_iff_iff, sameName_iff, sameName_iff]
  exact eq_comm

theorem sameName_of_covers {written used other : List Char} (hused : sep ∉ used)
    (hother : sep ∉ other) (h : covers written used = true) (h' : covers written other = true) :
    sameName used other = true := by
  have hfirst := sameName_iff.mp ((covers_iff hused).mp h).1
  have hsecond := sameName_iff.mp ((covers_iff hother).mp h').1
  exact sameName_iff.mpr (hfirst.trans hsecond.symm)

theorem eq_of_covers (hsimple : Simple aliases) (hdistinct : Distinct aliases)
    {first second : Value × Value} (hfirst : first ∈ aliases) (hsecond : second ∈ aliases)
    (h : covers reference.toList first.1.toText.toList = true)
    (h' : covers reference.toList second.1.toText.toList = true) : first = second := by
  by_contra hne
  have hsame : sameName first.1.toText.toList second.1.toText.toList = true :=
    sameName_of_covers (hsimple first hfirst) (hsimple second hsecond) h h'
  -- The table may hold the two in either order.
  have : Std.Symm fun one other : Value × Value =>
      sameName one.1.toText.toList other.1.toText.toList = false :=
    ⟨fun one other hdiff => by rwa [sameName_comm]⟩
  rw [List.Pairwise.forall hdistinct hfirst hsecond hne] at hsame
  cases hsame

theorem firstCovering?_eq_some_iff (hsimple : Simple aliases) (hdistinct : Distinct aliases)
    {entry : Value × Value} :
    firstCovering? aliases reference = some entry ↔
      entry ∈ aliases ∧ covers reference.toList entry.1.toText.toList = true := by
  constructor
  · intro h
    exact ⟨List.mem_of_find?_eq_some h, covers_of_firstCovering? h⟩
  · rintro ⟨hmem, hcovers⟩
    cases hfirst : firstCovering? aliases reference with
    | none => exact absurd hcovers (List.find?_eq_none.mp hfirst entry hmem)
    | some other =>
        rw [eq_of_covers hsimple hdistinct (List.mem_of_find?_eq_some hfirst) hmem
          (covers_of_firstCovering? hfirst) hcovers]

theorem firstCovering?_perm (hperm : aliases.Perm others) (hsimple : Simple aliases)
    (hdistinct : Distinct aliases) (reference : String) :
    firstCovering? others reference = firstCovering? aliases reference := by
  have hsimple' : Simple others := fun entry hentry => hsimple entry (hperm.mem_iff.mpr hentry)
  have hdistinct' : Distinct others :=
    hperm.pairwise hdistinct fun hdiff => by rwa [sameName_comm]
  apply Option.ext
  intro entry
  rw [firstCovering?_eq_some_iff hsimple' hdistinct',
    firstCovering?_eq_some_iff hsimple hdistinct, hperm.mem_iff]

/-- An alias that does not cover a reference, or has one before it that does, can be left out. -/
theorem firstCovering?_insert {before after : List (Value × Value)} {entry : Value × Value}
    (h : covers reference.toList entry.1.toText.toList = false ∨
      ∃ first ∈ before, covers reference.toList first.1.toText.toList = true) :
    firstCovering? (before ++ entry :: after) reference =
      firstCovering? (before ++ after) reference := by
  simp only [firstCovering?, List.find?_append]
  rcases h with hother | ⟨first, hfirst, hcovers⟩
  · rw [List.find?_cons_of_neg (by simp [hother])]
  · cases hfind : before.find? fun entry =>
        covers reference.toList entry.1.toText.toList with
    | none => exact absurd hcovers (List.find?_eq_none.mp hfind first hfirst)
    | some found => rfl

/-- Alias tables with the same first alias for a reference resolve it alike. -/
theorem exists_resolve_alike {scope : Scope} (h : scope.Textual) {uses reference : Value}
    (hreference : reference = .null ∨ ∃ written, reference = .text written)
    (hfirst : ∀ written, reference = .text written →
      firstCovering? { scope with uses := uses }.aliases written =
        firstCovering? scope.aliases written) :
    ∃ resolution, resolve scope reference = .ok resolution ∧
      resolve { scope with uses := uses } reference = .ok resolution := by
  have hother : { scope with uses := uses }.Textual := ⟨h.space_text, h.type_text⟩
  obtain ⟨space, hspace, -⟩ := h.exists_currentNamespace
  rcases hreference with rfl | ⟨written, rfl⟩
  · exact ⟨⟨"", none⟩, resolve_null _, resolve_null _⟩
  · refine ⟨_, resolve_eq_course h hspace written, ?_⟩
    rw [resolve_eq_course hother hspace, Scope.course_uses (hfirst written rfl)]

end Resolution

namespace Forest

open Resolution

/-- Nodes that differ in their alias tables only resolve a reference alike, with the same alias, if
one table is the other in a different order and holds simple aliases with different names, or has
one more alias which does not cover the reference or stands behind one that does. -/
theorem resolveAt_alias_order (f g : Forest) (i j : Nat) (h : (f.scope i).Textual)
    (halike : SeesAlike f i g j [.uses]) (reference : Value)
    (hreference : reference = .null ∨ ∃ written, reference = .text written) :
    ((f.scope i).aliases.Perm (g.scope j).aliases → Simple (f.scope i).aliases →
      Distinct (f.scope i).aliases →
      ∃ resolution, f.resolveAt i reference = .ok resolution ∧
        g.resolveAt j reference = .ok resolution) ∧
    ∀ before entry after, (f.scope i).aliases = before ++ after →
      (g.scope j).aliases = before ++ entry :: after →
      (¬Matches reference entry ∨ ∃ first ∈ before, Matches reference first) →
      ∃ resolution, f.resolveAt i reference = .ok resolution ∧
        g.resolveAt j reference = .ok resolution := by
  have halone : g.resolveAt j reference =
      resolve { f.scope i with uses := (g.scope j).uses } reference :=
    congrArg (resolve · reference) (scope_eq_but_uses halike)
  rw [halone]
  constructor
  · intro hperm hsimple hdistinct
    refine exists_resolve_alike h hreference fun written _ => ?_
    exact firstCovering?_perm hperm hsimple hdistinct written
  · intro before entry after hleft hright hmatches
    refine exists_resolve_alike h hreference ?_
    rintro written rfl
    change firstCovering? (g.scope j).aliases written = firstCovering? (f.scope i).aliases written
    rw [hleft, hright]
    apply firstCovering?_insert
    rcases hmatches with hother | ⟨first, hfirst, text, htext, hcovers⟩
    · left
      rw [Bool.eq_false_iff]
      intro hcovers
      exact hother ⟨written, rfl, hcovers⟩
    · cases htext
      exact .inr ⟨first, hfirst, hcovers⟩

theorem resolveAt_alias_order_of_reordered :
    let withTable (table : Entries Value) : Session.Step := .newRoot [("uses", .object table)]
    let f := (Session.start.run
      [withTable [("Foo", .text "Lib\\Foo"), ("Bar", .text "Lib\\Bar")],
        withTable [("Bar", .text "Lib\\Bar"), ("Foo", .text "Lib\\Foo")],
        withTable [("Foo", .text "Lib\\Foo"), ("FOO", .text "Other"),
          ("Bar", .text "Lib\\Bar")]]).forest
    ∃ first second, f.resolveAt 0 (.text "foo\\X") = .ok first ∧
      f.resolveAt 1 (.text "foo\\X") = .ok first ∧ f.resolveAt 0 (.text "foo\\X") = .ok second ∧
      f.resolveAt 2 (.text "foo\\X") = .ok second := by
  intro withTable f
  have hleft : (f.scope 0).aliases =
      [(.text "Foo", .text "Lib\\Foo"), (.text "Bar", .text "Lib\\Bar")] := by decide +kernel
  have hright : (f.scope 1).aliases =
      [(.text "Bar", .text "Lib\\Bar"), (.text "Foo", .text "Lib\\Foo")] := by decide +kernel
  have hlonger : (f.scope 2).aliases = [(.text "Foo", .text "Lib\\Foo")] ++
      (.text "FOO", .text "Other") :: [(.text "Bar", .text "Lib\\Bar")] := by decide +kernel
  have htype : (f.scope 0).enclosingType? = none := by decide +kernel
  have htextual : (f.scope 0).Textual := by
    refine ⟨fun hgiven => absurd hgiven (by decide +kernel), ?_⟩
    intro type hseen
    rw [htype] at hseen
    cases hseen
  have hsimple : Simple (f.scope 0).aliases := by rw [hleft]; decide +kernel
  have hdistinct : Distinct (f.scope 0).aliases := by rw [hleft]; decide +kernel
  obtain ⟨hperm, -⟩ := resolveAt_alias_order f f 0 1 htextual
    (by unfold SeesAlike; decide +kernel) (.text "foo\\X") (.inr ⟨_, rfl⟩)
  obtain ⟨-, hinsert⟩ := resolveAt_alias_order f f 0 2 htextual
    (by unfold SeesAlike; decide +kernel) (.text "foo\\X") (.inr ⟨_, rfl⟩)
  obtain ⟨first, hfirst, hother⟩ :=
    hperm (by rw [hleft, hright]; exact .swap _ _ _) hsimple hdistinct
  obtain ⟨second, hsecond, hmore⟩ :=
    hinsert [(.text "Foo", .text "Lib\\Foo")] _ _ hleft hlonger
      (.inr ⟨_, List.mem_cons_self, "foo\\X", rfl, by decide +kernel⟩)
  exact ⟨first, second, hfirst, hother, hsecond, hmore⟩

end Forest

end FactScope
