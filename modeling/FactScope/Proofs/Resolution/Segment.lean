import Mathlib.Data.List.TakeWhile
import FactScope.Proofs.Resolution.Qualified

namespace FactScope

open QualifiedName Text.Lowercase

namespace QualifiedName

def leading (name : List Char) : List Char :=
  name.takeWhile (· != sep)

def following (name : List Char) : List Char :=
  name.dropWhile (· != sep)

theorem leading_append_following (name : List Char) : leading name ++ following name = name :=
  List.takeWhile_append_dropWhile

theorem sep_not_mem_leading (name : List Char) : sep ∉ leading name := by
  intro h
  have hother := List.mem_takeWhile_imp h
  simp at hother

theorem following_of_not_mem {name : List Char} (h : sep ∉ name) : following name = [] := by
  rw [following, List.dropWhile_eq_nil_iff]
  intro c hc
  simp only [bne_iff_ne]
  rintro rfl
  exact h hc

theorem leading_of_not_mem {name : List Char} (h : sep ∉ name) : leading name = name := by
  have hparts := leading_append_following name
  rwa [following_of_not_mem h, List.append_nil] at hparts

theorem exists_following {name : List Char} (h : sep ∈ name) :
    ∃ rest, following name = sep :: rest := by
  have hparts := leading_append_following name
  cases hrest : following name with
  | nil =>
      rw [hrest, List.append_nil] at hparts
      rw [← hparts] at h
      exact absurd h (sep_not_mem_leading name)
  | cons c rest =>
      have hhead := List.head?_dropWhile_not (· != sep) name
      rw [← following, hrest] at hhead
      simp only [List.head?_cons, bne_eq_false_iff_eq] at hhead
      exact ⟨rest, by rw [hhead]⟩

theorem narrow_leading {name : List Char} (h : Narrow name) : Narrow (leading name) :=
  fun c hc => h c ((List.takeWhile_prefix _).subset hc)

end QualifiedName

namespace Resolution

/-- No alias has a separator in its text. -/
def Simple (aliases : List (Value × Value)) : Prop :=
  ∀ entry ∈ aliases, sep ∉ entry.1.toText.toList

instance (aliases : List (Value × Value)) : Decidable (Simple aliases) :=
  List.decidableBAll _ aliases

/-- The alias is the leading segment of a reference without regard to case and, where more follows,
has as many characters. -/
def Leads (written : String) (entry : Value × Value) : Prop :=
  sameName entry.1.toText.toList (leading written.toList) = true ∧
    (sep ∈ written.toList → entry.1.toText.length = (leading written.toList).length)

variable {reference used : List Char} {written : String} {entry : Value × Value}

/-- An alias covers a reference only if it is the leading segment without regard to case. If it is
longer, nothing but the separator follows. -/
theorem covers_iff (hused : sep ∉ used) :
    covers reference used = true ↔
      sameName used (leading reference) = true ∧
        (sep ∈ reference → (leading reference).length ≤ used.length ∧
          (used.length = (leading reference).length ∨ following reference = [sep])) := by
  by_cases hmem : sep ∈ reference
  · obtain ⟨rest, hrest⟩ := exists_following hmem
    have hsplit : reference = leading reference ++ sep :: rest := by
      rw [← hrest, leading_append_following]
    -- The slice that is compared may reach behind the segment where the alias is longer.
    have hcovers := covers_split_iff (sep_not_mem_leading reference) hused rest
    rw [← hsplit] at hcovers
    rw [hcovers, hrest]
    simp [hmem]
  · rw [covers_alone hmem, leading_of_not_mem hmem]
    simp [hmem]

/-- No alias is longer than a segment of narrow characters that it is without regard to case. -/
theorem covers_iff_leads (hused : sep ∉ entry.1.toText.toList) (hnarrow : Narrow written.toList) :
    covers written.toList entry.1.toText.toList = true ↔ Leads written entry := by
  have hsegment : Narrow (leading written.toList) := narrow_leading hnarrow
  rw [covers_iff hused, Leads, String.length_toList]
  refine and_congr_right fun hsame => imp_congr_right fun _ => ?_
  have hle := hsegment.length_le (sameName_iff.mp hsame)
  rw [String.length_toList] at hle
  constructor
  · rintro ⟨hge, -⟩
    omega
  · intro hlength
    exact ⟨Nat.le_of_eq hlength.symm, .inl hlength⟩

theorem Leads.remainder_eq (h : Leads written entry) :
    remainder written.toList entry.1.toText.toList = following written.toList := by
  unfold remainder
  split
  · next hqualified =>
    rw [String.length_toList, h.2 (isQualified_iff.mp hqualified)]
    have hdrop : (leading written.toList ++ following written.toList).drop
        (leading written.toList).length = following written.toList := List.drop_left
    rwa [leading_append_following] at hdrop
  · next hqualified =>
    exact (following_of_not_mem (mt isQualified_iff.mpr hqualified)).symm

theorem toText_told (reference : List Char) (used : Value) :
    (told reference used).toText = used.toText := by
  unfold told
  split
  · rfl
  · rfl

theorem told_text (reference : List Char) (spelling : String) :
    told reference (.text spelling) = .text spelling := by
  unfold told
  split
  · rfl
  · rfl

/-- An alias that is only a part of the leading segment, or goes on behind it, does not lead. -/
theorem not_leads_of_part (hnarrow : Narrow written.toList) {part more : List Char}
    (hmore : more ≠ [])
    (h : leading written.toList = part ++ more ∧ sameName entry.1.toText.toList part = true ∨
      entry.1.toText.toList = leading written.toList ++ more) : ¬Leads written entry := by
  rintro ⟨hsame, -⟩
  have hsegment : Narrow (leading written.toList) := narrow_leading hnarrow
  have hpos : 0 < more.length := List.length_pos_iff.mpr hmore
  rw [sameName_iff] at hsame
  rcases h with ⟨hparts, hpart⟩ | hlonger
  · have hpartNarrow : Narrow part := fun c hc =>
      hsegment c (hparts ▸ List.mem_append_left more hc)
    have hlength := congrArg List.length ((sameName_iff.mp hpart).symm.trans hsame)
    rw [hpartNarrow.length_lower, hsegment.length_lower, hparts, List.length_append] at hlength
    omega
  · have hle := hsegment.length_le hsame
    rw [hlonger, List.length_append] at hle
    omega

section Aliases

variable {aliases before after : List (Value × Value)}

theorem firstCovering?_of_leads (h : Simple aliases) (hnarrow : Narrow written.toList)
    (hsplit : aliases = before ++ entry :: after) (hleads : Leads written entry)
    (hbefore : ∀ other ∈ before, ¬Leads written other) :
    firstCovering? aliases written = some entry := by
  have hsimple : ∀ other ∈ before ++ entry :: after, sep ∉ other.1.toText.toList :=
    fun other hother => h other (hsplit ▸ hother)
  rw [firstCovering?, hsplit, List.find?_eq_some_iff_append]
  refine ⟨(covers_iff_leads (hsimple entry (by simp)) hnarrow).mpr hleads, before, after, rfl, ?_⟩
  intro other hother
  rw [Bool.not_eq_true', Bool.eq_false_iff]
  intro hcovers
  rw [covers_iff_leads (hsimple other (List.mem_append_left _ hother)) hnarrow] at hcovers
  exact hbefore other hother hcovers

theorem firstCovering?_of_not_leads (h : Simple aliases) (hnarrow : Narrow written.toList)
    (hnone : ∀ entry ∈ aliases, ¬Leads written entry) : firstCovering? aliases written = none := by
  rw [firstCovering?, List.find?_eq_none]
  intro entry hentry hcovers
  exact hnone entry hentry ((covers_iff_leads (h entry hentry) hnarrow).mp hcovers)

end Aliases

end Resolution

namespace Forest

open Resolution

/-- A relative reference to something else than the enclosing type is resolved by the first alias
that is its leading segment: the target without its leading separators stands for the segment, and
what follows is kept. Without such an alias the reference lies in the current namespace. An alias
that is only a part of the segment, or longer, is none. -/
theorem resolveAt_leading_segment (f : Forest) (i : Nat) (h : (f.scope i).Textual)
    (haliases : Simple (f.scope i).aliases) {written : String} (hne : written ≠ "")
    (hrelative : isAbsolute written.toList = false) (hforeign : (f.scope i).Foreign written)
    (hnarrow : Narrow written.toList) :
    (∀ before entry after, (f.scope i).aliases = before ++ entry :: after →
      Leads written entry → (∀ other ∈ before, ¬Leads written other) →
      ∃ name used, f.resolveAt i (.text written) = .ok ⟨name, some ⟨written, used, name⟩⟩ ∧
        name.toList = sep :: relative entry.2.toText.toList ++ following written.toList ∧
        used.toText = entry.1.toText ∧
        ∀ spelling, entry.1 = .text spelling → used = .text spelling) ∧
    ((∀ entry ∈ (f.scope i).aliases, ¬Leads written entry) →
      ∃ space, (f.scope i).currentNamespace = .ok space ∧
        f.resolveAt i (.text written) = .ok ⟨space ++ written, none⟩) ∧
    ∀ entry part more, more ≠ [] →
      (leading written.toList = part ++ more ∧ sameName entry.1.toText.toList part = true ∨
        entry.1.toText.toList = leading written.toList ++ more) → ¬Leads written entry := by
  obtain ⟨space, hspace, -⟩ := h.exists_currentNamespace
  have hresolve : f.resolveAt i (.text written) = .ok (ofOther (f.scope i) space written) :=
    resolve_foreign h hne hspace hforeign
  refine ⟨?_, ?_, ?_⟩
  · intro before entry after hsplit hleads hbefore
    have hfirst := firstCovering?_of_leads haliases hnarrow hsplit hleads hbefore
    rw [ofOther_byAlias hrelative hfirst] at hresolve
    refine ⟨_, told written.toList entry.1, hresolve, ?_, toText_told _ _, ?_⟩
    · rw [String.toList_ofList, expand, hleads.remainder_eq]
    · rintro spelling hspelling
      rw [hspelling, told_text]
  · intro hnone
    have hfirst := firstCovering?_of_not_leads haliases hnarrow hnone
    rw [ofOther_unaliased hrelative hfirst] at hresolve
    exact ⟨space, hspace, hresolve⟩
  · intro entry part more hmore hpart
    exact not_leads_of_part hnarrow hmore hpart

theorem resolveAt_leading_segment_of_second_alias :
    let table : Value := .object [("Fo", .text "Vendor\\Fo"), ("foo", .text "\\Lib\\Foo"),
      ("FOO", .text "Other")]
    let f := (Session.start.newRoot [("namespace", .text "App"), ("class", .text "User"),
      ("uses", table)]).forest
    ∃ name, f.resolveAt 0 (.text "FOO\\Sub\\Bar") =
        .ok ⟨name, some ⟨"FOO\\Sub\\Bar", .text "foo", name⟩⟩ ∧
      name = "\\Lib\\Foo\\Sub\\Bar" ∧ ¬Leads "FOO\\Sub\\Bar" (.text "Fo", .text "Vendor\\Fo") := by
  intro table f
  have htype : (f.scope 0).enclosingType? = some (.text "User") := by decide +kernel
  have haliases : (f.scope 0).aliases = [(.text "Fo", .text "Vendor\\Fo")] ++
      (.text "foo", .text "\\Lib\\Foo") :: [(.text "FOO", .text "Other")] := by decide +kernel
  have htextual : (f.scope 0).Textual := by
    refine ⟨fun _ => ⟨"App", by decide +kernel⟩, ?_⟩
    intro type hseen
    rw [htype] at hseen
    cases hseen
    exact ⟨"User", rfl⟩
  have hforeign : (f.scope 0).Foreign "FOO\\Sub\\Bar" := by
    intro type hseen
    rw [htype] at hseen
    cases hseen
    decide +kernel
  obtain ⟨happlied, -, hpart⟩ :=
    resolveAt_leading_segment f 0 htextual (by rw [haliases]; decide +kernel)
      (by decide) (by decide) hforeign (by decide +kernel)
  have honly : ¬Leads "FOO\\Sub\\Bar" (.text "Fo", .text "Vendor\\Fo") :=
    hpart (.text "Fo", .text "Vendor\\Fo") ['F', 'O'] ['O'] (by decide)
      (.inl ⟨by decide, by decide +kernel⟩)
  obtain ⟨name, used, hresolve, hname, -, hused⟩ :=
    happlied _ _ _ haliases ⟨by decide +kernel, by decide⟩ (by simpa using honly)
  rw [hused "foo" rfl] at hresolve
  exact ⟨name, hresolve, String.toList_inj.mp (hname.trans (by decide)), honly⟩

end Forest

end FactScope
