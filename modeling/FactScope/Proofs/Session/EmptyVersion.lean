import FactScope.Proofs.Session.Default
import FactScope.Proofs.Session.Supply

namespace FactScope

namespace Forest

variable {f : Forest} {default : Version} {i : Nat}

theorem Versioned.owner_ne_root (h : f.Versioned) (hi : i < f.size)
    (hseen : (f.see i .version).truthy = false) :
    f.ownerOf? i Fact.version.name ≠ some (f.root i) := by
  intro howner
  obtain ⟨version, hget, hgiven⟩ := h (f.root i) (root_lt_size hi) (f.parent?_root i)
  rw [see_of_ownerOf? howner, hget, Option.getD_some, hgiven] at hseen
  cases hseen

theorem currentVersion_of_truthy (h : (f.see i .version).truthy = true) :
    f.currentVersion default i = f.see i .version :=
  Value.orElse_of_truthy h

theorem currentVersion_of_not_truthy (h : (f.see i .version).truthy = false) :
    f.currentVersion default i = .text default.text :=
  Value.orElse_of_not_truthy h

theorem matchesVersion_eq_iff {g : Forest} {j : Nat}
    (hdefault : g.currentVersion default j = .text default.text) :
    (∀ versions, g.matchesVersion default j versions = f.matchesVersion default i versions) ↔
      f.currentVersion default i = .text default.text := by
  constructor
  · intro hsame
    have hitself := hsame (.text default.text)
    rw [matchesVersion_text, matchesVersion_text, hdefault] at hitself
    have hmatch : VersionMatch.isAmong (.text default.text) [.text default.text] = .ok true := by
      rw [VersionMatch.isAmong_eq_ok_iff]
      simp [Value.hashable, Value.alike_text_iff]
    obtain ⟨-, -, halike⟩ := VersionMatch.isAmong_eq_ok_iff.mp (hitself.symm.trans hmatch)
    simpa [Value.alike_text_iff] using halike
  · intro hcurrent versions
    rw [matchesVersion, matchesVersion, hdefault, hcurrent]

end Forest

namespace Session

variable {s : Session} {supplied : Entries Value} {i j : Nat}

theorem default_child (s : Session) (of : Nat) (supplied : Entries Value) :
    (s.child of supplied).default = s.default :=
  show (s.apply (.child of supplied)).default = s.default from default_apply nofun

theorem marked?_child_iff (p : Fin s.forest.size) :
    s.marked? (.child p supplied) = some i ↔
      (s.forest.foresee supplied (some p) .version).truthy = false ∧ s.forest.root p = i := by
  rw [marked?, dif_pos p.isLt, Forest.marked?_eq_some_iff]
  simp

theorem see_version_child (h : s.forest.Versioned) (hi : i < s.forest.size) (p : Nat)
    (howner : s.forest.ownerOf? i Fact.version.name = some j) :
    (s.child p supplied).forest.see i .version =
      if s.marked? (.child p supplied) = some j then .text s.default.text
      else s.forest.see i .version := by
  have hrun := see_version_run h hi howner [.child p supplied]
  rw [lastMark?, lastMark?, Option.none_or] at hrun
  refine hrun.trans ?_
  split <;> rfl

theorem see_version_child_last (s : Session) (p : Fin s.forest.size) (supplied : Entries Value) :
    (s.child p supplied).forest.see s.forest.size .version =
      (supplied.get? Fact.version.name).getD ((s.child p supplied).forest.see p .version) := by
  have hparent : (s.child p supplied).forest.parent? s.forest.size = some p.val := by
    rw [child_eq_build p.isLt, parent?_build, if_pos rfl]
    rfl
  have hown : ((s.child p supplied).forest.facts s.forest.size).get? Fact.version.name =
      supplied.get? Fact.version.name := by
    rw [child_eq_build p.isLt, facts_build_last, Forest.get?_version_ownFacts]
    simp
  rw [Forest.see, Forest.get, Forest.get?_eq_or, hown, hparent]
  cases supplied.get? Fact.version.name <;> rfl

section Children

variable {v : Value} (p : Fin s.forest.size)

/-- A child without a version leaves what its parent sees: it marks the root only if the parent
sees another version. -/
theorem see_version_plain (h : s.forest.Versioned)
    (hsupplied : supplied.get? Fact.version.name = none) :
    (s.child p supplied).forest.see p .version = s.forest.see p .version := by
  obtain ⟨owner, howner⟩ := h.exists_owner p.isLt
  rw [see_version_child h p.isLt p howner, if_neg]
  rw [marked?_child_iff, Forest.foresee_of_get?_none hsupplied]
  rintro ⟨hseen, rfl⟩
  exact h.owner_ne_root p.isLt hseen howner

/-- When an older node sees the same version after a child with an empty one as after a child
without one: where it does not see that of the root, or the root is marked in both cases, or the
mark repeats what is there. -/
theorem see_version_children_iff (h : s.forest.Versioned) (hi : i < s.forest.size)
    (hsupplied : supplied.get? Fact.version.name = none) (hv : v.truthy = false) :
    (s.child p (supplied.put Fact.version.name v)).forest.see i .version =
        (s.child p supplied).forest.see i .version ↔
      s.forest.ownerOf? i Fact.version.name ≠ some (s.forest.root p) ∨
        (s.forest.see p .version).truthy = false ∨
        s.forest.see i .version = .text s.default.text := by
  obtain ⟨owner, howner⟩ := h.exists_owner hi
  have hblank : s.marked? (.child p (supplied.put Fact.version.name v)) = some owner ↔
      s.forest.root p = owner := by
    rw [marked?_child_iff, Forest.foresee_of_get? (Entries.get?_put_self ..)]
    simp [hv]
  have hplain : s.marked? (.child p supplied) = some owner ↔
      (s.forest.see p .version).truthy = false ∧ s.forest.root p = owner := by
    rw [marked?_child_iff, Forest.foresee_of_get?_none hsupplied]
  rw [see_version_child h hi p howner, see_version_child h hi p howner, howner]
  simp only [hblank, hplain]
  by_cases hroot : s.forest.root p = owner
  · subst hroot
    cases (s.forest.see p .version).truthy <;> simp [eq_comm]
  · have hne : owner ≠ s.forest.root p := Ne.symm hroot
    simp [hroot, hne]

end Children

/-- A child with an empty version beside one without a version. Older nodes see the same version
after both, but for those that see the version of the root, where only the empty one has it
written over. The one child sees the empty version, the other that of its parent, and they match
alike if that is the default one or empty. In all they are alike only inside a node that sees the
same empty version. -/
theorem child_with_empty_version (steps : List Step) (p : Fin (start.run steps).forest.size)
    (supplied : Entries Value) (hsupplied : Fact.version.name ∉ supplied.keys) (v : Value)
    (hv : v.truthy = false) :
    let s := start.run steps
    let c := s.forest.size
    let plain := s.child p supplied
    let blank := s.child p (supplied.put Fact.version.name v)
    let seen := s.forest.see p .version
    let olderAlike := ∀ i < c, blank.forest.see i .version = plain.forest.see i .version
    let matchAlike := ∀ versions, blank.forest.matchesVersion blank.default c versions =
      plain.forest.matchesVersion plain.default c versions
    (∀ i < c, blank.forest.see i .version = plain.forest.see i .version ↔
      s.forest.ownerOf? i Fact.version.name ≠ some (s.forest.root p) ∨ seen.truthy = false ∨
        s.forest.see i .version = .text s.default.text) ∧
      (blank.forest.see c .version = v ∧ plain.forest.see c .version = seen) ∧
      (matchAlike ↔ seen.truthy = false ∨ seen = .text s.default.text) ∧
      (olderAlike ∧ blank.forest.see c .version = plain.forest.see c .version ∧ matchAlike ↔
        seen = v) := by
  intro s c plain blank seen olderAlike matchAlike
  have hversioned : s.forest.Versioned := versioned_reached steps
  have hget : supplied.get? Fact.version.name = none := Entries.get?_eq_none_iff.mpr hsupplied
  have hblank : blank.forest.see c .version = v := by
    rw [see_version_child_last, Entries.get?_put_self, Option.getD_some]
  have hplain : plain.forest.see c .version = seen := by
    rw [see_version_child_last, hget, Option.getD_none]
    exact see_version_plain p hversioned hget
  have hmatch : matchAlike ↔ seen.truthy = false ∨ seen = .text s.default.text := by
    have hcurrent : blank.forest.currentVersion s.default c = .text s.default.text :=
      Forest.currentVersion_of_not_truthy (hblank ▸ hv)
    have hdefaults : blank.default = s.default ∧ plain.default = s.default :=
      ⟨default_child .., default_child ..⟩
    simp only [matchAlike, hdefaults]
    rw [Forest.matchesVersion_eq_iff hcurrent]
    cases hseen : seen.truthy with
    | true => simp [Forest.currentVersion_of_truthy (hplain ▸ hseen), hplain]
    | false => simp [Forest.currentVersion_of_not_truthy (hplain ▸ hseen)]
  have holder : ∀ i < c, blank.forest.see i .version = plain.forest.see i .version ↔ _ :=
    fun i hi => see_version_children_iff p hversioned hi hget hv
  refine ⟨holder, ⟨hblank, hplain⟩, hmatch, ?_⟩
  rw [hblank, hplain]
  constructor
  · rintro ⟨-, hsame, -⟩
    exact hsame.symm
  · intro hsame
    have hseen : seen.truthy = false := hsame ▸ hv
    exact ⟨fun i hi => (holder i hi).mpr (.inr (.inl hseen)), hsame.symm, hmatch.mpr (.inl hseen)⟩

theorem child_with_empty_version_inside_another :
    let s := start.run [.newRoot [("version", .text "3.1.0")], .child 0 [("version", .text "")]]
    let c := s.forest.size
    let plain := s.child 1 [("class", .text "User")]
    let blank := s.child 1 [("class", .text "User"), ("version", .text "")]
    s.forest.see 1 .version = .text "" ∧ s.forest.see 0 .version = .text "3.0.0" ∧
      (∀ i < c, blank.forest.see i .version = plain.forest.see i .version) ∧
      blank.forest.see c .version = plain.forest.see c .version ∧
      ∀ versions, blank.forest.matchesVersion blank.default c versions =
        plain.forest.matchesVersion plain.default c versions := by
  intro s c plain blank
  have hseen : s.forest.see 1 .version = .text "" := by decide +kernel
  obtain ⟨-, -, -, halike⟩ := child_with_empty_version
    [.newRoot [("version", .text "3.1.0")], .child 0 [("version", .text "")]] ⟨1, by decide +kernel⟩
    [("class", .text "User")] (by decide) (.text "") rfl
  obtain ⟨holder, hlast, hmatch⟩ := halike.mpr hseen
  exact ⟨hseen, by decide +kernel, holder, hlast, hmatch⟩

/-- An empty version does not count as unset: the root loses the version that it was given, and the
child sees neither. -/
theorem empty_version_not_unset :
    let s := start.run [.newRoot [("version", .text "3.1.0")]]
    let plain := s.child 0 []
    let blank := s.child 0 [("version", .text "")]
    plain.forest.see 0 .version = .text "3.1.0" ∧ blank.forest.see 0 .version = .text "3.0.0" ∧
      plain.forest.see 1 .version = .text "3.1.0" ∧ blank.forest.see 1 .version = .text "" ∧
      plain.forest.matchesVersion plain.default 1 (.text "3.1.0") = .ok true ∧
      blank.forest.matchesVersion blank.default 1 (.text "3.1.0") ≠ .ok true := by
  intro s plain blank
  have hplain : plain.forest.see 1 .version = .text "3.1.0" := by decide +kernel
  have hblank : blank.forest.see 1 .version = .text "" := by decide +kernel
  refine ⟨by decide +kernel, by decide +kernel, hplain, hblank, ?_, ?_⟩
  · rw [Forest.matchesVersion_of_hashable (by rw [hplain]; rfl) (by rw [hplain]; rfl), hplain]
    rfl
  · intro hmatch
    rw [Forest.matchesVersion_default_iff (by rw [hblank]; rfl)] at hmatch
    exact absurd hmatch (by decide +kernel)

end Session

end FactScope
