import FactScope.Proofs.Session.Mark

/-!
The versions of nodes over time. What a node sees as its version is what the nearest node on the
way to its root records, and that is written over exactly when that node is a root which a
construction below it marks. A version that counts as given is then all that decides a match;
in its place the default version in force does.
-/

namespace FactScope

namespace Forest

variable {f : Forest} {i : Nat}

theorem matchesVersion_text (f : Forest) (default : Version) (i : Nat) (candidate : String) :
    f.matchesVersion default i (.text candidate) =
      VersionMatch.isAmong (f.currentVersion default i) [.text candidate] := rfl

/-- Where no version counts as given, the default version in force is the one that matches. -/
theorem matchesVersion_default_iff {default : Version} (h : (f.see i .version).truthy = false)
    (candidate : String) :
    f.matchesVersion default i (.text candidate) = .ok true ↔ candidate = default.text := by
  rw [matchesVersion_text, currentVersion, Value.orElse_of_not_truthy h,
    VersionMatch.isAmong_eq_ok_iff]
  simpa [Value.hashable, Value.alike] using eq_comm

end Forest

namespace Version

theorem choose_text (version : Version) : choose (.text version.text) = .ok version := by
  simp [choose, ofText?_eq_some_iff.mpr rfl]

theorem exists_text_ne (value : Value) : ∃ version : Version, .text version.text ≠ value := by
  by_cases h : .text v300.text = value
  · exact ⟨v310, h ▸ by decide⟩
  · exact ⟨v300, h⟩

end Version

namespace Session

variable {s : Session} {i j : Nat}

/-- The version of node `i` reads the same in two sessions, by itself and against every text. -/
structure SameVersion (s t : Session) (i : Nat) : Prop where
  see_eq : t.forest.see i .version = s.forest.see i .version
  matches_eq : ∀ candidate, t.forest.matchesVersion t.default i (.text candidate) =
    s.forest.matchesVersion s.default i (.text candidate)

theorem sameVersion_iff {t : Session} (h : t.forest.see i .version = s.forest.see i .version) :
    s.SameVersion t i ↔ (s.forest.see i .version).truthy = true ∨ t.default = s.default := by
  constructor
  · rintro ⟨-, hmatches⟩
    cases hseen : (s.forest.see i .version).truthy with
    | true => exact .inl rfl
    | false =>
        have hs := (Forest.matchesVersion_default_iff hseen s.default.text).mpr rfl
        rw [← h] at hseen
        rw [← hmatches s.default.text, Forest.matchesVersion_default_iff hseen] at hs
        refine .inr (Option.some.inj ?_)
        rw [← Version.ofText?_eq_some_iff.mpr hs, Version.ofText?_eq_some_iff.mpr rfl]
  · intro hgiven
    refine ⟨h, fun candidate => ?_⟩
    have hcurrent : t.forest.currentVersion t.default i = s.forest.currentVersion s.default i := by
      unfold Forest.currentVersion
      rw [h]
      rcases hgiven with hseen | hdefault
      · rw [Value.orElse_of_truthy hseen, Value.orElse_of_truthy hseen]
      · rw [hdefault]
    rw [Forest.matchesVersion_text, Forest.matchesVersion_text, hcurrent]

/-- The version that the last mark on node `i` in a run of steps records. -/
def lastMark? (s : Session) (i : Nat) : List Step → Option Version
  | [] => none
  | step :: steps =>
      ((s.apply step).lastMark? i steps).or
        (if s.marked? step = some i then some s.default else none)

theorem parent?_of_marked? {step : Step} (h : s.marked? step = some i) :
    s.forest.parent? i = none := by
  cases step with
  | newRoot supplied => cases h
  | child of supplied =>
      simp only [marked?] at h
      split at h
      · exact Forest.parent?_of_marked? h
      · cases h
  | clone of overrides => exact Forest.parent?_of_marked? h
  | nest of count supplied =>
      simp only [marked?] at h
      split at h
      · exact Forest.parent?_of_marked? h
      · cases h
  | setDefault version => cases h

theorem versioned_apply (h : s.forest.Versioned) (step : Step) :
    (s.apply step).forest.Versioned :=
  versioned_run h [step]

theorem keeps_apply (h : s.forest.Versioned) (step : Step) :
    s.forest.Keeps (s.apply step).forest :=
  keeps_run h [step]

theorem lastMark?_of_parent? (steps : List Step) {s : Session} (h : s.forest.Versioned) {p : Nat}
    (hp : s.forest.parent? i = some p) : s.lastMark? i steps = none := by
  induction steps generalizing s with
  | nil => rfl
  | cons step steps ih =>
      have hmarked : s.marked? step ≠ some i := by
        intro hmark
        rw [parent?_of_marked? hmark] at hp
        cases hp
      have hkept := (keeps_apply h step).parent?_eq (Forest.lt_size_of_parent? hp)
      rw [lastMark?, ih (versioned_apply h step) (hkept.trans hp), if_neg hmarked]
      rfl

/-- After a run a node records the version of its last mark, or without marks that of before. -/
theorem get?_version_run (steps : List Step) {s : Session} (h : s.forest.Versioned)
    (hi : i < s.forest.size) :
    ((s.run steps).forest.facts i).get? Fact.version.name =
      ((s.lastMark? i steps).map fun version => .text version.text).or
        ((s.forest.facts i).get? Fact.version.name) := by
  induction steps generalizing s with
  | nil => rfl
  | cons step steps ih =>
      have hlt : i < (s.apply step).forest.size :=
        Nat.lt_of_lt_of_le hi (keeps_apply h step).size_le
      rw [run_cons, ih (versioned_apply h step) hlt, facts_apply s step hi, lastMark?]
      cases (s.apply step).lastMark? i steps with
      | some version => rfl
      | none =>
          split
          · simp [Entries.get?_put_self]
          · rfl

theorem see_version_run (h : s.forest.Versioned) (hi : i < s.forest.size)
    (howner : s.forest.ownerOf? i Fact.version.name = some j) (steps : List Step) :
    (s.run steps).forest.see i .version =
      ((s.lastMark? j steps).map fun version => .text version.text).getD
        (s.forest.see i .version) := by
  have hj : j < s.forest.size := Nat.lt_of_le_of_lt (Forest.ownerOf?_le howner) hi
  have hafter : (s.run steps).forest.ownerOf? i Fact.version.name = some j := by
    rw [(keeps_run h steps).ownerOf? hi, howner]
  rw [Forest.see_of_ownerOf? hafter, Forest.see_of_ownerOf? howner, get?_version_run steps h hj]
  cases s.lastMark? j steps <;> rfl

theorem sameVersion_run_iff (h : s.forest.Versioned) (hi : i < s.forest.size)
    (howner : s.forest.ownerOf? i Fact.version.name = some j) (steps : List Step) :
    s.SameVersion (s.run steps) i ↔
      (∀ version, s.lastMark? j steps = some version →
        .text version.text = s.forest.see i .version) ∧
      ((s.forest.see i .version).truthy = true ∨ (s.run steps).default = s.default) := by
  have hsee := see_version_run h hi howner steps
  constructor
  · intro hsame
    refine ⟨?_, (sameVersion_iff hsame.see_eq).mp hsame⟩
    intro version hmark
    rw [hmark] at hsee
    exact hsee.symm.trans hsame.see_eq
  · rintro ⟨hmarks, hgiven⟩
    refine (sameVersion_iff ?_).mpr hgiven
    rw [hsee]
    cases hmark : s.lastMark? j steps with
    | none => rfl
    | some version => exact hmarks version hmark

theorem apply_setDefault_text (s : Session) (version : Version) :
    s.apply (.setDefault (.text version.text)) = { s with default := version } := by
  rw [apply_setDefault, Version.choose_text]

theorem marked?_child_null (hj : j < s.forest.size) (hroot : s.forest.parent? j = none) :
    s.marked? (.child j [(Fact.version.name, .null)]) = some j := by
  simp only [marked?, dif_pos hj, Forest.marked?_eq_some_iff]
  refine ⟨?_, ⟨j, hj⟩, rfl, Forest.root_of_root hroot⟩
  have hget : Entries.get? [(Fact.version.name, Value.null)] Fact.version.name = some .null := rfl
  rw [Forest.foresee_of_get? hget]
  rfl

theorem lastMark?_chosen (hj : j < s.forest.size) (hroot : s.forest.parent? j = none)
    (version : Version) :
    s.lastMark? j [.setDefault (.text version.text), .child j [(Fact.version.name, .null)]] =
      some version := by
  simp only [lastMark?, apply_setDefault_text]
  rw [marked?_child_null (s := { s with default := version }) hj hroot]
  simp [marked?]

/-- The version of a node lasts through all runs if it is that of a node inside another one. -/
theorem sameVersion_forever_iff (h : s.forest.Versioned) (hi : i < s.forest.size)
    (howner : s.forest.ownerOf? i Fact.version.name = some j) :
    (∀ steps, s.SameVersion (s.run steps) i) ↔
      s.forest.parent? j ≠ none ∧ (s.forest.see i .version).truthy = true := by
  have hj : j < s.forest.size := Nat.lt_of_le_of_lt (Forest.ownerOf?_le howner) hi
  constructor
  · intro hsame
    constructor
    · -- The owner is no root, or it could be marked with a version that the node does not see.
      intro hroot
      obtain ⟨version, hne⟩ := Version.exists_text_ne (s.forest.see i .version)
      have hmark := lastMark?_chosen hj hroot version
      exact hne (((sameVersion_run_iff h hi howner _).mp (hsame _)).1 version hmark)
    · obtain ⟨version, hne⟩ := Version.exists_text_ne (.text s.default.text)
      have hlast := ((sameVersion_run_iff h hi howner _).mp
        (hsame [.setDefault (.text version.text)])).2
      rw [run_cons, apply_setDefault_text, run_nil] at hlast
      refine hlast.resolve_right ?_
      rintro (rfl : version = s.default)
      exact hne rfl
  · rintro ⟨hinside, hseen⟩ steps
    refine (sameVersion_run_iff h hi howner steps).mpr ⟨?_, .inl hseen⟩
    intro version hmark
    obtain ⟨p, hp⟩ := Option.ne_none_iff_exists'.mp hinside
    rw [lastMark?_of_parent? steps h hp] at hmark
    cases hmark

/-- When the version of a node stays. A run keeps it if and only if the last mark on its owner, if
there is one, repeats it, and, where it counts as not given, the default version in force stays.
Every run keeps it if and only if its owner is no root and it counts as given. -/
theorem version_stays_iff (past : List Step) (i : Fin (start.run past).forest.size) :
    let before := start.run past
    ∃ owner, before.forest.ownerOf? i Fact.version.name = some owner ∧
      (∀ later, before.SameVersion (before.run later) i ↔
        (∀ version, before.lastMark? owner later = some version →
          .text version.text = before.forest.see i .version) ∧
        ((before.forest.see i .version).truthy = true ∨
          (before.run later).default = before.default)) ∧
      ((∀ later, before.SameVersion (before.run later) i) ↔
        before.forest.parent? owner ≠ none ∧
          (before.forest.see i .version).truthy = true) := by
  intro before
  have hversioned : before.forest.Versioned := versioned_reached past
  obtain ⟨owner, howner⟩ := hversioned.exists_owner i.isLt
  exact ⟨owner, howner, sameVersion_run_iff hversioned i.isLt howner,
    sameVersion_forever_iff hversioned i.isLt howner⟩

/-- A root does not keep the version it was given: a node with an empty version marks it. -/
theorem given_version_lost :
    let before := start.run [.newRoot [(Fact.version.name, .text "3.1.0")]]
    let after := before.run [.child 0 [(Fact.version.name, .text "")]]
    before.forest.see 0 .version = .text "3.1.0" ∧ after.forest.see 0 .version = .text "3.0.0" ∧
      ¬before.SameVersion after 0 := by
  refine ⟨by decide +kernel, by decide +kernel, ?_⟩
  intro hsame
  exact absurd hsame.see_eq (by decide +kernel)

end Session

end FactScope
