import FactScope.Proofs.Session.Run

namespace FactScope

namespace Forest

variable {f : Forest} {supplied : Entries Value} {parent : Option (Fin f.size)}

theorem foresee_create_last (default : Version)
    (h : (f.foresee supplied parent .version).truthy = true) :
    (f.create default supplied parent).see f.size .version =
      f.foresee supplied parent .version := by
  have hmarked : f.marked? supplied parent = none := by simp [marked?, h]
  have hown : f.ownFacts default supplied parent = f.withLogger supplied parent := by
    simp [ownFacts, h]
  rw [create_eq, hmarked, hown]
  exact (see_push_last f _ parent .version).trans
    (foresee_withLogger f supplied parent (by decide))

theorem marked?_child_of_last (f : Forest) (default : Version) (supplied : Entries Value)
    (of : Fin f.size) {last : Fin (f.create default supplied (some of)).size}
    (hlast : last.val = f.size) {i : Nat}
    (h : (f.create default supplied (some of)).marked? supplied (some last) = some i) :
    f.marked? supplied (some of) = some i := by
  obtain ⟨hunseen, p, hp, hroot⟩ := marked?_eq_some_iff.mp h
  cases hp
  rw [hlast, root_create_last] at hroot
  refine marked?_eq_some_iff.mpr ⟨?_, of, rfl, hroot⟩
  cases hseen : (f.foresee supplied (some of) .version).truthy with
  | false => rfl
  | true =>
      cases hget : supplied.get? Fact.version.name with
      | some version =>
          rw [foresee_of_get? hget] at hseen hunseen
          rw [hseen] at hunseen
          exact hunseen
      | none =>
          rw [foresee_of_get?_none hget, hlast, foresee_create_last default hseen, hseen]
            at hunseen
          exact hunseen

end Forest

namespace Session

/-- The root on which a step records the default version in force, if there is one. -/
def marked? (s : Session) : Step → Option Nat
  | .newRoot _ => none
  | .child of supplied =>
      if h : of < s.forest.size then s.forest.marked? supplied (some ⟨of, h⟩) else none
  | .clone of overrides =>
      s.forest.marked? ((s.forest.facts of).putAll overrides) (s.forest.parentFin? of)
  | .nest of count supplied =>
      if h : of < s.forest.size ∧ 0 < count then
        s.forest.marked? supplied (some ⟨of, h.1⟩)
      else none
  | .setDefault _ => none

theorem marked?_child_of_size_le {s : Session} {of : Nat} (h : s.forest.size ≤ of)
    (supplied : Entries Value) : s.marked? (.child of supplied) = none :=
  dif_neg (Nat.not_lt.mpr h)

theorem marked?_nest_of_size_le {s : Session} {of : Nat} (h : s.forest.size ≤ of) (count : Nat)
    (supplied : Entries Value) : s.marked? (.nest of count supplied) = none :=
  dif_neg fun hboth => Nat.not_lt.mpr h hboth.1

theorem marked?_clone_of_size_le {s : Session} {of : Nat} (h : s.forest.size ≤ of)
    (overrides : Entries Value) : s.marked? (.clone of overrides) = none := by
  have hnone : s.forest.parentFin? of = none := by
    have hmap := s.forest.map_parentFin? of
    rw [Forest.parent?_of_size_le h] at hmap
    simpa using hmap
  simp [marked?, Forest.marked?, hnone]

theorem facts_build (s : Session) (supplied : Entries Value)
    (parent : Option (Fin s.forest.size)) {i : Nat} (hi : i < s.forest.size) :
    (s.build supplied parent).forest.facts i =
      if s.forest.marked? supplied parent = some i then
        (s.forest.facts i).put Fact.version.name (.text s.default.text)
      else s.forest.facts i := by
  simp only [build]
  rw [Forest.facts_create, if_neg (Nat.ne_of_lt hi)]

theorem facts_build_last (s : Session) (supplied : Entries Value)
    (parent : Option (Fin s.forest.size)) :
    (s.build supplied parent).forest.facts s.forest.size =
      s.forest.ownFacts s.default supplied parent := by
  simp only [build]
  rw [Forest.facts_create, if_pos rfl]

theorem parent?_build (s : Session) (supplied : Entries Value)
    (parent : Option (Fin s.forest.size)) (i : Nat) :
    (s.build supplied parent).forest.parent? i =
      if i = s.forest.size then parent.map (·.val) else s.forest.parent? i :=
  Forest.parent?_create ..

theorem facts_child (s : Session) (of : Nat) (supplied : Entries Value) {i : Nat}
    (hi : i < s.forest.size) :
    (s.child of supplied).forest.facts i =
      if s.marked? (.child of supplied) = some i then
        (s.forest.facts i).put Fact.version.name (.text s.default.text)
      else s.forest.facts i := by
  rcases Nat.lt_or_ge of s.forest.size with hof | hof
  · rw [child_eq_build hof, facts_build s supplied _ hi]
    simp [marked?, hof]
  · rw [child_of_size_le hof, marked?_child_of_size_le hof]
    rfl

theorem marked?_child_of_nest {s : Session} {of count i : Nat} (hof : of < s.forest.size)
    (supplied : Entries Value)
    (h : (s.child of supplied).marked? (.nest s.forest.size count supplied) = some i) :
    s.marked? (.child of supplied) = some i := by
  rw [child_eq_build hof] at h
  simp only [marked?] at h
  split at h
  · have hfirst :=
      Forest.marked?_child_of_last s.forest s.default supplied ⟨of, hof⟩ rfl h
    simpa [marked?, hof] using hfirst
  · cases h

theorem facts_nest (count : Nat) (s : Session) (of : Nat) (supplied : Entries Value) {i : Nat}
    (hi : i < s.forest.size) :
    (s.nest of count supplied).forest.facts i =
      if s.marked? (.nest of count supplied) = some i then
        (s.forest.facts i).put Fact.version.name (.text s.default.text)
      else s.forest.facts i := by
  induction count generalizing s of with
  | zero => simp [nest_zero, marked?]
  | succ count ih =>
      rcases Nat.lt_or_ge of s.forest.size with hof | hof
      · have hsize : (s.child of supplied).forest.size = s.forest.size + 1 :=
          size_child hof supplied
        have hdefault : (s.child of supplied).default = s.default := by
          rw [child_eq_build hof]
          rfl
        have hmarked : s.marked? (.nest of (count + 1) supplied) =
            s.marked? (.child of supplied) := by
          simp [marked?, hof]
        have hfurther (hfirst : s.marked? (.child of supplied) ≠ some i) :
            (s.child of supplied).marked? (.nest s.forest.size count supplied) ≠ some i :=
          mt (marked?_child_of_nest hof supplied) hfirst
        rw [nest_succ hof, ih (s.child of supplied) s.forest.size (by omega), hmarked, hdefault,
          facts_child s of supplied hi]
        by_cases hfirst : s.marked? (.child of supplied) = some i
        · simp only [hfirst, if_true, Entries.put_put, ite_self]
        · simp only [hfirst, if_false, hfurther hfirst]
      · rw [nest_of_size_le hof, marked?_nest_of_size_le hof]
        rfl

theorem facts_apply (s : Session) (step : Step) {i : Nat} (hi : i < s.forest.size) :
    (s.apply step).forest.facts i =
      if s.marked? step = some i then
        (s.forest.facts i).put Fact.version.name (.text s.default.text)
      else s.forest.facts i := by
  cases step with
  | newRoot supplied =>
      have hmarked : s.forest.marked? supplied none = none := by simp [Forest.marked?]
      have hfacts := facts_build s supplied none hi
      rw [hmarked] at hfacts
      exact hfacts
  | child of supplied => exact facts_child s of supplied hi
  | clone of overrides =>
      change (s.clone of overrides).forest.facts i = _
      rcases Nat.lt_or_ge of s.forest.size with hof | hof
      · rw [clone_eq_build hof]
        exact facts_build s _ _ hi
      · rw [clone_of_size_le hof, marked?_clone_of_size_le hof]
        rfl
  | nest of count supplied => exact facts_nest count s of supplied hi
  | setDefault version =>
      rw [apply_setDefault]
      cases Version.choose version <;> rfl

end Session

end FactScope
