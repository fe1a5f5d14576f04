import FactScope.Session
import FactScope.Proofs.Forest.Version

namespace FactScope.Session

def build (s : Session) (supplied : Entries Value) (parent : Option (Fin s.forest.size)) :
    Session :=
  { s with forest := s.forest.create s.default supplied parent }

theorem child_eq_build {s : Session} {of : Nat} (h : of < s.forest.size)
    (supplied : Entries Value) : s.child of supplied = s.build supplied (some ⟨of, h⟩) := by
  simp [child, h, Forest.child, build]

theorem clone_eq_build {s : Session} {of : Nat} (h : of < s.forest.size)
    (overrides : Entries Value) :
    s.clone of overrides =
      s.build ((s.forest.facts of).putAll overrides) (s.forest.parentFin? of) := by
  simp [clone, h, Forest.clone, build]

theorem child_of_size_le {s : Session} {of : Nat} (h : s.forest.size ≤ of)
    (supplied : Entries Value) : s.child of supplied = s :=
  dif_neg (Nat.not_lt.mpr h)

theorem clone_of_size_le {s : Session} {of : Nat} (h : s.forest.size ≤ of)
    (overrides : Entries Value) : s.clone of overrides = s :=
  if_neg (Nat.not_lt.mpr h)

theorem nest_of_size_le {s : Session} {of : Nat} (h : s.forest.size ≤ of) (count : Nat)
    (supplied : Entries Value) : s.nest of count supplied = s :=
  dif_neg (Nat.not_lt.mpr h)

theorem size_child {s : Session} {of : Nat} (h : of < s.forest.size) (supplied : Entries Value) :
    (s.child of supplied).forest.size = s.forest.size + 1 := by
  rw [child_eq_build h]
  exact Forest.size_create ..

theorem nest_zero (s : Session) (of : Nat) (supplied : Entries Value) :
    s.nest of 0 supplied = s := by
  unfold nest
  split <;> rfl

/-- Nesting is building a node inside the given one and nesting the others in it. -/
theorem nest_succ {s : Session} {of : Nat} (h : of < s.forest.size) (count : Nat)
    (supplied : Entries Value) :
    s.nest of (count + 1) supplied =
      (s.child of supplied).nest s.forest.size count supplied := by
  have hlast : s.forest.size < (s.child of supplied).forest.size := by
    rw [size_child h]
    exact Nat.lt_succ_self _
  have hgrown : ∀ t, t = s.build supplied (some ⟨of, h⟩) → ∀ hlt,
      { s with forest := s.forest.nest s.default ⟨of, h⟩ supplied (count + 1) } =
        { t with forest := t.forest.nest t.default ⟨s.forest.size, hlt⟩ supplied count } := by
    rintro t rfl hlt
    rfl
  rw [nest, nest, dif_pos h, dif_pos hlast]
  exact hgrown _ (child_eq_build h supplied) hlast

theorem apply_setDefault (s : Session) (version : Value) :
    s.apply (.setDefault version) =
      match Version.choose version with
      | .ok chosen => { s with default := chosen }
      | .error _ => s := by
  simp only [apply, setDefault]
  cases Version.choose version <;> rfl

/-- Every step is made of constructions and changes of the default version. -/
theorem apply_induction {motive : Session → Prop}
    (build : ∀ (s : Session) supplied parent, motive s → motive (s.build supplied parent))
    (choose : ∀ (s : Session) version, motive s → motive { s with default := version })
    {s : Session} (h : motive s) (step : Step) : motive (s.apply step) := by
  have hchild : ∀ (s : Session) of supplied, motive s → motive (s.child of supplied) := by
    intro s of supplied hs
    rcases Nat.lt_or_ge of s.forest.size with hof | hof
    · rw [child_eq_build hof]
      exact build s supplied _ hs
    · rwa [child_of_size_le hof]
  have hnest : ∀ count (s : Session) of supplied,
      motive s → motive (s.nest of count supplied) := by
    intro count
    induction count with
    | zero =>
        intro s of supplied hs
        rwa [nest_zero]
    | succ count ih =>
        intro s of supplied hs
        rcases Nat.lt_or_ge of s.forest.size with hof | hof
        · rw [nest_succ hof]
          exact ih _ _ supplied (hchild s of supplied hs)
        · rwa [nest_of_size_le hof]
  cases step with
  | newRoot supplied => exact build s supplied none h
  | child of supplied => exact hchild s of supplied h
  | clone of overrides =>
      change motive (s.clone of overrides)
      rcases Nat.lt_or_ge of s.forest.size with hof | hof
      · rw [clone_eq_build hof]
        exact build s _ _ h
      · rwa [clone_of_size_le hof]
  | nest of count supplied => exact hnest count s of supplied h
  | setDefault version =>
      rw [apply_setDefault]
      cases Version.choose version with
      | ok chosen => exact choose s chosen h
      | error problem => exact h

theorem run_nil (s : Session) : s.run [] = s := rfl

theorem run_cons (s : Session) (step : Step) (steps : List Step) :
    s.run (step :: steps) = (s.apply step).run steps := rfl

theorem run_append (s : Session) (first second : List Step) :
    s.run (first ++ second) = (s.run first).run second :=
  List.foldl_append

theorem run_induction {motive : Session → Prop}
    (build : ∀ (s : Session) supplied parent, motive s → motive (s.build supplied parent))
    (choose : ∀ (s : Session) version, motive s → motive { s with default := version })
    {s : Session} (h : motive s) (steps : List Step) : motive (s.run steps) := by
  induction steps generalizing s with
  | nil => exact h
  | cons step steps ih => exact ih (apply_induction build choose h step)

theorem versioned_run {s : Session} (h : s.forest.Versioned) (steps : List Step) :
    (s.run steps).forest.Versioned :=
  run_induction (motive := fun s => s.forest.Versioned)
    (fun s supplied parent hs => hs.create s.default supplied parent) (fun _ _ hs => hs) h steps

theorem versioned_reached (steps : List Step) : (start.run steps).forest.Versioned :=
  versioned_run Forest.versioned_empty steps

/-- What a run keeps of the nodes that are there when it begins. -/
theorem keeps_run {s : Session} (h : s.forest.Versioned) (steps : List Step) :
    Forest.Keeps s.forest (s.run steps).forest := by
  have hboth : (s.run steps).forest.Versioned ∧ Forest.Keeps s.forest (s.run steps).forest := by
    refine run_induction
      (motive := fun t => t.forest.Versioned ∧ Forest.Keeps s.forest t.forest) ?_ ?_
      ⟨h, Forest.Keeps.refl s.forest⟩ steps
    · intro t supplied parent ht
      exact ⟨ht.1.create t.default supplied parent,
        ht.2.trans (ht.1.keeps_create t.default supplied parent)⟩
    · intro t version ht
      exact ht
  exact hboth.2

end FactScope.Session
