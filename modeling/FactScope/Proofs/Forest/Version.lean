import FactScope.Proofs.Forest.Growth
import FactScope.VersionMatch

namespace FactScope.Forest

variable {f : Forest} {supplied : Entries Value} {parent : Option (Fin f.size)} {i j : Nat}

/-- Every root records a version that counts as given. -/
def Versioned (f : Forest) : Prop :=
  ∀ i, i < f.size → f.parent? i = none →
    ∃ version, (f.facts i).get? Fact.version.name = some version ∧ version.truthy = true

theorem versioned_empty : Versioned empty := by
  intro i hi
  exact absurd hi (Nat.not_lt_zero i)

theorem truthy_version (version : Version) : (Value.text version.text).truthy = true := by
  cases version <;> rfl

theorem get?_version_ownFacts (f : Forest) (default : Version) (supplied : Entries Value)
    (parent : Option (Fin f.size)) :
    (f.ownFacts default supplied parent).get? Fact.version.name =
      if (f.foresee supplied parent .version).truthy ∨ parent.isSome then
        supplied.get? Fact.version.name
      else some (.text default.text) := by
  unfold ownFacts
  split
  · exact get?_withLogger f supplied parent (by decide)
  · exact Entries.get?_put_self _ _ _

theorem foresee_of_get? {fact : Fact} {value : Value}
    (h : supplied.get? fact.name = some value) : f.foresee supplied parent fact = value := by
  simp [foresee, h]

theorem foresee_of_get?_none {fact : Fact} {p : Fin f.size}
    (h : supplied.get? fact.name = none) : f.foresee supplied (some p) fact = f.see p fact := by
  simp [foresee, h]

theorem foresee_root_of_get?_none {fact : Fact} (h : supplied.get? fact.name = none) :
    f.foresee supplied none fact = .null := by
  simp [foresee, h]

theorem Versioned.hasOwn_root (h : f.Versioned) (hi : i < f.size) :
    f.hasOwn (f.root i) Fact.version.name = true := by
  obtain ⟨version, hget, -⟩ := h (f.root i) (root_lt_size hi) (f.parent?_root i)
  simp [hasOwn, Entries.has, hget]

theorem Versioned.exists_owner (h : f.Versioned) (hi : i < f.size) :
    ∃ owner, f.ownerOf? i Fact.version.name = some owner :=
  exists_ownerOf?_of_root (h.hasOwn_root hi)

theorem Versioned.create (h : f.Versioned) (default : Version) (supplied : Entries Value)
    (parent : Option (Fin f.size)) : (f.create default supplied parent).Versioned := by
  intro i hi hroot
  rw [size_create] at hi
  rw [parent?_create] at hroot
  rw [facts_create]
  by_cases hnew : i = f.size
  · -- The new node is a root, so it records the version it was given or the default one.
    have hparent : parent = none := by simpa [hnew] using hroot
    subst hparent
    rw [if_pos hnew, get?_version_ownFacts]
    cases hseen : (f.foresee supplied none .version).truthy with
    | false => exact ⟨.text default.text, by simp, truthy_version default⟩
    | true =>
        cases hget : supplied.get? Fact.version.name with
        | none => simp [foresee_root_of_get?_none hget, Value.truthy] at hseen
        | some version =>
            rw [foresee_of_get? hget] at hseen
            exact ⟨version, by simp, hseen⟩
  · have hlt : i < f.size := by omega
    rw [if_neg hnew] at hroot
    rw [if_neg hnew]
    split
    · exact ⟨.text default.text, Entries.get?_put_self _ _ _, truthy_version default⟩
    · exact h i hlt hroot

/-- Building a node keeps the older ones, since a root that it marks records a version already. -/
theorem Versioned.keeps_create (h : f.Versioned) (default : Version) (supplied : Entries Value)
    (parent : Option (Fin f.size)) : Keeps f (f.create default supplied parent) := by
  rw [create_eq]
  have hpush := Keeps.push f (f.ownFacts default supplied parent) parent
  cases hmarked : f.marked? supplied parent with
  | none => exact hpush
  | some i =>
      have hi : i < f.size := lt_size_of_marked? hmarked
      have hown : f.hasOwn i Fact.version.name = true := by
        rw [← root_of_root (parent?_of_marked? hmarked)]
        exact h.hasOwn_root hi
      exact hpush.trans (Keeps.put (by rw [hpush.hasOwn hi, hown]) _)

end FactScope.Forest
