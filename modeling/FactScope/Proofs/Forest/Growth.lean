import FactScope.Forest.Growth
import FactScope.Proofs.Forest.Frame

namespace FactScope.Forest

variable {f : Forest} {supplied : Entries Value} {parent : Option (Fin f.size)} {i j : Nat}

/-- The older node on which building a node records the default version, if there is one: the root
of the tree, where the new node would see no version. -/
def marked? (f : Forest) (supplied : Entries Value) (parent : Option (Fin f.size)) : Option Nat :=
  if (f.foresee supplied parent .version).truthy then none else parent.map fun p => f.root p

theorem marked?_eq_some_iff :
    f.marked? supplied parent = some i ↔
      (f.foresee supplied parent .version).truthy = false ∧
        ∃ p, parent = some p ∧ f.root p = i := by
  unfold marked?
  cases h : (f.foresee supplied parent .version).truthy <;> cases parent <;> simp

theorem parent?_of_marked? (h : f.marked? supplied parent = some i) : f.parent? i = none := by
  obtain ⟨-, p, -, rfl⟩ := marked?_eq_some_iff.mp h
  exact f.parent?_root p

theorem lt_size_of_marked? (h : f.marked? supplied parent = some i) : i < f.size := by
  obtain ⟨-, p, -, rfl⟩ := marked?_eq_some_iff.mp h
  exact root_lt_size p.isLt

def ownFacts (f : Forest) (default : Version) (supplied : Entries Value)
    (parent : Option (Fin f.size)) : Entries Value :=
  if (f.foresee supplied parent .version).truthy ∨ parent.isSome then f.withLogger supplied parent
  else (f.withLogger supplied parent).put Fact.version.name (.text default.text)

theorem facts_push (f : Forest) (facts : Entries Value) (parent : Option (Fin f.size)) (i : Nat) :
    (f.push facts parent).facts i = if i = f.size then facts else f.facts i := by
  split
  · next hi => rw [hi, facts_push_last]
  · next hi =>
      rcases Nat.lt_or_gt_of_ne hi with h | h
      · exact facts_push_of_lt f facts parent h
      · have hout : (f.push facts parent).size ≤ i := by simpa using Nat.succ_le_of_lt h
        rw [facts_of_size_le hout, facts_of_size_le (Nat.le_of_lt h)]

theorem parent?_push (f : Forest) (facts : Entries Value) (parent : Option (Fin f.size))
    (i : Nat) :
    (f.push facts parent).parent? i = if i = f.size then parent.map (·.val) else f.parent? i := by
  split
  · next hi => rw [hi, parent?_push_last]
  · next hi =>
      rcases Nat.lt_or_gt_of_ne hi with h | h
      · exact parent?_push_of_lt f facts parent h
      · have hout : (f.push facts parent).size ≤ i := by simpa using Nat.succ_le_of_lt h
        rw [parent?_of_size_le hout, parent?_of_size_le (Nat.le_of_lt h)]

theorem push_put (h : i < f.size) (name : String) (value : Value) (facts : Entries Value)
    (parent : Option (Fin f.size)) {parent' : Option (Fin (f.put i name value).size)}
    (hparent : parent'.map (·.val) = parent.map (·.val)) :
    (f.put i name value).push facts parent' = (f.push facts parent).put i name value := by
  apply ext_nodes
  · simp
  · intro k
    rw [facts_push, facts_put, facts_put, facts_push, size_put, size_push]
    by_cases hk : k = f.size
    · have hi : ¬(i = k ∧ k < f.size + 1) := by omega
      rw [if_pos hk, if_pos hk, if_neg hi]
    · have hi : (i = k ∧ k < f.size) ↔ (i = k ∧ k < f.size + 1) := by omega
      simp only [if_neg hk, hi]
  · intro k
    rw [parent?_push, parent?_put, parent?_put, parent?_push, hparent, size_put]

/-- Building a node adds it and then marks the root, if the root is marked. -/
theorem create_eq (f : Forest) (default : Version) (supplied : Entries Value)
    (parent : Option (Fin f.size)) :
    f.create default supplied parent =
      match f.marked? supplied parent with
      | none => f.push (f.ownFacts default supplied parent) parent
      | some i =>
          (f.push (f.ownFacts default supplied parent) parent).put i Fact.version.name
            (.text default.text) := by
  unfold create marked? ownFacts
  cases hseen : (f.foresee supplied parent .version).truthy with
  | true => simp
  | false =>
      cases parent with
      | none => simp
      | some p =>
          simp only [Bool.false_eq_true, if_false, Option.isSome_some, or_true, if_true]
          exact push_put (root_lt_size p.isLt) _ _ _ (some p) rfl

theorem facts_create (f : Forest) (default : Version) (supplied : Entries Value)
    (parent : Option (Fin f.size)) (i : Nat) :
    (f.create default supplied parent).facts i =
      if i = f.size then f.ownFacts default supplied parent
      else if f.marked? supplied parent = some i then
        (f.facts i).put Fact.version.name (.text default.text)
      else f.facts i := by
  rw [create_eq]
  cases hmarked : f.marked? supplied parent with
  | none => simp [facts_push]
  | some j =>
      have hj : j < f.size := lt_size_of_marked? hmarked
      rw [facts_put, facts_push, size_push]
      by_cases hi : i = f.size
      · have hne : ¬(j = i ∧ i < f.size + 1) := by omega
        rw [if_neg hne, if_pos hi, if_pos hi]
      · have hiff : (j = i ∧ i < f.size + 1) ↔ j = i := by omega
        simp only [if_neg hi, hiff, Option.some.injEq]

theorem parent?_create (f : Forest) (default : Version) (supplied : Entries Value)
    (parent : Option (Fin f.size)) (i : Nat) :
    (f.create default supplied parent).parent? i =
      if i = f.size then parent.map (·.val) else f.parent? i := by
  rw [create_eq]
  cases hmarked : f.marked? supplied parent with
  | none => exact parent?_push ..
  | some j => rw [parent?_put, parent?_push]

theorem get?_push_of_lt (f : Forest) (own : Entries Value) (parent : Option (Fin f.size))
    (h : i < f.size) (name : String) : (f.push own parent).get? i name = f.get? i name := by
  apply get?_congr
  · intro k hk
    exact parent?_push_of_lt f own parent (Nat.lt_of_le_of_lt hk h)
  · intro k hk
    rw [facts_push_of_lt f own parent (Nat.lt_of_le_of_lt hk h)]

theorem see_push_last (f : Forest) (own : Entries Value) (parent : Option (Fin f.size))
    (fact : Fact) : (f.push own parent).see f.size fact = f.foresee own parent fact := by
  have hfacts := facts_push_last f own parent
  have hparent := parent?_push_last f own parent
  unfold see get
  cases hget : own.get? fact.name with
  | some value =>
      have hown : (f.push own parent).hasOwn f.size fact.name = true := by
        simp [hasOwn, Entries.has, hfacts, hget]
      rw [get?_of_hasOwn hown, hfacts]
      simp [foresee, hget]
  | none =>
      have hown : (f.push own parent).hasOwn f.size fact.name = false := by
        simp [hasOwn, Entries.has, hfacts, hget]
      cases parent with
      | none =>
          rw [get?_of_root hown hparent]
          simp [foresee, hget]
      | some p =>
          rw [get?_of_parent hown hparent, get?_push_of_lt f own (some p) p.isLt]
          simp [foresee, hget, see, get]

theorem root_last {g : Forest} {parent : Option (Fin f.size)}
    (hlast : g.parent? f.size = parent.map (·.val))
    (hold : ∀ k, k < f.size → g.parent? k = f.parent? k) :
    g.root f.size = (parent.map fun p => f.root p).getD f.size := by
  cases parent with
  | none => exact root_of_root hlast
  | some p =>
      rw [root_of_parent hlast]
      apply root_congr
      intro k hk
      exact hold k (Nat.lt_of_le_of_lt hk p.isLt)

theorem root_push_last (f : Forest) (own : Entries Value) (parent : Option (Fin f.size)) :
    (f.push own parent).root f.size = (parent.map fun p => f.root p).getD f.size :=
  root_last (parent?_push_last f own parent) fun _ hk => parent?_push_of_lt f own parent hk

theorem put_push_last (f : Forest) (own : Entries Value) (parent : Option (Fin f.size))
    (name : String) (value : Value) :
    (f.push own parent).put f.size name value = f.push (own.put name value) parent := by
  apply ext_nodes
  · simp
  · intro k
    rw [facts_put, facts_push, facts_push, size_push]
    by_cases hk : k = f.size
    · have hiff : (f.size = k ∧ k < f.size + 1) := by omega
      rw [if_pos hiff, if_pos hk, if_pos hk]
    · have hiff : ¬(f.size = k ∧ k < f.size + 1) := by omega
      rw [if_neg hiff, if_neg hk, if_neg hk]
  · intro k
    rw [parent?_put, parent?_push, parent?_push]

theorem root_create_last (f : Forest) (default : Version) (supplied : Entries Value)
    (parent : Option (Fin f.size)) :
    (f.create default supplied parent).root f.size =
      (parent.map fun p => f.root p).getD f.size := by
  apply root_last
  · rw [parent?_create, if_pos rfl]
  · intro k hk
    rw [parent?_create, if_neg (Nat.ne_of_lt hk)]

def supplyLogger (f : Forest) (i : Nat) : Forest :=
  if (f.see i .logger).truthy then f else f.put i Fact.logger.name defaultLogger

def supplyVersion (f : Forest) (default : Version) (i : Nat) : Forest :=
  if (f.see i .version).truthy then f
  else f.put (f.root i) Fact.version.name (.text default.text)

theorem supplyLogger_push (f : Forest) (supplied : Entries Value)
    (parent : Option (Fin f.size)) :
    (f.push supplied parent).supplyLogger f.size =
      f.push (f.withLogger supplied parent) parent := by
  unfold supplyLogger withLogger
  rw [see_push_last]
  split
  · rfl
  · exact put_push_last f supplied parent _ _

theorem get?_withLogger (f : Forest) (supplied : Entries Value) (parent : Option (Fin f.size))
    {name : String} (hname : name ≠ Fact.logger.name) :
    (f.withLogger supplied parent).get? name = supplied.get? name := by
  unfold withLogger
  split
  · rfl
  · exact Entries.get?_put_of_ne _ _ hname

theorem foresee_withLogger (f : Forest) (supplied : Entries Value) (parent : Option (Fin f.size))
    {fact : Fact} (hname : fact.name ≠ Fact.logger.name) :
    f.foresee (f.withLogger supplied parent) parent fact = f.foresee supplied parent fact := by
  unfold foresee
  rw [get?_withLogger f supplied parent hname]

/-- Building a node is adding it as it was supplied and then recording in place what is missing. -/
theorem create_eq_supply (f : Forest) (default : Version) (supplied : Entries Value)
    (parent : Option (Fin f.size)) :
    f.create default supplied parent =
      ((f.push supplied parent).supplyLogger f.size).supplyVersion default f.size := by
  rw [supplyLogger_push, supplyVersion, see_push_last, root_push_last,
    foresee_withLogger f supplied parent (by decide), create_eq, marked?, ownFacts]
  cases hseen : (f.foresee supplied parent .version).truthy with
  | true => simp
  | false =>
      cases parent with
      | none => simp [put_push_last]
      | some p => simp

end FactScope.Forest
