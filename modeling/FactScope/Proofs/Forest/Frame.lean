import FactScope.Forest.Query
import FactScope.Proofs.Forest.Chain

namespace FactScope.Forest

/-- The nodes of `f` are nodes of `g` with the same parents, the same names recorded in the same
order and, but for the version, the same values. -/
structure Keeps (f g : Forest) : Prop where
  size_le : f.size ≤ g.size
  parent?_eq : ∀ {i}, i < f.size → g.parent? i = f.parent? i
  keys_eq : ∀ {i}, i < f.size → (g.facts i).keys = (f.facts i).keys
  value_eq : ∀ {i name}, i < f.size → name ≠ Fact.version.name →
    (g.facts i).get? name = (f.facts i).get? name

namespace Keeps

variable {f g k : Forest} {i : Nat}

protected theorem refl (f : Forest) : Keeps f f :=
  ⟨Nat.le_refl _, fun _ => rfl, fun _ => rfl, fun _ _ => rfl⟩

protected theorem trans (hfg : Keeps f g) (hgk : Keeps g k) : Keeps f k where
  size_le := Nat.le_trans hfg.size_le hgk.size_le
  parent?_eq hi := (hgk.parent?_eq (Nat.lt_of_lt_of_le hi hfg.size_le)).trans (hfg.parent?_eq hi)
  keys_eq hi := (hgk.keys_eq (Nat.lt_of_lt_of_le hi hfg.size_le)).trans (hfg.keys_eq hi)
  value_eq hi hname :=
    (hgk.value_eq (Nat.lt_of_lt_of_le hi hfg.size_le) hname).trans (hfg.value_eq hi hname)

theorem parents_eq (h : Keeps f g) (hi : i < f.size) : ∀ k ≤ i, g.parent? k = f.parent? k :=
  fun _ hk => h.parent?_eq (Nat.lt_of_le_of_lt hk hi)

theorem hasOwn (h : Keeps f g) (hi : i < f.size) (name : String) :
    g.hasOwn i name = f.hasOwn i name := by
  rw [Bool.eq_iff_iff, hasOwn_iff, hasOwn_iff, h.keys_eq hi]

theorem ancestors (h : Keeps f g) (hi : i < f.size) : g.ancestors i = f.ancestors i :=
  ancestors_congr (h.parents_eq hi)

theorem root (h : Keeps f g) (hi : i < f.size) : g.root i = f.root i :=
  root_congr (h.parents_eq hi)

theorem ownerOf? (h : Keeps f g) (hi : i < f.size) (name : String) :
    g.ownerOf? i name = f.ownerOf? i name :=
  ownerOf?_congr (h.parents_eq hi) fun _ hk => h.hasOwn (Nat.lt_of_le_of_lt hk hi) name

theorem get? (h : Keeps f g) (hi : i < f.size) {name : String} (hname : name ≠ Fact.version.name) :
    g.get? i name = f.get? i name := by
  unfold Forest.get?
  rw [h.ownerOf? hi]
  cases howner : f.ownerOf? i name with
  | none => rfl
  | some owner => exact h.value_eq (Nat.lt_of_le_of_lt (ownerOf?_le howner) hi) hname

theorem get (h : Keeps f g) (hi : i < f.size) {name : String} (hname : name ≠ Fact.version.name)
    (default : Value) : g.get i name default = f.get i name default := by
  rw [Forest.get, Forest.get, h.get? hi hname]

theorem see (h : Keeps f g) (hi : i < f.size) {fact : Fact}
    (hname : fact.name ≠ Fact.version.name) : g.see i fact = f.see i fact :=
  h.get hi hname .null

theorem scope (h : Keeps f g) (hi : i < f.size) : g.scope i = f.scope i := by
  have hsee (fact : Fact) (hname : fact.name ≠ Fact.version.name) := h.see hi hname
  simp only [Forest.scope]
  rw [hsee .space (by decide), hsee .classType (by decide), hsee .interfaceType (by decide),
    hsee .traitType (by decide), hsee .uses (by decide)]

theorem site (h : Keeps f g) (hi : i < f.size) : g.site i = f.site i := by
  have hsee (fact : Fact) (hname : fact.name ≠ Fact.version.name) := h.see hi hname
  simp only [Forest.site]
  rw [h.scope hi, hsee .method (by decide), hsee .property (by decide), hsee .static (by decide),
    hsee .filename (by decide), hsee .line (by decide), hsee .character (by decide)]

theorem push (f : Forest) (facts : Entries Value) (parent : Option (Fin f.size)) :
    Keeps f (f.push facts parent) where
  size_le := by simp
  parent?_eq hi := parent?_push_of_lt f facts parent hi
  keys_eq hi := by rw [facts_push_of_lt f facts parent hi]
  value_eq hi _ := by rw [facts_push_of_lt f facts parent hi]

theorem put (h : f.hasOwn i Fact.version.name = true) (value : Value) :
    Keeps f (f.put i Fact.version.name value) where
  size_le := by simp
  parent?_eq _ := parent?_put ..
  keys_eq {j} hj := by
    rw [facts_put]
    split
    · next hij =>
      obtain ⟨rfl, -⟩ := hij
      rw [Entries.keys_put, if_pos (hasOwn_iff.mp h)]
    · rfl
  value_eq {j name} hj hname := by
    rw [facts_put]
    split
    · exact Entries.get?_put_of_ne _ _ hname
    · rfl

end Keeps

end FactScope.Forest
