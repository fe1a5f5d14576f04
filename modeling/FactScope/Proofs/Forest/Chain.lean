import FactScope.Forest

namespace FactScope.Forest

variable {f g : Forest} {i j : Nat}

/-- Induction along the parents: from the roots to the nodes below them. -/
@[elab_as_elim]
theorem parentInduction (f : Forest) {motive : Nat → Prop}
    (root : ∀ i, f.parent? i = none → motive i)
    (child : ∀ i p, f.parent? i = some p → motive p → motive i) (i : Nat) : motive i := by
  induction i using Nat.strongRecOn with
  | ind i ih =>
      cases hp : f.parent? i with
      | none => exact root i hp
      | some p => exact child i p hp (ih p (lt_of_parent? hp))

theorem root_le (f : Forest) (i : Nat) : f.root i ≤ i := by
  induction i using f.parentInduction with
  | root i hp => exact Nat.le_of_eq (root_of_root hp)
  | child i p hp ih =>
      rw [root_of_parent hp]
      exact Nat.le_trans ih (Nat.le_of_lt (lt_of_parent? hp))

theorem root_lt_size (h : i < f.size) : f.root i < f.size :=
  Nat.lt_of_le_of_lt (f.root_le i) h

theorem parent?_root (f : Forest) (i : Nat) : f.parent? (f.root i) = none := by
  induction i using f.parentInduction with
  | root i hp => rwa [root_of_root hp]
  | child i p hp ih => rwa [root_of_parent hp]

/-- Induction along the way from the owner of a fact to a node that sees it. -/
theorem ownerInduction {name : String} {motive : Nat → Prop} (h : f.ownerOf? i name = some j)
    (owner : f.hasOwn j name = true → motive j)
    (child : ∀ i p, f.hasOwn i name = false → f.parent? i = some p → motive p → motive i) :
    motive i := by
  induction i using f.parentInduction with
  | root i hp =>
      cases hown : f.hasOwn i name with
      | true =>
          rw [ownerOf?_of_hasOwn hown] at h
          cases h
          exact owner hown
      | false => simp [ownerOf?_of_root hown hp] at h
  | child i p hp ih =>
      cases hown : f.hasOwn i name with
      | true =>
          rw [ownerOf?_of_hasOwn hown] at h
          cases h
          exact owner hown
      | false =>
          rw [ownerOf?_of_parent hown hp] at h
          exact child i p hown hp (ih h)

theorem hasOwn_of_ownerOf? {name : String} (h : f.ownerOf? i name = some j) :
    f.hasOwn j name = true :=
  ownerInduction (motive := fun _ => f.hasOwn j name = true) h id fun _ _ _ _ ih => ih

theorem ownerOf?_le {name : String} (h : f.ownerOf? i name = some j) : j ≤ i :=
  ownerInduction h (fun _ => Nat.le_refl j) fun _ _ _ hp ih =>
    Nat.le_trans ih (Nat.le_of_lt (lt_of_parent? hp))

theorem exists_ownerOf?_of_root {name : String} (h : f.hasOwn (f.root i) name = true) :
    ∃ owner, f.ownerOf? i name = some owner := by
  induction i using f.parentInduction with
  | root i hp =>
      rw [root_of_root hp] at h
      exact ⟨i, ownerOf?_of_hasOwn h⟩
  | child i p hp ih =>
      rw [root_of_parent hp] at h
      cases hown : f.hasOwn i name with
      | true => exact ⟨i, ownerOf?_of_hasOwn hown⟩
      | false =>
          rw [ownerOf?_of_parent hown hp]
          exact ih h

theorem hasOwn_iff {name : String} : f.hasOwn i name = true ↔ name ∈ (f.facts i).keys :=
  Entries.has_iff

theorem get?_of_ownerOf? {name : String} (h : f.ownerOf? i name = some j) :
    f.get? i name = (f.facts j).get? name := by
  simp [get?, h]

theorem see_of_ownerOf? {fact : Fact} (h : f.ownerOf? i fact.name = some j) :
    f.see i fact = ((f.facts j).get? fact.name).getD .null := by
  rw [see, get, get?_of_ownerOf? h]

theorem get?_of_hasOwn {name : String} (h : f.hasOwn i name = true) :
    f.get? i name = (f.facts i).get? name :=
  get?_of_ownerOf? (ownerOf?_of_hasOwn h)

theorem get?_of_parent {p : Nat} {name : String} (h : f.hasOwn i name = false)
    (hp : f.parent? i = some p) : f.get? i name = f.get? p name := by
  simp [get?, ownerOf?_of_parent h hp]

theorem get?_of_root {name : String} (h : f.hasOwn i name = false) (hp : f.parent? i = none) :
    f.get? i name = none := by
  simp [get?, ownerOf?_of_root h hp]

theorem chain_of_root (h : f.parent? i = none) : f.chain i = [i] := by
  rw [chain, ancestors_of_root h]

theorem chain_of_parent {p : Nat} (h : f.parent? i = some p) : f.chain i = i :: f.chain p := by
  rw [chain, ancestors_of_parent h]

theorem eq_root_of_mem_chain {k : Nat} (hk : k ∈ f.chain i) (hroot : f.parent? k = none) :
    k = f.root i := by
  induction i using f.parentInduction with
  | root i hp =>
      rw [chain_of_root hp, List.mem_singleton] at hk
      rw [root_of_root hp, hk]
  | child i p hp ih =>
      rw [chain_of_parent hp] at hk
      rw [root_of_parent hp]
      rcases List.mem_cons.mp hk with rfl | hmem
      · rw [hp] at hroot
        cases hroot
      · exact ih hmem

theorem le_of_mem_chain {k : Nat} (hk : k ∈ f.chain i) : k ≤ i := by
  induction i using f.parentInduction with
  | root i hp =>
      rw [chain_of_root hp, List.mem_singleton] at hk
      omega
  | child i p hp ih =>
      have hlt := lt_of_parent? hp
      rw [chain_of_parent hp] at hk
      rcases List.mem_cons.mp hk with rfl | hmem
      · exact Nat.le_refl k
      · have hle := ih hmem
        omega

theorem get?_eq_or (f : Forest) (i : Nat) (name : String) :
    f.get? i name = ((f.facts i).get? name).or ((f.parent? i).bind fun p => f.get? p name) := by
  cases hown : f.hasOwn i name with
  | true =>
      obtain ⟨value, hget⟩ := Option.isSome_iff_exists.mp hown
      rw [get?_of_hasOwn hown, hget, Option.some_or]
  | false =>
      have hget : (f.facts i).get? name = none := by simpa [hasOwn, Entries.has] using hown
      rw [hget, Option.none_or]
      cases hp : f.parent? i with
      | none => exact get?_of_root hown hp
      | some p => exact get?_of_parent hown hp

theorem see_of_root (h : f.parent? i = none) (fact : Fact) :
    f.see i fact = ((f.facts i).get? fact.name).getD .null := by
  rw [see, get, get?_eq_or, h, Option.bind_none, Option.or_none]

theorem ancestors_congr (h : ∀ k ≤ i, g.parent? k = f.parent? k) :
    g.ancestors i = f.ancestors i := by
  induction i using f.parentInduction with
  | root i hp =>
      rw [ancestors_of_root hp, ancestors_of_root ((h i (Nat.le_refl i)).trans hp)]
  | child i p hp ih =>
      have hle : p ≤ i := Nat.le_of_lt (lt_of_parent? hp)
      rw [ancestors_of_parent hp, ancestors_of_parent ((h i (Nat.le_refl i)).trans hp)]
      simp only [chain]
      rw [ih fun k hk => h k (Nat.le_trans hk hle)]

theorem root_congr (h : ∀ k ≤ i, g.parent? k = f.parent? k) : g.root i = f.root i := by
  induction i using f.parentInduction with
  | root i hp => rw [root_of_root hp, root_of_root ((h i (Nat.le_refl i)).trans hp)]
  | child i p hp ih =>
      have hle : p ≤ i := Nat.le_of_lt (lt_of_parent? hp)
      rw [root_of_parent hp, root_of_parent ((h i (Nat.le_refl i)).trans hp)]
      exact ih fun k hk => h k (Nat.le_trans hk hle)

theorem ownerOf?_congr {name : String} (h : ∀ k ≤ i, g.parent? k = f.parent? k)
    (hown : ∀ k ≤ i, g.hasOwn k name = f.hasOwn k name) :
    g.ownerOf? i name = f.ownerOf? i name := by
  induction i using f.parentInduction with
  | root i hp =>
      have hi := hown i (Nat.le_refl i)
      have hp' : g.parent? i = none := (h i (Nat.le_refl i)).trans hp
      cases hf : f.hasOwn i name with
      | true => rw [ownerOf?_of_hasOwn hf, ownerOf?_of_hasOwn (hi.trans hf)]
      | false => rw [ownerOf?_of_root hf hp, ownerOf?_of_root (hi.trans hf) hp']
  | child i p hp ih =>
      have hle : p ≤ i := Nat.le_of_lt (lt_of_parent? hp)
      have hi := hown i (Nat.le_refl i)
      have hp' : g.parent? i = some p := (h i (Nat.le_refl i)).trans hp
      cases hf : f.hasOwn i name with
      | true => rw [ownerOf?_of_hasOwn hf, ownerOf?_of_hasOwn (hi.trans hf)]
      | false =>
          rw [ownerOf?_of_parent hf hp, ownerOf?_of_parent (hi.trans hf) hp']
          exact ih (fun k hk => h k (Nat.le_trans hk hle))
            fun k hk => hown k (Nat.le_trans hk hle)

theorem get?_congr {name : String} (h : ∀ k ≤ i, g.parent? k = f.parent? k)
    (hfacts : ∀ k ≤ i, (g.facts k).get? name = (f.facts k).get? name) :
    g.get? i name = f.get? i name := by
  have hown : ∀ k ≤ i, g.hasOwn k name = f.hasOwn k name := by
    intro k hk
    simp only [hasOwn, Entries.has, hfacts k hk]
  unfold get?
  rw [ownerOf?_congr h hown]
  cases howner : f.ownerOf? i name with
  | none => rfl
  | some owner => exact hfacts owner (ownerOf?_le howner)

theorem ext_nodes (hsize : f.size = g.size) (hfacts : ∀ i, f.facts i = g.facts i)
    (hparent : ∀ i, f.parent? i = g.parent? i) : f = g := by
  obtain ⟨nodes, hlt⟩ := f
  obtain ⟨others, hlt'⟩ := g
  have hnodes : nodes = others := by
    apply Array.ext hsize
    intro i hi hi'
    have hfact := hfacts i
    have hpar := hparent i
    simp only [facts, parent?, Array.getElem?_eq_getElem hi, Array.getElem?_eq_getElem hi',
      Option.map_some, Option.getD_some, Option.bind_some] at hfact hpar
    cases hnode : nodes[i]
    cases hother : others[i]
    simp_all
  subst hnodes
  rfl

end FactScope.Forest
