import FactScope.Proofs.Forest.Chain
import Mathlib.Data.List.Chain
import Mathlib.Data.List.Nodup

namespace FactScope.Forest

variable {f : Forest} {i : Nat}

theorem root_mem_chain (f : Forest) (i : Nat) : f.root i ∈ f.chain i := by
  induction i using f.parentInduction with
  | root i hp => simp [chain_of_root hp, root_of_root hp]
  | child i p hp ih =>
      rw [chain_of_parent hp, root_of_parent hp]
      exact List.mem_cons_of_mem i ih

theorem isRoot_iff_of_mem_chain {k : Nat} (hk : k ∈ f.chain i) :
    f.isRoot k = true ↔ k = f.root i := by
  rw [isRoot, Option.isNone_iff_eq_none]
  constructor
  · exact eq_root_of_mem_chain hk
  · rintro rfl
    exact f.parent?_root i

theorem isChain_chain (f : Forest) (i : Nat) :
    (f.chain i).IsChain fun k p => f.parent? k = some p := by
  induction i using f.parentInduction with
  | root i hp =>
      rw [chain_of_root hp]
      exact List.isChain_singleton i
  | child i p hp ih =>
      rw [chain_of_parent hp]
      exact List.isChain_cons_cons.mpr ⟨hp, ih⟩

/-- On the way up the numbers of the nodes fall, so no node is met twice. -/
theorem nodup_chain (f : Forest) (i : Nat) : (f.chain i).Nodup := by
  induction i using f.parentInduction with
  | root i hp =>
      rw [chain_of_root hp]
      exact List.nodup_singleton i
  | child i p hp ih =>
      rw [chain_of_parent hp, List.nodup_cons]
      refine ⟨fun hmem => ?_, ih⟩
      exact absurd (le_of_mem_chain hmem) (Nat.not_le.mpr (lt_of_parent? hp))

theorem getLast?_ancestors (f : Forest) (i : Nat) :
    (f.ancestors i).getLast?.getD i = f.root i := by
  induction i using f.parentInduction with
  | root i hp => rw [ancestors_of_root hp, root_of_root hp, List.getLast?_nil, Option.getD_none]
  | child i p hp ih =>
      rw [ancestors_of_parent hp, root_of_parent hp, chain, List.getLast?_cons, Option.getD_some]
      exact ih

theorem ownerOf?_eq_find? (f : Forest) (i : Nat) (name : String) :
    f.ownerOf? i name = (f.chain i).find? fun k => f.hasOwn k name := by
  induction i using f.parentInduction with
  | root i hp =>
      rw [chain_of_root hp]
      cases hown : f.hasOwn i name with
      | true => rw [ownerOf?_of_hasOwn hown, List.find?_cons, hown]
      | false => rw [ownerOf?_of_root hown hp, List.find?_cons, hown, List.find?_nil]
  | child i p hp ih =>
      rw [chain_of_parent hp]
      cases hown : f.hasOwn i name with
      | true => rw [ownerOf?_of_hasOwn hown, List.find?_cons, hown]
      | false => rw [ownerOf?_of_parent hown hp, List.find?_cons, hown, ih]

end FactScope.Forest
