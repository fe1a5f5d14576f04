import FactScope.Proofs.Forest.Walk
import FactScope.Proofs.Workspace.Frame

namespace FactScope

namespace Forest

variable {f : Forest} {i k : Nat} {name : String}

theorem ownerOf?_of_chain_eq {nearer farther : List Nat}
    (hchain : f.chain i = nearer ++ k :: farther)
    (hnearer : ∀ j ∈ nearer, f.hasOwn j name = false) (hk : f.hasOwn k name = true) :
    f.ownerOf? i name = some k := by
  rw [ownerOf?_eq_find?, List.find?_eq_some_iff_append]
  refine ⟨hk, nearer, farther, hchain, fun j hj => ?_⟩
  rw [hnearer j hj]
  rfl

theorem getNamed_text (f : Forest) (i : Nat) (name : String) (default : Value) :
    f.getNamed i (.text name) default = .ok ((f.get? i name).getD default) := rfl

theorem getNamed_of_ownerOf? {value : Value} (howner : f.ownerOf? i name = some k)
    (hvalue : (f.facts k).get? name = some value) (default : Value) :
    f.getNamed i (.text name) default = .ok value := by
  rw [getNamed_text, get?_of_ownerOf? howner, hvalue, Option.getD_some]

theorem getNamed_of_ownerOf?_none (howner : f.ownerOf? i name = none) (default : Value) :
    f.getNamed i (.text name) default = .ok default := by
  rw [getNamed_text, get?, howner, Option.bind_none, Option.getD_none]

theorem sees_text_iff :
    f.sees i (.text name) = true ↔ ∃ k ∈ f.chain i, f.hasOwn k name = true := by
  rw [sees, ownerOf?_eq_find?, List.find?_isSome]

theorem Versioned.ancestors_create (h : f.Versioned) (default : Version)
    (supplied : Entries Value) (parent : Option (Fin f.size)) :
    (f.create default supplied parent).ancestors f.size =
      (parent.map fun p => f.chain p).getD [] := by
  have hparent := parent?_create f default supplied parent f.size
  rw [if_pos rfl] at hparent
  cases parent with
  | none => exact ancestors_of_root hparent
  | some p =>
      have hkeeps := h.keeps_create default supplied (some p)
      rw [ancestors_of_parent hparent, chain, hkeeps.ancestors p.isLt]
      rfl

theorem chain_parentFin? (f : Forest) (i : Nat) :
    ((f.parentFin? i).map fun p => f.chain p).getD [] = f.ancestors i := by
  have hparent := f.map_parentFin? i
  cases hp : f.parentFin? i with
  | none =>
      rw [hp, Option.map_none] at hparent
      exact (ancestors_of_root hparent.symm).symm
  | some p =>
      rw [hp, Option.map_some] at hparent
      exact (ancestors_of_parent hparent.symm).symm

end Forest

namespace Workspace

variable {w : Workspace}

/-- A new node has its parent and the ancestors of its parent for ancestors, then and after all
further acts. -/
theorem Apart.ancestors_build_run (h : w.Apart) (hversioned : w.forest.Versioned)
    (supplied : Entries Value) (parent : Option (Fin w.forest.size)) (later : List Act) :
    ((w.build supplied parent).run later).forest.ancestors w.forest.size =
      (parent.map fun p => w.forest.chain p).getD [] := by
  have hforest : (w.build supplied parent).forest =
      w.forest.create w.default supplied parent :=
    congrArg Session.forest (h.session_build supplied parent)
  have hgrown := hversioned.create w.default supplied parent
  have hkeeps := (h.build supplied parent).keeps_run (hforest ▸ hgrown) later
  have hsize : w.forest.size < (w.build supplied parent).forest.size := by
    rw [hforest, Forest.size_create]
    exact Nat.lt_succ_self _
  rw [hkeeps.ancestors hsize, hforest, hversioned.ancestors_create]

/-- In every state that callers can reach the walks from a node agree with the list of the node and
its ancestors: it follows the links to the parents up to the one root in it and meets no node twice,
and a fact is what the first node in it that owns the fact records, be it null, false or empty. -/
theorem walks_agree (past later : List Act) (i : Fin (start.run past).forest.size)
    (supplied overrides : Entries Value) :
    let w := start.run past
    let f := w.forest
    let child := ((w.child i supplied).run later).forest
    let clone := ((w.clone i overrides).run later).forest
    ((f.ancestors i).Nodup ∧ i.val ∉ f.ancestors i ∧
      (f.chain i).IsChain fun k p => f.parent? k = some p) ∧
    f.depth i = (f.ancestors i).length ∧
    (f.root i = (f.ancestors i).getLast?.getD i ∧ f.root i ∈ f.chain i ∧
      ∀ k ∈ f.chain i, f.isRoot k = true ↔ k = f.root i) ∧
    (child.ancestors f.size = f.chain i ∧ child.depth f.size = f.depth i + 1) ∧
    (clone.ancestors f.size = f.ancestors i ∧ clone.depth f.size = f.depth i) ∧
    ∀ name : String,
      f.ownerNamed i (.text name) = .ok ((f.chain i).find? fun k => f.hasOwn k name) ∧
      (f.sees i (.text name) = true ↔ ∃ k ∈ f.chain i, f.hasOwn k name = true) ∧
      (∀ default, f.ownerNamed i (.text name) = .ok none →
        f.getNamed i (.text name) default = .ok default) ∧
      (∀ default value, (f.facts i).get? name = some value →
        f.ownerNamed i (.text name) = .ok (some i) ∧
          f.getNamed i (.text name) default = .ok value) ∧
      ∀ nearer k farther, f.chain i = nearer ++ k :: farther →
        (∀ j ∈ nearer, f.hasOwn j name = false) → f.hasOwn k name = true →
          f.ownerNamed i (.text name) = .ok (some k) ∧
          ∃ value, (f.facts k).get? name = some value ∧
            ∀ default, f.getNamed i (.text name) default = .ok value := by
  intro w f child clone
  have hapart : w.Apart := apart_run_start past
  have hversioned : f.Versioned := versioned_run_start past
  have hchild : child.ancestors f.size = f.chain i := by
    have hbuild : w.child i supplied = w.build supplied (some i) := dif_pos i.isLt
    simp only [child, hbuild]
    exact hapart.ancestors_build_run hversioned supplied (some i) later
  have hclone : clone.ancestors f.size = f.ancestors i := by
    have hbuild : w.clone i overrides =
        w.build ((f.facts i).putAll overrides) (f.parentFin? i) := if_pos i.isLt
    simp only [clone, hbuild]
    exact (hapart.ancestors_build_run hversioned _ _ later).trans (f.chain_parentFin? i)
  obtain ⟨hitself, hnodup⟩ := List.nodup_cons.mp (f.nodup_chain i)
  refine ⟨⟨hnodup, hitself, f.isChain_chain i⟩, rfl,
    ⟨(f.getLast?_ancestors i).symm, f.root_mem_chain i, fun k => Forest.isRoot_iff_of_mem_chain⟩,
    ⟨hchild, congrArg List.length hchild⟩, ⟨hclone, congrArg List.length hclone⟩, fun name => ?_⟩
  refine ⟨congrArg Except.ok (f.ownerOf?_eq_find? i name), Forest.sees_text_iff, ?_, ?_, ?_⟩
  · intro default howner
    exact Forest.getNamed_of_ownerOf?_none (Except.ok.inj howner) default
  · intro default value hvalue
    have hown : f.hasOwn i name = true := by
      rw [Forest.hasOwn, Entries.has, hvalue]
      rfl
    have howner := Forest.ownerOf?_of_hasOwn hown
    exact ⟨congrArg Except.ok howner, Forest.getNamed_of_ownerOf? howner hvalue default⟩
  · intro nearer k farther hchain hnearer hk
    have howner := Forest.ownerOf?_of_chain_eq hchain hnearer hk
    obtain ⟨value, hvalue⟩ := Option.isSome_iff_exists.mp hk
    exact ⟨congrArg Except.ok howner, value, hvalue, Forest.getNamed_of_ownerOf? howner hvalue⟩

example :
    let w := start.run [.hold [("class", .text "A")], .newRoot 0, .hold [("class", .null)],
      .child 0 2, .hold [], .nest 1 2 4]
    w.forest.ancestors 3 = [2, 1, 0] ∧
      w.forest.getNamed 3 (.text "class") (.text "-") = .ok .null := by
  decide +kernel

end Workspace

end FactScope
