import FactScope.Workspace
import FactScope.Proofs.Session.Run

/-!
Tables of nodes and tables of callers lie apart: what is handed over either way is a copy. So a
caller that changes the tables it holds changes no node, and every act is a step of the session or
leaves the session as it is.
-/

namespace FactScope.Workspace

/-- Every node has a table of its own, which no caller holds. -/
structure Apart (w : Workspace) : Prop where
  place_lt : ∀ {i : Nat} {node : Placed}, w.nodes[i]? = some node → node.place < w.tables.size
  place_inj : ∀ {i j : Nat} {node other : Placed}, w.nodes[i]? = some node →
    w.nodes[j]? = some other → node.place = other.place → i = j
  not_held : ∀ {i : Nat} {node : Placed}, w.nodes[i]? = some node → node.place ∉ w.held
  held_lt : ∀ {place : Nat}, place ∈ w.held → place < w.tables.size

variable {w : Workspace}

theorem apart_start : start.Apart where
  place_lt h := by simp [start, ofSession, Session.start, Forest.empty] at h
  place_inj h := by simp [start, ofSession, Session.start, Forest.empty] at h
  not_held h := by simp [start, ofSession, Session.start, Forest.empty] at h
  held_lt h := by simp [start, ofSession] at h

theorem session_ofSession (s : Session) : (ofSession s).session = s := by
  obtain ⟨⟨nodes, hlt⟩, default⟩ := s
  simp only [session, ofSession, forest, Session.mk.injEq, Forest.mk.injEq, and_true]
  apply Array.ext
  · simp
  · intro i hi hi'
    simp [table, hi']

theorem size_forest (w : Workspace) : w.forest.size = w.nodes.size := by
  simp [Forest.size, forest]

theorem facts_forest (w : Workspace) (i : Nat) :
    w.forest.facts i = (w.nodes[i]?.map fun node => w.table node.place).getD [] := by
  simp only [Forest.facts, forest, Array.getElem?_map, Option.map_map]
  rfl

theorem parent?_forest (w : Workspace) (i : Nat) :
    w.forest.parent? i = w.nodes[i]?.bind (·.parent) := by
  simp only [Forest.parent?, forest, Array.getElem?_map]
  cases w.nodes[i]? <;> rfl

theorem table_write (w : Workspace) (place : Nat) (contents : Entries Value) (other : Nat) :
    (w.write place contents).table other =
      if other = place ∧ place < w.tables.size then contents else w.table other := by
  simp only [table, write, Array.getElem?_setIfInBounds]
  by_cases hother : place = other
  · subst hother
    by_cases hlt : place < w.tables.size <;> simp [hlt]
  · simp [hother, Ne.symm hother]

theorem forest_congr {w' : Workspace} (hnodes : w'.nodes = w.nodes)
    (htable : ∀ {i : Nat} {node : Placed}, w.nodes[i]? = some node →
      w'.table node.place = w.table node.place) :
    w'.forest = w.forest := by
  apply Forest.ext_nodes
  · rw [size_forest, size_forest, hnodes]
  · intro i
    rw [facts_forest, facts_forest, hnodes]
    cases hnode : w.nodes[i]? with
    | none => rfl
    | some node => simp [htable hnode]
  · intro i
    rw [parent?_forest, parent?_forest, hnodes]

theorem table_push (w : Workspace) (contents : Entries Value) {place : Nat}
    (h : place < w.tables.size) :
    (w.tables.push contents)[place]?.getD [] = w.table place := by
  simp [table, Array.getElem?_push_lt h, h]

theorem Apart.hold (h : w.Apart) (contents : Entries Value) : (w.hold contents).Apart where
  place_lt hnode := by
    have hlt := h.place_lt hnode
    simp only [Workspace.hold, Array.size_push]
    omega
  place_inj := h.place_inj
  not_held hnode hmem := by
    rcases List.mem_cons.mp hmem with hplace | hmem
    · exact Nat.ne_of_lt (h.place_lt hnode) hplace
    · exact h.not_held hnode hmem
  held_lt hmem := by
    simp only [Workspace.hold, Array.size_push]
    rcases List.mem_cons.mp hmem with rfl | hmem
    · exact Nat.lt_succ_self _
    · exact Nat.lt_succ_of_lt (h.held_lt hmem)

theorem Apart.forest_hold (h : w.Apart) (contents : Entries Value) :
    (w.hold contents).forest = w.forest :=
  forest_congr rfl fun hnode => table_push w contents (h.place_lt hnode)

theorem Apart.write (h : w.Apart) (place : Nat) (contents : Entries Value) :
    (w.write place contents).Apart where
  place_lt hnode := by
    simp only [Workspace.write, Array.size_setIfInBounds]
    exact h.place_lt hnode
  place_inj := h.place_inj
  not_held := h.not_held
  held_lt hmem := by
    simp only [Workspace.write, Array.size_setIfInBounds]
    exact h.held_lt hmem

theorem Apart.edit (h : w.Apart) (place : Nat) (contents : Entries Value) :
    (w.edit place contents).Apart := by
  unfold Workspace.edit
  split
  · exact h.write place contents
  · exact h

/-- A caller changes no node. -/
theorem Apart.forest_edit (h : w.Apart) (place : Nat) (contents : Entries Value) :
    (w.edit place contents).forest = w.forest := by
  unfold Workspace.edit
  split
  · next hmem =>
    refine forest_congr rfl fun hnode => ?_
    rw [table_write, if_neg]
    rintro ⟨hplace, -⟩
    exact h.not_held hnode (hplace ▸ hmem)
  · rfl

theorem Apart.record (h : w.Apart) (i : Nat) (name : String) (value : Value) :
    (w.record i name value).Apart := by
  unfold Workspace.record
  cases hnode : w.nodes[i]? with
  | none => exact h
  | some node => exact h.write _ _

theorem Apart.facts_write (h : w.Apart) {i : Nat} {node : Placed} (hnode : w.nodes[i]? = some node)
    (contents : Entries Value) (j : Nat) :
    (w.write node.place contents).forest.facts j =
      if i = j then contents else w.forest.facts j := by
  have hplace := h.place_lt hnode
  rw [facts_forest, facts_forest]
  change (w.nodes[j]?.map fun other => (w.write node.place contents).table other.place).getD [] = _
  rcases Decidable.em (i = j) with rfl | hij
  · rw [if_pos rfl, hnode, Option.map_some, Option.getD_some, table_write, if_pos ⟨rfl, hplace⟩]
  · rw [if_neg hij]
    cases hother : w.nodes[j]? with
    | none => rfl
    | some other =>
        have hapart : other.place ≠ node.place := fun heq =>
          hij (h.place_inj hnode hother heq.symm)
        rw [Option.map_some, Option.map_some, table_write, if_neg fun heq => hapart heq.1]

theorem Apart.forest_record (h : w.Apart) (i : Nat) (name : String) (value : Value) :
    (w.record i name value).forest = w.forest.put i name value := by
  have hsize := size_forest w
  cases hnode : w.nodes[i]? with
  | none =>
      have hrecord : w.record i name value = w := by simp [Workspace.record, hnode]
      have hout : w.nodes.size ≤ i := Array.getElem?_eq_none_iff.mp hnode
      rw [hrecord]
      apply Forest.ext_nodes
      · rw [Forest.size_put]
      · intro j
        rw [Forest.facts_put, if_neg (by omega)]
      · intro j
        rw [Forest.parent?_put]
  | some node =>
      have hrecord : w.record i name value =
          w.write node.place ((w.forest.facts i).put name value) := by
        simp [Workspace.record, facts_forest, hnode]
      have hi : i < w.nodes.size := (Array.getElem?_eq_some_iff.mp hnode).1
      rw [hrecord]
      apply Forest.ext_nodes
      · rw [Forest.size_put, size_forest, size_forest]
        rfl
      · intro j
        rw [Forest.facts_put, h.facts_write hnode]
        rcases Decidable.em (i = j) with rfl | hij
        · rw [if_pos rfl, if_pos ⟨rfl, by omega⟩]
        · rw [if_neg hij, if_neg fun heq => hij heq.1]
      · intro j
        rw [Forest.parent?_put, parent?_forest, parent?_forest]
        rfl

theorem Apart.add (h : w.Apart) (contents : Entries Value)
    (parent : Option (Fin w.forest.size)) : (w.add contents parent).Apart where
  place_lt hnode := by
    simp only [Workspace.add, Array.getElem?_push, Array.size_push] at hnode ⊢
    split at hnode
    · cases hnode
      exact Nat.lt_succ_self _
    · exact Nat.lt_succ_of_lt (h.place_lt hnode)
  place_inj hnode hother hplace := by
    simp only [Workspace.add, Array.getElem?_push] at hnode hother
    split at hnode
    · next hi =>
      cases hnode
      split at hother
      · next hj => rw [hi, hj]
      · exact absurd hplace.symm (Nat.ne_of_lt (h.place_lt hother))
    · split at hother
      · cases hother
        exact absurd hplace (Nat.ne_of_lt (h.place_lt hnode))
      · exact h.place_inj hnode hother hplace
  not_held hnode hmem := by
    simp only [Workspace.add, Array.getElem?_push] at hnode
    split at hnode
    · cases hnode
      exact absurd (h.held_lt hmem) (Nat.lt_irrefl _)
    · exact h.not_held hnode hmem
  held_lt hmem := by
    simp only [Workspace.add, Array.size_push]
    exact Nat.lt_succ_of_lt (h.held_lt hmem)

theorem Apart.forest_add (h : w.Apart) (contents : Entries Value)
    (parent : Option (Fin w.forest.size)) :
    (w.add contents parent).forest = w.forest.push contents parent := by
  apply Forest.ext_nodes
  · rw [size_forest, Forest.size_push, size_forest]
    simp [Workspace.add]
  · intro i
    rw [Forest.facts_push, facts_forest, facts_forest, size_forest]
    simp only [Workspace.add, Array.getElem?_push]
    by_cases hi : i = w.nodes.size
    · simp [hi, table]
    · rw [if_neg hi, if_neg hi]
      cases hnode : w.nodes[i]? with
      | none => rfl
      | some node =>
          simp only [Option.map_some, Option.getD_some]
          exact table_push w contents (h.place_lt hnode)
  · intro i
    have hsize := size_forest w
    rw [Forest.parent?_push, parent?_forest, parent?_forest]
    simp only [Workspace.add, Array.getElem?_push, hsize]
    split <;> rfl

end FactScope.Workspace
