import FactScope.Fact

/-!
Trees of nodes. A node keeps the facts known at its own position and sees those of its ancestors.
Nodes are numbered in the order of their creation, so a parent comes before its children and the
walk to the root ends.
-/

namespace FactScope

structure Node where
  facts : Entries Value
  parent : Option Nat
deriving DecidableEq, Repr

structure Forest where
  nodes : Array Node
  parent_lt : ∀ {i : Nat} {node : Node} {p : Nat},
    nodes[i]? = some node → node.parent = some p → p < i

namespace Forest

def empty : Forest where
  nodes := #[]
  parent_lt := by simp

def size (f : Forest) : Nat :=
  f.nodes.size

/-- The facts recorded on a node, in the order in which they were recorded. -/
def facts (f : Forest) (i : Nat) : Entries Value :=
  (f.nodes[i]?.map (·.facts)).getD []

def parent? (f : Forest) (i : Nat) : Option Nat :=
  f.nodes[i]?.bind (·.parent)

theorem lt_of_parent? {f : Forest} {i p : Nat} (h : f.parent? i = some p) : p < i := by
  obtain ⟨node, hnode, hp⟩ := Option.bind_eq_some_iff.mp h
  exact f.parent_lt hnode hp

theorem lt_size_of_parent? {f : Forest} {i p : Nat} (h : f.parent? i = some p) : i < f.size := by
  obtain ⟨node, hnode, _⟩ := Option.bind_eq_some_iff.mp h
  exact (Array.getElem?_eq_some_iff.mp hnode).1

theorem facts_of_size_le {f : Forest} {i : Nat} (h : f.size ≤ i) : f.facts i = [] := by
  simp [facts, Array.getElem?_eq_none h]

theorem parent?_of_size_le {f : Forest} {i : Nat} (h : f.size ≤ i) : f.parent? i = none := by
  simp [parent?, Array.getElem?_eq_none h]

def isRoot (f : Forest) (i : Nat) : Bool :=
  (f.parent? i).isNone

def ancestors (f : Forest) (i : Nat) : List Nat :=
  match _h : f.parent? i with
  | none => []
  | some p => p :: ancestors f p
termination_by i
decreasing_by exact lt_of_parent? ‹_›

def chain (f : Forest) (i : Nat) : List Nat :=
  i :: f.ancestors i

def depth (f : Forest) (i : Nat) : Nat :=
  (f.ancestors i).length

def root (f : Forest) (i : Nat) : Nat :=
  match _h : f.parent? i with
  | none => i
  | some p => root f p
termination_by i
decreasing_by exact lt_of_parent? ‹_›

def hasOwn (f : Forest) (i : Nat) (name : String) : Bool :=
  (f.facts i).has name

/-- The nearest node on the way to the root, the node itself included, that records `name`. -/
def ownerOf? (f : Forest) (i : Nat) (name : String) : Option Nat :=
  if f.hasOwn i name then some i
  else
    match _h : f.parent? i with
    | none => none
    | some p => ownerOf? f p name
termination_by i
decreasing_by exact lt_of_parent? ‹_›

/-- The fact that a node sees under `name`, even if it is recorded as `null`. -/
def get? (f : Forest) (i : Nat) (name : String) : Option Value :=
  (f.ownerOf? i name).bind fun owner => (f.facts owner).get? name

def get (f : Forest) (i : Nat) (name : String) (default : Value) : Value :=
  (f.get? i name).getD default

/-- What a node sees of a well-known fact; a fact that nobody recorded reads as `null`. -/
def see (f : Forest) (i : Nat) (fact : Fact) : Value :=
  f.get i fact.name .null

theorem ancestors_of_root {f : Forest} {i : Nat} (h : f.parent? i = none) : f.ancestors i = [] := by
  rw [ancestors]
  split
  · rfl
  · simp_all

theorem ancestors_of_parent {f : Forest} {i p : Nat} (h : f.parent? i = some p) :
    f.ancestors i = f.chain p := by
  rw [ancestors]
  split
  · simp_all
  · next q hq => rw [h] at hq; cases hq; rfl

theorem root_of_root {f : Forest} {i : Nat} (h : f.parent? i = none) : f.root i = i := by
  rw [root]
  split
  · rfl
  · simp_all

theorem root_of_parent {f : Forest} {i p : Nat} (h : f.parent? i = some p) :
    f.root i = f.root p := by
  rw [root]
  split
  · simp_all
  · next q hq => rw [h] at hq; cases hq; rfl

theorem ownerOf?_of_hasOwn {f : Forest} {i : Nat} {name : String} (h : f.hasOwn i name = true) :
    f.ownerOf? i name = some i := by
  rw [ownerOf?]
  simp [h]

theorem ownerOf?_of_root {f : Forest} {i : Nat} {name : String} (h : f.hasOwn i name = false)
    (hp : f.parent? i = none) : f.ownerOf? i name = none := by
  rw [ownerOf?]
  simp only [h, Bool.false_eq_true, if_false]
  split
  · rfl
  · simp_all

theorem ownerOf?_of_parent {f : Forest} {i p : Nat} {name : String} (h : f.hasOwn i name = false)
    (hp : f.parent? i = some p) : f.ownerOf? i name = f.ownerOf? p name := by
  rw [ownerOf?]
  simp only [h, Bool.false_eq_true, if_false]
  split
  · simp_all
  · next q hq => rw [hp] at hq; cases hq; rfl

def put (f : Forest) (i : Nat) (name : String) (value : Value) : Forest where
  nodes := f.nodes.modify i fun node => { node with facts := node.facts.put name value }
  parent_lt := by
    intro j node p hnode hp
    rw [Array.getElem?_modify] at hnode
    split at hnode
    · obtain ⟨old, hold, rfl⟩ := Option.map_eq_some_iff.mp hnode
      exact f.parent_lt hold hp
    · exact f.parent_lt hnode hp

def push (f : Forest) (facts : Entries Value) (parent : Option (Fin f.size)) : Forest where
  nodes := f.nodes.push ⟨facts, parent.map (·.val)⟩
  parent_lt := by
    intro i node p hnode hp
    rw [Array.getElem?_push] at hnode
    split at hnode
    · next hi =>
      cases hnode
      cases parent with
      | none => simp at hp
      | some parent =>
          simp only [Option.map_some, Option.some.injEq] at hp
          rw [hi, ← hp]
          exact parent.isLt
    · exact f.parent_lt hnode hp

@[simp] theorem size_put (f : Forest) (i : Nat) (name : String) (value : Value) :
    (f.put i name value).size = f.size := by
  simp [size, put]

@[simp] theorem size_push (f : Forest) (facts : Entries Value) (parent : Option (Fin f.size)) :
    (f.push facts parent).size = f.size + 1 := by
  simp [size, push]

theorem facts_put (f : Forest) (i j : Nat) (name : String) (value : Value) :
    (f.put i name value).facts j =
      if i = j ∧ j < f.size then (f.facts j).put name value else f.facts j := by
  simp only [facts, put, Array.getElem?_modify, size]
  by_cases hj : j < f.nodes.size
  · by_cases hi : i = j <;> simp [hi, hj]
  · simp [hj]

@[simp] theorem parent?_put (f : Forest) (i j : Nat) (name : String) (value : Value) :
    (f.put i name value).parent? j = f.parent? j := by
  simp only [parent?, put, Array.getElem?_modify]
  split
  · cases f.nodes[j]? <;> rfl
  · rfl

theorem facts_push_last (f : Forest) (facts : Entries Value) (parent : Option (Fin f.size)) :
    (f.push facts parent).facts f.size = facts := by
  simp [Forest.facts, push, size]

theorem facts_push_of_lt (f : Forest) (facts : Entries Value) (parent : Option (Fin f.size))
    {i : Nat} (h : i < f.size) : (f.push facts parent).facts i = f.facts i := by
  have : i ≠ f.nodes.size := Nat.ne_of_lt h
  simp [Forest.facts, push, Array.getElem?_push, this]

theorem parent?_push_last (f : Forest) (facts : Entries Value) (parent : Option (Fin f.size)) :
    (f.push facts parent).parent? f.size = parent.map (·.val) := by
  simp [parent?, push, size]

theorem parent?_push_of_lt (f : Forest) (facts : Entries Value) (parent : Option (Fin f.size))
    {i : Nat} (h : i < f.size) : (f.push facts parent).parent? i = f.parent? i := by
  have : i ≠ f.nodes.size := Nat.ne_of_lt h
  simp [parent?, push, Array.getElem?_push, this]

end Forest

end FactScope
