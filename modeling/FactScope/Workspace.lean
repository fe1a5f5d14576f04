import FactScope.Session

/-!
Facts by reference. The facts of a node lie in a table that the node keeps, and the tables that a
caller hands over or is handed lie beside them, where the caller can change them at any time. A
node is built in place: its table is a new one with a copy of the supplied facts, and what is
missing is then recorded where it belongs, which may be the table of an older node. What a table
holds under a name is a value, which nobody changes.
-/

namespace FactScope

structure Placed where
  place : Nat
  parent : Option Nat
deriving DecidableEq, Repr

/-- The tables made so far, the nodes, the places of the tables that the caller holds, and the
default version in force. -/
structure Workspace where
  tables : Array (Entries Value)
  nodes : Array Placed
  held : List Nat
  default : Version
  parent_lt : ∀ {i : Nat} {node : Placed} {p : Nat},
    nodes[i]? = some node → node.parent = some p → p < i

namespace Workspace

def table (w : Workspace) (place : Nat) : Entries Value :=
  w.tables[place]?.getD []

def forest (w : Workspace) : Forest where
  nodes := w.nodes.map fun node => ⟨w.table node.place, node.parent⟩
  parent_lt := by
    intro i node p hnode hp
    rw [Array.getElem?_map] at hnode
    obtain ⟨placed, hplaced, rfl⟩ := Option.map_eq_some_iff.mp hnode
    exact w.parent_lt hplaced hp

def session (w : Workspace) : Session :=
  ⟨w.forest, w.default⟩

def ofSession (s : Session) : Workspace where
  tables := s.forest.nodes.map (·.facts)
  nodes := s.forest.nodes.mapIdx fun i node => ⟨i, node.parent⟩
  held := []
  default := s.default
  parent_lt := by
    intro i node p hnode hp
    rw [Array.getElem?_mapIdx] at hnode
    obtain ⟨old, hold, rfl⟩ := Option.map_eq_some_iff.mp hnode
    exact s.forest.parent_lt hold hp

def start : Workspace :=
  ofSession .start

def hold (w : Workspace) (contents : Entries Value) : Workspace :=
  { w with tables := w.tables.push contents, held := w.tables.size :: w.held }

def fresh (w : Workspace) : Nat :=
  w.tables.size

def write (w : Workspace) (place : Nat) (contents : Entries Value) : Workspace :=
  { w with tables := w.tables.setIfInBounds place contents }

/-- A change by the caller, who reaches no table but those that it holds. -/
def edit (w : Workspace) (place : Nat) (contents : Entries Value) : Workspace :=
  if place ∈ w.held then w.write place contents else w

def record (w : Workspace) (i : Nat) (name : String) (value : Value) : Workspace :=
  match w.nodes[i]? with
  | some node => w.write node.place ((w.table node.place).put name value)
  | none => w

def add (w : Workspace) (contents : Entries Value) (parent : Option (Fin w.forest.size)) :
    Workspace where
  tables := w.tables.push contents
  nodes := w.nodes.push ⟨w.tables.size, parent.map (·.val)⟩
  held := w.held
  default := w.default
  parent_lt := by
    intro i node p hnode hp
    rw [Array.getElem?_push] at hnode
    split at hnode
    · next hi =>
      cases hnode
      obtain ⟨q, -, rfl⟩ := Option.map_eq_some_iff.mp hp
      simpa [hi, Forest.size, forest] using q.isLt
    · exact w.parent_lt hnode hp

def supplyLogger (w : Workspace) (i : Nat) : Workspace :=
  if (w.forest.see i .logger).truthy then w else w.record i Fact.logger.name defaultLogger

def supplyVersion (w : Workspace) (i : Nat) : Workspace :=
  if (w.forest.see i .version).truthy then w
  else w.record (w.forest.root i) Fact.version.name (.text w.default.text)

def build (w : Workspace) (supplied : Entries Value) (parent : Option (Fin w.forest.size)) :
    Workspace :=
  ((w.add supplied parent).supplyLogger w.forest.size).supplyVersion w.forest.size

def child (w : Workspace) (of : Nat) (supplied : Entries Value) : Workspace :=
  if h : of < w.forest.size then w.build supplied (some ⟨of, h⟩) else w

def clone (w : Workspace) (of : Nat) (overrides : Entries Value) : Workspace :=
  if of < w.forest.size then
    w.build ((w.forest.facts of).putAll overrides) (w.forest.parentFin? of)
  else w

/-- Builds `count` nodes, the first inside `of` and each further one inside the one before. -/
def nest (w : Workspace) (of : Nat) (supplied : Entries Value) : Nat → Workspace
  | 0 => w
  | count + 1 =>
      if of < w.forest.size then (w.child of supplied).nest w.forest.size supplied count else w

/-- What callers do. Facts and overrides are handed over as tables that the caller holds. -/
inductive Act where
  | hold (contents : Entries Value)
  | edit (place : Nat) (contents : Entries Value)
  | newRoot (facts : Nat)
  | child (of facts : Nat)
  | clone (of overrides : Nat)
  | nest (of count facts : Nat)
  | ownFacts (of : Nat)
  | setDefault (version : Value)

/-- The step that an act is for the trees, if it is one. A table that the caller does not hold
cannot be handed over. -/
def step? (w : Workspace) : Act → Option Session.Step
  | .newRoot facts => if facts ∈ w.held then some (.newRoot (w.table facts)) else none
  | .child of facts => if facts ∈ w.held then some (.child of (w.table facts)) else none
  | .clone of overrides =>
      if overrides ∈ w.held then some (.clone of (w.table overrides)) else none
  | .nest of count facts =>
      if facts ∈ w.held then some (.nest of count (w.table facts)) else none
  | .setDefault version => some (.setDefault version)
  | .hold _ | .edit _ _ | .ownFacts _ => none

def perform (w : Workspace) : Session.Step → Workspace
  | .newRoot supplied => w.build supplied none
  | .child of supplied => w.child of supplied
  | .clone of overrides => w.clone of overrides
  | .nest of count supplied => w.nest of supplied count
  | .setDefault version =>
      match Version.choose version with
      | .ok version => { w with default := version }
      | .error _ => w

def apply (w : Workspace) (act : Act) : Workspace :=
  match act with
  | .hold contents => w.hold contents
  | .edit place contents => w.edit place contents
  | .ownFacts of => if of < w.forest.size then w.hold (w.forest.facts of) else w
  | act => ((w.step? act).map w.perform).getD w

def run (w : Workspace) (acts : List Act) : Workspace :=
  acts.foldl apply w

end Workspace

end FactScope
