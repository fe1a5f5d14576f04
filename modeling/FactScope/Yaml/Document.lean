import FactScope.Value.Members
import FactScope.Yaml.Graph
import FactScope.Yaml.ScalarValue

/-!
Documents: the value that a text writes. Of several equal keys the first gives the place and the
last the value, and what a merge key brings in stands before the keys beside it.

Scalars get their values at once, but the content of a collection waits until all collections
around and before it have theirs. So of several failures the one in the outermost collections
counts, and of those the first. When all nodes have their values, the graph is unfolded from its
root up to where a collection stands inside itself.
-/

namespace FactScope.Yaml

inductive Content where
  | list (items : List Nat)
  | rows (pairs : List (Nat × Nat))
  | set (members : List Nat)
  | object (entries : List (Nat × Nat))
deriving Repr

/-- What a node has become: the value of a scalar, or a collection, whose content may still be
awaited. -/
inductive Part where
  | scalar (value : Value)
  | awaited
  | collection (content : Content)
deriving Repr

/-- A document under construction: its number among the documents, its nodes, what they have become,
and the collections in the order in which they get their content. -/
structure Site where
  document : Nat
  graph : Graph
  parts : Array (Option Part)
  queue : Array Nat

abbrev Building (α : Type) : Type := StateT Site Reading α

namespace Building

def node (number : Nat) : Building Node := do
  match (← get).graph[number]? with
  | some node => return node
  | none => throw (.malformed "found a node that is not there")

def put (number : Nat) (part : Part) : Building Unit :=
  modify fun s => { s with parts := s.parts.setIfInBounds number (some part) }

def scalar (number : Nat) (node : Node) : Building Value := do
  let s ← get
  let text ← s.graph.text number
  match node with
  | .mapping .timestamp _ => throw .notMomentText
  | _ => scalarValue [s.document, number] node.tag text

def build (number : Nat) : Building Unit := do
  let s ← get
  if (s.parts[number]?.getD none).isNone then
    let node ← node number
    if [Tag.seq, .map, .set, .omap, .pairs].contains node.tag then
      put number .awaited
      modify fun s => { s with queue := s.queue.push number }
    else if node.tag ∈ [Tag.merge, .default, .unknown] then
      throw (.malformed "could not determine a constructor for the tag")
    else put number (.scalar (← scalar number node))

def buildKey (number : Nat) : Building Unit := do
  build number
  match (← get).parts[number]?.getD none with
  | some (.scalar _) => return
  | _ => throw (.malformed "found unhashable key")

/-- The entries of a mapping when it has taken in what its merge keys bring. -/
def entries (number : Nat) : Building (List (Nat × Nat)) := do
  let s ← get
  let graph ← s.graph.flatten number
  set { s with graph := graph }
  let pairs := graph.pairs number
  for (key, value) in pairs do
    buildKey key
    build value
  return pairs

def row (number : Nat) : Building (Nat × Nat) := do
  match ← node number with
  | .mapping _ [(key, value)] =>
      build key
      build value
      return (key, value)
  | _ => throw (.malformed "expected a mapping of length 1")

def content (number : Nat) : Building Content := do
  match ← node number with
  | .sequence .seq items =>
      items.forM build
      return .list items
  | .sequence .omap items | .sequence .pairs items => return .rows (← items.mapM row)
  | .mapping .map _ => return .object (← entries number)
  | .mapping .set _ => return .set ((← entries number).map (·.1))
  | _ => throw (.malformed "expected a node of another kind")

/-- Gives the collections from a position on in the queue their content; `fuel` is at least the
number of collections that are left. -/
def work : Nat → Nat → Building Unit
  | 0, _ => return
  | fuel + 1, position => do
      match (← get).queue[position]? with
      | some number =>
          put number (.collection (← content number))
          work fuel (position + 1)
      | none => return

end Building

namespace Site

def start (document : Nat) (graph : Graph) : Site :=
  ⟨document, graph, Array.replicate graph.size none, #[]⟩

def finished (s : Site) (root : Nat) : Reading Site := do
  let ((), s) ← (do Building.build root; Building.work s.graph.size 0 : Building Unit).run s
  return s

abbrev Unfolded : Type := Value × List Nat

def marked (mark : Mark) (whole : Value) (back : List Nat) : Value :=
  if back.isEmpty then whole else .loop mark whole

/-- Unfolds the node with a number; `around` are the collections that it stands in. Collections that
lead back nowhere are kept, since they are the same wherever they stand. -/
def unfold (s : Site) : Nat → List Nat → Nat → StateM (Array (Option Value)) Unfolded
  | 0, _, _ => return (.null, [])
  | fuel + 1, around, number => do
      let inner := s.unfold fuel (number :: around)
      let mark : Mark := [s.document, number]
      let row (index : Nat) (pair : Nat × Nat) :
          StateM (Array (Option Value)) Unfolded := do
        let (first, back) ← inner pair.1
        let (second, others) ← inner pair.2
        let back := back ++ others
        return (marked (mark ++ [index]) (.pair first second) back, back)
      let whole (content : Content) : StateM (Array (Option Value)) Unfolded := do
        match content with
        | .list items =>
            let parts ← items.mapM inner
            return (.list (parts.map (·.1)), parts.flatMap (·.2))
        | .rows pairs =>
            let parts ← pairs.zipIdx.mapM fun (pair, index) => row index pair
            return (.list (parts.map (·.1)), parts.flatMap (·.2))
        | .set members =>
            let parts ← members.mapM inner
            let pairs := parts.map fun part => (part.1, Value.null)
            return (.setOf (Value.keysOf (.ofPairs pairs)), [])
        | .object entries =>
            let parts ← entries.mapM fun (key, value) => do
              return ((← inner key).1, ← inner value)
            return (.ofPairs (parts.map fun (key, value) => (key, value.1)),
              parts.flatMap (·.2.2))
      match (← get)[number]?.getD none, s.parts[number]?.getD none with
      | some value, _ => return (value, [])
      | none, some (.scalar value) => return (value, [])
      | none, some (.collection content) =>
          if around.contains number then return (.again mark, [number])
          let (value, back) ← whole content
          let back := back.eraseDups
          if back.isEmpty then modify fun kept => kept.setIfInBounds number (some value)
          return (marked mark value back, back.filter (· != number))
      | none, _ => return (.null, [])

def value (s : Site) (number : Nat) : Value :=
  let kept : Array (Option Value) := Array.replicate s.graph.size none
  let (unfolded, _) := (s.unfold (s.graph.size + 1) [] number).run kept
  unfolded.1

end Site

/-- Reads the value that a text writes. A text without a document writes the null value. The number
tells the text from others whose values are put together with its value. -/
def readNth (number : Nat) (text : String) : Reading Value := do
  match ← Node.readDocument? (← tokens text) with
  | none => return .null
  | some document =>
      let site ← (Site.start number document.graph).finished document.root
      return site.value document.root

def read (text : String) : Reading Value :=
  readNth 0 text

end FactScope.Yaml
