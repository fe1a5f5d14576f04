import FactScope.Yaml.Node

namespace FactScope.Yaml

def Node.tag : Node → Tag
  | scalar tag _ => tag
  | sequence tag _ => tag
  | mapping tag _ => tag

namespace Graph

def tag (g : Graph) (number : Nat) : Tag :=
  g[number]?.elim .unknown Node.tag

def pairs (g : Graph) (number : Nat) : List (Nat × Nat) :=
  match g[number]? with
  | some (.mapping _ pairs) => pairs
  | _ => []

def isMapping (g : Graph) (number : Nat) : Bool :=
  match g[number]? with
  | some (.mapping _ _) => true
  | _ => false

def setPairs (g : Graph) (number : Nat) (pairs : List (Nat × Nat)) : Graph :=
  match g[number]? with
  | some (.mapping tag _) => g.setIfInBounds number (.mapping tag pairs)
  | _ => g

def setText (g : Graph) (number : Nat) : Graph :=
  match g[number]? with
  | some (.scalar _ text) => g.setIfInBounds number (.scalar .str text)
  | some (.sequence _ items) => g.setIfInBounds number (.sequence .str items)
  | some (.mapping _ pairs) => g.setIfInBounds number (.mapping .str pairs)
  | none => g

/-- How far nodes may lead on to each other. -/
def greatestDistance : Nat := 980

/-- What each of some nodes brings in, which all must be mappings; `flattened` takes in what theirs
bring. -/
def broughtByEach (flattened : Nat → Graph → Reading Graph) :
    List Nat → Graph → Reading (List (List (Nat × Nat)) × Graph)
  | [], g => .ok ([], g)
  | item :: rest, g =>
      if g.isMapping item then do
        let g ← flattened item g
        let pairs := g.pairs item
        let (others, g) ← broughtByEach flattened rest g
        return (pairs :: others, g)
      else malformed "expected a mapping for merging"

/-- The pairs that a node under a merge key brings in: those of a mapping, or of several, where
the first mapping that has a key decides. -/
def brought (flattened : Nat → Graph → Reading Graph) (number : Nat) (g : Graph) :
    Reading (List (Nat × Nat) × Graph) :=
  match g[number]? with
  | some (.mapping _ _) => do
      let g ← flattened number g
      return (g.pairs number, g)
  | some (.sequence _ items) => do
      let (each, g) ← broughtByEach flattened items g
      return (each.reverse.flatten, g)
  | _ => malformed "expected a mapping or list of mappings for merging"

/-- Takes in what the merge keys among the further pairs of a mapping bring; `kept` are the pairs
before, last first, and `merged` what other merge keys have brought. Where one of them leads back to
the mapping itself, all its merge keys are done by then. -/
def flattenPairs (flattened : Nat → Graph → Reading Graph) (number : Nat) :
    List (Nat × Nat) → List (Nat × Nat) → List (Nat × Nat) → Graph → Reading Graph
  | kept, [], merged, g =>
      .ok (if merged.isEmpty then g else g.setPairs number (merged ++ kept.reverse))
  | kept, (key, value) :: rest, merged, g =>
      match g.tag key with
      | .merge => do
          let others := kept.reverse ++ rest
          let (pairs, g) ← brought flattened value (g.setPairs number others)
          if g.pairs number = others then
            flattenPairs flattened number kept rest (merged ++ pairs) g
          else return g.setPairs number (merged ++ pairs ++ g.pairs number)
      | .default => flattenPairs flattened number ((key, value) :: kept) rest merged (g.setText key)
      | _ => flattenPairs flattened number ((key, value) :: kept) rest merged g

def flattenTo : Nat → Nat → Graph → Reading Graph
  | 0, _, _ => .error .tooDeep
  | distance + 1, number, g =>
      flattenPairs (flattenTo distance) number [] (g.pairs number) [] g

def flatten (g : Graph) (number : Nat) : Reading Graph :=
  flattenTo greatestDistance number g

def textTo : Nat → Graph → Nat → Reading Text.Points
  | 0, _, _ => .error .tooDeep
  | distance + 1, g, number =>
      match g[number]? with
      | some (.scalar _ text) => .ok text
      | some (.mapping _ pairs) =>
          match pairs.find? fun pair => g.tag pair.1 = .default with
          | some (_, value) => textTo distance g value
          | none => malformed "expected a scalar node"
      | _ => malformed "expected a scalar node"

def text (g : Graph) (number : Nat) : Reading Text.Points :=
  textTo greatestDistance g number

end Graph

end FactScope.Yaml
