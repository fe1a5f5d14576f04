import FactScope.CodedError
import FactScope.Forest.Growth

namespace FactScope

structure Session where
  forest : Forest
  default : Version

namespace Session

def start : Session := ⟨.empty, .initial⟩

def newRoot (s : Session) (supplied : Entries Value) : Session :=
  { s with forest := s.forest.create s.default supplied none }

def child (s : Session) (of : Nat) (supplied : Entries Value) : Session :=
  if h : of < s.forest.size then
    { s with forest := s.forest.child s.default ⟨of, h⟩ supplied }
  else s

/-- Adds a node beside `of` with its facts updated by `overrides`. -/
def clone (s : Session) (of : Nat) (overrides : Entries Value) : Session :=
  if of < s.forest.size then { s with forest := s.forest.clone s.default of overrides } else s

/-- Adds `count` nodes, the first inside `of` and each further one inside the one before. -/
def nest (s : Session) (of count : Nat) (supplied : Entries Value) : Session :=
  if h : of < s.forest.size then
    { s with forest := s.forest.nest s.default ⟨of, h⟩ supplied count }
  else s

/-- Changes the default version; an unsupported one changes nothing. -/
def setDefault (s : Session) (version : Value) : Except ConfigProblem Session := do
  return { s with default := ← Version.choose version }

inductive Step where
  | newRoot (supplied : Entries Value)
  | child (of : Nat) (supplied : Entries Value)
  | clone (of : Nat) (overrides : Entries Value)
  | nest (of count : Nat) (supplied : Entries Value)
  | setDefault (version : Value)

def apply (s : Session) : Step → Session
  | .newRoot supplied => s.newRoot supplied
  | .child of supplied => s.child of supplied
  | .clone of overrides => s.clone of overrides
  | .nest of count supplied => s.nest of count supplied
  | .setDefault version =>
      match s.setDefault version with
      | .ok s => s
      | .error _ => s

def run (s : Session) (steps : List Step) : Session :=
  steps.foldl apply s

end Session

end FactScope
