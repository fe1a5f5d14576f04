import FactScope.Verbatim
import FactScope.VersionMatch

namespace FactScope

/-- The fact name that a value is. Values that are no text but can be keys name no fact that a
node records. -/
def Value.factName (name : Value) : Except Fault (Option String) :=
  match name with
  | .text s => .ok (some s)
  | other => if other.hashable then .ok none else .error (.notHashable other.kind)

namespace Forest

variable (f : Forest)

def hasOwnNamed (i : Nat) (name : Value) : Except Fault Bool := do
  return (← name.factName).any (f.hasOwn i)

def ownerNamed (i : Nat) (name : Value) : Except Fault (Option Nat) := do
  return (← name.factName).bind (f.ownerOf? i)

def getNamed (i : Nat) (name default : Value) : Except Fault Value := do
  return ((← name.factName).bind (f.get? i)).getD default

def sees (i : Nat) (name : Value) : Bool :=
  match name with
  | .text s => (f.ownerOf? i s).isSome
  | _ => false

def nameAt (i : Nat) (reference : Value) : Except Fault Verbatim.Naming :=
  Verbatim.resolve (f.scope i) reference

def locate (i : Nat) : Except Fault Text.Points :=
  Verbatim.describe (f.site i)

/-- Where the namespace, the type and the reference are strings and everything else has a text, the
absolute name of a reference. -/
def resolveAt (i : Nat) (reference : Value) : Except Fault Resolution :=
  Resolution.resolve (f.scope i) reference

def describe (i : Nat) : Except Fault String :=
  (f.site i).describe

/-- The location of a node as a property. A fault of a missing operation leaves the property
without a value, and its name is then read as a fact. -/
def locationProperty (i : Nat) : Except Fault Value :=
  match f.locate i with
  | .ok location => .ok (.ofPoints location)
  | .error fault =>
      if fault.isMissing then .ok (f.get i "debug_location" .null) else .error fault

def nodeText (i : Nat) : Except Fault Text.Points := do
  let location ← f.locationProperty i
  match location.points? with
  | some points => return points
  | none => throw (.notText location.kind)

def nodeLiteral (i : Nat) : Except Fault Text.Points := do
  let location ← f.locationProperty i
  if location.truthy then
    return .ofString "<ContextNode " ++ (← location.written) ++ .ofString ">"
  else return .ofString "<ContextNode>"

inductive Attribute where
  | value (v : Value)
  | node (i : Option Nat)
  | operation (name : String)
deriving DecidableEq, Repr

def operations : List String :=
  ["root", "ancestors", "child", "clone", "has_own", "lacks_own", "owner_of", "get", "own_facts",
    "matches_version", "fully_qualified_name"]

/-- Reads an attribute: a property, an operation, or else the fact of that name. Names that begin
with an underscore are never facts. -/
def readAttribute (i : Nat) (name : String) : Except Fault Attribute :=
  if name = "parent" ∨ name = "_parent" then .ok (.node (f.parent? i))
  else if name = "is_root" then .ok (.value (.bool (f.isRoot i)))
  else if name = "depth" then .ok (.value (.int (f.depth i)))
  else if name = "debug_location" then (f.locationProperty i).map .value
  else if name = "_facts" then .ok (.value (.object (f.facts i)))
  else if operations.contains name then .ok (.operation name)
  else if name.toList.head? = some '_' then .error (.hiddenName name)
  else .ok (.value (f.get i name .null))

end Forest

end FactScope
