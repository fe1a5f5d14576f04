import FactScope.Entries
import FactScope.Fact
import FactScope.QualifiedName

namespace FactScope

/-- What a local name of a call stands for, as far as it tells of a class: nothing, an object of
some class, or a class itself, which is an object of another one. -/
inductive Local where
  | nothing
  | object (className : String)
  | type (name className : String)
deriving DecidableEq, Repr

namespace Local

def className? : Local → Option String
  | nothing => none
  | object className => some className
  | type _ className => some className

def typeName? : Local → Option String
  | type name _ => some name
  | _ => none

end Local

/-- A call in progress, with the module of its code, if that is known, and its local names. -/
structure Frame where
  filename : Value
  line : Value
  function : String
  moduleName : Option String
  locals : Entries Local

namespace Frame

def hasName (frame : Frame) : Bool :=
  frame.function.toList.head? != some '<'

def methodFacts (frame : Frame) : Entries Value :=
  if frame.hasName then [(Fact.method.name, .text frame.function)] else []

def objectClass? (frame : Frame) : Option String :=
  (frame.locals.get? "self").bind Local.className?

def classItself? (frame : Frame) : Option String :=
  (frame.locals.get? "cls").bind Local.typeName?

/-- The class that the call belongs to. A call on a class itself is static. -/
def classFacts (frame : Frame) : Entries Value :=
  match frame.objectClass?, frame.classItself? with
  | some name, _ => [(Fact.classType.name, .text name)]
  | none, some name => [(Fact.classType.name, .text name), (Fact.static.name, .bool true)]
  | none, none => []

def namespaceOf (moduleName : String) : String :=
  String.ofList (moduleName.toList.map fun c => if c = '.' then QualifiedName.sep else c)

def namespaceFacts (frame : Frame) : Entries Value :=
  match frame.moduleName with
  | some name =>
      if name ≠ "" ∧ frame.classFacts ≠ [] then [(Fact.space.name, .text (namespaceOf name))]
      else []
  | none => []

def facts (frame : Frame) : Entries Value :=
  [(Fact.filename.name, frame.filename), (Fact.line.name, frame.line)] ++
    frame.methodFacts ++ frame.classFacts ++ frame.namespaceFacts

end Frame

namespace CallStack

/-- Goes `count` calls further out, and stops early behind the outermost one. -/
def outward : Nat → List Frame → List Frame
  | 0, frames => frames
  | _ + 1, [] => []
  | count + 1, _ :: around => outward count around

/-- The call `index` places out; a negative index stays at the nearest one. -/
def caller? (frames : List Frame) (index : Int) : Option Frame :=
  (outward index.toNat frames).head?

def facts (frames : List Frame) (index : Int) : Entries Value :=
  match caller? frames index with
  | some frame => frame.facts
  | none => []

def advice : String :=
  "detect() is deprecated; let the scanner create contexts instead."

theorem outward_eq_drop (count : Nat) (frames : List Frame) :
    outward count frames = frames.drop count := by
  induction count generalizing frames with
  | zero => rfl
  | succ count ih =>
      cases frames with
      | nil => rfl
      | cons frame around => exact ih around

theorem caller?_eq_getElem? (frames : List Frame) (index : Int) :
    caller? frames index = frames[index.toNat]? := by
  rw [caller?, outward_eq_drop, List.head?_drop]

end CallStack

end FactScope
