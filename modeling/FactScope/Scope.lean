import FactScope.Fault
import FactScope.Forest
import FactScope.QualifiedName
import FactScope.Value.Mapping

namespace FactScope

structure Scope where
  space : Value
  classType : Value
  interfaceType : Value
  traitType : Value
  uses : Value
deriving DecidableEq, Repr

def Forest.scope (f : Forest) (i : Nat) : Scope where
  space := f.see i .space
  classType := f.see i .classType
  interfaceType := f.see i .interfaceType
  traitType := f.see i .traitType
  uses := f.see i .uses

namespace Scope

open QualifiedName

/-- The namespace between separators, or one separator for the global namespace. -/
def currentNamespace (scope : Scope) : Except Fault String :=
  if scope.space.truthy then
    match scope.space with
    | .text space => .ok (String.ofList (collapse (sep :: space.toList ++ [sep])))
    | other => .error (.notJoinable other.kind)
  else .ok (String.ofList [sep])

def enclosingType? (scope : Scope) : Option Value :=
  [scope.classType, scope.interfaceType, scope.traitType].find? (·.truthy)

/-- The alias table in insertion order; a value that is no table holds no alias. -/
def aliases (scope : Scope) : List (Value × Value) :=
  scope.uses.content.entries?.getD []

theorem truthy_of_enclosingType? {scope : Scope} {type : Value}
    (h : scope.enclosingType? = some type) : type.truthy = true := by
  simpa using List.find?_some h

end Scope

end FactScope
