import FactScope.CallStack
import FactScope.Session

namespace FactScope

inductive Notice where
  | deprecation (advice : String)
deriving DecidableEq, Repr

/-- What a detection gives: the session with the new root as its last node, and the notices that are
issued with it. -/
structure Detection where
  session : Session
  notices : List Notice

/-- Adds a root with the facts of the call `index` places out. -/
def Session.detect (s : Session) (frames : List Frame) (index : Int) : Detection :=
  ⟨s.newRoot (CallStack.facts frames index), [.deprecation CallStack.advice]⟩

end FactScope
