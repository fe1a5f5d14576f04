import FactScope.Fault
import FactScope.Value.Text

namespace FactScope.Value

open Text (Points)

def checkText (value : Value) : Except Fault Unit :=
  if greatestDepth < value.depth then .error .tooDeep
  else if value.hasText then .ok ()
  else .error .longInteger

/-- A value as text of its own. A text is itself, whatever its code points. -/
def written (value : Value) : Except Fault Points :=
  match value.points? with
  | some points => .ok points
  | none => do
      value.checkText
      return .ofString value.toText

def spelled (value : Value) : Except Fault Points := do
  value.checkText
  return .ofString value.literal

example : (datum (.points [0xD83D])).written = .ok [0xD83D] ∧
    (datum (.points [0xD83D])).spelled = .ok (.ofString "'\\ud83d'") :=
  ⟨rfl, rfl⟩

end FactScope.Value
