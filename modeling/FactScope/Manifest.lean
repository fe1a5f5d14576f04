import FactScope.CodedError
import FactScope.Fact
import FactScope.QualifiedName
import FactScope.Settings.Loading

namespace FactScope.Manifest

def release : String := "0.1.0"

def publicNames : List String :=
  ["AnnoscopeConfig", "ContextNode", "configure", "describe_location", "load_config", "resolve"]

def facts : List (String × String) :=
  Fact.all.map fun fact => (fact.label, fact.name)

def errorCodes : List (String × Nat) :=
  ErrorCode.all.map fun code => (code.name, code.number)

def separator : String :=
  String.ofList [QualifiedName.sep]

def settingsDirectory : String := ".annoscope"

def settingsFile : String := "config.yaml"

/-- The level names and their numbers in alphabetical order; a warning has a short name too. -/
def levelNumbers : List (String × Nat) :=
  let numbers := Level.all.map fun level => (level.name, level.number)
  (("WARN", Level.warning.number) :: numbers).mergeSort fun a b => a.1 ≤ b.1

end FactScope.Manifest
