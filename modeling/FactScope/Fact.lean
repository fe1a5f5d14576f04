import FactScope.Value

namespace FactScope

inductive Fact where
  | comment
  | filename
  | line
  | character
  | space
  | uses
  | classType
  | interfaceType
  | traitType
  | enumType
  | ancestors
  | interfaces
  | method
  | property
  | type
  | static
  | nullable
  | generated
  | nested
  | annotations
  | logger
  | scanned
  | version
deriving DecidableEq, Repr

namespace Fact

def name : Fact → String
  | comment => "comment"
  | filename => "filename"
  | line => "line"
  | character => "character"
  | space => "namespace"
  | uses => "uses"
  | classType => "class"
  | interfaceType => "interface"
  | traitType => "trait"
  | enumType => "enum"
  | ancestors => "extends"
  | interfaces => "implements"
  | method => "method"
  | property => "property"
  | type => "type"
  | static => "static"
  | nullable => "nullable"
  | generated => "generated"
  | nested => "nested"
  | annotations => "annotations"
  | logger => "logger"
  | scanned => "scanned"
  | version => "version"

def all : List Fact :=
  [comment, filename, line, character, space, uses, classType, interfaceType, traitType, enumType,
    ancestors, interfaces, method, property, type, static, nullable, generated, nested,
    annotations, logger, scanned, version]

def label (fact : Fact) : String :=
  fact.name.toUpper

def ofLabel? (label : String) : Option Fact :=
  all.find? (·.label == label)

theorem mem_all (fact : Fact) : fact ∈ all := by
  cases fact <;> decide

end Fact

/-- The logger that a node without one gets. -/
def defaultLogger : Value :=
  .logger "annoscope.context"

@[simp] theorem truthy_defaultLogger : defaultLogger.truthy = true := rfl

end FactScope
