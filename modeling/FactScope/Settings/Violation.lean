import FactScope.CodedError
import FactScope.Settings.Basic

namespace FactScope

inductive PlaceStep where
  | field (name : String)
  | index (n : Nat)
deriving DecidableEq, Repr

def PlaceStep.text : PlaceStep → String
  | field name => name
  | index n => toString n

inductive Rule where
  | level
  | format
  | text
  | list
  | model (required : Section)
  | unpaired
  | absolutePath (written : String)
  | user (fault : Fault)
  | version (written : Text.Points)
  | noExtra
deriving DecidableEq, Repr

namespace Rule

def sort : Rule → String
  | level => "literal_error"
  | format => "literal_error"
  | text => "string_type"
  | list => "list_type"
  | model _ => "model_type"
  | unpaired => "string_unicode"
  | absolutePath _ => "value_error"
  | user _ => "value_error"
  | version _ => "value_error"
  | noExtra => "extra_forbidden"

def pathSentence : String := "File destination must be absolute path: "

def message : Rule → String
  | level => "Input should be 'DEBUG', 'INFO', 'WARNING', 'ERROR' or 'CRITICAL'"
  | format => "Input should be 'json' or 'console'"
  | text => "Input should be a valid string"
  | list => "Input should be a valid list"
  | model required => "Input should be a valid dictionary or instance of " ++ required.model
  | unpaired => "Input should be a valid string, unable to parse raw data as a unicode string"
  | absolutePath written => "Value error, " ++ pathSentence ++ written
  | user fault => "Value error, " ++ fault.message
  | version written =>
      "Value error, " ++
        ConfigProblem.versionSentence (.ofPoints written) (Version.supported.map Version.text)
  | noExtra => "Extra inputs are not permitted"

end Rule

structure Violation where
  place : List PlaceStep
  rule : Rule
  input : Value
deriving DecidableEq, Repr

namespace Violation

def within (step : PlaceStep) (v : Violation) : Violation :=
  { v with place := step :: v.place }

def dottedPlace (v : Violation) : String :=
  ".".intercalate (v.place.map PlaceStep.text)

def toProblem (v : Violation) : ConfigProblem :=
  .invalidValue (.text v.dottedPlace) v.input (.text v.rule.message)

end Violation

/-- The verdict on a value: accepted as `result`, rejected for at least one violation, or
undecided because of a fault, as a path below an unknown home directory cannot be judged. -/
inductive Verdict (α : Type) where
  | accepted (result : α)
  | rejected (first : Violation) (others : List Violation)
  | undecided (fault : Fault)
deriving DecidableEq, Repr

namespace Verdict

variable {α β γ : Type}

def map (f : α → β) : Verdict α → Verdict β
  | accepted a => accepted (f a)
  | rejected first others => rejected first others
  | undecided fault => undecided fault

/-- Both verdicts together, with all violations, those of the first verdict first. A fault keeps
either from being judged, the first one before the second. -/
def both (f : α → β → γ) : Verdict α → Verdict β → Verdict γ
  | undecided fault, _ => undecided fault
  | _, undecided fault => undecided fault
  | accepted a, accepted b => accepted (f a b)
  | accepted _, rejected first others => rejected first others
  | rejected first others, accepted _ => rejected first others
  | rejected first others, rejected next more => rejected first (others ++ next :: more)

def within (step : PlaceStep) : Verdict α → Verdict α
  | accepted a => accepted a
  | rejected first others => rejected (first.within step) (others.map (·.within step))
  | undecided fault => undecided fault

def refuse (rule : Rule) (input : Value) : Verdict α :=
  rejected ⟨[], rule, input⟩ []

def violations : Verdict α → List Violation
  | rejected first others => first :: others
  | _ => []

theorem violations_both (f : α → β → γ) {a : Verdict α} {b : Verdict β}
    (ha : ∀ fault, a ≠ undecided fault) (hb : ∀ fault, b ≠ undecided fault) :
    (both f a b).violations = a.violations ++ b.violations := by
  cases a <;> cases b <;> simp_all [both, violations]

theorem violations_within (step : PlaceStep) (a : Verdict α) :
    (a.within step).violations = a.violations.map (·.within step) := by
  cases a <;> rfl

end Verdict

end FactScope
