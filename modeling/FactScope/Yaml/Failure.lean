import FactScope.Calendar
import FactScope.Text.Digits
import FactScope.Text.Points

namespace FactScope.Yaml

inductive Failure where
  | malformed (reason : String)
  | notWhole (base : Nat) (written : Text.Points)
  | tooLong (digits : Nat)
  | notNumber (written : Text.Points)
  /-- A number in base sixty with so many places that the value of one is infinite. -/
  | tooLarge
  | empty
  | notTruth (written : Text.Points)
  | notMoment
  | calendar (fault : CalendarFault)
  | noCodePoint
  /-- An escape beyond all 32-bit numbers with a sign. -/
  | noCode
  | notMomentText
  | tooDeep
deriving DecidableEq, Repr

namespace Failure

def excerpt (written : Text.Points) : String :=
  String.ofList (written.quote.toList.take 200)

def message : Failure → String
  | malformed reason => reason
  | notWhole base written =>
      "invalid literal for int() with base " ++ toString base ++ ": " ++ excerpt written
  | tooLong digits =>
      "Exceeds the limit (" ++ toString Text.Digits.greatestCount ++
        " digits) for integer string conversion: value has " ++ toString digits ++
        " digits; use sys.set_int_max_str_digits() to increase the limit"
  | notNumber written => "could not convert string to float: " ++ written.quote
  | tooLarge => "int too large to convert to float"
  | empty => "string index out of range"
  | notTruth written => written.quote
  | notMoment => "'NoneType' object has no attribute 'groupdict'"
  | calendar fault => fault.message
  | noCodePoint => "chr() arg not in range(0x110000)"
  | noCode => "Python int too large to convert to C int"
  | notMomentText => "expected string or bytes-like object, got 'list'"
  | tooDeep => ""

/-- Whether a text is malformed, as against naming values that do not exist. -/
def isMalformed : Failure → Bool
  | malformed _ => true
  | _ => false

end Failure

abbrev Reading (α : Type) : Type := Except Failure α

def malformed {α : Type} (reason : String) : Reading α :=
  .error (.malformed reason)

end FactScope.Yaml
