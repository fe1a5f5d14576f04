import FactScope.Calendar
import FactScope.Decimal
import FactScope.Text.Base64
import FactScope.Text.Points

namespace FactScope

/-- Tells apart what is written alike: the place where something was read. -/
abbrev Mark : Type := List Nat

inductive Datum where
  | date (d : Date)
  | moment (m : Moment)
  | bytes (b : List UInt8)
  | points (p : Text.Points)
  | noNumber (mark : Mark)
deriving DecidableEq, Repr

namespace Datum

def text : Datum → String
  | date d => d.text
  | moment m => m.text
  | bytes b => Text.Quoted.quoteBytes b
  | points p => p.shown
  | noNumber _ => Decimal.notANumber.text

def literal : Datum → String
  | date d => d.literal
  | moment m => m.literal
  | bytes b => Text.Quoted.quoteBytes b
  | points p => p.quote
  | noNumber _ => Decimal.notANumber.text

/-- Equality of data: moments are equal if they are one, and what is no number equals nothing. -/
def alike : Datum → Datum → Bool
  | moment a, moment b => a.same b
  | noNumber _, _ => false
  | a, b => a == b

def truthy : Datum → Bool
  | bytes b => !b.isEmpty
  | _ => true

end Datum

end FactScope
