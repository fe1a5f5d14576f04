import FactScope.Decimal
import FactScope.Text.Digits

namespace FactScope.Text.Numeral

open Digits

inductive Flaw where
  | malformed
  | tooLong (digits : Nat)
deriving DecidableEq, Repr

def signed (text : List Char) : Bool × List Char :=
  match text with
  | '-' :: rest => (true, rest)
  | '+' :: rest => (false, rest)
  | rest => (false, rest)

def baseLetter? (base : Nat) : Option Char :=
  if base = 2 then some 'b' else if base = 8 then some 'o' else if base = 16 then some 'x'
  else none

def withoutMark (base : Nat) (text : List Char) : List Char :=
  match text with
  | '0' :: letter :: rest => if baseLetter? base = some letter.toLower then rest else text
  | _ => text

/-- The whole number that a text writes in a base. In base ten there is a limit to its length. -/
def integer (base : Nat) (text : List Char) : Except Flaw Int :=
  let (negative, unsigned) := signed (trim text)
  let digits := withoutMark base unsigned
  let run := (digits.takeWhile isDigit).length
  if base = 10 ∧ greatestCount < run then .error (.tooLong run)
  else
    match numberIn? base digits with
    | some n =>
        if digits.isEmpty then .error .malformed else .ok (if negative then -(n : Int) else n)
    | none => .error .malformed

/-- The exponent that a text is: nothing, or the letter `e`, perhaps a sign, and digits. -/
def exponent? (text : List Char) : Option Int :=
  match text with
  | [] => some 0
  | mark :: rest =>
      let (negative, digits) := signed rest
      if mark.toLower = 'e' ∧ digits ≠ [] ∧ digits.all isDigit then
        some (if negative then -(number digits : Int) else number digits)
      else none

/-- The number that a text without a sign writes: an infinity, what is no number, or digits with
perhaps a point among them and an exponent. -/
def unsigned? (text : List Char) : Option Decimal :=
  let word := String.ofList (text.map Char.toLower)
  if word = "inf" ∨ word = "infinity" then some (.infinite false)
  else if word = "nan" then some .notANumber
  else
    let whole := text.takeWhile isDigit
    let (fraction, tail) : List Char × List Char :=
      match text.drop whole.length with
      | '.' :: rest => (rest.takeWhile isDigit, rest.dropWhile isDigit)
      | rest => ([], rest)
    if whole.isEmpty && fraction.isEmpty then none
    else
      (exponent? tail).map fun power =>
        .normal false (number (whole ++ fraction)) (power - fraction.length)

def decimal? (text : List Char) : Option Decimal :=
  let (negative, unsigned) := signed (trim text)
  (unsigned? unsigned).map fun d => if negative then d.negate else d

example : (integer 10 " -12 ".toList).toOption = some (-12) ∧
    (integer 8 "0o17".toList).toOption = some 15 ∧ (integer 8 "08".toList).toOption = none := by
  decide +kernel

example : (decimal? "1e3".toList).map Decimal.text = some "1000.0" ∧
    (decimal? "-Infinity".toList).map Decimal.text = some "-inf" ∧ decimal? ".".toList = none := by
  decide +kernel

end FactScope.Text.Numeral
