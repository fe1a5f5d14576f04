import FactScope.Binary

/-!
Numbers with a fraction or an exponent, and their text. Each stands for a binary fraction and is
kept as the shortest decimal that reads back as it, so equal numbers have equal decimals.
-/

namespace FactScope

/-- A decimal number `± digits · 10 ^ exponent`, an infinity, or no number at all. -/
inductive Decimal where
  | finite (negative : Bool) (digits : Nat) (exponent : Int)
  | infinite (negative : Bool)
  | notANumber
deriving DecidableEq, Repr, Inhabited

namespace Decimal

def strip (digits : Nat) (exponent : Int) : Nat × Int :=
  if digits = 0 then (0, 0)
  else if digits % 10 = 0 then strip (digits / 10) (exponent + 1)
  else (digits, exponent)
termination_by digits

def digitChars (n : Nat) : List Char :=
  Nat.toDigits 10 n

def ofBinary (negative : Bool) (b : Binary) : Decimal :=
  if b.mantissa = 0 then .finite negative 0 0
  else if b.isTooLarge then .infinite negative
  else
    let (digits, exponent) := b.shortest
    let (digits, exponent) := strip digits exponent
    .finite negative digits exponent

def ofRatio (negative : Bool) (n d : Nat) : Decimal :=
  ofBinary negative (Binary.nearest n d)

def normal (negative : Bool) (digits : Nat) (exponent : Int) : Decimal :=
  let magnitude := (Binary.digitCount digits : Int) + exponent
  if digits = 0 ∨ magnitude < -330 then .finite negative 0 0
  else if 330 < magnitude then .infinite negative
  else ofBinary negative (Binary.ofDecimal digits exponent)

def isZero : Decimal → Bool
  | .finite _ digits _ => digits == 0
  | _ => false

def isNegative : Decimal → Bool
  | .finite negative _ _ => negative
  | .infinite negative => negative
  | .notANumber => false

def value? : Decimal → Option (Int × Int)
  | .finite negative digits exponent =>
      let b := Binary.ofDecimal digits exponent
      some (if negative then -b.mantissa else b.mantissa, b.exponent)
  | _ => none

def isInt (d : Decimal) (n : Int) : Bool :=
  match d.value? with
  | some (mantissa, exponent) =>
      mantissa * Nat.pow 2 exponent.toNat == n * Nat.pow 2 (-exponent).toNat
  | none => false

def isBelow (d : Decimal) (n : Int) : Bool :=
  match d.value? with
  | some (mantissa, exponent) =>
      mantissa * Nat.pow 2 exponent.toNat < n * Nat.pow 2 (-exponent).toNat
  | none => d == .infinite true

def negate : Decimal → Decimal
  | .finite negative digits exponent => .finite (!negative) digits exponent
  | .infinite negative => .infinite !negative
  | .notANumber => .notANumber

def add : Decimal → Decimal → Decimal
  | .notANumber, _ | _, .notANumber => .notANumber
  | .infinite a, .infinite b => if a = b then .infinite a else .notANumber
  | .infinite a, _ => .infinite a
  | _, .infinite b => .infinite b
  | a, b =>
      match a.value?, b.value? with
      | some x, some y =>
          let (mantissa, exponent) := Binary.sum x y
          let bothNegative := a.isNegative && b.isNegative
          let (n, d) := Binary.shift 2 mantissa.natAbs 1 (-exponent)
          ofRatio (mantissa < 0 || (mantissa == 0 && bothNegative)) n d
      | _, _ => .notANumber

/-- The number nearest to the product with a positive whole number, which is rounded itself. -/
def times (d : Decimal) (n : Nat) : Decimal :=
  let factor := Binary.nearest n 1
  match d.value? with
  | some (mantissa, exponent) =>
      let (n, d') := Binary.shift 2 (mantissa.natAbs * factor.mantissa) 1
        (-(exponent + factor.exponent))
      ofRatio d.isNegative n d'
  | none => d

/-- Equality of numbers: the two zeros are equal, and what is not a number equals nothing. -/
def sameNumber : Decimal → Decimal → Bool
  | .notANumber, _ => false
  | _, .notANumber => false
  | a, b => a == b || (a.isZero && b.isZero)

/-- How decimals are written: positionally when the point falls from `lowest` up to `highest`
places right of the first digit's left edge, otherwise with an exponent of at least
`exponentDigits` digits. -/
structure Layout where
  lowest : Int
  highest : Int
  exponentDigits : Nat

/-- From `0.0001` up to sixteen digits before the point numbers are written positionally. -/
def layout : Layout := ⟨-3, 16, 2⟩

def zeros (n : Int) : List Char :=
  List.replicate n.toNat '0'

/-- Positional notation; the digits start `point` places left of the decimal point. -/
def positional (digits : List Char) (point : Int) : List Char :=
  if point ≤ 0 then '0' :: '.' :: zeros (-point) ++ digits
  else if digits.length ≤ point.toNat then
    digits ++ zeros (point - digits.length) ++ ['.', '0']
  else digits.take point.toNat ++ '.' :: digits.drop point.toNat

def scientific (width : Nat) (digits : List Char) (point : Int) : List Char :=
  let exponent := point - 1
  let power := digitChars exponent.natAbs
  let mantissa := match digits with
    | [] => []
    | [d] => [d]
    | d :: rest => d :: '.' :: rest
  mantissa ++ 'e' :: (if exponent < 0 then '-' else '+') :: zeros (width - power.length) ++ power

def textChars : Decimal → List Char
  | .notANumber => ['n', 'a', 'n']
  | .infinite negative => (if negative then ['-'] else []) ++ ['i', 'n', 'f']
  | .finite negative digits exponent =>
      let chars := digitChars digits
      let point : Int := chars.length + exponent
      (if negative then ['-'] else []) ++
        if layout.lowest ≤ point ∧ point ≤ layout.highest then positional chars point
        else scientific layout.exponentDigits chars point

def text (d : Decimal) : String :=
  String.ofList d.textChars

example : (normal false 150 (-2)).text = "1.5" := by decide +kernel

example : (normal true 0 0).text = "-0.0" := by decide +kernel

example : (normal false 1 (-4)).text = "0.0001" ∧ (normal false 1 (-5)).text = "1e-05" := by
  decide +kernel

example : (normal false 9007199254740993 0).text = "9007199254740992.0" ∧
    (normal true 18 307).text = "-inf" ∧ (normal false 2 (-324)).text = "0.0" := by
  decide +kernel

example : ((normal false 2133 (-2)).add ((normal false 2 0).times 60)).text =
    "141.32999999999998" := by
  decide +kernel

example : (normal false 1 15).text = "1000000000000000.0" ∧
    (normal false 12 15).text = "1.2e+16" := by
  decide +kernel

end Decimal

end FactScope
