import FactScope.Text.Lowercase
import FactScope.Text.Numeral
import FactScope.Value
import FactScope.Yaml.Failure
import FactScope.Yaml.Tag

namespace FactScope.Yaml

open Text (Points)

namespace ScalarValue

def lowerFrom (before : List Char) : Points → Points
  | [] => Points.ofChars (Text.Lowercase.lower before.reverse)
  | code :: rest =>
      if Points.isSurrogate code then
        Points.ofChars (Text.Lowercase.lower before.reverse) ++ code :: lowerFrom [] rest
      else lowerFrom (Char.ofNat code :: before) rest

def lower (text : Points) : Points :=
  lowerFrom [] text

def parts : Points → List Points
  | [] => [[]]
  | code :: rest =>
      match parts rest with
      | [] => [[code]]
      | part :: others =>
          if code = ':'.toNat then [] :: part :: others else (code :: part) :: others

/-- A number without gaps, and whether a minus comes first; there must be something to look at. -/
def unsigned (text : Points) : Reading (Bool × Points) :=
  match text.filter (· != '_'.toNat) with
  | [] => .error .empty
  | first :: rest =>
      if first = '-'.toNat then .ok (true, rest)
      else if first = '+'.toNat then .ok (false, rest)
      else .ok (false, first :: rest)

def whole (base : Nat) (text : Points) : Reading Int :=
  match Text.Numeral.integer base text.chars with
  | .ok n => .ok n
  | .error .malformed => .error (.notWhole base text)
  | .error (.tooLong digits) => .error (.tooLong digits)

/-- A whole number: binary behind `0b`, hexadecimal behind `0x`, octal behind any other zero, and in
base sixty with colons. -/
def int (text : Points) : Reading Int := do
  let (negative, digits) ← unsigned text
  let n ←
    match digits.chars with
    | [] => .error .empty
    | ['0'] => pure 0
    | '0' :: 'b' :: _ => whole 2 (digits.drop 2)
    | '0' :: 'x' :: _ => whole 16 (digits.drop 2)
    | '0' :: _ => whole 8 digits
    | chars =>
        if chars.contains ':' then do
          let parts ← (parts digits).mapM (whole 10)
          pure (parts.foldl (fun n part => 60 * n + part) 0)
        else whole 10 digits
  return if negative then -n else n

def real (text : Points) : Reading Decimal :=
  match Text.Numeral.decimal? text.chars with
  | some d => .ok d
  | none => .error (.notNumber text)

/-- Adds up the parts of a number in base sixty, the last part first; `unit` is the value of one in
the next part. -/
def sumSixtieths (unit : Nat) (sum : Decimal) : List Decimal → Reading Decimal
  | [] => .ok sum
  | part :: others =>
      if (Binary.nearest unit 1).isTooLarge then .error .tooLarge
      else sumSixtieths (unit * 60) (sum.add (part.times unit)) others

def float (text : Points) : Reading Decimal := do
  let (negative, digits) ← unsigned (lower text)
  let chars := digits.chars
  let d ←
    if chars = ".inf".toList then pure (.infinite false)
    else if chars = ".nan".toList then pure .notANumber
    else if chars.contains ':' then do
      let parts ← (parts digits).mapM real
      sumSixtieths 1 (.finite false 0 0) parts.reverse
    else real digits
  return if negative then d.negate else d

def isNoNumber (text : Points) : Bool :=
  match unsigned (lower text) with
  | .ok (_, digits) => digits.chars == ".nan".toList
  | .error _ => false

/-- The value of a number at some place. The word for no number always means the same value, but
any other text for none means a value of its own. -/
def floatAt (mark : Mark) (text : Points) : Reading Value := do
  let d ← float text
  if d = .notANumber ∧ isNoNumber text = false then return .datum (.noNumber mark)
  else return .decimal d

def bool (text : Points) : Reading Bool :=
  let word := lower text
  match word.string? with
  | some s =>
      if ["yes", "true", "on"].contains s then .ok true
      else if ["no", "false", "off"].contains s then .ok false
      else .error (.notTruth word)
  | none => .error (.notTruth word)

def binary (text : Points) : Reading (List UInt8) :=
  if text.all (· < 0x80) then
    match Text.Base64.decode text.chars with
    | some bytes => .ok bytes
    | none => malformed "failed to decode base64 data"
  else malformed "failed to convert base64 data into ascii"

def timestamp (text : Points) : Reading Datum :=
  match Timestamp.ofChars? (withoutLineFeed text.chars) with
  | none => .error .notMoment
  | some t =>
      match t.clock with
      | none => ((Date.make t.year t.month t.day).map Datum.date).mapError .calendar
      | some clock =>
          ((Moment.make (t.year, t.month, t.day) clock t.zone).map Datum.moment).mapError .calendar

end ScalarValue

def scalarValue (mark : Mark) (tag : Tag) (text : Points) : Reading Value :=
  match tag with
  | .null => .ok .null
  | .bool => (ScalarValue.bool text).map .bool
  | .int => (ScalarValue.int text).map .int
  | .float => ScalarValue.floatAt mark text
  | .binary => (ScalarValue.binary text).map fun bytes => .datum (.bytes bytes)
  | .timestamp => (ScalarValue.timestamp text).map .datum
  | .str => .ok (.ofPoints text)
  | _ => malformed "could not determine a constructor for the tag"

def plainValue (text : String) : Reading Value :=
  let points := Points.ofChars text.toList
  scalarValue [] (Tag.ofPlain points) points

example : (plainValue "1_000").toOption = some (.int 1000) ∧
    (plainValue "010").toOption = some (.int 8) ∧
    (plainValue "-0x1F").toOption = some (.int (-31)) ∧
    (plainValue "1:30").toOption = some (.int 90) ∧ (plainValue "0b_").toOption = none := by
  decide +kernel

example : (plainValue "3.1").toOption = some (.decimal (.finite false 31 (-1))) ∧
    (plainValue "3.1.0").toOption = some (.text "3.1.0") ∧
    (plainValue "Off").toOption = some (.bool false) := by
  decide +kernel

end FactScope.Yaml
