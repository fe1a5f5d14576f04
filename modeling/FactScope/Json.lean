import FactScope.Text.Digits
import FactScope.Value

namespace FactScope.Json

open Text.Digits (isDigit number hexNumber?)

inductive Failure where
  | malformed
  | tooDeep
deriving DecidableEq, Repr

abbrev Reading (α : Type) : Type := Except Failure α

def orMalformed {α : Type} : Option α → Reading α
  | some result => .ok result
  | none => .error .malformed

def isBlank (c : Char) : Bool :=
  c = ' ' || c = '\t' || c = '\n' || c = '\r'

def simpleEscape? (c : Char) : Option Char :=
  match c with
  | '"' => some '"'
  | '\\' => some '\\'
  | '/' => some '/'
  | 'b' => some '\x08'
  | 'f' => some '\x0c'
  | 'n' => some '\n'
  | 'r' => some '\r'
  | 't' => some '\t'
  | _ => none

/-- Reads up to the closing quotation mark; `acc` holds what is read so far, last code point
first. The escapes of a surrogate pair stand for one character. -/
def readString (acc : Text.Points) : List Char → Option (Text.Points × List Char)
  | [] => none
  | '"' :: rest => some (Text.Points.combine acc.reverse, rest)
  | '\\' :: 'u' :: a :: b :: c :: d :: rest =>
      match hexNumber? [a, b, c, d] with
      | some code => readString (code :: acc) rest
      | none => none
  | '\\' :: c :: rest =>
      match simpleEscape? c with
      | some plain => readString (plain.toNat :: acc) rest
      | none => none
  | c :: rest => if c.toNat < 0x20 then none else readString (c.toNat :: acc) rest

def readExponent (text : List Char) : Option (Int × List Char) :=
  match text with
  | mark :: rest =>
      if mark = 'e' ∨ mark = 'E' then
        let (negative, rest) := match rest with
          | '-' :: rest => (true, rest)
          | '+' :: rest => (false, rest)
          | rest => (false, rest)
        let digits := rest.takeWhile isDigit
        if digits.isEmpty then none
        else
          let power : Int := number digits
          some (if negative then -power else power, rest.dropWhile isDigit)
      else none
  | [] => none

/-- Reads a number: an integer part without leading zeros, then perhaps a fraction and an
exponent. -/
def readNumber (text : List Char) : Option (Value × List Char) :=
  let (negative, text) := match text with
    | '-' :: rest => (true, rest)
    | text => (false, text)
  let whole := match text with
    | '0' :: _ => ['0']
    | text => text.takeWhile isDigit
  if whole.isEmpty then none
  else
    let rest := text.drop whole.length
    let fraction := match rest with
      | '.' :: rest => rest.takeWhile isDigit
      | _ => []
    let rest := if fraction.isEmpty then rest else rest.drop (fraction.length + 1)
    match readExponent rest with
    | some (power, rest) =>
        let digits := number (whole ++ fraction)
        some (.decimal (.normal negative digits (power - fraction.length)), rest)
    | none =>
        if fraction.isEmpty then
          if Text.Digits.greatestCount < whole.length then none
          else some (.int (if negative then -(number whole : Int) else number whole), rest)
        else
          some (.decimal (.normal negative (number (whole ++ fraction)) (-fraction.length)), rest)

def skip (text : List Char) : List Char :=
  text.dropWhile isBlank

mutual

/-- Reads one value; every nested value and every further element uses up one unit of `fuel`, and
`room` tells how many more collections can be nested. -/
def readValue : Nat → Nat → List Char → Reading (Value × List Char)
  | 0, _, _ => .error .malformed
  | fuel + 1, room, text =>
      match text with
      | '"' :: rest =>
          (orMalformed (readString [] rest)).map fun (points, rest) => (.ofPoints points, rest)
      | '[' :: rest =>
          if room = 0 then .error .tooDeep
          else
            match skip rest with
            | ']' :: rest => .ok (.list [], rest)
            | rest => (readItems fuel (room - 1) rest).map fun (items, rest) =>
                (.list items, rest)
      | '\x7b' :: rest =>
          if room = 0 then .error .tooDeep
          else
            match skip rest with
            | '\x7d' :: rest => .ok (.object [], rest)
            | rest => (readFields fuel (room - 1) rest).map fun (fields, rest) =>
                (.object (Entries.ofList fields), rest)
      | 'n' :: 'u' :: 'l' :: 'l' :: rest => .ok (.null, rest)
      | 't' :: 'r' :: 'u' :: 'e' :: rest => .ok (.bool true, rest)
      | 'f' :: 'a' :: 'l' :: 's' :: 'e' :: rest => .ok (.bool false, rest)
      | 'N' :: 'a' :: 'N' :: rest => .ok (.decimal .notANumber, rest)
      | 'I' :: 'n' :: 'f' :: 'i' :: 'n' :: 'i' :: 't' :: 'y' :: rest =>
          .ok (.decimal (.infinite false), rest)
      | '-' :: 'I' :: 'n' :: 'f' :: 'i' :: 'n' :: 'i' :: 't' :: 'y' :: rest =>
          .ok (.decimal (.infinite true), rest)
      | text => orMalformed (readNumber text)

def readItems : Nat → Nat → List Char → Reading (List Value × List Char)
  | 0, _, _ => .error .malformed
  | fuel + 1, room, text =>
      match readValue fuel room text with
      | .error failure => .error failure
      | .ok (item, rest) =>
          match skip rest with
          | ']' :: rest => .ok ([item], rest)
          | ',' :: rest =>
              (readItems fuel room (skip rest)).map fun (items, rest) => (item :: items, rest)
          | _ => .error .malformed

def readFields : Nat → Nat → List Char → Reading (List (String × Value) × List Char)
  | 0, _, _ => .error .malformed
  | fuel + 1, room, text =>
      match text with
      | '"' :: rest =>
          match readString [] rest with
          | none => .error .malformed
          | some (key, rest) =>
              match skip rest with
              | ':' :: rest =>
                  match readValue fuel room (skip rest) with
                  | .error failure => .error failure
                  | .ok (value, rest) =>
                      match skip rest with
                      | '\x7d' :: rest => .ok ([(Text.Points.shown key, value)], rest)
                      | ',' :: rest =>
                          (readFields fuel room (skip rest)).map fun (fields, rest) =>
                            ((Text.Points.shown key, value) :: fields, rest)
                      | _ => .error .malformed
              | _ => .error .malformed
      | _ => .error .malformed

end

def read (text : String) : Reading Value :=
  let chars := skip text.toList
  match readValue (chars.length + 1) Value.greatestDepth chars with
  | .ok (value, rest) => if (skip rest).isEmpty then .ok value else .error .malformed
  | .error failure => .error failure

def read? (text : String) : Option Value :=
  (read text).toOption

example : read? " [1, 2.50, \"\\u00e9\", \x7b\"a\": null, \"a\": true\x7d] " =
    some (.list
      [.int 1, .decimal (.finite false 25 (-1)), .text "é", .object [("a", .bool true)]]) := by
  decide +kernel

example : read? "01" = none ∧ read? "[1,]" = none ∧ read? "" = none := by decide +kernel

end FactScope.Json
