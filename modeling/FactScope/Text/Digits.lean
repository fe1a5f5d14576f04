import FactScope.Text.Range

namespace FactScope.Text.Digits

def isDigit (c : Char) : Bool :=
  '0' ≤ c && c ≤ '9'

def value (c : Char) : Nat :=
  c.toNat - '0'.toNat

def number (digits : List Char) : Nat :=
  digits.foldl (fun n c => 10 * n + value c) 0

def hexValue? (c : Char) : Option Nat :=
  if isDigit c then some (c.toNat - 48)
  else if 'a' ≤ c ∧ c ≤ 'f' then some (c.toNat - 87)
  else if 'A' ≤ c ∧ c ≤ 'F' then some (c.toNat - 55)
  else none

def numberIn? (base : Nat) (digits : List Char) : Option Nat :=
  digits.foldlM (fun n c => do
    let d ← hexValue? c
    if d < base then some (base * n + d) else none) 0

def hexNumber? (digits : List Char) : Option Nat :=
  numberIn? 16 digits

def greatestCount : Nat := 4300

/-- The code points of the digits zero of all scripts; the other nine digits follow on each. -/
def zeros : List Nat := [
    0x30, 0x660, 0x6F0, 0x7C0, 0x966, 0x9E6, 0xA66, 0xAE6, 0xB66, 0xBE6, 0xC66, 0xCE6, 0xD66,
    0xDE6, 0xE50, 0xED0, 0xF20, 0x1040, 0x1090, 0x17E0, 0x1810, 0x1946, 0x19D0, 0x1A80, 0x1A90,
    0x1B50, 0x1BB0, 0x1C40, 0x1C50, 0xA620, 0xA8D0, 0xA900, 0xA9D0, 0xA9F0, 0xAA50, 0xABF0,
    0xFF10, 0x104A0, 0x10D30, 0x11066, 0x110F0, 0x11136, 0x111D0, 0x112F0, 0x11450, 0x114D0,
    0x11650, 0x116C0, 0x11730, 0x118E0, 0x11950, 0x11C50, 0x11D50, 0x11DA0, 0x16A60, 0x16AC0,
    0x16B50, 0x1D7CE, 0x1D7D8, 0x1D7E2, 0x1D7EC, 0x1D7F6, 0x1E140, 0x1E2F0, 0x1E950, 0x1FBF0]

def wideBlanks : List (Nat × Nat) := [
    (0x85, 0x85), (0xA0, 0xA0), (0x1680, 0x1680), (0x2000, 0x200A), (0x2028, 0x2029),
    (0x202F, 0x202F), (0x205F, 0x205F), (0x3000, 0x3000)]

def isPlainBlank (c : Char) : Bool :=
  c = ' ' || ('\t' ≤ c && c ≤ '\r')

/-- The digit from `0` to `9` for a digit of any script, and the space for any blank; other
characters stay. -/
def plain (c : Char) : Char :=
  if Range.contains wideBlanks c.toNat then ' '
  else
    match zeros.find? fun first => first ≤ c.toNat && c.toNat < first + 10 with
    | some first => Char.ofNat ('0'.toNat + (c.toNat - first))
    | none => c

def trim (text : List Char) : List Char :=
  let text := (text.map plain).dropWhile isPlainBlank
  (text.reverse.dropWhile isPlainBlank).reverse

example : trim "\u2003 ١२\u0020".toList = ['1', '2'] := by decide +kernel

end FactScope.Text.Digits
