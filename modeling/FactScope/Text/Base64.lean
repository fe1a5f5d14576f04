import FactScope.Text.Quoted

namespace FactScope.Text.Base64

def bits? (c : Char) : Option Nat :=
  if 'A' ≤ c ∧ c ≤ 'Z' then some (c.toNat - 65)
  else if 'a' ≤ c ∧ c ≤ 'z' then some (c.toNat - 71)
  else if '0' ≤ c ∧ c ≤ '9' then some (c.toNat + 4)
  else if c = '+' then some 62
  else if c = '/' then some 63
  else none

/-- Decodes on from the `place`-th character of a group of four, with the bits left over from the
one before and the number of padding marks since. Two characters and padding up to four end the
text; other characters do not count. -/
def decodeFrom (place rest pads : Nat) : List Char → Option (List UInt8)
  | [] => if place = 0 then some [] else none
  | c :: text =>
      if c = '=' then
        if 2 ≤ place then
          if 4 ≤ place + (pads + 1) then some [] else decodeFrom place rest (pads + 1) text
        else decodeFrom place rest pads text
      else
        match bits? c with
        | none => decodeFrom place rest pads text
        | some n =>
            if place = 0 then decodeFrom 1 n 0 text
            else if place = 1 then
              (decodeFrom 2 (n % 16) 0 text).map (UInt8.ofNat (rest * 4 + n / 16) :: ·)
            else if place = 2 then
              (decodeFrom 3 (n % 4) 0 text).map (UInt8.ofNat (rest * 16 + n / 4) :: ·)
            else (decodeFrom 0 0 0 text).map (UInt8.ofNat (rest * 64 + n) :: ·)

def decode (text : List Char) : Option (List UInt8) :=
  decodeFrom 0 0 0 text

example : decode "TWFu\nTQ==".toList = some [77, 97, 110, 77] ∧ decode "TWF".toList = none ∧
    decode "T W E =".toList = some [77, 97] := by
  decide +kernel

end FactScope.Text.Base64

namespace FactScope.Text.Quoted

def escapeByte (quote : Char) (byte : UInt8) : List Char :=
  if 0x7F ≤ byte then '\\' :: 'x' :: hex 2 byte.toNat
  else
    let c := Char.ofNat byte.toNat
    if c < ' ' ∧ c ≠ '\n' ∧ c ≠ '\r' ∧ c ≠ '\t' then '\\' :: 'x' :: hex 2 byte.toNat
    else escape quote c

def quoteBytes (bytes : List UInt8) : String :=
  let quote := mark (bytes.map fun byte => Char.ofNat byte.toNat)
  String.ofList ('b' :: quote :: bytes.flatMap (escapeByte quote) ++ [quote])

example : quoteBytes [104, 39, 0, 255] = "b\"h'\\x00\\xff\"" := by decide +kernel

end FactScope.Text.Quoted
