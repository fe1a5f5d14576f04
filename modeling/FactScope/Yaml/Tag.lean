import FactScope.Text.Digits
import FactScope.Text.Points

namespace FactScope.Yaml

open Text.Digits (isDigit hexValue?)

inductive Tag where
  | null
  | bool
  | int
  | float
  | binary
  | timestamp
  | str
  | seq
  | map
  | set
  | omap
  | pairs
  /-- The key under which a mapping takes in others. -/
  | merge
  | default
  | unknown
deriving DecidableEq, Repr

namespace Tag

def names : List (String × Tag) :=
  [("null", null), ("bool", bool), ("int", int), ("float", float), ("binary", binary),
    ("timestamp", timestamp), ("str", str), ("seq", seq), ("map", map), ("set", set),
    ("omap", omap), ("pairs", pairs), ("merge", merge), ("value", default)]

def ofName (name : String) : Tag :=
  match names.find? fun entry => "tag:yaml.org,2002:" ++ entry.1 == name with
  | some (_, tag) => tag
  | none => unknown

end Tag

def splitColons : List Char → List (List Char)
  | [] => [[]]
  | c :: rest =>
      match splitColons rest with
      | [] => [[c]]
      | part :: parts => if c = ':' then [] :: part :: parts else (c :: part) :: parts

namespace PlainText

def isDigitOrGap (c : Char) : Bool :=
  isDigit c || c == '_'

def isSixtieth (part : List Char) : Bool :=
  match part with
  | [a] => isDigit a
  | [a, b] => '0' ≤ a && a ≤ '5' && isDigit b
  | _ => false

def isRun : List Char → Bool
  | first :: rest => isDigit first && rest.all isDigitOrGap
  | [] => false

def isSexagesimal (text : List Char) : Bool :=
  match splitColons text with
  | head :: part :: parts => isRun head && (part :: parts).all isSixtieth
  | _ => false

def withoutSign (text : List Char) : List Char :=
  match text with
  | '-' :: rest => rest
  | '+' :: rest => rest
  | rest => rest

def isWhole (text : List Char) : Bool :=
  match withoutSign text with
  | '0' :: 'b' :: digits => !digits.isEmpty && digits.all fun c => ['0', '1', '_'].contains c
  | '0' :: 'x' :: digits => !digits.isEmpty && digits.all fun c => (hexValue? c).isSome || c == '_'
  | '0' :: digits => digits.all fun c => ('0' ≤ c && c ≤ '7') || c == '_'
  | text => isRun text || isSexagesimal text

def isExponent : List Char → Bool
  | [] => true
  | mark :: sign :: digits =>
      (mark == 'e' || mark == 'E') && (sign == '-' || sign == '+') && !digits.isEmpty &&
        digits.all isDigit
  | _ => false

def isReal (text : List Char) : Bool :=
  let unsigned := withoutSign text
  let whole := unsigned.takeWhile (· != '.')
  match unsigned.drop whole.length with
  | '.' :: rest =>
      let tail := rest.dropWhile isDigitOrGap
      if whole.isEmpty then
        [".inf", ".Inf", ".INF"].contains (String.ofList unsigned) ||
          [".nan", ".NaN", ".NAN"].contains (String.ofList text) ||
          (unsigned.length == text.length && rest.head?.any isDigit && isExponent tail)
      else (isRun whole && isExponent tail) || (isSexagesimal whole && tail.isEmpty)
  | _ => false

def truths : List String :=
  ["yes", "Yes", "YES", "true", "True", "TRUE", "on", "On", "ON"]

def untruths : List String :=
  ["no", "No", "NO", "false", "False", "FALSE", "off", "Off", "OFF"]

def nulls : List String :=
  ["", "~", "null", "Null", "NULL"]

end PlainText

/-- The date and the time of day that a text writes, before they are looked up in the calendar. The
zone is the minutes that the clock is ahead of universal time. -/
structure Timestamp where
  year : Nat
  month : Nat
  day : Nat
  clock : Option (Nat × Nat × Nat × Nat)
  zone : Option Int
  full : Bool
deriving DecidableEq, Repr

namespace Timestamp

/-- Reads at least `least` and at most `most` digits: their number, how many they are and the
rest. -/
def readDigits (least most : Nat) (text : List Char) : Option (Nat × Nat × List Char) :=
  let digits := (text.take most).takeWhile isDigit
  if digits.length < least then none
  else some (Text.Digits.number digits, digits.length, text.drop digits.length)

def readMark (mark : Char) (text : List Char) : Option (List Char) :=
  match text with
  | c :: rest => if c = mark then some rest else none
  | [] => none

def isGap (c : Char) : Bool :=
  c == ' ' || c == '\t'

/-- The millionths of a second that digits behind a point write; further digits do not count. -/
def micros (digits : List Char) : Nat :=
  Text.Digits.number ((digits ++ List.replicate 6 '0').take 6)

def readClock (text : List Char) : Option ((Nat × Nat × Nat × Nat) × List Char) := do
  let (hour, _, text) ← readDigits 1 2 text
  let (minute, _, text) ← readDigits 2 2 (← readMark ':' text)
  let (second, _, text) ← readDigits 2 2 (← readMark ':' text)
  match text with
  | '.' :: rest =>
      return ((hour, minute, second, micros (rest.takeWhile isDigit)), rest.dropWhile isDigit)
  | rest => return ((hour, minute, second, 0), rest)

/-- Reads the zone at the end of a text: universal time, or hours and perhaps minutes ahead or
behind. -/
def readZone (text : List Char) : Option (Option Int) :=
  if text.isEmpty then some none
  else
    match text.dropWhile isGap with
    | ['Z'] => some (some 0)
    | sign :: rest =>
        if sign = '+' ∨ sign = '-' then do
          let (hours, _, rest) ← readDigits 1 2 rest
          let minutes ←
            if rest.isEmpty then some 0
            else do
              let (minutes, _, rest) ← readDigits 2 2 (← readMark ':' rest)
              if rest.isEmpty then some minutes else none
          let ahead : Int := (hours * 60 + minutes : Nat)
          return some (if sign = '-' then -ahead else ahead)
        else none
    | [] => none

/-- The timestamp that a text writes: a date, and behind the letter `T` or a gap perhaps a time. -/
def ofChars? (text : List Char) : Option Timestamp := do
  let (year, _, text) ← readDigits 4 4 text
  let (month, monthWidth, text) ← readDigits 1 2 (← readMark '-' text)
  let (day, dayWidth, text) ← readDigits 1 2 (← readMark '-' text)
  let full := monthWidth == 2 && dayWidth == 2
  match text with
  | [] => return ⟨year, month, day, none, none, full⟩
  | c :: rest =>
      let rest ←
        if c = 'T' ∨ c = 't' then some rest
        else if isGap c then some (rest.dropWhile isGap)
        else none
      let (clock, rest) ← readClock rest
      return ⟨year, month, day, some clock, ← readZone rest, full⟩

end Timestamp

def withoutLineFeed (text : List Char) : List Char :=
  if text.getLast? = some '\n' then text.dropLast else text

/-- The tag of a plain scalar. A line feed at its end does not count; a date on its own has two
digits for month and day, and a mark that begins tags, anchors or references is of no known sort. -/
def Tag.ofPlain (text : Text.Points) : Tag :=
  let chars := withoutLineFeed text.chars
  let word := String.ofList chars
  if text.isEmpty ∨ (word ≠ "" ∧ PlainText.nulls.contains word) then .null
  else if PlainText.truths.contains word ∨ PlainText.untruths.contains word then .bool
  else if PlainText.isReal chars then .float
  else if PlainText.isWhole chars then .int
  else if ["!", "&", "*"].contains word then .unknown
  else if word = "<<" then .merge
  else if word = "=" then .default
  else if (Timestamp.ofChars? chars).any fun t => t.full || t.clock.isSome then .timestamp
  else .str

example : Tag.ofPlain (Text.Points.ofChars "1_000".toList) = .int ∧
    Tag.ofPlain (Text.Points.ofChars "0o7".toList) = .str ∧
    Tag.ofPlain (Text.Points.ofChars "0b_".toList) = .int ∧
    Tag.ofPlain (Text.Points.ofChars "3.1".toList) = .float ∧
    Tag.ofPlain (Text.Points.ofChars "3.1.0".toList) = .str ∧
    Tag.ofPlain (Text.Points.ofChars "1e3".toList) = .str ∧
    Tag.ofPlain (Text.Points.ofChars "y".toList) = .str := by
  decide +kernel

example : Tag.ofPlain (Text.Points.ofChars "2001-01-01".toList) = .timestamp ∧
    Tag.ofPlain (Text.Points.ofChars "2001-1-1".toList) = .str ∧
    Tag.ofPlain (Text.Points.ofChars "2001-1-1 1:02:03 +5".toList) = .timestamp := by
  decide +kernel

end FactScope.Yaml
