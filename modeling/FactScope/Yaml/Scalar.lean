import FactScope.Text.Digits
import FactScope.Yaml.Cursor
import FactScope.Yaml.Failure

namespace FactScope.Yaml

open Text.Digits (isDigit hexNumber?)

def plainLength (inFlow : Bool) : List Char → Nat
  | [] => 0
  | c :: rest =>
      if isBlank c then 0
      else if c = ':' && (rest.head?.all isBlank ||
          (inFlow && rest.head?.any [',', '[', ']', '\x7b', '\x7d'].contains)) then 0
      else if inFlow && [',', '?', '[', ']', '\x7b', '\x7d'].contains c then 0
      else plainLength inFlow rest + 1

/-- Folds line breaks: a single one is a space, of several the first is dropped. -/
def fold (first : Char) (others : List Char) : List Char :=
  if first ≠ '\n' then first :: others
  else if others.isEmpty then [' ']
  else others

/-- The line breaks among the blanks ahead, unless a document marker follows one of them. -/
def breaksBeforePlain : Nat → Cursor → Option (List Char) × Cursor
  | 0, c => (some [], c)
  | fuel + 1, c =>
      if c.atMarker then (none, c)
      else
        let c := (c.span (· == ' ')).2
        match c.peek with
        | some char =>
            if isBreak char then
              let (others, c) := breaksBeforePlain fuel c.advance
              (others.map (breakChar char :: ·), c)
            else (some [], c)
        | none => (some [], c)

/-- The blanks between the parts of a plain scalar, with line breaks folded, and whether there were
line breaks. No text means that the scalar ends here. -/
def plainGap (c : Cursor) : List Char × Cursor × Bool :=
  let (blanks, c) := c.span (· == ' ')
  match c.peek with
  | some char =>
      if isBreak char then
        match breaksBeforePlain (c.left + 1) c.advance with
        | (some others, c) => (fold (breakChar char) others, c, true)
        | (none, c) => ([], c, true)
      else (blanks, c, false)
  | none => (blanks, c, false)

/-- A scalar that is read: its text, the position behind it, and whether a line break is the last
thing that was read. -/
structure ScalarText where
  text : List Char
  cursor : Cursor
  afterBreak : Bool

/-- Reads on a plain scalar, behind a gap that is part of it if more follows; its further lines are
indented by at least `indent`. -/
def readPlain (inFlow : Bool) (indent : Int) : Nat → Cursor → List Char → Bool → ScalarText
  | 0, c, _, afterBreak => ⟨[], c, afterBreak⟩
  | fuel + 1, c, gap, afterBreak =>
      let length := plainLength inFlow c.rest
      if c.peek = some '#' ∨ length = 0 then ⟨[], c, afterBreak⟩
      else
        let part := gap ++ c.rest.take length
        let (gap, c, afterBreak) := plainGap (c.advanceBy length)
        if gap.isEmpty ∨ c.peek = some '#' ∨ (!inFlow ∧ (c.column : Int) < indent) then
          ⟨part, c, afterBreak⟩
        else
          let more := readPlain inFlow indent fuel c gap afterBreak
          { more with text := part ++ more.text }

def breaksInQuoted : Nat → Cursor → Reading (List Char × Cursor)
  | 0, c => .ok ([], c)
  | fuel + 1, c =>
      if c.atMarker then malformed "found unexpected document separator"
      else
        let c := (c.span fun char => char == ' ' || char == '\t').2
        match c.peek with
        | some char =>
            if isBreak char then do
              let (others, c) ← breaksInQuoted fuel c.advance
              return (breakChar char :: others, c)
            else return ([], c)
        | none => return ([], c)

def simpleEscape? (c : Char) : Option Char :=
  match c with
  | '0' => some '\x00'
  | 'a' => some '\x07'
  | 'b' => some '\x08'
  | 't' => some '\t'
  | '\t' => some '\t'
  | 'n' => some '\n'
  | 'v' => some '\x0b'
  | 'f' => some '\x0c'
  | 'r' => some '\r'
  | 'e' => some '\x1b'
  | ' ' => some ' '
  | '"' => some '"'
  | '\\' => some '\\'
  | '/' => some '/'
  | 'N' => some '\x85'
  | '_' => some '\u00a0'
  | 'L' => some '\u2028'
  | 'P' => some '\u2029'
  | _ => none

def escapeWidth? (c : Char) : Option Nat :=
  match c with
  | 'x' => some 2
  | 'u' => some 4
  | 'U' => some 8
  | _ => none

def codePoint (code : Nat) : Reading Nat :=
  if code < 0x110000 then .ok code
  else if code < 0x80000000 then .error .noCodePoint
  else .error .noCode

def readEscape (c : Cursor) : Reading (Text.Points × Cursor) :=
  match c.peek with
  | none => malformed "found unexpected end of stream"
  | some char =>
      if let some plain := simpleEscape? char then .ok ([plain.toNat], c.advance)
      else if let some width := escapeWidth? char then
        let digits := c.advance.rest.take width
        match hexNumber? digits with
        | some code =>
            if digits.length = width then do
              return ([← codePoint code], c.advanceBy (width + 1))
            else malformed "expected escape sequence of hexadecimal numbers"
        | none => malformed "expected escape sequence of hexadecimal numbers"
      else if isBreak char then do
        let (breaks, c) ← breaksInQuoted (c.left + 1) c.advance
        return (Text.Points.ofChars breaks, c)
      else malformed "found unknown escape character"

/-- Reads a quoted scalar up to its closing quotation mark; `acc` holds what is read so far, last
code point first. -/
def readQuoted (mark : Char) :
    Nat → Cursor → Text.Points → Reading (Text.Points × Cursor)
  | 0, _, _ => malformed "found unexpected end of stream"
  | fuel + 1, c, acc =>
      match c.rest with
      | [] => malformed "found unexpected end of stream"
      | char :: rest =>
          if char = mark then
            if mark = '\'' ∧ rest.head? = some '\'' then
              readQuoted mark fuel (c.advanceBy 2) (char.toNat :: acc)
            else .ok (acc.reverse, c.advance)
          else if char = '\\' ∧ mark = '"' then do
            let (text, c) ← readEscape c.advance
            readQuoted mark fuel c (text.reverse ++ acc)
          else if isBlank char then
            let (blanks, c) := c.span fun char => char == ' ' || char == '\t'
            match c.peek with
            | none => malformed "found unexpected end of stream"
            | some next =>
                if isBreak next then do
                  let (others, c) ← breaksInQuoted (c.left + 1) c.advance
                  let folded := Text.Points.ofChars (fold (breakChar next) others)
                  readQuoted mark fuel c (folded.reverse ++ acc)
                else readQuoted mark fuel c ((Text.Points.ofChars blanks).reverse ++ acc)
          else readQuoted mark fuel c.advance (char.toNat :: acc)

inductive Chomping where
  | strip
  | clip
  | keep
deriving DecidableEq

def chomping? (c : Char) : Option Chomping :=
  if c = '+' then some .keep else if c = '-' then some .strip else none

def indentDigit? (c : Char) : Option Nat :=
  if isDigit c then some (Text.Digits.value c) else none

/-- The header of a block scalar: a chomping mark and a digit of indentation in either order. -/
def readBlockHeader (c : Cursor) : Reading (Chomping × Option Nat × Cursor) := do
  let (chomping, indent, c) :=
    match c.peek with
    | none => (Chomping.clip, none, c)
    | some first =>
        match chomping? first, indentDigit? first with
        | some chomping, _ =>
            match c.advance.peek.bind indentDigit? with
            | some n => (chomping, some n, c.advanceBy 2)
            | none => (chomping, none, c.advance)
        | none, some n =>
            match c.advance.peek.bind chomping? with
            | some chomping => (chomping, some n, c.advanceBy 2)
            | none => (.clip, some n, c.advance)
        | none, none => (.clip, none, c)
  if indent = some 0 then malformed "expected indentation indicator in the range 1-9"
  if !c.peek.all fun char => char == ' ' || isBreak char then
    malformed "expected chomping or indentation indicators"
  let c := (c.span (· == ' ')).2
  let c := if c.peek = some '#' then (c.span fun char => !isBreak char).2 else c
  if c.peek.all isBreak then return (chomping, indent, c.advance)
  else malformed "expected a comment or a line break"

/-- Skips spaces and line breaks ahead; gives the breaks and the widest indentation seen. -/
def findIndent : Nat → Cursor → Nat → List Char × Nat × Cursor
  | 0, c, widest => ([], widest, c)
  | fuel + 1, c, widest =>
      match c.peek with
      | some char =>
          if char = ' ' then findIndent fuel c.advance (max widest (c.column + 1))
          else if isBreak char then
            let (others, widest, c) := findIndent fuel c.advance widest
            (breakChar char :: others, widest, c)
          else ([], widest, c)
      | none => ([], widest, c)

def skipIndent (indent : Nat) : Nat → Cursor → List Char × Cursor
  | 0, c => ([], c)
  | fuel + 1, c =>
      let c := c.advanceBy (min (indent - c.column) (c.rest.takeWhile (· == ' ')).length)
      match c.peek with
      | some char =>
          if isBreak char then
            let (others, c) := skipIndent indent fuel c.advance
            (breakChar char :: others, c)
          else ([], c)
      | none => ([], c)

/-- Reads the lines of a block scalar with their common indentation, behind some line breaks; gives
the text, the break that ends its last line and the breaks behind that. -/
def readBlockLines (folded : Bool) (indent : Nat) :
    Nat → Cursor → List Char → List Char × List Char × List Char × Cursor
  | 0, c, breaks => ([], [], breaks, c)
  | fuel + 1, c, breaks =>
      if c.column = indent ∧ c.peek.isSome then
        let startsBlank := c.peek.any fun char => char == ' ' || char == '\t'
        let (line, c) := c.span fun char => !isBreak char
        let part := breaks ++ line
        let last := (c.peek.map breakChar).toList
        let (breaks, c) := skipIndent indent (c.left + 1) c.advance
        if c.column = indent ∧ c.peek.isSome then
          let nextBlank := c.peek.any fun char => char == ' ' || char == '\t'
          let gap :=
            if folded ∧ last = ['\n'] ∧ !startsBlank ∧ !nextBlank then
              if breaks.isEmpty then [' '] else []
            else last
          let (text, ending) := readBlockLines folded indent fuel c breaks
          (part ++ gap ++ text, ending)
        else (part, last, breaks, c)
      else ([], [], breaks, c)

/-- Reads a block scalar inside a block of this indentation; `c` is behind its indicator. -/
def readBlock (folded : Bool) (blockIndent : Int) (c : Cursor) : Reading (List Char × Cursor) := do
  let (chomping, width, c) ← readBlockHeader c
  let least := (max (blockIndent + 1) 1).toNat
  let (breaks, indent, c) :=
    match width with
    | some n =>
        let indent := least + n - 1
        let (breaks, c) := skipIndent indent (c.left + 1) c
        (breaks, indent, c)
    | none =>
        let (breaks, widest, c) := findIndent (c.left + 1) c 0
        (breaks, max least widest, c)
  let (text, last, breaks, c) := readBlockLines folded indent (c.left + 1) c breaks
  let ending :=
    match chomping with
    | .strip => []
    | .clip => last
    | .keep => last ++ breaks
  return (text ++ ending, c)

end FactScope.Yaml
