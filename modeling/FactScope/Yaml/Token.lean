import FactScope.Yaml.Scalar

/-!
Tokens: the marks and scalars of a text, with the blocks that its indentation shows.

A block mapping is noticed late, at the colon behind its first key. So the places where a key may
begin are remembered, and the tokens that open the mapping are put in there.
-/

namespace FactScope.Yaml

open Text.Digits (isDigit number hexNumber?)

/-- A part of a text. What cannot be read on is `broken`. -/
inductive Token where
  | languageVersion (major : Nat)
  | tagHandle (handle stands : String)
  | otherDirective
  | documentStart
  | documentEnd
  | blockSequenceStart
  | blockMappingStart
  | blockEnd
  | flowSequenceStart
  | flowSequenceEnd
  | flowMappingStart
  | flowMappingEnd
  | dash
  | comma
  | key
  | value
  | reference (name : String)
  | anchor (name : String)
  | tag (handle : Option String) (suffix : String)
  | scalar (text : Text.Points) (plain : Bool)
  | broken (failure : Failure)
deriving DecidableEq

def isNameChar (c : Char) : Bool :=
  c.isAlphanum || c == '-' || c == '_'

def endsWord (c : Option Char) : Bool :=
  c.all fun char => char == ' ' || isBreak char

def readName (c : Cursor) : Reading (String × Cursor) :=
  let (name, c) := c.span isNameChar
  if name.isEmpty then malformed "expected alphabetic or numeric character"
  else .ok (String.ofList name, c)

def readAnchor (c : Cursor) : Reading (String × Cursor) := do
  let (name, c) ← readName c
  if c.peek.all fun char => isBlank char || "?:,]\x7d%@\x60".toList.contains char then
    return (name, c)
  else malformed "expected alphabetic or numeric character"

def readBytes : Nat → Cursor → List UInt8 → Reading (List UInt8 × Cursor)
  | 0, c, acc => .ok (acc.reverse, c)
  | fuel + 1, c, acc =>
      if c.peek = some '%' then
        let digits := c.advance.rest.take 2
        match hexNumber? digits with
        | some code =>
            if digits.length = 2 then readBytes fuel (c.advanceBy 3) (UInt8.ofNat code :: acc)
            else malformed "expected URI escape sequence of 2 hexadecimal numbers"
        | none => malformed "expected URI escape sequence of 2 hexadecimal numbers"
      else .ok (acc.reverse, c)

def readUri : Nat → Cursor → List Char → Reading (String × Cursor)
  | 0, _, _ => malformed "expected URI"
  | fuel + 1, c, acc =>
      match c.peek with
      | some '%' => do
          let (bytes, c) ← readBytes (c.left + 1) c []
          match String.fromUTF8? ⟨bytes.toArray⟩ with
          | some text => readUri fuel c (text.toList.reverse ++ acc)
          | none => malformed "expected URI escape sequence of characters"
      | some char =>
          if char.isAlphanum || "-;/?:@&=+$,_.!~*'()[]".toList.contains char then
            readUri fuel c.advance (char :: acc)
          else if acc.isEmpty then malformed "expected URI"
          else .ok (String.ofList acc.reverse, c)
      | none =>
          if acc.isEmpty then malformed "expected URI" else .ok (String.ofList acc.reverse, c)

def readHandle (c : Cursor) : Reading (String × Cursor) :=
  if c.peek ≠ some '!' then malformed "expected '!'"
  else if c.advance.peek = some ' ' then .ok ("!", c.advance)
  else
    let (name, c) := c.advance.span isNameChar
    if c.peek = some '!' then .ok ("!" ++ String.ofList name ++ "!", c.advance)
    else malformed "expected '!'"

def readTag (c : Cursor) : Reading (Token × Cursor) := do
  let next := c.advance.peek
  let (handle, suffix, c) ←
    if next = some '<' then do
      let (suffix, c) ← readUri (c.left + 1) (c.advanceBy 2) []
      if c.peek = some '>' then pure (none, suffix, c.advance) else malformed "expected '>'"
    else if next.all isBlank then pure (none, "!", c.advance)
    else do
      let word := c.advance.rest.takeWhile fun char => !(char == ' ' || isBreak char)
      let (handle, c) ← if word.contains '!' then readHandle c else pure ("!", c.advance)
      let (suffix, c) ← readUri (c.left + 1) c []
      pure (some handle, suffix, c)
  if endsWord c.peek then return (.tag handle suffix, c)
  else malformed "expected ' '"

def skipSpaces (c : Cursor) : Cursor :=
  (c.span (· == ' ')).2

def skipLine (c : Cursor) : Cursor :=
  (c.span fun char => !isBreak char).2

def readVersionPart (c : Cursor) : Reading (Nat × Cursor) :=
  let (digits, c) := c.span isDigit
  if digits.isEmpty then malformed "expected a digit"
  else if Text.Digits.greatestCount < digits.length then .error (.tooLong digits.length)
  else .ok (number digits, c)

def readDirective (c : Cursor) : Reading (Token × Cursor) := do
  let (name, c) ← readName c.advance
  if !endsWord c.peek then malformed "expected alphabetic or numeric character"
  let (token, c) ←
    if name = "YAML" then do
      let (major, c) ← readVersionPart (skipSpaces c)
      if c.peek ≠ some '.' then malformed "expected a digit or '.'"
      let (_, c) ← readVersionPart c.advance
      if !endsWord c.peek then malformed "expected a digit or ' '"
      pure (.languageVersion major, c)
    else if name = "TAG" then do
      let (handle, c) ← readHandle (skipSpaces c)
      if c.peek ≠ some ' ' then malformed "expected ' '"
      let (stands, c) ← readUri (c.left + 1) (skipSpaces c) []
      if endsWord c.peek then pure (.tagHandle handle stands, c) else malformed "expected ' '"
    else pure (Token.otherDirective, skipLine c)
  let c := skipSpaces c
  let c := if c.peek = some '#' then skipLine c else c
  if c.peek.all isBreak then return (token, c.advance)
  else malformed "expected a comment or a line break"

def startsPlain (inFlow : Bool) (c : Cursor) : Bool :=
  match c.peek with
  | none => false
  | some char =>
      !(isBlank char || "-?:,[]\x7b\x7d#&*!|>'\"%@\x60".toList.contains char) ||
        (!c.blankAt 1 && (char == '-' || (!inFlow && (char == '?' || char == ':'))))

/-- Skips spaces, comments and line breaks. Outside flow collections a key may begin behind a line
break. -/
def skipGap (inFlow : Bool) : Nat → Cursor → Bool → Cursor × Bool
  | 0, c, keyAllowed => (c, keyAllowed)
  | fuel + 1, c, keyAllowed =>
      let c := skipSpaces c
      let c := if c.peek = some '#' then skipLine c else c
      if c.atBreak then skipGap inFlow fuel c.advance (keyAllowed || !inFlow)
      else (c, keyAllowed)

/-- A place where a key may turn out to begin: the number of tokens before it, whether its
indentation leaves no other choice, and its position. -/
structure KeyPlace where
  tokens : Nat
  required : Bool
  index : Nat
  line : Nat
  column : Nat

/-- What is read so far: the tokens, the column of the innermost block and those of the blocks
around it, and the place where a key may begin, here and in the flow collections around. -/
structure TokenState where
  cursor : Cursor
  tokens : Array Token
  indent : Int
  outerIndents : List Int
  keyAllowed : Bool
  place : Option KeyPlace
  outerPlaces : List (Option KeyPlace)

namespace TokenState

def start (c : Cursor) : TokenState :=
  { cursor := c, tokens := #[], indent := -1, outerIndents := [], keyAllowed := true
    place := none, outerPlaces := [] }

def inFlow (s : TokenState) : Bool :=
  !s.outerPlaces.isEmpty

def push (s : TokenState) (token : Token) : TokenState :=
  { s with tokens := s.tokens.push token }

def dropPlace (s : TokenState) : Reading TokenState :=
  if s.place.any (·.required) then malformed "could not find expected ':'"
  else .ok { s with place := none }

/-- A key ends on the line on which it begins, within 1024 characters. -/
def isStale (s : TokenState) (place : KeyPlace) : Bool :=
  place.line != s.cursor.line || s.cursor.index - place.index > 1024

def dropStalePlaces (s : TokenState) : Reading TokenState :=
  if (s.place :: s.outerPlaces).any fun place => place.any fun p => s.isStale p && p.required then
    malformed "could not find expected ':'"
  else
    let keep := fun (place : Option KeyPlace) => place.filter (!s.isStale ·)
    .ok { s with place := keep s.place, outerPlaces := s.outerPlaces.map keep }

def savePlace (s : TokenState) : Reading TokenState :=
  if s.keyAllowed then do
    let s ← s.dropPlace
    let c := s.cursor
    let place : KeyPlace :=
      { tokens := s.tokens.size, required := !s.inFlow && s.indent == c.column, index := c.index
        line := c.line, column := c.column }
    return { s with place := some place }
  else .ok s

def blocksEnding (column : Int) : Int → List Int → Nat × Int × List Int
  | indent, [] => (0, indent, [])
  | indent, outer :: others =>
      if indent > column then
        let (n, rest) := blocksEnding column outer others
        (n + 1, rest)
      else (0, indent, outer :: others)

def closeBlocks (s : TokenState) (column : Int) : TokenState :=
  if s.inFlow then s
  else
    let (ends, indent, outer) := blocksEnding column s.indent s.outerIndents
    { s with
      tokens := s.tokens ++ Array.replicate ends Token.blockEnd
      indent := indent
      outerIndents := outer }

/-- Opens a block at a column that lies further right than the block around it, with its first
token put in at the given number of tokens. -/
def openBlock (s : TokenState) (column position : Nat) (token : Token) : TokenState :=
  if s.indent < column then
    { s with
      tokens := s.tokens.insertIdxIfInBounds position token
      indent := column
      outerIndents := s.indent :: s.outerIndents }
  else s

/-- A block indicator that stands where a key may begin, with the token that opens its block. -/
def blockIndicator (s : TokenState) (opening token : Token) (reason : String) :
    Reading TokenState := do
  let s ←
    if s.inFlow then pure s
    else if s.keyAllowed then pure (s.openBlock s.cursor.column s.tokens.size opening)
    else malformed reason
  let s ← { s with keyAllowed := true }.dropPlace
  return { s with cursor := s.cursor.advance }.push token

/-- A colon: the key before it, if there is one, is told from other scalars only now. -/
def keyEnd (s : TokenState) : Reading TokenState :=
  match s.place with
  | some place =>
      let s := { s with
        tokens := s.tokens.insertIdxIfInBounds place.tokens .key
        place := none
        keyAllowed := false
        cursor := s.cursor.advance }
      let s := if s.inFlow then s else s.openBlock place.column place.tokens .blockMappingStart
      .ok (s.push .value)
  | none => do
      let s ← s.blockIndicator .blockMappingStart .value "mapping values are not allowed here"
      return { s with keyAllowed := !s.inFlow }

/-- Flow collections inside so many others are never read: they are too deep for their nodes, and
none of those around them can be a key any more. -/
def greatestFlow : Nat := 2048

def flowStart (s : TokenState) (token : Token) : Reading TokenState := do
  if greatestFlow < s.outerPlaces.length then .error .tooDeep
  let s ← s.savePlace
  return { s with
    cursor := s.cursor.advance
    keyAllowed := true
    place := none
    outerPlaces := s.place :: s.outerPlaces }.push token

def flowEnd (s : TokenState) (token : Token) : Reading TokenState := do
  let s ← s.dropPlace
  match s.outerPlaces with
  | place :: outer =>
      return { s with
        cursor := s.cursor.advance
        keyAllowed := false
        place := place
        outerPlaces := outer }.push token
  | [] => malformed "found the end of a flow collection that is not open"

def boundary (s : TokenState) (token : Token) (c : Cursor) : Reading TokenState := do
  let s ← (s.closeBlocks (-1)).dropPlace
  return { s with cursor := c, keyAllowed := false }.push token

def nodePart (s : TokenState) (read : Cursor → Reading (Token × Cursor)) : Reading TokenState := do
  let s ← s.savePlace
  let (token, c) ← read s.cursor
  return { s with cursor := c, keyAllowed := false }.push token

def quoted (s : TokenState) (mark : Char) : Reading TokenState :=
  s.nodePart fun c => do
    let (text, c) ← readQuoted mark (c.left + 1) c.advance []
    return (.scalar text false, c)

def block (s : TokenState) (folded : Bool) : Reading TokenState := do
  let s ← s.dropPlace
  let (text, c) ← readBlock folded s.indent s.cursor.advance
  return { s with cursor := c, keyAllowed := true }.push
    (.scalar (Text.Points.ofChars text) false)

def plain (s : TokenState) : Reading TokenState := do
  let s ← s.savePlace
  let read := readPlain s.inFlow (s.indent + 1) (s.cursor.left + 1) s.cursor [] false
  return { s with cursor := read.cursor, keyAllowed := read.afterBreak }.push
    (.scalar (Text.Points.ofChars read.text) true)

def token (s : TokenState) (char : Char) : Reading TokenState :=
  let c := s.cursor
  if char = '%' ∧ c.column = 0 then do
    let (directive, c) ← readDirective c
    s.boundary directive c
  else if c.column = 0 ∧ c.atMarker then
    s.boundary (if char = '-' then .documentStart else .documentEnd) (c.advanceBy 3)
  else if char = '[' then s.flowStart .flowSequenceStart
  else if char = '\x7b' then s.flowStart .flowMappingStart
  else if char = ']' then s.flowEnd .flowSequenceEnd
  else if char = '\x7d' then s.flowEnd .flowMappingEnd
  else if char = ',' then do
    let s ← s.dropPlace
    return { s with cursor := c.advance, keyAllowed := true }.push .comma
  else if char = '-' ∧ c.blankAt 1 then
    s.blockIndicator .blockSequenceStart .dash "sequence entries are not allowed here"
  else if char = '?' ∧ (s.inFlow ∨ c.blankAt 1) then do
    let s ← s.blockIndicator .blockMappingStart .key "mapping keys are not allowed here"
    return { s with keyAllowed := !s.inFlow }
  else if char = ':' ∧ (s.inFlow ∨ c.blankAt 1) then s.keyEnd
  else if char = '*' then
    s.nodePart fun c => do
      let (name, c) ← readAnchor c.advance
      return (.reference name, c)
  else if char = '&' then
    s.nodePart fun c => do
      let (name, c) ← readAnchor c.advance
      return (.anchor name, c)
  else if char = '!' then s.nodePart readTag
  else if char = '|' ∧ !s.inFlow then s.block false
  else if char = '>' ∧ !s.inFlow then s.block true
  else if char = '\'' ∨ char = '"' then s.quoted char
  else if startsPlain s.inFlow c then s.plain
  else malformed "found a character that cannot start any token"

def step (s : TokenState) : Reading (TokenState × Bool) := do
  let (c, keyAllowed) := skipGap s.inFlow (s.cursor.left + 1) s.cursor s.keyAllowed
  let s ← { s with cursor := c, keyAllowed := keyAllowed }.dropStalePlaces
  let s := s.closeBlocks s.cursor.column
  match s.cursor.peek with
  | none => return (← (s.closeBlocks (-1)).dropPlace, true)
  | some char => return (← s.token char, false)

/-- The tokens that are final: those before the first place where a key may still turn out to
begin. -/
def settled (s : TokenState) : List Token :=
  let pending := (s.place :: s.outerPlaces).filterMap fun place => place.filter (!s.isStale ·)
  s.tokens.toList.take ((pending.map (·.tokens)).foldl min s.tokens.size)

/-- Reads all tokens. Where a token cannot be read, the tokens that are final by then are
followed by the failure. -/
def readAll : Nat → TokenState → List Token
  | 0, s => s.settled
  | fuel + 1, s =>
      match s.step with
      | .ok (s, true) => s.tokens.toList
      | .ok (s, false) => readAll fuel s
      | .error failure => s.settled ++ [.broken failure]

end TokenState

def isPrintable (c : Char) : Bool :=
  c == '\t' || c == '\n' || (' ' ≤ c && c ≤ '~') || c == '\x85' ||
    ('\xa0' ≤ c && c != '\uFFFE' && c != '\uFFFF')

/-- Writes every line break that is a carriage return, alone or with a line feed, as a line
feed. -/
def plainBreaks : List Char → List Char
  | [] => []
  | '\r' :: '\n' :: rest => '\n' :: plainBreaks rest
  | c :: rest => (if c = '\r' then '\n' else c) :: plainBreaks rest

def firstStretch : Nat := 8192

/-- How many further characters are looked through whenever the reader comes to the end of those
before. -/
def nextStretch : Nat := 4096

def beforeStretch (index : Nat) : Nat :=
  if index < firstStretch then 0 else index - (index - firstStretch) % nextStretch

def tokensOf (chars : List Char) : List Token :=
  let c := Cursor.start chars
  TokenState.readAll (chars.length + 1)
    (.start (if c.peek = some '\uFEFF' then c.advance else c))

/-- The tokens of a text. It is malformed where a stretch of it begins that holds a character that
no text may. -/
def tokens (text : String) : Reading (List Token) :=
  let chars := plainBreaks text.toList
  let printable := (chars.takeWhile isPrintable).length
  if printable = chars.length then .ok (tokensOf chars)
  else
    let reason := "special characters are not allowed"
    match chars.take (beforeStretch printable) with
    | [] => malformed reason
    | seen => .ok (tokensOf seen ++ [.broken (.malformed reason)])

end FactScope.Yaml
