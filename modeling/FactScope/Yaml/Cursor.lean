/-!
Positions in a text.
-/

namespace FactScope.Yaml

def isBreak (c : Char) : Bool :=
  c = '\n' || c = '\x85' || c = '\u2028' || c = '\u2029'

def isBlank (c : Char) : Bool :=
  c = ' ' || c = '\t' || isBreak c

def breakChar (c : Char) : Char :=
  if c = '\x85' then '\n' else c

/-- The text from a position on and its length, with the number of characters and lines before it
and its place in the line. -/
structure Cursor where
  rest : List Char
  left : Nat
  index : Nat
  line : Nat
  column : Nat
  length_rest : rest.length = left

namespace Cursor

def start (text : List Char) : Cursor := ⟨text, text.length, 0, 0, 0, rfl⟩

def peek (c : Cursor) : Option Char :=
  c.rest.head?

def advance (c : Cursor) : Cursor :=
  match h : c.rest with
  | [] => c
  | char :: rest =>
      have hleft : rest.length = c.left - 1 := by simp [← c.length_rest, h]
      if isBreak char then ⟨rest, c.left - 1, c.index + 1, c.line + 1, 0, hleft⟩
      else if char = '\uFEFF' then ⟨rest, c.left - 1, c.index + 1, c.line, c.column, hleft⟩
      else ⟨rest, c.left - 1, c.index + 1, c.line, c.column + 1, hleft⟩

def advanceBy (c : Cursor) : Nat → Cursor
  | 0 => c
  | n + 1 => advanceBy c.advance n

def blankAt (c : Cursor) (n : Nat) : Bool :=
  c.rest[n]?.all isBlank

def atBreak (c : Cursor) : Bool :=
  c.peek.any isBreak

def span (c : Cursor) (property : Char → Bool) : List Char × Cursor :=
  let run := c.rest.takeWhile property
  (run, c.advanceBy run.length)

def atMarker (c : Cursor) : Bool :=
  (['-', '-', '-'].isPrefixOf c.rest || ['.', '.', '.'].isPrefixOf c.rest) && c.blankAt 3

end Cursor

end FactScope.Yaml
