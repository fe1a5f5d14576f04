import FactScope.Text.Lowercase

namespace FactScope

/-- What names are made of: something separates their segments, and case does not count. -/
class Alphabet (α : Type) where
  sep : α
  lower : List α → List α

instance : Alphabet Char := ⟨'\\', Text.Lowercase.lower⟩

instance : Alphabet Nat := ⟨'\\'.toNat, Text.Points.lower⟩

namespace QualifiedName

section

variable {α : Type} [Alphabet α]

def sep : α := Alphabet.sep

variable [DecidableEq α]

/-- Replaces pairs of adjacent separators by one, from left to right and without overlaps. -/
def collapse : List α → List α
  | [] => []
  | [c] => [c]
  | c :: d :: rest => if c = sep ∧ d = sep then sep :: collapse rest else c :: collapse (d :: rest)

def isAbsolute (name : List α) : Bool :=
  name.head? == some sep

def isQualified (name : List α) : Bool :=
  name.contains sep

def relative (name : List α) : List α :=
  name.dropWhile (· == sep)

def sameName (a b : List α) : Bool :=
  Alphabet.lower a == Alphabet.lower b

end

theorem head?_collapse (name : List Char) : (collapse name).head? = name.head? := by
  fun_cases collapse name with
  | case1 => rfl
  | case2 => rfl
  | case3 c d rest h => simp [h.1]
  | case4 => rfl

@[simp] theorem isAbsolute_cons (c : Char) (name : List Char) :
    isAbsolute (c :: name) = (c == sep) := by
  simp [isAbsolute]

theorem isAbsolute_collapse (name : List Char) : isAbsolute (collapse name) = isAbsolute name := by
  simp [isAbsolute, head?_collapse]

theorem isAbsolute_relative (name : List Char) : isAbsolute (relative name) = false := by
  induction name with
  | nil => rfl
  | cons c rest ih =>
      by_cases h : c = sep
      · simpa [relative, h] using ih
      · simp [relative, h]

example : collapse ['\\', '\\', 'A', '\\', '\\', '\\', 'b', '\\'] =
    ['\\', 'A', '\\', '\\', 'b', '\\'] := by
  decide

end QualifiedName

end FactScope
