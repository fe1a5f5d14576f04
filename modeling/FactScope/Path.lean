import FactScope.Fault

namespace FactScope

open Text (Points)

/-- The leading slashes of a path. Exactly two are kept, three or more count as one. -/
inductive Anchor where
  | relative
  | single
  | double
deriving DecidableEq, Repr

structure Path where
  anchor : Anchor
  components : List Points
deriving DecidableEq, Repr

namespace Path

def slash : Nat := '/'.toNat

def dot : Nat := '.'.toNat

def tilde : Nat := '~'.toNat

def split : Points → List Points
  | [] => [[]]
  | c :: rest =>
      if c = slash then [] :: split rest
      else
        match split rest with
        | [] => [[c]]
        | piece :: pieces => (c :: piece) :: pieces

def isComponent (piece : Points) : Bool :=
  piece != [] && piece != [dot]

def anchorOf (text : Points) : Anchor :=
  match text.takeWhile (· == slash) with
  | [] => .relative
  | [_, _] => .double
  | _ => .single

def parse (text : Points) : Path :=
  ⟨anchorOf text, (split text).filter isComponent⟩

def Anchor.text : Anchor → Points
  | .relative => []
  | .single => [slash]
  | .double => [slash, slash]

def join : List Points → Points
  | [] => []
  | [piece] => piece
  | piece :: pieces => piece ++ slash :: join pieces

/-- The text of a path; the relative path without components is the current directory. -/
def text (p : Path) : Points :=
  if p.anchor = .relative ∧ p.components = [] then [dot]
  else Anchor.text p.anchor ++ join p.components

def isAbsolute (p : Path) : Bool :=
  p.anchor != .relative

/-- The home directory that a text names: without slashes at its end, or the root. A text that
begins with a tilde names none. -/
def home? (text : String) : Option Path :=
  match ((Points.ofString text).reverse.dropWhile (· == slash)).reverse with
  | [] => some ⟨.single, []⟩
  | first :: rest => if first = tilde then none else some (parse (first :: rest))

/-- Replaces a leading `~` of a relative path by the home directory. Homes of other users are not
known. -/
def expandHome (home : String) (p : Path) : Except Fault Path :=
  match p.anchor, p.components with
  | .relative, (first :: user) :: rest =>
      if first ≠ tilde then .ok p
      else if user = [] then
        match home? home with
        | some base => .ok ⟨base.anchor, base.components ++ rest⟩
        | none => .error .noHome
      else .error .noHome
  | _, _ => .ok p

def user? (p : Path) : Option Points :=
  match p.anchor, p.components with
  | .relative, (first :: user) :: _ => if first = tilde then some user else none
  | _, _ => none

/-- The fault of looking up a user: the name must be one that the system can be asked for. -/
def faultOfUser (user : Points) : Fault :=
  match user.unencodable? Points.isByte with
  | some (before, run) => .unencodable before run
  | none => if user.contains 0 then .nullByte else .noHome

def enter (trail : List Points) (piece : Points) : List Points :=
  if piece = [dot, dot] then trail.dropLast else trail ++ [piece]

def target (p : Path) : Path :=
  ⟨.single, p.components.foldl enter []⟩

example : (parse (.ofString "//a/./b//../c/")).text = .ofString "//a/b/../c" := by decide +kernel

example : (parse (.ofString "///")).text = .ofString "/" ∧
    (parse (.ofString "./x")).text = .ofString "x" := by decide +kernel

example : (parse (.ofString "/a/x/../b")).target.text = .ofString "/a/b" := by decide +kernel

end Path

end FactScope
