import FactScope.Fault

namespace FactScope

/-- What an operation takes: the parameters that are filled before any argument is named, those
that must be named, those that may be, and whether it takes arguments of any further name. -/
structure Signature where
  operation : String
  filled : List String
  needed : List String
  optional : List String
  takesMore : Bool

namespace Signature

def takes (s : Signature) (name : String) : Bool :=
  s.needed.contains name || s.optional.contains name || s.takesMore

def faultOf? (s : Signature) (name : String) : Option Fault :=
  if s.filled.contains name then some (.repeatedArgument s.operation name)
  else if s.takes name then none
  else some (.unknownArgument s.operation name)

/-- Checks the names of arguments. A name that does not fit comes before one that is missing. -/
def check (s : Signature) (given : Entries Value) : Except Fault Unit :=
  match given.keys.findSome? s.faultOf? with
  | some fault => .error fault
  | none =>
      let missing := s.needed.filter fun name => !given.has name
      if missing.isEmpty then .ok () else .error (.missingArguments s.operation missing)

theorem check_eq_ok_iff (s : Signature) (given : Entries Value) :
    s.check given = .ok () ↔
      (∀ name ∈ given.keys, name ∉ s.filled ∧ s.takes name = true) ∧
        ∀ name ∈ s.needed, given.has name = true := by
  have hfault : ∀ name, s.faultOf? name = none ↔ name ∉ s.filled ∧ s.takes name = true := by
    intro name
    by_cases hfilled : name ∈ s.filled <;> by_cases htakes : s.takes name = true <;>
      simp [faultOf?, hfilled, htakes]
  unfold check
  cases hfind : given.keys.findSome? s.faultOf? with
  | some fault =>
      obtain ⟨name, hmem, hname⟩ := List.exists_of_findSome?_eq_some hfind
      have hnot : ¬(name ∉ s.filled ∧ s.takes name = true) := by
        rw [← hfault, hname]
        simp
      simp only [reduceCtorEq, false_iff]
      exact fun h => hnot (h.1 name hmem)
  | none =>
      have hall : ∀ name ∈ given.keys, name ∉ s.filled ∧ s.takes name = true := fun name hmem =>
        (hfault name).1 (List.findSome?_eq_none_iff.1 hfind name hmem)
      simpa [List.filter_eq_nil_iff] using fun _ => hall

end Signature

end FactScope
