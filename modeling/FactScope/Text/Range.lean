/-!
Sets of characters given by sorted, disjoint ranges of code points.
-/

namespace FactScope.Text.Range

/-- Membership in a union of inclusive ranges listed in increasing order; the
search stops at the first range that starts beyond the code point. -/
def contains : List (Nat × Nat) → Nat → Bool
  | [], _ => false
  | (first, last) :: rest, code =>
      if code < first then false
      else if code ≤ last then true
      else contains rest code

end FactScope.Text.Range
