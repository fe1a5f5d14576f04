import FactScope.Fault
import FactScope.Forest
import FactScope.Value.Mapping
import FactScope.Version

namespace FactScope.VersionMatch

/-- The candidates that a value stands for: a text is one candidate, and a collection is what comes
up where it is gone through, which in an object are its names and in bytes their numbers. -/
def candidates (value : Value) : Except Fault (List Value) :=
  match value.content with
  | .text s => .ok [.text s]
  | .datum (.points points) => .ok [.datum (.points points)]
  | .datum (.bytes bytes) => .ok (bytes.map fun byte => .int byte.toNat)
  | .list items => .ok items
  | .pair first second => .ok [first, second]
  | .set members => .ok members
  | .object fields => .ok (Entries.keys fields |>.map .text)
  | .mapping pairs => .ok (pairs.map (·.1))
  | .record _ fields => .ok (fields.map fun entry => .pair (.text entry.1) entry.2)
  | other => .error (.notIterable other.kind)

/-- Whether `current` is one of the candidates. The candidates are gathered in a set before
`current` is looked up in it, so the first candidate that no set can hold is at fault first. -/
def isAmong (current : Value) (candidates : List Value) : Except Fault Bool :=
  match candidates.find? (!·.hashable) with
  | some candidate => .error (.notHashable candidate.kind)
  | none =>
      if current.hashable then .ok (candidates.any current.alike)
      else .error (.notHashable current.kind)

theorem isAmong_eq_ok_iff {current : Value} {candidates : List Value} {answer : Bool} :
    isAmong current candidates = .ok answer ↔
      (∀ c ∈ candidates, c.hashable = true) ∧ current.hashable = true ∧
        answer = candidates.any current.alike := by
  unfold isAmong
  cases hfind : candidates.find? (!·.hashable) with
  | some candidate =>
      have hmem := List.mem_of_find?_eq_some hfind
      have hbad : candidate.hashable = false := by simpa using List.find?_some hfind
      simp only [reduceCtorEq, false_iff, not_and]
      intro hall
      exact absurd (hall candidate hmem) (by simp [hbad])
  | none =>
      have hall : ∀ c ∈ candidates, c.hashable = true := by
        simpa using List.find?_eq_none.mp hfind
      cases hc : current.hashable with
      | false => simp
      | true =>
          simp only [if_true, Except.ok.injEq, true_and]
          exact ⟨fun h => ⟨hall, h.symm⟩, fun h => h.2.symm⟩

end FactScope.VersionMatch

namespace FactScope.Forest

def currentVersion (f : Forest) (default : Version) (i : Nat) : Value :=
  (f.see i .version).orElse (.text default.text)

def matchesVersion (f : Forest) (default : Version) (i : Nat) (versions : Value) :
    Except Fault Bool := do
  VersionMatch.isAmong (f.currentVersion default i) (← VersionMatch.candidates versions)

end FactScope.Forest
