/-!
The document versions that a tree can be given by default.
-/

namespace FactScope

inductive Version where
  | v300
  | v310
deriving DecidableEq, Repr, Inhabited

namespace Version

def text : Version → String
  | v300 => "3.0.0"
  | v310 => "3.1.0"

def initial : Version := v300

def supported : List Version := [v300, v310]

def ofText? (s : String) : Option Version :=
  supported.find? (·.text == s)

theorem mem_supported (version : Version) : version ∈ supported := by
  cases version <;> decide

theorem ofText?_eq_some_iff {s : String} {version : Version} :
    ofText? s = some version ↔ version.text = s := by
  constructor
  · intro h
    simpa using List.find?_some h
  · rintro rfl
    cases version <;> decide

end Version

end FactScope
