import FactScope.Proofs.Session.Run

/-!
The history of a run: for each node what it was supplied with, and which default version was in
force at that time. What every construction keeps between a session and its history holds of whole
runs.
-/

namespace FactScope.Session

/-- What a node was supplied with, and the default version in force at that time. -/
structure Birth where
  supplied : Entries Value
  default : Version

/-- The births of a step. A clone is supplied with the facts it copies, updated by the overrides. -/
def births (s : Session) : Step → List Birth
  | .newRoot supplied => [⟨supplied, s.default⟩]
  | .child of supplied => if of < s.forest.size then [⟨supplied, s.default⟩] else []
  | .clone of overrides =>
      if of < s.forest.size then [⟨(s.forest.facts of).putAll overrides, s.default⟩] else []
  | .nest of count supplied =>
      if of < s.forest.size then List.replicate count ⟨supplied, s.default⟩ else []
  | .setDefault _ => []

def history (s : Session) : List Step → List Birth
  | [] => []
  | step :: steps => s.births step ++ (s.apply step).history steps

def Step.entries : Step → Entries Value
  | .newRoot supplied => supplied
  | .child _ supplied => supplied
  | .clone _ overrides => overrides
  | .nest _ _ supplied => supplied
  | .setDefault _ => []

/-- What a node can be supplied with where callers hand over allowed entries: these, or for a clone
the facts it copies, updated by these. -/
inductive Supplies (s : Session) (allowed : Entries Value → Prop) : Entries Value → Prop where
  | given {supplied : Entries Value} (h : allowed supplied) : Supplies s allowed supplied
  | copied {of : Nat} {overrides : Entries Value} (hof : of < s.forest.size)
      (h : allowed overrides) : Supplies s allowed ((s.forest.facts of).putAll overrides)

variable {s : Session} {past : List Birth} {allowed : Entries Value → Prop}
  {motive : Session → List Birth → Prop}

theorem getElem?_concat_cases {last birth : Birth} {k : Nat}
    (h : (past ++ [last])[k]? = some birth) :
    (k < past.length ∧ past[k]? = some birth) ∨ (k = past.length ∧ birth = last) := by
  rcases Nat.lt_or_ge k past.length with hold | hnew
  · rw [List.getElem?_append_left hold] at h
    exact .inl ⟨hold, h⟩
  · rw [List.getElem?_append_right hnew, List.getElem?_singleton] at h
    split at h
    · next hzero => exact .inr ⟨by omega, (Option.some.inj h).symm⟩
    · cases h

theorem births_child_of_lt {of : Nat} (h : of < s.forest.size) (supplied : Entries Value) :
    s.births (.child of supplied) = [⟨supplied, s.default⟩] :=
  if_pos h

theorem births_of_size_le {of : Nat} (h : s.forest.size ≤ of) (count : Nat)
    (entries : Entries Value) :
    s.births (.child of entries) = [] ∧ s.births (.clone of entries) = [] ∧
      s.births (.nest of count entries) = [] :=
  ⟨if_neg (Nat.not_lt.mpr h), if_neg (Nat.not_lt.mpr h), if_neg (Nat.not_lt.mpr h)⟩

theorem births_nest_succ {of : Nat} (h : of < s.forest.size) (count : Nat)
    (supplied : Entries Value) :
    s.births (.nest of (count + 1) supplied) =
      s.births (.child of supplied) ++
        (s.child of supplied).births (.nest s.forest.size count supplied) := by
  have hlast : s.forest.size < (s.child of supplied).forest.size := by
    rw [size_child h]
    exact Nat.lt_succ_self _
  have hdefault : (s.child of supplied).default = s.default := by
    rw [child_eq_build h]
    rfl
  rw [births_child_of_lt h, births, births, if_pos h, if_pos hlast, hdefault]
  rfl

/-- What constructions and changes of the default version keep between a session and its history
is kept by every step. -/
theorem births_induction
    (build : ∀ (s : Session) past supplied parent, s.Supplies allowed supplied → motive s past →
      motive (s.build supplied parent) (past ++ [⟨supplied, s.default⟩]))
    (choose : ∀ (s : Session) past version, motive s past → motive { s with default := version } past)
    (h : motive s past) {step : Step} (hallowed : allowed step.entries) :
    motive (s.apply step) (past ++ s.births step) := by
  have hchild : ∀ (s : Session) past of supplied, allowed supplied → motive s past →
      motive (s.child of supplied) (past ++ s.births (.child of supplied)) := by
    intro s past of supplied hsupplied hs
    rcases Nat.lt_or_ge of s.forest.size with hof | hof
    · rw [child_eq_build hof, births_child_of_lt hof]
      exact build s past supplied _ (.given hsupplied) hs
    · rwa [child_of_size_le hof, (births_of_size_le hof 0 supplied).1, List.append_nil]
  have hnest : ∀ count (s : Session) past of supplied, allowed supplied → motive s past →
      motive (s.nest of count supplied) (past ++ s.births (.nest of count supplied)) := by
    intro count
    induction count with
    | zero =>
        intro s past of supplied _ hs
        simpa [nest_zero, births] using hs
    | succ count ih =>
        intro s past of supplied hsupplied hs
        rcases Nat.lt_or_ge of s.forest.size with hof | hof
        · rw [nest_succ hof, births_nest_succ hof, ← List.append_assoc]
          exact ih _ _ _ supplied hsupplied (hchild s past of supplied hsupplied hs)
        · rwa [nest_of_size_le hof, (births_of_size_le hof _ supplied).2.2, List.append_nil]
  cases step with
  | newRoot supplied => exact build s past supplied none (.given hallowed) h
  | child of supplied => exact hchild s past of supplied hallowed h
  | clone of overrides =>
      change motive (s.clone of overrides) _
      rcases Nat.lt_or_ge of s.forest.size with hof | hof
      · rw [clone_eq_build hof, births, if_pos hof]
        exact build s past _ _ (.copied hof hallowed) h
      · rwa [clone_of_size_le hof, (births_of_size_le hof 0 overrides).2.1, List.append_nil]
  | nest of count supplied => exact hnest count s past of supplied hallowed h
  | setDefault version =>
      rw [births, List.append_nil, apply_setDefault]
      cases Version.choose version with
      | ok chosen => exact choose s past chosen h
      | error problem => exact h

/-- What constructions and changes of the default version keep between a session and its history
is kept by every run. -/
theorem history_induction
    (build : ∀ (s : Session) past supplied parent, s.Supplies allowed supplied → motive s past →
      motive (s.build supplied parent) (past ++ [⟨supplied, s.default⟩]))
    (choose : ∀ (s : Session) past version, motive s past → motive { s with default := version } past)
    (steps : List Step) (hallowed : ∀ step ∈ steps, allowed step.entries) (h : motive s past) :
    motive (s.run steps) (past ++ s.history steps) := by
  induction steps generalizing s past with
  | nil =>
      rw [run_nil, history, List.append_nil]
      exact h
  | cons step steps ih =>
      have hfirst := births_induction build choose h (hallowed step List.mem_cons_self)
      have hrest := ih (fun step hmem => hallowed step (List.mem_cons_of_mem _ hmem)) hfirst
      rw [List.append_assoc] at hrest
      exact hrest

end FactScope.Session
