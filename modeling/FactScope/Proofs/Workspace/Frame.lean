import FactScope.Proofs.Session.Mark
import FactScope.Proofs.Workspace.Simulation

/-!
What a run of acts leaves alone. A node keeps its parent, its names and all values but that of its
version, whatever callers do with the trees and with their own tables, and so it gives the same
answers. The version of an older node is written by constructions only, on the root above the
new node and only where the new node would see no version.
-/

namespace FactScope

namespace Forest

/-- Node `i` is in `g` what it is in `f`, except for the value of its version. -/
structure SameNode (f g : Forest) (i : Nat) : Prop where
  parent?_eq : g.parent? i = f.parent? i
  keys_eq : (g.facts i).keys = (f.facts i).keys
  value_eq : ∀ name, name ≠ Fact.version.name → (g.facts i).get? name = (f.facts i).get? name

/-- Node `i` answers in `g` as in `f` all questions that are not about the value of a version. -/
structure SameAnswers (f g : Forest) (i : Nat) : Prop where
  ancestors_eq : g.ancestors i = f.ancestors i
  root_eq : g.root i = f.root i
  hasOwnNamed_eq : ∀ name, g.hasOwnNamed i name = f.hasOwnNamed i name
  ownerNamed_eq : ∀ name, g.ownerNamed i name = f.ownerNamed i name
  sees_eq : ∀ name, g.sees i name = f.sees i name
  getNamed_eq : ∀ name default, name ≠ .text Fact.version.name →
    g.getNamed i name default = f.getNamed i name default
  currentNamespace_eq : (g.scope i).currentNamespace = (f.scope i).currentNamespace
  enclosingType?_eq : (g.scope i).enclosingType? = (f.scope i).enclosingType?
  resolveAt_eq : ∀ reference, g.resolveAt i reference = f.resolveAt i reference
  describe_eq : g.describe i = f.describe i

variable {f g : Forest} {i : Nat}

theorem Keeps.sameNode (h : Keeps f g) (hi : i < f.size) : SameNode f g i where
  parent?_eq := h.parent?_eq hi
  keys_eq := h.keys_eq hi
  value_eq _ hname := h.value_eq hi hname

theorem factName_ne_version {name : Value} (h : name ≠ .text Fact.version.name) {key : String}
    (hkey : name.factName = .ok (some key)) : key ≠ Fact.version.name := by
  rintro rfl
  unfold Value.factName at hkey
  split at hkey
  · cases hkey
    exact h rfl
  · split at hkey <;> cases hkey

theorem Keeps.getNamed (h : Keeps f g) (hi : i < f.size) {name : Value}
    (hname : name ≠ .text Fact.version.name) (default : Value) :
    g.getNamed i name default = f.getNamed i name default := by
  unfold Forest.getNamed
  cases hkey : name.factName with
  | error fault => rfl
  | ok key =>
      cases key with
      | none => rfl
      | some key =>
          have hget := h.get? hi (factName_ne_version hname hkey)
          change Except.ok ((g.get? i key).getD default) = Except.ok ((f.get? i key).getD default)
          rw [hget]

theorem Keeps.sameAnswers (h : Keeps f g) (hi : i < f.size) : SameAnswers f g i where
  ancestors_eq := h.ancestors hi
  root_eq := h.root hi
  hasOwnNamed_eq name := by
    have hown : g.hasOwn i = f.hasOwn i := funext (h.hasOwn hi)
    simp only [hasOwnNamed, hown]
  ownerNamed_eq name := by
    have howner : g.ownerOf? i = f.ownerOf? i := funext (h.ownerOf? hi)
    simp only [ownerNamed, howner]
  sees_eq name := by
    cases name with
    | text s => simp only [sees, h.ownerOf? hi]
    | _ => rfl
  getNamed_eq _ default hname := h.getNamed hi hname default
  currentNamespace_eq := by rw [h.scope hi]
  enclosingType?_eq := by rw [h.scope hi]
  resolveAt_eq reference := by rw [resolveAt, resolveAt, h.scope hi]
  describe_eq := by rw [describe, describe, h.site hi]

end Forest

namespace Workspace

variable {w : Workspace}

def marked? (w : Workspace) (act : Act) : Option Nat :=
  (w.step? act).bind w.session.marked?

theorem Apart.keeps_run (h : w.Apart) (hversioned : w.forest.Versioned) (acts : List Act) :
    w.forest.Keeps (w.run acts).forest := by
  have hkeeps := Session.keeps_run (s := w.session) hversioned (w.steps acts)
  rw [← h.session_run acts] at hkeeps
  exact hkeeps

theorem Apart.facts_apply (h : w.Apart) (act : Act) {i : Nat} (hi : i < w.forest.size) :
    (w.apply act).forest.facts i =
      if w.marked? act = some i then
        (w.forest.facts i).put Fact.version.name (.text w.default.text)
      else w.forest.facts i := by
  change (w.apply act).session.forest.facts i = _
  rw [h.session_apply]
  unfold marked?
  cases w.step? act with
  | none => rfl
  | some step => exact Session.facts_apply w.session step hi

theorem apart_run_start (acts : List Act) : (start.run acts).Apart :=
  apart_start.run acts

theorem versioned_run_start (acts : List Act) : (start.run acts).forest.Versioned := by
  have hrun := apart_start.session_run acts
  have hstart : start.session = .start := session_ofSession .start
  have hversioned := Session.versioned_reached (start.steps acts)
  rw [hstart] at hrun
  rw [← hrun] at hversioned
  exact hversioned

/-- In every run, each node that is there at some point stays as it is but for its version, answers
as it did, and is written by one kind of act only. -/
theorem nodes_stay_through_runs (past later : List Act) (next : Act)
    (i : Fin (start.run past).forest.size) :
    let before := start.run past
    let after := before.run later
    before.forest.SameNode after.forest i ∧
      before.forest.SameAnswers after.forest i ∧
        (after.apply next).forest.facts i =
          if after.marked? next = some i.val then
            (after.forest.facts i).put Fact.version.name (.text after.default.text)
          else after.forest.facts i := by
  intro before after
  have hapart : before.Apart := apart_run_start past
  have hkeeps : before.forest.Keeps after.forest :=
    hapart.keeps_run (versioned_run_start past) later
  have hi : i.val < after.forest.size := Nat.lt_of_lt_of_le i.isLt hkeeps.size_le
  exact ⟨hkeeps.sameNode i.isLt, hkeeps.sameAnswers i.isLt, (hapart.run later).facts_apply next hi⟩

end Workspace

end FactScope
