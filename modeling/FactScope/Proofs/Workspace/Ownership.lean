import FactScope.Proofs.Session.Ownership
import FactScope.Proofs.Workspace.Simulation

namespace FactScope.Workspace

variable {w : Workspace}

def births (w : Workspace) (act : Act) : List Session.Birth :=
  ((w.step? act).map w.session.births).getD []

def history (w : Workspace) : List Act → List Session.Birth
  | [] => []
  | act :: acts => w.births act ++ (w.apply act).history acts

theorem Apart.history_eq {w : Workspace} (h : w.Apart) (acts : List Act) :
    w.history acts = w.session.history (w.steps acts) := by
  induction acts generalizing w with
  | nil => rfl
  | cons act acts ih =>
      rw [history, births, ih (h.apply act), h.session_apply, steps]
      rcases w.step? act with _ | step
      · rfl
      · rfl

theorem owned_run_start (acts : List Act) :
    (start.run acts).session.Owned (start.history acts) := by
  have howned := Session.Owned.start.run (start.steps acts)
  rw [← session_ofSession .start] at howned
  rw [apart_start.session_run, apart_start.history_eq]
  exact howned

/-- In every state that callers can reach every node sees a logger that counts as given, and owns
exactly what it was supplied with, and on a root a logger and a version besides. -/
theorem own_facts_by_history (acts : List Act) :
    let w := start.run acts
    let past := start.history acts
    past.length = w.forest.size ∧ ∀ k : Fin past.length,
      let supplied := (past.get k).supplied
      let isRoot := w.forest.isRoot k
      (w.forest.see k .logger).truthy = true ∧
      Owns supplied isRoot (w.forest.facts k) ∧
      ∀ name, w.forest.hasOwn k name = true ↔
        name ∈ supplied.keys ∨
          isRoot = true ∧ (name = Fact.logger.name ∨ name = Fact.version.name) := by
  intro w past
  have howned : w.session.Owned past := owned_run_start acts
  refine ⟨howned.length_eq, fun k => ?_⟩
  intro supplied isRoot
  have hk : k < w.forest.size := Nat.lt_of_lt_of_eq k.isLt howned.length_eq
  have howns : Owns supplied isRoot (w.forest.facts k) :=
    howned.owns (List.getElem?_eq_getElem k.isLt)
  refine ⟨howned.logged k hk, howns, fun name => ?_⟩
  rw [Forest.hasOwn_iff]
  exact howns.mem_keys_iff name

example :
    let w := start.run [.hold [("logger", .text ""), ("class", .text "A")], .newRoot 0,
      .hold [("version", .null), ("logger", .int 0)], .edit 0 [], .child 0 2, .hold [], .clone 0 4]
    w.forest.facts 0 = [("logger", defaultLogger), ("class", .text "A"), ("version", .text "3.0.0")] ∧
      w.forest.facts 1 = [("version", .null), ("logger", defaultLogger)] ∧
      w.forest.facts 2 = w.forest.facts 0 := by
  decide +kernel

end FactScope.Workspace
