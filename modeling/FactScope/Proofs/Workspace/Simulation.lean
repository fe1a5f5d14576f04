import FactScope.Proofs.Workspace.Separation

namespace FactScope.Workspace

variable {w : Workspace}

theorem default_record (w : Workspace) (i : Nat) (name : String) (value : Value) :
    (w.record i name value).default = w.default := by
  unfold record
  cases w.nodes[i]? <;> rfl

theorem Apart.supplyLogger (h : w.Apart) (i : Nat) : (w.supplyLogger i).Apart := by
  unfold Workspace.supplyLogger
  split
  · exact h
  · exact h.record _ _ _

theorem Apart.forest_supplyLogger (h : w.Apart) (i : Nat) :
    (w.supplyLogger i).forest = w.forest.supplyLogger i := by
  unfold Workspace.supplyLogger Forest.supplyLogger
  split
  · rfl
  · exact h.forest_record _ _ _

theorem default_supplyLogger (w : Workspace) (i : Nat) :
    (w.supplyLogger i).default = w.default := by
  unfold supplyLogger
  split
  · rfl
  · exact default_record ..

theorem Apart.supplyVersion (h : w.Apart) (i : Nat) : (w.supplyVersion i).Apart := by
  unfold Workspace.supplyVersion
  split
  · exact h
  · exact h.record _ _ _

theorem Apart.forest_supplyVersion (h : w.Apart) (i : Nat) :
    (w.supplyVersion i).forest = w.forest.supplyVersion w.default i := by
  unfold Workspace.supplyVersion Forest.supplyVersion
  split
  · rfl
  · exact h.forest_record _ _ _

theorem default_supplyVersion (w : Workspace) (i : Nat) :
    (w.supplyVersion i).default = w.default := by
  unfold supplyVersion
  split
  · rfl
  · exact default_record ..

theorem Apart.build (h : w.Apart) (supplied : Entries Value)
    (parent : Option (Fin w.forest.size)) : (w.build supplied parent).Apart :=
  ((h.add supplied parent).supplyLogger _).supplyVersion _

theorem Apart.session_build (h : w.Apart) (supplied : Entries Value)
    (parent : Option (Fin w.forest.size)) :
    (w.build supplied parent).session = w.session.build supplied parent := by
  have hadd := h.add supplied parent
  have hlogger := hadd.supplyLogger w.forest.size
  have hdefault : (w.build supplied parent).default = w.default := by
    rw [Workspace.build, default_supplyVersion, default_supplyLogger]
    rfl
  have hforest : (w.build supplied parent).forest =
      w.forest.create w.default supplied parent := by
    rw [Workspace.build, hlogger.forest_supplyVersion, hadd.forest_supplyLogger, h.forest_add,
      default_supplyLogger, Forest.create_eq_supply]
    rfl
  unfold session
  rw [hforest, hdefault]
  rfl

theorem Apart.child (h : w.Apart) (of : Nat) (supplied : Entries Value) :
    (w.child of supplied).Apart := by
  unfold Workspace.child
  split
  · exact h.build _ _
  · exact h

theorem Apart.session_child (h : w.Apart) (of : Nat) (supplied : Entries Value) :
    (w.child of supplied).session = w.session.child of supplied := by
  rcases Nat.lt_or_ge of w.forest.size with hof | hof
  · rw [Workspace.child, dif_pos hof, h.session_build]
    exact (Session.child_eq_build (s := w.session) hof supplied).symm
  · rw [Workspace.child, dif_neg (Nat.not_lt.mpr hof)]
    exact (Session.child_of_size_le (s := w.session) hof supplied).symm

theorem Apart.clone (h : w.Apart) (of : Nat) (overrides : Entries Value) :
    (w.clone of overrides).Apart := by
  unfold Workspace.clone
  split
  · exact h.build _ _
  · exact h

theorem Apart.session_clone (h : w.Apart) (of : Nat) (overrides : Entries Value) :
    (w.clone of overrides).session = w.session.clone of overrides := by
  rcases Nat.lt_or_ge of w.forest.size with hof | hof
  · rw [Workspace.clone, if_pos hof, h.session_build]
    exact (Session.clone_eq_build (s := w.session) hof overrides).symm
  · rw [Workspace.clone, if_neg (Nat.not_lt.mpr hof)]
    exact (Session.clone_of_size_le (s := w.session) hof overrides).symm

theorem Apart.nest (count : Nat) {w : Workspace} (h : w.Apart) (of : Nat)
    (supplied : Entries Value) : (w.nest of supplied count).Apart := by
  induction count generalizing w of with
  | zero => exact h
  | succ count ih =>
      rw [Workspace.nest]
      split
      · exact ih (h.child of supplied) w.forest.size
      · exact h

theorem Apart.session_nest (count : Nat) {w : Workspace} (h : w.Apart) (of : Nat)
    (supplied : Entries Value) :
    (w.nest of supplied count).session = w.session.nest of count supplied := by
  induction count generalizing w of with
  | zero => exact (Session.nest_zero w.session of supplied).symm
  | succ count ih =>
      rw [Workspace.nest]
      rcases Nat.lt_or_ge of w.forest.size with hof | hof
      · rw [if_pos hof, ih (h.child of supplied) w.forest.size, h.session_child]
        exact (Session.nest_succ (s := w.session) hof count supplied).symm
      · rw [if_neg (Nat.not_lt.mpr hof)]
        exact (Session.nest_of_size_le (s := w.session) hof (count + 1) supplied).symm

theorem perform_setDefault (w : Workspace) (version : Value) :
    w.perform (.setDefault version) =
      match Version.choose version with
      | .ok version => { w with default := version }
      | .error _ => w := rfl

theorem Apart.perform (h : w.Apart) (step : Session.Step) : (w.perform step).Apart := by
  cases step with
  | newRoot supplied => exact h.build supplied none
  | child of supplied => exact h.child of supplied
  | clone of overrides => exact h.clone of overrides
  | nest of count supplied => exact h.nest count of supplied
  | setDefault version =>
      rw [perform_setDefault]
      cases Version.choose version with
      | ok chosen => exact ⟨h.place_lt, h.place_inj, h.not_held, h.held_lt⟩
      | error problem => exact h

theorem Apart.session_perform (h : w.Apart) (step : Session.Step) :
    (w.perform step).session = w.session.apply step := by
  cases step with
  | newRoot supplied => exact h.session_build supplied none
  | child of supplied => exact h.session_child of supplied
  | clone of overrides => exact h.session_clone of overrides
  | nest of count supplied => exact h.session_nest count of supplied
  | setDefault version =>
      rw [Session.apply_setDefault, perform_setDefault]
      simp only [session]
      cases Version.choose version <;> rfl

theorem session_hold (h : w.Apart) (contents : Entries Value) :
    (w.hold contents).session = w.session := by
  unfold session
  rw [h.forest_hold]
  rfl

theorem session_edit (h : w.Apart) (place : Nat) (contents : Entries Value) :
    (w.edit place contents).session = w.session := by
  have hdefault : (w.edit place contents).default = w.default := by
    unfold edit
    split <;> rfl
  unfold session
  rw [h.forest_edit, hdefault]

/-- What an act of a caller does: it is a step of the session or none. -/
theorem apply_cases (w : Workspace) (act : Act) :
    (∃ step, w.step? act = some step ∧ w.apply act = w.perform step) ∨
      w.step? act = none ∧
        ((∃ contents, w.apply act = w.hold contents) ∨
          (∃ place contents, w.apply act = w.edit place contents) ∨ w.apply act = w) := by
  cases hstep : w.step? act with
  | some step =>
      left
      refine ⟨step, rfl, ?_⟩
      cases act <;> simp_all [apply, step?]
  | none =>
      right
      refine ⟨rfl, ?_⟩
      cases act with
      | hold contents => exact .inl ⟨contents, rfl⟩
      | edit place contents => exact .inr (.inl ⟨place, contents, rfl⟩)
      | ownFacts of =>
          by_cases hof : of < w.forest.size
          · exact .inl ⟨w.forest.facts of, by simp [apply, hof]⟩
          · exact .inr (.inr (by simp [apply, hof]))
      | newRoot facts => exact .inr (.inr (by simp [apply, hstep]))
      | child of facts => exact .inr (.inr (by simp [apply, hstep]))
      | clone of overrides => exact .inr (.inr (by simp [apply, hstep]))
      | nest of count facts => exact .inr (.inr (by simp [apply, hstep]))
      | setDefault version => exact .inr (.inr (by simp [apply, hstep]))

theorem Apart.apply (h : w.Apart) (act : Act) : (w.apply act).Apart := by
  rcases w.apply_cases act with
    ⟨step, -, happly⟩ | ⟨-, ⟨contents, happly⟩ | ⟨place, contents, happly⟩ | happly⟩
  · exact happly ▸ h.perform step
  · exact happly ▸ h.hold contents
  · exact happly ▸ h.edit place contents
  · exact happly.symm ▸ h

theorem Apart.session_apply (h : w.Apart) (act : Act) :
    (w.apply act).session = ((w.step? act).map w.session.apply).getD w.session := by
  rcases w.apply_cases act with
    ⟨step, hstep, happly⟩ | ⟨hstep, ⟨contents, happly⟩ | ⟨place, contents, happly⟩ | happly⟩
  · rw [happly, hstep, h.session_perform]
    rfl
  · rw [happly, hstep, session_hold h]
    rfl
  · rw [happly, hstep, session_edit h]
    rfl
  · rw [happly, hstep]
    rfl

def steps (w : Workspace) : List Act → List Session.Step
  | [] => []
  | act :: acts => (w.step? act).toList ++ (w.apply act).steps acts

theorem Apart.run {w : Workspace} (h : w.Apart) (acts : List Act) : (w.run acts).Apart := by
  induction acts generalizing w with
  | nil => exact h
  | cons act acts ih => exact ih (h.apply act)

theorem Apart.session_run {w : Workspace} (h : w.Apart) (acts : List Act) :
    (w.run acts).session = w.session.run (w.steps acts) := by
  induction acts generalizing w with
  | nil => rfl
  | cons act acts ih =>
      change ((w.apply act).run acts).session = _
      rw [ih (h.apply act), h.session_apply, steps, Session.run_append]
      cases w.step? act <;> rfl

end FactScope.Workspace
