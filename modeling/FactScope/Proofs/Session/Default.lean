import FactScope.Proofs.Session.History

namespace FactScope.Session

variable {s : Session} {past : List Birth} {base : Nat}

/-- The nodes that came after the first `base` ones, under one default version: the roots that were
supplied with no version that counts as given record the default one. -/
structure Defaulted (base : Nat) (s : Session) (past : List Birth) : Prop where
  size_eq : s.forest.size = base + past.length
  get?_eq : ∀ {version}, (∀ birth ∈ past, birth.default = version) → ∀ {k birth},
    past[k]? = some birth → s.forest.parent? (base + k) = none →
    (∀ value, birth.supplied.get? Fact.version.name = some value → value.truthy = false) →
    (s.forest.facts (base + k)).get? Fact.version.name = some (.text version.text)

namespace Defaulted

theorem build (h : Defaulted base s past) (supplied : Entries Value)
    (parent : Option (Fin s.forest.size)) :
    Defaulted base (s.build supplied parent) (past ++ [⟨supplied, s.default⟩]) where
  size_eq := by
    rw [List.length_append, ← Nat.add_assoc, ← h.size_eq]
    exact Forest.size_create ..
  get?_eq := by
    intro version hversions k birth hbirth hroot hfalsy
    have hsize := h.size_eq
    have hdefault : s.default = version := hversions ⟨supplied, s.default⟩ (by simp)
    simp only [Session.build] at hroot ⊢
    rw [Forest.parent?_create] at hroot
    rw [Forest.facts_create]
    rcases getElem?_concat_cases hbirth with ⟨hk, hbirth⟩ | ⟨hk, rfl⟩
    · have hne : base + k ≠ s.forest.size := by omega
      rw [if_neg hne] at hroot
      rw [if_neg hne]
      split
      · -- what marks the root is the same default version
        rw [Entries.get?_put_self, hdefault]
      · refine h.get?_eq (fun other hother => hversions other ?_) hbirth hroot hfalsy
        exact List.mem_append_left _ hother
    · have hlast : base + k = s.forest.size := by omega
      rw [if_pos hlast, Option.map_eq_none_iff] at hroot
      subst hroot
      have hunseen : (s.forest.foresee supplied none .version).truthy = false := by
        rcases hget : supplied.get? Fact.version.name with _ | value
        · rw [Forest.foresee_root_of_get?_none hget]
          rfl
        · rw [Forest.foresee_of_get? hget]
          exact hfalsy value hget
      rw [if_pos hlast, Forest.get?_version_ownFacts, hunseen, hdefault]
      rfl

theorem run (h : Defaulted base s past) (steps : List Step) :
    Defaulted base (s.run steps) (past ++ s.history steps) :=
  history_induction (motive := Defaulted base)
    (fun s _ supplied parent (_ : s.Supplies (fun _ => True) supplied) hs => hs.build supplied parent)
    (fun _ _ _ hs => ⟨hs.size_eq, hs.get?_eq⟩) steps (fun _ _ => trivial) h

end Defaulted

theorem defaulted_nil (s : Session) : Defaulted s.forest.size s [] where
  size_eq := rfl
  get?_eq := by simp

theorem default_of_mem_births {step : Step} {birth : Birth} (h : birth ∈ s.births step) :
    birth.default = s.default := by
  cases step with
  | newRoot supplied => rw [List.mem_singleton.mp h]
  | child of supplied =>
      rw [births] at h
      split at h
      · rw [List.mem_singleton.mp h]
      · cases h
  | clone of overrides =>
      rw [births] at h
      split at h
      · rw [List.mem_singleton.mp h]
      · cases h
  | nest of count supplied =>
      rw [births] at h
      split at h
      · rw [List.eq_of_mem_replicate h]
      · cases h
  | setDefault version => cases h

def KeepsDefault (steps : List Step) : Prop :=
  ∀ step ∈ steps, ∀ version, step ≠ .setDefault version

theorem default_apply {step : Step} (h : ∀ version, step ≠ .setDefault version) :
    (s.apply step).default = s.default := by
  cases step with
  | setDefault version => exact absurd rfl (h version)
  | child of supplied =>
      change (s.child of supplied).default = s.default
      unfold child
      split <;> rfl
  | clone of overrides =>
      change (s.clone of overrides).default = s.default
      unfold clone
      split <;> rfl
  | nest of count supplied =>
      change (s.nest of count supplied).default = s.default
      unfold nest
      split <;> rfl
  | newRoot supplied => rfl

theorem default_run {steps : List Step} (h : KeepsDefault steps) (s : Session) :
    (s.run steps).default = s.default ∧ ∀ birth ∈ s.history steps, birth.default = s.default := by
  induction steps generalizing s with
  | nil => exact ⟨rfl, nofun⟩
  | cons step steps ih =>
      have hstep : (s.apply step).default = s.default := default_apply (h step List.mem_cons_self)
      obtain ⟨hrun, hbirths⟩ := ih (fun other hother => h other (List.mem_cons_of_mem _ hother))
        (s.apply step)
      refine ⟨hrun.trans hstep, fun birth hbirth => ?_⟩
      rcases List.mem_append.mp hbirth with hfirst | hrest
      · exact default_of_mem_births hfirst
      · exact (hbirths birth hrest).trans hstep

/-- While the default version stays, the new roots without a version of their own hold it. -/
theorem defaulted_run (s : Session) (steps : List Step) :
    Defaulted s.forest.size (s.run steps) (s.history steps) :=
  (defaulted_nil s).run steps

end FactScope.Session
