import FactScope.Proofs.Forest.Version
import FactScope.Proofs.Session.History

namespace FactScope

theorem Entries.mem_keys_of_get? {α : Type} {entries : Entries α} {key : String} {value : α}
    (h : entries.get? key = some value) : key ∈ entries.keys :=
  List.mem_map_of_mem (f := (·.1)) (mem_of_get? h)

/-- The own facts of a node that was supplied with some entries: these in their order, and on a root
a logger and a version behind them if there was none. An empty logger gives way to the default one
where it stands, and the version of a root counts as given. -/
structure Owns (supplied : Entries Value) (isRoot : Bool) (own : Entries Value) : Prop where
  keys_eq : own.keys = supplied.keys ++
    if isRoot then [Fact.logger.name, Fact.version.name].filter (· ∉ supplied.keys) else []
  logger_eq : own.get? Fact.logger.name =
    match supplied.get? Fact.logger.name with
    | some logger => some (logger.orElse defaultLogger)
    | none => if isRoot then some defaultLogger else none
  value_eq : ∀ name, name ≠ Fact.logger.name → (isRoot = true → name ≠ Fact.version.name) →
    own.get? name = supplied.get? name
  version_given : isRoot = true →
    ∃ version, own.get? Fact.version.name = some version ∧ version.truthy = true

namespace Owns

variable {supplied own : Entries Value} {isRoot : Bool}

theorem mem_keys_iff (h : Owns supplied isRoot own) (name : String) :
    name ∈ own.keys ↔ name ∈ supplied.keys ∨
      isRoot = true ∧ (name = Fact.logger.name ∨ name = Fact.version.name) := by
  rw [h.keys_eq, List.mem_append]
  rcases Bool.eq_false_or_eq_true isRoot with hroot | hroot
  · by_cases hname : name ∈ supplied.keys <;> simp [hroot, hname]
  · simp [hroot]

theorem put_version (h : Owns supplied true own) (default : Version) :
    Owns supplied true (own.put Fact.version.name (.text default.text)) where
  keys_eq := by
    obtain ⟨version, hversion, -⟩ := h.version_given rfl
    rw [Entries.keys_put, if_pos (Entries.mem_keys_of_get? hversion)]
    exact h.keys_eq
  logger_eq := by
    rw [Entries.get?_put_of_ne _ _ (by decide)]
    exact h.logger_eq
  value_eq := by
    intro name hlogger hversion
    rw [Entries.get?_put_of_ne _ _ (hversion rfl)]
    exact h.value_eq name hlogger hversion
  version_given := by
    intro _
    exact ⟨_, Entries.get?_put_self _ _ _, Forest.truthy_version default⟩

end Owns

namespace Forest

variable {f : Forest} {supplied : Entries Value} {parent : Option (Fin f.size)}

/-- Every node sees a logger that counts as given. -/
def Logged (f : Forest) : Prop :=
  ∀ i, i < f.size → (f.see i .logger).truthy = true

theorem withLogger_of_get? {logger : Value} (h : supplied.get? Fact.logger.name = some logger) :
    f.withLogger supplied parent =
      if logger.truthy then supplied else supplied.put Fact.logger.name defaultLogger := by
  rw [withLogger, foresee_of_get? h]

theorem withLogger_root (h : supplied.get? Fact.logger.name = none) :
    f.withLogger supplied none = supplied.put Fact.logger.name defaultLogger := by
  rw [withLogger, foresee_root_of_get?_none h]
  rfl

theorem Logged.withLogger_inside (hf : f.Logged) (h : supplied.get? Fact.logger.name = none)
    (p : Fin f.size) : f.withLogger supplied (some p) = supplied := by
  rw [withLogger, foresee_of_get?_none h, hf p p.isLt]
  rfl

theorem Logged.keys_withLogger (hf : f.Logged) (supplied : Entries Value)
    (parent : Option (Fin f.size)) :
    (f.withLogger supplied parent).keys = supplied.keys ++
      if parent.isNone then [Fact.logger.name].filter (· ∉ supplied.keys) else [] := by
  rcases hget : supplied.get? Fact.logger.name with _ | logger
  · have hmem : Fact.logger.name ∉ supplied.keys := Entries.get?_eq_none_iff.mp hget
    rcases parent with _ | p
    · rw [withLogger_root hget, Entries.keys_put, if_neg hmem]
      simp [hmem]
    · rw [hf.withLogger_inside hget]
      simp
  · have hmem : Fact.logger.name ∈ supplied.keys := Entries.mem_keys_of_get? hget
    have hkeys : (f.withLogger supplied parent).keys = supplied.keys := by
      rw [withLogger_of_get? hget]
      split
      · rfl
      · rw [Entries.keys_put, if_pos hmem]
    rw [hkeys]
    simp [hmem]

theorem Logged.logger_withLogger (hf : f.Logged) (supplied : Entries Value)
    (parent : Option (Fin f.size)) :
    (f.withLogger supplied parent).get? Fact.logger.name =
      match supplied.get? Fact.logger.name with
      | some logger => some (logger.orElse defaultLogger)
      | none => if parent.isNone then some defaultLogger else none := by
  rcases hget : supplied.get? Fact.logger.name with _ | logger
  · rcases parent with _ | p
    · rw [withLogger_root hget, Entries.get?_put_self]
      rfl
    · rw [hf.withLogger_inside hget, hget]
      rfl
  · rw [withLogger_of_get? hget]
    rcases Bool.eq_false_or_eq_true logger.truthy with hlogger | hlogger
    · rw [if_pos hlogger, hget]
      exact congrArg some (Value.orElse_of_truthy hlogger).symm
    · rw [if_neg (by simp [hlogger]), Entries.get?_put_self]
      exact congrArg some (Value.orElse_of_not_truthy hlogger).symm

theorem truthy_foresee_root (supplied : Entries Value) (fact : Fact) :
    (f.foresee supplied none fact).truthy = true ↔
      ∃ value, supplied.get? fact.name = some value ∧ value.truthy = true := by
  rcases hget : supplied.get? fact.name with _ | value
  · simp [foresee_root_of_get?_none hget, Value.truthy]
  · simp [foresee_of_get? hget]

/-- A new node owns what it is supplied with, and a new root a logger and a version besides. -/
theorem Logged.owns (hf : f.Logged) (default : Version) (supplied : Entries Value)
    (parent : Option (Fin f.size)) :
    Owns supplied parent.isNone (f.ownFacts default supplied parent) := by
  have hkeys := hf.keys_withLogger supplied parent
  have hlogger := hf.logger_withLogger supplied parent
  have hvalue : ∀ name, name ≠ Fact.logger.name →
      (f.withLogger supplied parent).get? name = supplied.get? name :=
    fun name hname => get?_withLogger f supplied parent hname
  by_cases hkept : (f.foresee supplied parent .version).truthy = true ∨ parent.isSome = true
  · rw [ownFacts, if_pos hkept]
    refine ⟨?_, hlogger, fun name hname _ => hvalue name hname, ?_⟩
    · rw [hkeys]
      rcases parent with _ | p
      · -- the root was supplied with a version, so none is appended
        obtain ⟨version, hget, -⟩ :=
          (truthy_foresee_root supplied .version).mp (hkept.resolve_right (by simp))
        simp [Entries.mem_keys_of_get? hget, List.filter_cons]
      · rfl
    · intro hroot
      rcases parent with _ | p
      · obtain ⟨version, hget, htruthy⟩ :=
          (truthy_foresee_root supplied .version).mp (hkept.resolve_right (by simp))
        exact ⟨version, (hvalue _ (by decide)).trans hget, htruthy⟩
      · cases hroot
  · obtain ⟨hunseen, hroot⟩ := not_or.mp hkept
    obtain rfl : parent = none := by simpa using hroot
    rw [ownFacts, if_neg hkept]
    refine ⟨?_, ?_, ?_, ?_⟩
    · have hne : Fact.version.name ≠ Fact.logger.name := by decide
      rw [Entries.keys_put, hkeys]
      by_cases hversion : Fact.version.name ∈ supplied.keys <;>
        by_cases hlogged : Fact.logger.name ∈ supplied.keys <;>
          simp [hversion, hlogged, hne]
    · rw [Entries.get?_put_of_ne _ _ (by decide)]
      exact hlogger
    · intro name hname hversion
      rw [Entries.get?_put_of_ne _ _ (hversion rfl)]
      exact hvalue name hname
    · intro _
      exact ⟨_, Entries.get?_put_self _ _ _, truthy_version default⟩

theorem see_put_of_ne {fact : Fact} {name : String} (hfact : fact.name ≠ name) (f : Forest)
    (i : Nat) (value : Value) (k : Nat) : (f.put i name value).see k fact = f.see k fact := by
  rw [see, see, get, get, get?_congr]
  · intro j _
    exact parent?_put ..
  · intro j _
    rw [facts_put]
    split
    · exact Entries.get?_put_of_ne _ _ hfact
    · rfl

theorem see_create_last (default : Version) {fact : Fact} (hfact : fact.name ≠ Fact.version.name) :
    (f.create default supplied parent).see f.size fact =
      f.foresee (f.ownFacts default supplied parent) parent fact := by
  rw [create_eq, ← see_push_last]
  split
  · rfl
  · exact see_put_of_ne hfact _ _ _ _

theorem Logged.create (hf : f.Logged) (hversioned : f.Versioned) (default : Version)
    (supplied : Entries Value) (parent : Option (Fin f.size)) :
    (f.create default supplied parent).Logged := by
  intro i hi
  rw [size_create] at hi
  rcases Nat.lt_succ_iff_lt_or_eq.mp hi with hold | rfl
  · rw [(hversioned.keeps_create default supplied parent).see hold (by decide)]
    exact hf i hold
  · rw [see_create_last default (by decide)]
    unfold foresee
    rw [(hf.owns default supplied parent).logger_eq]
    rcases supplied.get? Fact.logger.name with _ | logger
    · rcases parent with _ | p
      · rfl
      · exact hf p p.isLt
    · rcases hlogger : logger.truthy with _ | _
      · simp [Value.orElse_of_not_truthy hlogger]
      · simp [Value.orElse_of_truthy hlogger, hlogger]

end Forest

namespace Session

/-- The nodes own what a history tells. -/
structure Owned (s : Session) (past : List Birth) : Prop where
  length_eq : past.length = s.forest.size
  logged : s.forest.Logged
  owns : ∀ {k birth}, past[k]? = some birth →
    Owns birth.supplied (s.forest.isRoot k) (s.forest.facts k)

namespace Owned

variable {s : Session} {past : List Birth}

theorem versioned (h : Owned s past) : s.forest.Versioned := by
  intro k hk hroot
  have hlt : k < past.length := by rwa [h.length_eq]
  apply (h.owns (List.getElem?_eq_getElem hlt)).version_given
  rw [Forest.isRoot, hroot]
  rfl

theorem build (h : Owned s past) (supplied : Entries Value)
    (parent : Option (Fin s.forest.size)) :
    Owned (s.build supplied parent) (past ++ [⟨supplied, s.default⟩]) where
  length_eq := by
    rw [List.length_append, h.length_eq]
    exact (Forest.size_create ..).symm
  logged := h.logged.create h.versioned s.default supplied parent
  owns := by
    intro k birth hbirth
    have hlength := h.length_eq
    rw [Forest.isRoot]
    simp only [Session.build]
    rw [Forest.parent?_create, Forest.facts_create]
    rcases getElem?_concat_cases hbirth with ⟨hk, hbirth⟩ | ⟨hlast, rfl⟩
    · have hne : k ≠ s.forest.size := by omega
      have howns := h.owns hbirth
      rw [if_neg hne, if_neg hne]
      split
      · next hmarked =>
        -- a node that is marked is a root, and its version is written over
        have hroot : s.forest.parent? k = none := Forest.parent?_of_marked? hmarked
        rw [Forest.isRoot, hroot] at howns
        rw [hroot]
        exact howns.put_version s.default
      · exact howns
    · have hk : k = s.forest.size := by omega
      have howns := h.logged.owns s.default supplied parent
      rw [if_pos hk, if_pos hk, Option.isNone_map]
      exact howns

theorem start : Owned start [] where
  length_eq := rfl
  logged := by
    intro i hi
    exact absurd hi (Nat.not_lt_zero i)
  owns := by simp

theorem run (h : Owned s past) (steps : List Step) :
    Owned (s.run steps) (past ++ s.history steps) :=
  history_induction (motive := Owned)
    (fun s _ supplied parent (_ : s.Supplies (fun _ => True) supplied) hs => hs.build supplied parent)
    (fun _ _ _ hs => ⟨hs.length_eq, hs.logged, hs.owns⟩) steps (fun _ _ => trivial) h

end Owned

end Session

end FactScope
