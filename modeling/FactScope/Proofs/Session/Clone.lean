import FactScope.Forest.Query
import FactScope.Proofs.Entries
import FactScope.Proofs.Session.Ownership
import FactScope.Proofs.Session.Supply

namespace FactScope

namespace Entries

variable {entries updates : Entries Value} {key : String}

/-- Entries with a value of `key` that counts as given, if they have one at all. -/
def settled (key : String) (fallback : Value) (entries : Entries Value) : Entries Value :=
  match entries.get? key with
  | some value => if value.truthy then entries else entries.put key fallback
  | none => entries

/-- Updates whose values of `key` all count as given. -/
def mended (key : String) (fallback : Value) (updates : Entries Value) : Entries Value :=
  updates.map fun entry => (entry.1, if entry.1 = key then entry.2.orElse fallback else entry.2)

theorem settled_of_get? {fallback value : Value} (h : entries.get? key = some value) :
    entries.settled key fallback =
      if value.truthy then entries else entries.put key fallback := by
  rw [settled, h]

theorem settled_of_get?_none {fallback : Value} (h : entries.get? key = none) :
    entries.settled key fallback = entries := by
  rw [settled, h]

theorem settled_of_truthy {fallback : Value}
    (h : ∀ value, entries.get? key = some value → value.truthy = true) :
    entries.settled key fallback = entries := by
  cases hget : entries.get? key with
  | none => exact settled_of_get?_none hget
  | some value => rw [settled_of_get? hget, if_pos (h value hget)]

theorem settled_put (fallback : Value) (entries : Entries Value) (name : String) (value : Value) :
    (entries.put name value).settled key fallback =
      (entries.settled key fallback).put name
        (if name = key then value.orElse fallback else value) := by
  by_cases hname : name = key
  · subst hname
    have hput (last : Value) :
        (entries.settled name fallback).put name last = entries.put name last := by
      unfold settled
      split
      · split
        · rfl
        · exact put_put ..
      · rfl
    rw [if_pos rfl, hput, settled_of_get? (get?_put_self ..)]
    cases hvalue : value.truthy with
    | true => simp [Value.orElse_of_truthy hvalue]
    | false => simp [Value.orElse_of_not_truthy hvalue, put_put]
  · have hkept := get?_put_of_ne entries value (Ne.symm hname)
    rw [if_neg hname]
    cases hget : entries.get? key with
    | none => rw [settled_of_get?_none (hkept.trans hget), settled_of_get?_none hget]
    | some old =>
        rw [settled_of_get? (hkept.trans hget), settled_of_get? hget]
        split
        · rfl
        · exact (put_comm (mem_keys_of_get? hget) (Ne.symm hname) fallback value).symm

/-- A fallback can be filled in after an update, or before it in the updates themselves. -/
theorem settled_putAll (fallback : Value) (entries updates : Entries Value) :
    (entries.putAll updates).settled key fallback =
      (entries.settled key fallback).putAll (updates.mended key fallback) := by
  induction updates generalizing entries with
  | nil => rfl
  | cons entry rest ih => exact (ih _).trans (congrArg (putAll · _) (settled_put fallback ..))

theorem keys_mended (key : String) (fallback : Value) (updates : Entries Value) :
    (updates.mended key fallback).keys = updates.keys := by
  simp [mended, keys]

theorem mended_put (key : String) (fallback : Value) (updates : Entries Value) (name : String)
    (value : Value) :
    (updates.put name value).mended key fallback =
      (updates.mended key fallback).put name
        (if name = key then value.orElse fallback else value) :=
  map_put (fun name (value : Value) => if name = key then value.orElse fallback else value) ..

theorem mended_putAll (key : String) (fallback : Value) (entries updates : Entries Value) :
    (entries.putAll updates).mended key fallback =
      (entries.mended key fallback).putAll (updates.mended key fallback) := by
  induction updates generalizing entries with
  | nil => rfl
  | cons entry rest ih => exact (ih _).trans (congrArg (putAll · _) (mended_put key fallback ..))

theorem get?_mended (key : String) (fallback : Value) (updates : Entries Value) (name : String) :
    (updates.mended key fallback).get? name =
      (updates.get? name).map fun value => if name = key then value.orElse fallback else value := by
  induction updates with
  | nil => rfl
  | cons entry rest ih =>
      obtain ⟨given, value⟩ := entry
      by_cases hname : given = name
      · subst hname
        simp [mended, get?]
      · simpa [mended, get?, hname] using ih

end Entries

namespace Forest

variable {f : Forest} {supplied : Entries Value} {parent : Option (Fin f.size)} {i j : Nat}

theorem Logged.withLogger_eq_settled (hf : f.Logged)
    (h : parent = none → Fact.logger.name ∈ supplied.keys) :
    f.withLogger supplied parent = supplied.settled Fact.logger.name defaultLogger := by
  cases hget : supplied.get? Fact.logger.name with
  | some logger => rw [withLogger_of_get? hget, Entries.settled_of_get? hget]
  | none =>
      cases parent with
      | none => exact absurd (h rfl) (Entries.get?_eq_none_iff.mp hget)
      | some p => rw [hf.withLogger_inside hget, Entries.settled_of_get?_none hget]

theorem Logged.ownFacts_inside (hf : f.Logged) (default : Version) (supplied : Entries Value)
    (p : Fin f.size) :
    f.ownFacts default supplied (some p) =
      supplied.settled Fact.logger.name defaultLogger := by
  rw [ownFacts, if_pos (.inr rfl), hf.withLogger_eq_settled]
  intro hroot
  cases hroot

theorem Logged.ownFacts_root (hf : f.Logged) (default : Version)
    (hlogger : Fact.logger.name ∈ supplied.keys) (hversion : Fact.version.name ∈ supplied.keys) :
    f.ownFacts default supplied none =
      (supplied.settled Fact.logger.name defaultLogger).settled Fact.version.name
        (.text default.text) := by
  have hlogged : f.withLogger supplied none = supplied.settled Fact.logger.name defaultLogger :=
    hf.withLogger_eq_settled fun _ => hlogger
  obtain ⟨version, hget⟩ : ∃ version, supplied.get? Fact.version.name = some version :=
    Option.isSome_iff_exists.mp (Entries.has_iff.mpr hversion)
  have hseen : (supplied.settled Fact.logger.name defaultLogger).get? Fact.version.name =
      some version := by
    rw [← hlogged, get?_withLogger f supplied none (by decide), hget]
  rw [ownFacts, hlogged, foresee_of_get? hget, Entries.settled_of_get? hseen]
  simp

/-- Two nodes of a forest that give the same answers, to every name and every reference. -/
structure AnswersAlike (f : Forest) (i j : Nat) : Prop where
  get_eq : ∀ name default, f.get j name default = f.get i name default
  resolveAt_eq : ∀ reference, f.resolveAt j reference = f.resolveAt i reference
  describe_eq : f.describe j = f.describe i
  depth_eq : f.depth j = f.depth i
  ancestors_eq : f.ancestors j = f.ancestors i

theorem answersAlike_of_facts_eq (hfacts : f.facts j = f.facts i)
    (hparent : f.parent? j = f.parent? i) : f.AnswersAlike i j := by
  have hget (name : String) (default : Value) : f.get j name default = f.get i name default := by
    rw [get, get, get?_eq_or, get?_eq_or f i, hfacts, hparent]
  have hscope : f.scope j = f.scope i := by simp only [scope, see, hget]
  have hsite : f.site j = f.site i := by simp only [site, hscope, see, hget]
  have hancestors : f.ancestors j = f.ancestors i := by
    cases hp : f.parent? i with
    | none => rw [ancestors_of_root hp, ancestors_of_root (hparent.trans hp)]
    | some p => rw [ancestors_of_parent hp, ancestors_of_parent (hparent.trans hp)]
  refine ⟨hget, ?_, ?_, congrArg List.length hancestors, hancestors⟩
  · intro reference
    rw [resolveAt, resolveAt, hscope]
  · rw [describe, describe, hsite]

end Forest

namespace Session

/-- Overrides as a clone records them: an empty logger gives way to the default one, and an empty
version to the default one if the clone is a root. -/
def amended (default : Version) (isRoot : Bool) (overrides : Entries Value) : Entries Value :=
  let logged := overrides.mended Fact.logger.name defaultLogger
  if isRoot then logged.mended Fact.version.name (.text default.text) else logged

/-- The facts of a clone: those of its original updated in place by the amended overrides, so names
that are there keep their places and new ones follow in the order of the overrides. -/
structure Updated (default : Version) (isRoot : Bool) (own overrides result : Entries Value) :
    Prop where
  eq_putAll : result = own.putAll (amended default isRoot overrides)
  keys_eq : result.keys = own.keys ++ overrides.keys.filter (· ∉ own.keys)
  kept : ∀ name ∉ overrides.keys, result.get? name = own.get? name
  overridden : ∀ name value, overrides.get? name = some value → result.get? name =
    some (if name = Fact.logger.name then value.orElse defaultLogger
      else if isRoot = true ∧ name = Fact.version.name then value.orElse (.text default.text)
      else value)

theorem keys_amended (default : Version) (isRoot : Bool) (overrides : Entries Value) :
    (amended default isRoot overrides).keys = overrides.keys := by
  unfold amended
  split
  · rw [Entries.keys_mended, Entries.keys_mended]
  · exact Entries.keys_mended ..

theorem amended_putAll (default : Version) (isRoot : Bool) (first second : Entries Value) :
    amended default isRoot (first.putAll second) =
      (amended default isRoot first).putAll (amended default isRoot second) := by
  unfold amended
  split
  · rw [Entries.mended_putAll, Entries.mended_putAll]
  · exact Entries.mended_putAll ..

theorem get?_amended (default : Version) (isRoot : Bool) (overrides : Entries Value)
    (name : String) :
    (amended default isRoot overrides).get? name = (overrides.get? name).map fun value =>
      if name = Fact.logger.name then value.orElse defaultLogger
      else if isRoot = true ∧ name = Fact.version.name then value.orElse (.text default.text)
      else value := by
  have hne : Fact.logger.name ≠ Fact.version.name := by decide
  unfold amended
  cases isRoot with
  | true =>
      rw [if_pos rfl, Entries.get?_mended, Entries.get?_mended, Option.map_map]
      congr 1
      funext value
      by_cases hlogger : name = Fact.logger.name
      · simp [hlogger, hne]
      · simp [hlogger]
  | false =>
      rw [if_neg (by decide), Entries.get?_mended]
      simp

theorem updated_putAll (default : Version) (isRoot : Bool) (own : Entries Value)
    {overrides : Entries Value} (h : overrides.keys.Nodup) :
    Updated default isRoot own overrides (own.putAll (amended default isRoot overrides)) := by
  have hkeys := keys_amended default isRoot overrides
  have hnodup : (amended default isRoot overrides).keys.Nodup := hkeys ▸ h
  refine ⟨rfl, ?_, ?_, ?_⟩
  · rw [Entries.keys_putAll hnodup, hkeys]
  · intro name hname
    rw [Entries.get?_putAll hnodup, get?_amended, Entries.get?_eq_none_iff.mpr hname]
    rfl
  · intro name value hget
    rw [Entries.get?_putAll hnodup, get?_amended, hget]
    rfl

variable {s : Session} {past : List Birth} {n : Nat}

namespace Owned

theorem exists_owns (h : Owned s past) (hn : n < s.forest.size) :
    ∃ supplied, Owns supplied (s.forest.isRoot n) (s.forest.facts n) :=
  ⟨_, h.owns (List.getElem?_eq_getElem (by rwa [h.length_eq]))⟩

theorem truthy_logger (h : Owned s past) (hn : n < s.forest.size) {logger : Value}
    (hget : (s.forest.facts n).get? Fact.logger.name = some logger) : logger.truthy = true := by
  obtain ⟨supplied, howns⟩ := h.exists_owns hn
  rw [howns.logger_eq] at hget
  split at hget
  · next given _ =>
    cases hget
    cases hgiven : given.truthy with
    | true => rw [Value.orElse_of_truthy hgiven, hgiven]
    | false => rw [Value.orElse_of_not_truthy hgiven, truthy_defaultLogger]
  · split at hget
    · cases hget
      rfl
    · cases hget

theorem facts_clone (h : Owned s past) (hn : n < s.forest.size) (overrides : Entries Value) :
    (s.clone n overrides).forest.facts s.forest.size =
      (s.forest.facts n).putAll (amended s.default (s.forest.isRoot n) overrides) := by
  obtain ⟨supplied, howns⟩ := h.exists_owns hn
  have hlogger : (s.forest.facts n).settled Fact.logger.name defaultLogger = s.forest.facts n :=
    Entries.settled_of_truthy fun _ hget => h.truthy_logger hn hget
  have hparent := s.forest.map_parentFin? n
  rw [clone_eq_build hn, facts_build_last]
  unfold amended
  cases hp : s.forest.parentFin? n with
  | none =>
      rw [hp, Option.map_none] at hparent
      have hroot : s.forest.isRoot n = true := by rw [Forest.isRoot, ← hparent]; rfl
      rw [hroot] at howns
      have hmem {name : String} (hname : name = Fact.logger.name ∨ name = Fact.version.name) :
          name ∈ ((s.forest.facts n).putAll overrides).keys :=
        Entries.mem_keys_putAll overrides ((howns.mem_keys_iff name).mpr (.inr ⟨rfl, hname⟩))
      obtain ⟨version, hget, hgiven⟩ := howns.version_given rfl
      have hversion : (s.forest.facts n).settled Fact.version.name (.text s.default.text) =
          s.forest.facts n := by
        rw [Entries.settled_of_truthy]
        intro other hother
        rw [hget] at hother
        cases hother
        exact hgiven
      rw [h.logged.ownFacts_root s.default (hmem (.inl rfl)) (hmem (.inr rfl)),
        hroot, if_pos rfl, Entries.settled_putAll, hlogger, Entries.settled_putAll, hversion]
  | some p =>
      rw [hp, Option.map_some] at hparent
      have hroot : s.forest.isRoot n = false := by rw [Forest.isRoot, ← hparent]; rfl
      rw [h.logged.ownFacts_inside, hroot, if_neg (by decide), Entries.settled_putAll, hlogger]

end Owned

theorem parent?_clone (hn : n < s.forest.size) (overrides : Entries Value) :
    (s.clone n overrides).forest.parent? s.forest.size = s.forest.parent? n ∧
      (s.clone n overrides).forest.parent? n = s.forest.parent? n := by
  rw [clone_eq_build hn, parent?_build, parent?_build, if_pos rfl, if_neg (Nat.ne_of_lt hn)]
  exact ⟨s.forest.map_parentFin? n, rfl⟩

/-- Cloning leaves the facts of the original as they are: what is marked is a root above it. -/
theorem facts_clone_original (hn : n < s.forest.size) (overrides : Entries Value) :
    (s.clone n overrides).forest.facts n = s.forest.facts n := by
  rw [clone_eq_build hn, facts_build s _ _ hn, if_neg]
  intro hmarked
  obtain ⟨-, p, hp, hroot⟩ := Forest.marked?_eq_some_iff.mp hmarked
  have hparent : s.forest.parent? n = some p.val := by
    rw [← s.forest.map_parentFin? n, hp]
    rfl
  have hlt : p.val < n := Forest.lt_of_parent? hparent
  have hle : s.forest.root p ≤ p := s.forest.root_le p
  omega

theorem size_clone (hn : n < s.forest.size) (overrides : Entries Value) :
    (s.clone n overrides).forest.size = s.forest.size + 1 := by
  rw [clone_eq_build hn]
  exact Forest.size_create ..

theorem Owned.facts_clone_clone (h : Owned s past) (hn : n < s.forest.size)
    {first : Entries Value} (hfirst : first.keys.Nodup) (second : Entries Value) :
    ((s.clone n first).clone s.forest.size second).forest.facts (s.forest.size + 1) =
      (s.clone n (first.putAll second)).forest.facts s.forest.size := by
  have hsize : (s.clone n first).forest.size = s.forest.size + 1 := size_clone hn first
  have hdefault : (s.clone n first).default = s.default := by rw [clone_eq_build hn]; rfl
  have hroot : (s.clone n first).forest.isRoot s.forest.size = s.forest.isRoot n := by
    rw [Forest.isRoot, (parent?_clone hn first).1]
    rfl
  have howned : Owned (s.clone n first) (past ++ s.history [.clone n first]) :=
    h.run [.clone n first]
  have hlast := howned.facts_clone (by rw [hsize]; exact Nat.lt_succ_self _) second
  rw [hsize] at hlast
  have hnodup : (amended s.default (s.forest.isRoot n) first).keys.Nodup := by
    rwa [keys_amended]
  rw [hlast, hdefault, hroot, h.facts_clone hn, h.facts_clone hn, amended_putAll,
    Entries.putAll_putAll hnodup]

/-- What cloning does. A clone without overrides records what its original records, below the same
parent, and both answer alike. With overrides it records the facts of its original updated by
these; the original stays as it is; and cloning the clone is cloning the original with the updated
overrides. -/
theorem clone_copies_and_updates (steps : List Step)
    (n : Fin (start.run steps).forest.size) :
    let s := start.run steps
    let c := s.forest.size
    let own := s.forest.facts n
    (∀ overrides : Entries Value,
      (s.clone n overrides).forest.size = c + 1 ∧
      (s.clone n overrides).forest.parent? c = s.forest.parent? n ∧
      (s.clone n overrides).forest.facts n = own) ∧
    ((s.clone n []).forest.facts c = own ∧ (s.clone n []).forest.AnswersAlike n c) ∧
    ∀ first : Entries Value, first.keys.Nodup →
      Updated s.default (s.forest.isRoot n) own first ((s.clone n first).forest.facts c) ∧
      ∀ second : Entries Value,
        ((s.clone n first).clone c second).forest.facts (c + 1) =
          (s.clone n (first.putAll second)).forest.facts c := by
  intro s c own
  have howned : Owned s (start.history steps) := Owned.start.run steps
  have hn : n.val < s.forest.size := n.isLt
  have hcopied : (s.clone n []).forest.facts c = own := by
    have hclone := howned.facts_clone hn []
    unfold amended at hclone
    split at hclone <;> exact hclone
  refine ⟨?_, ⟨hcopied, ?_⟩, ?_⟩
  · intro overrides
    exact ⟨size_clone hn overrides, (parent?_clone hn overrides).1,
      facts_clone_original hn overrides⟩
  · obtain ⟨hparent, horiginal⟩ := parent?_clone hn []
    exact Forest.answersAlike_of_facts_eq (hcopied.trans (facts_clone_original hn []).symm)
      (hparent.trans horiginal.symm)
  · intro first hfirst
    constructor
    · rw [howned.facts_clone hn first]
      exact updated_putAll s.default (s.forest.isRoot n) own hfirst
    · intro second
      exact howned.facts_clone_clone hn hfirst second

/-- A root cloned with an empty version and an empty logger, which give way to the default ones. -/
theorem clone_copies_and_updates_on_root :
    let s := start.run [.newRoot [("class", .text "User"), ("version", .text "3.1.0")]]
    let first : Entries Value := [("version", .text ""), ("line", .int 3), ("logger", .null)]
    let f := (s.clone 0 first).forest
    f.facts 1 = [("class", .text "User"), ("version", .text "3.0.0"), ("logger", defaultLogger),
      ("line", .int 3)] ∧
      f.facts 0 = s.forest.facts 0 ∧
      ((s.clone 0 first).clone 1 [("class", .null)]).forest.facts 2 =
        (s.clone 0 (first.putAll [("class", .null)])).forest.facts 1 := by
  intro s first f
  have hnodup : first.keys.Nodup := by decide
  obtain ⟨hbeside, -, hagain⟩ := clone_copies_and_updates
    [.newRoot [("class", .text "User"), ("version", .text "3.1.0")]] ⟨0, by decide⟩
  obtain ⟨hupdated, htwice⟩ := hagain first hnodup
  refine ⟨?_, (hbeside first).2.2, htwice _⟩
  exact hupdated.eq_putAll.trans (by decide +kernel)

end Session

end FactScope
