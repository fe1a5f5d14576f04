import FactScope.Proofs.Session.History
import FactScope.Proofs.Session.Version

namespace FactScope

namespace Entries

variable {α : Type}

theorem get?_putAll_cases {entries updates : Entries α} {key : String} {value : α}
    (h : (entries.putAll updates).get? key = some value) :
    (key, value) ∈ updates ∨ entries.get? key = some value := by
  induction updates generalizing entries with
  | nil => exact .inr h
  | cons entry rest ih =>
      rcases ih h with hmem | hget
      · exact .inl (List.mem_cons_of_mem _ hmem)
      · rw [get?_put] at hget
        split at hget
        · next hkey =>
          cases hget
          subst hkey
          exact .inl List.mem_cons_self
        · exact .inr hget

end Entries

namespace Forest

variable {f : Forest} {i : Nat}

theorem matchesVersion_of_hashable {default : Version}
    (hseen : (f.see i .version).truthy = true) (hhash : (f.see i .version).hashable = true)
    (candidate : String) :
    f.matchesVersion default i (.text candidate) =
      .ok (decide (f.see i .version = .text candidate)) := by
  rw [matchesVersion_text, currentVersion, Value.orElse_of_truthy hseen,
    VersionMatch.isAmong_eq_ok_iff]
  refine ⟨by simp [Value.hashable], hhash, ?_⟩
  rw [Bool.eq_iff_iff]
  simp [Value.alike_text_iff]

end Forest

namespace Session

def Birth.given? (birth : Birth) : Option Value :=
  birth.supplied.get? Fact.version.name

/-- The version that a node records: the one that it was given, or on a root the default one. -/
def Birth.version? (birth : Birth) (isRoot : Bool) : Option Value :=
  birth.given?.or (if isRoot then some (.text birth.default.text) else none)

def GivesVersions (entries : Entries Value) : Prop :=
  ∀ entry ∈ entries, entry.1 = Fact.version.name → entry.2.truthy = true

def givenAt? (past : List Birth) (k : Nat) : Option Value :=
  past[k]?.bind Birth.given?

/-- The nodes record the versions that a history tells. -/
structure Recorded (s : Session) (past : List Birth) : Prop where
  length_eq : past.length = s.forest.size
  truthy : ∀ birth ∈ past, ∀ version, birth.given? = some version → version.truthy = true
  get?_eq : ∀ {k birth}, past[k]? = some birth →
    (s.forest.facts k).get? Fact.version.name = birth.version? (s.forest.isRoot k)

namespace Recorded

variable {s : Session} {past : List Birth} {i k : Nat}

theorem exists_birth (h : Recorded s past) (hk : k < s.forest.size) :
    ∃ birth, past[k]? = some birth := by
  rw [← h.length_eq] at hk
  exact ⟨past[k], List.getElem?_eq_getElem hk⟩

theorem truthy_of_version? (h : Recorded s past) {birth : Birth} (hmem : birth ∈ past)
    {isRoot : Bool} {version : Value} (hversion : birth.version? isRoot = some version) :
    version.truthy = true := by
  rw [Birth.version?, Option.or_eq_some_iff] at hversion
  rcases hversion with hgiven | ⟨-, hdefault⟩
  · exact h.truthy birth hmem version hgiven
  · split at hdefault
    · cases hdefault
      exact Forest.truthy_version birth.default
    · cases hdefault

theorem truthy_of_get? (h : Recorded s past) (hk : k < s.forest.size) {version : Value}
    (hget : (s.forest.facts k).get? Fact.version.name = some version) :
    version.truthy = true := by
  obtain ⟨birth, hbirth⟩ := h.exists_birth hk
  rw [h.get?_eq hbirth] at hget
  exact h.truthy_of_version? (List.mem_of_getElem? hbirth) hget

theorem versioned (h : Recorded s past) : s.forest.Versioned := by
  intro k hk hroot
  obtain ⟨birth, hbirth⟩ := h.exists_birth hk
  have hget := h.get?_eq hbirth
  have hsome : (birth.version? (s.forest.isRoot k)).isSome = true := by
    simp [Birth.version?, Forest.isRoot, hroot]
  obtain ⟨version, hversion⟩ := Option.isSome_iff_exists.mp hsome
  rw [hversion] at hget
  exact ⟨version, hget, h.truthy_of_get? hk hget⟩

theorem truthy_see (h : Recorded s past) (hi : i < s.forest.size) :
    (s.forest.see i .version).truthy = true := by
  obtain ⟨owner, howner⟩ := h.versioned.exists_owner hi
  have hlt : owner < s.forest.size := Nat.lt_of_le_of_lt (Forest.ownerOf?_le howner) hi
  have hown := Forest.hasOwn_of_ownerOf? howner
  obtain ⟨version, hget⟩ := Option.isSome_iff_exists.mp hown
  rw [Forest.see_of_ownerOf? howner, hget]
  exact h.truthy_of_get? hlt hget

theorem marked?_eq_none (h : Recorded s past) {supplied : Entries Value}
    (hgiven : ∀ version, supplied.get? Fact.version.name = some version → version.truthy = true)
    (parent : Option (Fin s.forest.size)) : s.forest.marked? supplied parent = none := by
  rw [Option.eq_none_iff_forall_ne_some]
  intro root hmarked
  obtain ⟨hunseen, p, rfl, -⟩ := Forest.marked?_eq_some_iff.mp hmarked
  cases hget : supplied.get? Fact.version.name with
  | some version => rw [Forest.foresee_of_get? hget, hgiven version hget] at hunseen; cases hunseen
  | none => rw [Forest.foresee_of_get?_none hget, h.truthy_see p.isLt] at hunseen; cases hunseen

theorem get?_version_supplied {supplied : Entries Value}
    (hgiven : ∀ version, supplied.get? Fact.version.name = some version → version.truthy = true)
    (parent : Option (Fin s.forest.size)) :
    (s.forest.ownFacts s.default supplied parent).get? Fact.version.name =
      Birth.version? ⟨supplied, s.default⟩ (parent.map (·.val)).isNone := by
  rw [Forest.get?_version_ownFacts, Birth.version?, Birth.given?]
  cases parent with
  | some p => simp
  | none =>
      cases hget : supplied.get? Fact.version.name with
      | some version => simp [Forest.foresee_of_get? hget, hgiven version hget]
      | none => simp [Forest.foresee_root_of_get?_none hget, Value.truthy]

theorem build (h : Recorded s past) {supplied : Entries Value}
    (hgiven : ∀ version, supplied.get? Fact.version.name = some version → version.truthy = true)
    (parent : Option (Fin s.forest.size)) :
    Recorded (s.build supplied parent) (past ++ [⟨supplied, s.default⟩]) where
  length_eq := by
    rw [List.length_append, h.length_eq]
    exact (Forest.size_create ..).symm
  truthy := by
    intro birth hmem
    rcases List.mem_append.mp hmem with hold | hnew
    · exact h.truthy birth hold
    · rw [List.mem_singleton.mp hnew]
      exact hgiven
  get?_eq := by
    intro k birth hbirth
    change ((s.forest.create s.default supplied parent).facts k).get? _ =
      birth.version? ((s.forest.create s.default supplied parent).parent? k).isNone
    -- no older node is marked, so nothing but the new node is different
    rw [Forest.facts_create, Forest.parent?_create, h.marked?_eq_none hgiven parent]
    have hlength := h.length_eq
    rcases getElem?_concat_cases hbirth with ⟨hlt, hbirth⟩ | ⟨hlast, rfl⟩
    · have hne : k ≠ s.forest.size := by omega
      rw [if_neg hne, if_neg hne, if_neg (by simp)]
      exact h.get?_eq hbirth
    · have hk : k = s.forest.size := by omega
      rw [if_pos hk, if_pos hk]
      exact get?_version_supplied hgiven parent

theorem of_gives {entries : Entries Value} (h : GivesVersions entries) (version : Value)
    (hget : entries.get? Fact.version.name = some version) : version.truthy = true :=
  h _ (Entries.mem_of_get? hget) rfl

theorem of_supplies (h : Recorded s past) {supplied : Entries Value}
    (hsupplied : s.Supplies GivesVersions supplied) (version : Value)
    (hget : supplied.get? Fact.version.name = some version) : version.truthy = true := by
  cases hsupplied with
  | given hgives => exact of_gives hgives version hget
  | copied hof hgives =>
      rcases Entries.get?_putAll_cases hget with hmem | hcopied
      · exact hgives _ hmem rfl
      · exact h.truthy_of_get? hof hcopied

theorem run (steps : List Step) {s : Session} {past : List Birth} (h : Recorded s past)
    (hgives : ∀ step ∈ steps, GivesVersions step.entries) :
    Recorded (s.run steps) (past ++ s.history steps) :=
  history_induction (motive := Recorded)
    (fun _ _ _ parent hsupplied hs => hs.build (hs.of_supplies hsupplied) parent)
    (fun _ _ _ hs => ⟨hs.length_eq, hs.truthy, hs.get?_eq⟩) steps hgives h

theorem start : Recorded start [] where
  length_eq := rfl
  truthy := by simp
  get?_eq := by simp

theorem givenAt?_of_birth {birth : Birth} (hbirth : past[k]? = some birth) :
    givenAt? past k = birth.given? := by
  rw [givenAt?, hbirth, Option.bind_some]

/-- A node sees the version that the nearest node on the way to its root was given, and the default
version at the time of the root if none was. -/
theorem see_eq (h : Recorded s past) (hi : i < s.forest.size) :
    ∃ birth, past[s.forest.root i]? = some birth ∧
      s.forest.see i .version =
        ((s.forest.chain i).findSome? (givenAt? past)).getD (.text birth.default.text) := by
  induction i using s.forest.parentInduction with
  | root i hp =>
      obtain ⟨birth, hbirth⟩ := h.exists_birth hi
      rw [Forest.root_of_root hp]
      refine ⟨birth, hbirth, ?_⟩
      rw [Forest.see, Forest.get, Forest.get?_eq_or, hp, h.get?_eq hbirth, Forest.isRoot, hp,
        Forest.chain_of_root hp, List.findSome?_singleton, givenAt?_of_birth hbirth]
      cases hgiven : birth.given? <;> simp [Birth.version?, hgiven]
  | child i p hp ih =>
      obtain ⟨birth, hbirth⟩ := h.exists_birth hi
      have hlt := Nat.lt_trans (Forest.lt_of_parent? hp) hi
      obtain ⟨origin, horigin, hseen⟩ := ih hlt
      rw [Forest.root_of_parent hp]
      refine ⟨origin, horigin, ?_⟩
      rw [Forest.see, Forest.get] at hseen ⊢
      rw [Forest.get?_eq_or, hp, h.get?_eq hbirth, Forest.isRoot, hp, Forest.chain_of_parent hp,
        List.findSome?_cons, givenAt?_of_birth hbirth]
      cases hgiven : birth.given? with
      | some version => simp [Birth.version?, hgiven]
      | none => simpa [Birth.version?, hgiven] using hseen

theorem hasOwn_iff (h : Recorded s past) (hk : k < s.forest.size) :
    s.forest.hasOwn k Fact.version.name = true ↔
      s.forest.parent? k = none ∨ givenAt? past k ≠ none := by
  obtain ⟨birth, hbirth⟩ := h.exists_birth hk
  rw [Forest.hasOwn, Entries.has, h.get?_eq hbirth, givenAt?_of_birth hbirth, Birth.version?,
    Forest.isRoot]
  cases birth.given? <;> cases s.forest.parent? k <;> simp

theorem hasOwn_iff_root (h : Recorded s past) (hi : i < s.forest.size)
    (hnone : ∀ k ∈ s.forest.chain i, s.forest.parent? k ≠ none → givenAt? past k = none)
    (hk : k ∈ s.forest.chain i) :
    s.forest.hasOwn k Fact.version.name = true ↔ k = s.forest.root i := by
  have hlt : k < s.forest.size := Nat.lt_of_le_of_lt (Forest.le_of_mem_chain hk) hi
  rw [h.hasOwn_iff hlt]
  constructor
  · rintro (hroot | hgiven)
    · exact Forest.eq_root_of_mem_chain hk hroot
    · refine Forest.eq_root_of_mem_chain hk (Classical.byContradiction ?_)
      intro hinside
      exact hgiven (hnone k hk hinside)
  · rintro rfl
    exact .inl (s.forest.parent?_root i)

end Recorded

theorem apply_setDefault_cases (s : Session) (version : Value) :
    (∃ chosen ∈ Version.supported, version = .text chosen.text ∧
      s.apply (.setDefault version) = { s with default := chosen }) ∨
    (∃ problem, s.setDefault version = .error problem) ∧ s.apply (.setDefault version) = s := by
  rw [apply_setDefault, setDefault]
  cases hchoice : Version.choose version with
  | error problem => exact .inr ⟨⟨problem, rfl⟩, rfl⟩
  | ok chosen =>
      refine .inl ⟨chosen, Version.mem_supported chosen, ?_, rfl⟩
      unfold Version.choose at hchoice
      split at hchoice
      · next written =>
        split at hchoice
        · next found hfound =>
          cases hchoice
          rw [Version.ofText?_eq_some_iff.mp hfound]
        · cases hchoice
      · cases hchoice

/-- The versions of a run. The default version is supported, and a choice that is refused changes
nothing. Where no empty version is supplied, every node sees the version of the nearest node that
was given one, or the default version at the time of its root; the root alone owns a version where
none inside it was given one; and a version matches the text that it is. -/
theorem version_by_history (steps : List Step) :
    let s := start.run steps
    let past := start.history steps
    (s.default ∈ Version.supported ∧ ∀ version,
      (∃ chosen ∈ Version.supported, version = .text chosen.text ∧
        s.apply (.setDefault version) = { s with default := chosen }) ∨
      (∃ problem, s.setDefault version = .error problem) ∧ s.apply (.setDefault version) = s) ∧
    ((∀ step ∈ steps, GivesVersions step.entries) →
      past.length = s.forest.size ∧ ∀ i < s.forest.size,
        (s.forest.see i .version).truthy = true ∧
        (∃ birth, past[s.forest.root i]? = some birth ∧
          s.forest.see i .version =
            ((s.forest.chain i).findSome? (givenAt? past)).getD (.text birth.default.text)) ∧
        ((∀ k ∈ s.forest.chain i, s.forest.parent? k ≠ none → givenAt? past k = none) →
          ∀ k ∈ s.forest.chain i,
            s.forest.hasOwn k Fact.version.name = true ↔ k = s.forest.root i) ∧
        ((s.forest.see i .version).hashable = true → ∀ candidate,
          s.forest.matchesVersion s.default i (.text candidate) =
            .ok (decide (s.forest.see i .version = .text candidate)))) := by
  intro s past
  refine ⟨⟨Version.mem_supported s.default, apply_setDefault_cases s⟩, ?_⟩
  intro hgives
  have hrecorded : Recorded s past := Recorded.start.run steps hgives
  refine ⟨hrecorded.length_eq, ?_⟩
  intro i hi
  have hseen := hrecorded.truthy_see hi
  refine ⟨hseen, hrecorded.see_eq hi, ?_, ?_⟩
  · intro hnone k hk
    exact hrecorded.hasOwn_iff_root hi hnone hk
  · intro hhash candidate
    exact Forest.matchesVersion_of_hashable hseen hhash candidate

theorem version_by_history_after_choice :
    let steps : List Step := [.newRoot [], .setDefault (.text "3.1.0"),
      .child 0 [("class", .text "User")], .newRoot [], .clone 0 [("version", .text "2.0")]]
    let s := start.run steps
    (∀ step ∈ steps, GivesVersions step.entries) ∧ s.default = .v310 ∧
      s.forest.see 1 .version = .text "3.0.0" ∧ s.forest.see 2 .version = .text "3.1.0" ∧
      s.forest.see 3 .version = .text "2.0" ∧
      (∀ k ∈ s.forest.chain 1, s.forest.hasOwn k Fact.version.name = true ↔ k = 0) ∧
      ∀ candidate, s.forest.matchesVersion s.default 1 (.text candidate) =
        .ok (decide (Value.text "3.0.0" = .text candidate)) := by
  intro steps s
  have hgives : ∀ step ∈ steps, GivesVersions step.entries := by
    unfold GivesVersions
    decide
  have hfirst : s.forest.see 1 .version = .text "3.0.0" := by decide +kernel
  have hroot : s.forest.root 1 = 0 := by decide +kernel
  obtain ⟨-, hnodes⟩ := (version_by_history steps).2 hgives
  obtain ⟨-, -, howns, hmatches⟩ := hnodes 1 (by decide +kernel)
  rw [hfirst] at hmatches
  rw [hroot] at howns
  exact ⟨hgives, by decide +kernel, hfirst, by decide +kernel, by decide +kernel,
    howns (by decide +kernel),
    hmatches rfl⟩

end Session

end FactScope
