import FactScope.Proofs.Value.Member

namespace FactScope

namespace Value

variable {base upper value : Value}

/-- The value that counts where one is put on top of another: the upper one, unless both are
objects, and an object wherever the upper one is. -/
def Covers (held given value : Value) : Prop :=
  (held.isObject = false ∨ given.isObject = false → value = given) ∧
    (given.isObject = true → value.isObject = true)

theorem covers_self (held given : Value) : Covers held given given :=
  ⟨fun _ => rfl, id⟩

/-- One value on top of another, as sources are put together. -/
def Merges (held given value : Value) : Prop :=
  held.merge given = value

/-- One value on top of another, as files are put together. -/
def Layers (held given value : Value) : Prop :=
  ∃ depth, layerTo depth held given = .ok value

variable {lower pairs : List (Value × Value)}

theorem written_layerWith {deeper : Value → Value → Except Fault Value}
    (h : layerWith deeper base upper = .ok value) (hbase : base.content.entries? = some lower)
    (hupper : upper.entries? = some pairs) :
    ∃ written, Written (fun held given value => layerWith deeper held given = .ok value)
      lower pairs written ∧ value = ofEntries written := by
  have hlayer : (layerPairs deeper lower pairs).map ofEntries = .ok value := by
    cases upper with
    | object fields =>
        cases hupper
        rw [layerWith, hbase] at h
        rwa [← layerFields_eq_layerPairs]
    | mapping others =>
        cases hupper
        rwa [layerWith, hbase] at h
    | _ => cases hupper
  cases hpairs : layerPairs deeper lower pairs with
  | error fault =>
      rw [hpairs] at hlayer
      cases hlayer
  | ok written =>
      rw [hpairs] at hlayer
      cases hlayer
      exact ⟨written, written_layerPairs hpairs, rfl⟩

/-- An object is put on top of another entry by entry, at the same depth or, for one that stands
inside itself, one level deeper. -/
theorem written_layerTo {depth : Nat} (h : layerTo depth base upper = .ok value)
    (hbase : base.content.entries? = some lower) (hupper : upper.content.entries? = some pairs) :
    ∃ remaining written,
      Written (fun held given value => layerTo remaining held given = .ok value)
        lower pairs written ∧ value = ofEntries written := by
  have hflat : ∀ remaining {upper value : Value}, layerTo remaining base upper = .ok value →
      upper.entries? = some pairs → ∃ remaining written,
        Written (fun held given value => layerTo remaining held given = .ok value)
          lower pairs written ∧ value = ofEntries written := by
    intro remaining upper value h hupper
    cases remaining with
    | zero => exact ⟨0, written_layerWith h hbase hupper⟩
    | succ rest => exact ⟨rest + 1, written_layerWith h hbase hupper⟩
  by_cases hloop : ∃ mark whole, upper = .loop mark whole
  · -- its content does not stand inside itself at the top, so one level deeper is all it takes
    obtain ⟨mark, whole, rfl⟩ := hloop
    have hboth : (base.content.entries?.isSome && whole.entries?.isSome) = true := by
      have hwhole := isObject_loop mark whole
      rw [isObject, hupper] at hwhole
      rw [hbase, ← hwhole]
      rfl
    cases depth with
    | zero =>
        rw [layerTo, layerWith, if_pos hboth] at h
        cases h
    | succ rest =>
        rw [layerTo, layerWith, if_pos hboth] at h
        exact hflat rest h hupper
  · refine hflat depth h ?_
    cases upper with
    | loop mark whole => exact absurd ⟨mark, whole, rfl⟩ hloop
    | _ => exact hupper

theorem layerWith_eq_upper {deeper : Value → Value → Except Fault Value}
    (h : base.isObject = false ∨ upper.isObject = false) :
    layerWith deeper base upper = .ok upper := by
  cases upper with
  | object fields =>
      have hbase := entries?_eq_none (h.resolve_right (by simp))
      rw [layerWith, hbase]
  | mapping others =>
      have hbase := entries?_eq_none (h.resolve_right (by simp))
      rw [layerWith, hbase]
  | loop mark whole =>
      have hboth : ¬(base.content.entries?.isSome && whole.entries?.isSome) = true := by
        rw [← isObject_loop mark whole, Bool.and_eq_true]
        rintro ⟨hbase, hwhole⟩
        rcases h with h | h
        · exact Bool.noConfusion (h.symm.trans hbase)
        · exact Bool.noConfusion (h.symm.trans hwhole)
      rw [layerWith, if_neg hboth]
  | _ => rw [layerWith]

theorem covers_layerTo {depth : Nat} (h : layerTo depth base upper = .ok value) :
    Covers base upper value := by
  have hone : base.isObject = false ∨ upper.isObject = false → value = upper := by
    intro hnone
    cases depth <;>
    · rw [layerTo, layerWith_eq_upper hnone] at h
      exact (Except.ok.inj h).symm
  refine ⟨hone, fun hupper => ?_⟩
  cases hbase : base.isObject with
  | false =>
      rw [hone (.inl hbase)]
      exact hupper
  | true =>
      obtain ⟨lower, hlower⟩ := exists_entries hbase
      obtain ⟨pairs, hpairs⟩ := exists_entries hupper
      obtain ⟨-, written, -, rfl⟩ := written_layerTo h hlower hpairs
      exact isObject_ofEntries written

theorem merge_eq_ofEntries (hbase : base.content.entries? = some lower)
    (hupper : upper.entries? = some pairs) :
    base.merge upper = ofEntries (mergePairs lower pairs) := by
  cases upper with
  | object fields =>
      cases hupper
      rw [merge]
      cases hcontent : base.content with
      | object below =>
          rw [hcontent] at hbase
          cases hbase
          rw [← pairsOf_mergeFields, ofEntries_pairsOf]
      | mapping below =>
          rw [hcontent] at hbase
          cases hbase
          exact congrArg ofEntries (mergeNamed_eq_mergePairs lower fields)
      | _ => rw [hcontent] at hbase; cases hbase
  | mapping others =>
      cases hupper
      rw [merge, hbase]
  | _ => cases hupper

theorem covers_merge (base upper : Value) : Covers base upper (base.merge upper) := by
  cases hupper : upper.entries? with
  | some pairs =>
      have hobject : upper.isObject = true := by
        rw [isObject, content_of_entries? hupper]
        rfl
      cases hbase : base.content.entries? with
      | some lower =>
          rw [merge_eq_ofEntries hbase hupper]
          refine ⟨fun h => ?_, fun _ => isObject_ofEntries _⟩
          rw [hobject, isObject, hbase] at h
          rcases h with h | h <;> cases h
      | none =>
          have hself : base.merge upper = upper := by
            cases upper with
            | object fields =>
                rw [merge]
                cases hcontent : base.content <;>
                  first | rfl | (rw [hcontent] at hbase; cases hbase)
            | mapping others => rw [merge, hbase]
            | _ => cases hupper
          rw [hself]
          exact covers_self base upper
  | none =>
      have hself : base.merge upper = upper := by
        refine merge_of_not_object base upper ?_ ?_
        · rintro fields rfl
          cases hupper
        · rintro others rfl
          cases hupper
      rw [hself]
      exact covers_self base upper

theorem stacked_layerTo {depth : Nat} (h : layerTo depth base upper = .ok value)
    (hbase : base.isObject = true) (hupper : upper.Distinct) :
    ∃ remaining, ∀ name,
      Stacked (fun held given value => layerTo remaining held given = .ok value)
        (base.member? name) (upper.member? name) (value.member? name) := by
  obtain ⟨lower, hlower⟩ := exists_entries hbase
  obtain ⟨pairs, hpairs, hnodup⟩ := hupper
  obtain ⟨remaining, written, hwritten, rfl⟩ := written_layerTo h hlower hpairs
  refine ⟨remaining, fun name => ?_⟩
  rw [member?_of_entries hlower, member?_of_entries hpairs, member?_ofEntries]
  exact hwritten.stacked hnodup name

theorem stacked_merge (hbase : base.isObject = true) (hupper : upper.Plain) (name : String) :
    Stacked (fun held given value => held.merge given = value)
      (base.member? name) (upper.member? name) ((base.merge upper).member? name) := by
  obtain ⟨lower, hlower⟩ := exists_entries hbase
  obtain ⟨pairs, hpairs, hnodup⟩ := hupper
  rw [merge_eq_ofEntries hlower hpairs, member?_of_entries hlower,
    member?_of_entries (content_of_entries? hpairs), member?_ofEntries]
  exact (written_mergePairs lower pairs).stacked hnodup name

theorem plain_merge (hbase : base.Plain) (hupper : upper.Plain) : (base.merge upper).Plain := by
  obtain ⟨lower, hlower, hnodup⟩ := hbase
  obtain ⟨pairs, hpairs, -⟩ := hupper
  rw [merge_eq_ofEntries (content_of_entries? hlower) hpairs]
  exact plain_ofEntries ((written_mergePairs lower pairs).nodup hnodup)

theorem named_written {onto : Value → Value → Value → Prop} {written : List (Value × Value)}
    {names : List String} (h : Written onto lower pairs written)
    (hbase : base.content.entries? = some lower) (hbaseNamed : base.NamedBy names)
    (hupper : upper.content.entries? = some pairs) (hupperNamed : upper.NamedBy names) :
    ∃ fields : Entries Value, ofEntries written = .object fields ∧
      ∀ name ∈ fields.keys, name ∈ names := by
  refine exists_object_of_keys fun key hkey => ?_
  rcases h.mem_keys hkey with hlower | hpairs
  · exact hbaseNamed key (keysOf_eq hbase ▸ hlower)
  · exact hupperNamed key (keysOf_eq hupper ▸ hpairs)

theorem named_layerTo {depth : Nat} {names : List String} (h : layerTo depth base upper = .ok value)
    (hbase : base.isObject = true) (hbaseNamed : base.NamedBy names)
    (hupper : upper.isObject = true) (hupperNamed : upper.NamedBy names) :
    ∃ fields : Entries Value, value = .object fields ∧
      ∀ name ∈ fields.keys, name ∈ names := by
  obtain ⟨lower, hlower⟩ := exists_entries hbase
  obtain ⟨pairs, hpairs⟩ := exists_entries hupper
  obtain ⟨_, written, hwritten, rfl⟩ := written_layerTo h hlower hpairs
  exact named_written hwritten hlower hbaseNamed hpairs hupperNamed

theorem named_merge {names : List String} (hbase : base.isObject = true)
    (hbaseNamed : base.NamedBy names) (hupper : upper.entries? = some pairs)
    (hupperNamed : upper.NamedBy names) :
    ∃ fields : Entries Value, base.merge upper = .object fields ∧
      ∀ name ∈ fields.keys, name ∈ names := by
  obtain ⟨lower, hlower⟩ := exists_entries hbase
  rw [merge_eq_ofEntries hlower hupper]
  exact named_written (written_mergePairs lower pairs) hlower hbaseNamed
    (content_of_entries? hupper) hupperNamed

theorem Stacked.self {onto : Value → Value → Value → Prop} (given : Option Value) :
    Stacked onto none given given := by
  cases given with
  | none => exact .below none
  | some given => exact .above given

/-- What stands under a name inside values that are put on top of each other. -/
theorem Stacked.members {onto inside : Value → Value → Value → Prop}
    {lower above result : Option Value} {name : String} (h : Stacked onto lower above result)
    (honto : ∀ held given value, lower = some held → above = some given → onto held given value →
      Stacked inside (held.member? name) (given.member? name) (value.member? name)) :
    Stacked inside (lower.bind (·.member? name)) (above.bind (·.member? name))
      (result.bind (·.member? name)) := by
  cases h with
  | below => exact .below _
  | above given => exact .self _
  | both hvalue => exact honto _ _ _ rfl rfl hvalue

theorem Merges.covers {held given value : Value} (h : Merges held given value) :
    Covers held given value :=
  h ▸ covers_merge held given

theorem Layers.covers {held given value : Value} (h : Layers held given value) :
    Covers held given value :=
  h.elim fun _ => covers_layerTo

/-- The first of some values is no object above another. -/
def Apart : List Value → Prop
  | [] => True
  | first :: others => first.isObject = false ∨ ∀ other ∈ others, other.isObject = false

/-- The value that counts among those that sources give under one name, the strongest first: the
first of them, unless it is an object above another, and an object wherever the first is one. -/
def Prevails : List Value → Option Value → Prop
  | [], result => result = none
  | first :: others, result =>
      (Apart (first :: others) → result = some first) ∧
      (first.isObject = true → ∃ value, result = some value ∧ value.isObject = true)

namespace Prevails

variable {first : Value} {others givens : List Value} {result : Option Value}

theorem eq_first (h : Prevails (first :: others) result) (hfirst : first.isObject = false) :
    result = some first :=
  h.1 (.inl hfirst)

theorem of_option (given : Option Value) : Prevails given.toList given := by
  cases given with
  | none => rfl
  | some given => exact ⟨fun _ => rfl, fun hobject => ⟨given, rfl, hobject⟩⟩

theorem exists_value (h : Prevails (first :: others) result) :
    ∃ value, result = some value ∧ (first.isObject = true → value.isObject = true) := by
  cases hfirst : first.isObject with
  | false => exact ⟨first, h.eq_first hfirst, nofun⟩
  | true =>
      obtain ⟨value, hvalue, hobject⟩ := h.2 hfirst
      exact ⟨value, hvalue, fun _ => hobject⟩

theorem unique {givens' : List Value} {result' : Option Value} (h' : Prevails givens' result')
    (h : Prevails givens result) (hhead : givens'.head? = givens.head?) (hapart' : Apart givens')
    (hapart : Apart givens) : result' = result := by
  cases givens with
  | nil =>
      rw [List.head?_eq_none_iff.mp hhead] at h'
      exact Eq.trans h' (Eq.symm h)
  | cons first others =>
      obtain ⟨others', rfl⟩ := List.head?_eq_some_iff.mp hhead
      rw [h.1 hapart, h'.1 hapart']

theorem stacked {uppers lowers : List Value} {lower above : Option Value}
    (hlower : Prevails lowers lower) (habove : Prevails uppers above)
    (h : Stacked Covers lower above result) : Prevails (uppers ++ lowers) result := by
  cases uppers with
  | nil =>
      cases habove
      cases h
      exact hlower
  | cons first others =>
      obtain ⟨given, rfl, hgiven⟩ := habove.exists_value
      cases h with
      | above =>
          cases lowers with
          | nil => rwa [List.append_nil]
          | cons next rest =>
              obtain ⟨_, hnone, -⟩ := hlower.exists_value
              cases hnone
      | @both held _ value hcovers =>
          refine ⟨?_, fun hfirst => ⟨value, rfl, hcovers.2 (hgiven hfirst)⟩⟩
          -- the first value stays if it is no object, and else if no value below is one
          rintro (hfirst | hothers)
          · cases habove.eq_first hfirst
            rw [hcovers.1 (.inr hfirst)]
          · have hflat : ∀ other ∈ others, other.isObject = false :=
              fun other hother => hothers other (List.mem_append_left _ hother)
            cases habove.1 (.inr hflat)
            cases lowers with
            | nil => cases hlower
            | cons next rest =>
                have hnext : next.isObject = false := hothers next (by simp)
                cases hlower.eq_first hnext
                rw [hcovers.1 (.inl hnext)]

end Prevails

end Value

end FactScope
