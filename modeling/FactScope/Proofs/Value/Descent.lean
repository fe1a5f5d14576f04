import FactScope.Proofs.Value.Json

/-!
Objects on top of each other, path by path. A path leads from name to name through objects. Main
statement: what the upper value holds at a path counts, two objects there are put together in turn,
and what the lower one holds stays unless the upper one has something other than an object on the
way.
-/

namespace FactScope

namespace Value

def at? (value : Value) : List String → Option Value
  | [] => some value
  | name :: path =>
      match value with
      | .object fields => (Entries.get? fields name).bind fun held => held.at? path
      | _ => none

/-- Something other than an object stands at a proper part of a path. -/
def Cut (value : Value) (path : List String) : Prop :=
  ∃ before found, before <+: path ∧ before ≠ path ∧ value.at? before = some found ∧
    ∀ fields, found ≠ .object fields

variable {base upper value : Value} {lower fields : Entries Value} {name : String}
  {path : List String}

theorem at?_object_cons (fields : Entries Value) (name : String) (path : List String) :
    (Value.object fields).at? (name :: path) = (fields.get? name).bind fun held => held.at? path :=
  rfl

theorem at?_cons_of_flat (h : ∀ fields, value ≠ .object fields) (name : String)
    (path : List String) : value.at? (name :: path) = none := by
  cases value with
  | object fields => exact absurd rfl (h fields)
  | _ => rfl

theorem not_cut_nil (value : Value) : ¬value.Cut [] := by
  rintro ⟨before, _, hbefore, hproper, -⟩
  exact hproper (List.prefix_nil.mp hbefore)

theorem cut_cons_of_flat (h : ∀ fields, value ≠ .object fields) (name : String)
    (path : List String) : value.Cut (name :: path) :=
  ⟨[], value, List.nil_prefix, nofun, rfl, h⟩

theorem cut_object_cons_iff : (Value.object fields).Cut (name :: path) ↔
    ∃ held, fields.get? name = some held ∧ held.Cut path := by
  constructor
  · rintro ⟨before, found, hbefore, hproper, hfound, hflat⟩
    cases before with
    | nil =>
        cases hfound
        exact absurd rfl (hflat fields)
    | cons first rest =>
        obtain ⟨rfl, hrest⟩ := List.cons_prefix_cons.mp hbefore
        obtain ⟨held, hheld, hat⟩ := Option.bind_eq_some_iff.mp hfound
        refine ⟨held, hheld, rest, found, hrest, fun heq => hproper (heq ▸ rfl), hat, hflat⟩
  · rintro ⟨held, hheld, before, found, hbefore, hproper, hfound, hflat⟩
    refine ⟨name :: before, found, List.cons_prefix_cons.mpr ⟨rfl, hbefore⟩, ?_, ?_, hflat⟩
    · exact fun heq => hproper (List.cons.inj heq).2
    · rw [at?_object_cons, hheld]
      exact hfound

theorem not_cut_of_at? (h : value.at? path = some base) : ¬value.Cut path := by
  induction path generalizing value with
  | nil => exact not_cut_nil value
  | cons name path ih =>
      by_cases hobject : ∃ fields, value = .object fields
      · obtain ⟨fields, rfl⟩ := hobject
        obtain ⟨held, hheld, hat⟩ := Option.bind_eq_some_iff.mp h
        rw [cut_object_cons_iff]
        rintro ⟨other, hother, hcut⟩
        cases hheld.symm.trans hother
        exact ih hat hcut
      · rw [at?_cons_of_flat (not_exists.mp hobject)] at h
        cases h

theorem flat_iff_of_isJson (h : value.isJson = true) :
    (∀ fields, value ≠ .object fields) ↔ value.isObject = false := by
  rw [← Bool.not_eq_true, isObject_iff_of_isJson h, not_exists]

theorem at?_merge_object_cons (h : fields.keys.Nodup) :
    ((Value.object lower).merge (.object fields)).at? (name :: path) =
      (stack (lower.get? name) (fields.get? name)).bind fun held => held.at? path := by
  rw [merge_object, at?_object_cons, get?_mergeFields h]

theorem at?_merge (hbase : base.isJson = true) (hupper : upper.isJson = true)
    (hcut : ¬upper.Cut path) :
    (base.merge upper).at? path = stack (base.at? path) (upper.at? path) := by
  induction path generalizing base upper with
  | nil => rfl
  | cons name path ih =>
      have hupperObject : ∃ fields : Entries Value, upper = .object fields :=
        Classical.byContradiction fun hflat =>
          hcut (cut_cons_of_flat (not_exists.mp hflat) name path)
      obtain ⟨fields, rfl⟩ := hupperObject
      obtain ⟨hnodup, habove⟩ := isJson_object_iff.mp hupper
      rw [cut_object_cons_iff, not_exists] at hcut
      cases hbaseObject : base.isObject with
      | false =>
          have hbelow := at?_cons_of_flat ((flat_iff_of_isJson hbase).mpr hbaseObject) name path
          rw [merge_eq_upper (.inl hbaseObject), hbelow]
          cases (Value.object fields).at? (name :: path) <;> rfl
      | true =>
          obtain ⟨lower, rfl⟩ := exists_fields_of_isJson hbase hbaseObject
          obtain ⟨-, hbelow⟩ := isJson_object_iff.mp hbase
          rw [at?_merge_object_cons hnodup, at?_object_cons, at?_object_cons]
          cases hgiven : fields.get? name with
          | none => cases lower.get? name <;> rfl
          | some given =>
              cases hheld : lower.get? name with
              | none => cases hat : given.at? path <;> simp [stack, hat]
              | some held =>
                  exact ih (hbelow name held hheld) (habove name given hgiven)
                    fun h => hcut given ⟨hgiven, h⟩

theorem at?_of_cut (h : value.Cut path) : value.at? path = none :=
  Option.eq_none_iff_forall_ne_some.mpr fun _ hfound => not_cut_of_at? hfound h

theorem at?_merge_of_cut (hbase : base.isJson = true) (hupper : upper.isJson = true)
    (hcut : upper.Cut path) : (base.merge upper).at? path = none := by
  induction path generalizing base upper with
  | nil => exact absurd hcut (not_cut_nil upper)
  | cons name path ih =>
      by_cases hone : base.isObject = false ∨ upper.isObject = false
      · rw [merge_eq_upper hone]
        exact at?_of_cut hcut
      · rw [not_or, Bool.not_eq_false, Bool.not_eq_false] at hone
        obtain ⟨lower, rfl⟩ := exists_fields_of_isJson hbase hone.1
        obtain ⟨fields, rfl⟩ := exists_fields_of_isJson hupper hone.2
        obtain ⟨-, hbelow⟩ := isJson_object_iff.mp hbase
        obtain ⟨hnodup, habove⟩ := isJson_object_iff.mp hupper
        obtain ⟨given, hgiven, hrest⟩ := cut_object_cons_iff.mp hcut
        rw [at?_merge_object_cons hnodup, hgiven]
        cases hheld : lower.get? name with
        | none => exact at?_of_cut hrest
        | some held => exact ih (hbelow name held hheld) (habove name given hgiven) hrest

theorem isJson_at? {held : Value} (h : value.isJson = true) (hheld : value.at? path = some held) :
    held.isJson = true := by
  induction path generalizing value with
  | nil =>
      cases hheld
      exact h
  | cons name path ih =>
      cases value with
      | object fields =>
          obtain ⟨next, hnext, hat⟩ := Option.bind_eq_some_iff.mp hheld
          exact ih ((isJson_object_iff.mp h).2 name next hnext) hat
      | _ => cases hheld

/-- Objects of JSON on top of each other, path by path and level by level. In settings files they
are put together in the same way. -/
theorem merge_by_paths (hbase : (Value.object lower).isJson = true)
    (hupper : (Value.object fields).isJson = true) (path : List String) :
    (Value.object lower).layer (.object fields) =
      .ok ((Value.object lower).merge (.object fields)) ∧
    (∀ value, (Value.object fields).at? path = some value → (∀ others, value ≠ .object others) →
      ((Value.object lower).merge (.object fields)).at? path = some value) ∧
    (∀ given : Entries Value, (Value.object fields).at? path = some (.object given) →
      (∀ held : Entries Value, (Value.object lower).at? path = some (.object held) →
        ∃ written : Entries Value,
          ((Value.object lower).merge (.object fields)).at? path = some (.object written) ∧
          (Value.object held).merge (.object given) = .object written ∧
          written.keys = held.keys ++ given.keys.filter (· ∉ held.keys) ∧
          written.keys.Nodup) ∧
      ((∀ held, (Value.object lower).at? path ≠ some (.object held)) →
        ((Value.object lower).merge (.object fields)).at? path = some (.object given))) ∧
    ((Value.object fields).at? path = none →
      (¬(Value.object fields).Cut path →
        ((Value.object lower).merge (.object fields)).at? path = (Value.object lower).at? path) ∧
      ((Value.object fields).Cut path →
        ((Value.object lower).merge (.object fields)).at? path = none)) := by
  have hreached : ∀ value, (Value.object fields).at? path = some value →
      ((Value.object lower).merge (.object fields)).at? path =
        stack ((Value.object lower).at? path) (some value) :=
    fun value hvalue => hvalue ▸ at?_merge hbase hupper (not_cut_of_at? hvalue)
  refine ⟨layer_eq_merge _ _ (isTree_of_isJson hupper), fun value hvalue hflat => ?_,
    fun given hgiven => ⟨fun held hheld => ?_, fun hnone => ?_⟩,
    fun hnone => ⟨fun hcut => ?_, at?_merge_of_cut hbase hupper⟩⟩
  · have hvalueFlat := (flat_iff_of_isJson (isJson_at? hupper hvalue)).mp hflat
    rw [hreached value hvalue]
    cases (Value.object lower).at? path with
    | none => rfl
    | some held => exact congrArg some (merge_eq_upper (.inr hvalueFlat))
  · have hheldNames := (isJson_object_iff.mp (isJson_at? hbase hheld)).1
    have hgivenNames := (isJson_object_iff.mp (isJson_at? hupper hgiven)).1
    refine ⟨mergeFields held given, ?_, merge_object held given,
      keys_mergeFields hgivenNames held, nodup_keys_mergeFields hheldNames hgivenNames⟩
    rw [hreached _ hgiven, hheld, stack, merge_object]
  · rw [hreached _ hgiven]
    cases hheld : (Value.object lower).at? path with
    | none => rfl
    | some held =>
        have hflat := (flat_iff_of_isJson (isJson_at? hbase hheld)).mp
          fun others heq => hnone others (heq ▸ hheld)
        exact congrArg some (merge_eq_upper (.inl hflat))
  · rw [at?_merge hbase hupper hcut, hnone]
    cases (Value.object lower).at? path <;> rfl

/-- A number that cuts off an object, an object in the place of a number below an object in both,
and a name that the upper object lacks. -/
theorem merge_by_paths_cutting :
    let lower : Entries Value := [("a", .object [("b", .int 1), ("c", .null)]),
      ("d", .object [("e", .object [])])]
    let upper : Entries Value := [("f", .null), ("d", .int 2), ("a", .object [("b", .object [])])]
    (Value.object lower).isJson = true ∧ (Value.object upper).isJson = true ∧
      ((Value.object lower).merge (.object upper)).at? ["a", "b"] = some (.object []) ∧
      ((Value.object lower).merge (.object upper)).at? ["a", "c"] = some .null ∧
      ((Value.object lower).merge (.object upper)).at? ["d", "e"] = none := by
  intro lower upper
  have hlower : (Value.object lower).isJson = true := by decide
  have hupper : (Value.object upper).isJson = true := by decide
  have hcut : (Value.object upper).Cut ["d", "e"] :=
    ⟨["d"], .int 2, ⟨["e"], rfl⟩, by decide, rfl, nofun⟩
  have hnocut : ¬(Value.object upper).Cut ["a", "c"] := by
    rw [cut_object_cons_iff]
    rintro ⟨held, hheld, hcut⟩
    cases hheld
    obtain ⟨_, hnone, -⟩ := cut_object_cons_iff.mp hcut
    cases hnone
  refine ⟨hlower, hupper, ?_, ?_, ?_⟩
  · exact ((merge_by_paths hlower hupper ["a", "b"]).2.2.1 [] rfl).2 nofun
  · exact ((merge_by_paths hlower hupper ["a", "c"]).2.2.2 rfl).1 hnocut
  · exact ((merge_by_paths hlower hupper ["d", "e"]).2.2.2 rfl).2 hcut

end Value

end FactScope
