import FactScope.Proofs.Entries
import FactScope.Proofs.Value.Overlay

namespace FactScope

namespace Value

mutual

def isJson : Value → Bool
  | .null => true
  | .bool _ => true
  | .int _ => true
  | .decimal _ => true
  | .text _ => true
  | .list items => areJson items
  | .object fields => decide (Entries.keys fields).Nodup && holdJson fields
  | _ => false
termination_by structural value => value

def areJson : List Value → Bool
  | [] => true
  | item :: rest => isJson item && areJson rest
termination_by structural items => items

def holdJson : List (String × Value) → Bool
  | [] => true
  | (_, value) :: rest => isJson value && holdJson rest
termination_by structural fields => fields

end

/-- What stands under a name when one value is put on top of another; either may be missing. -/
def stack (held given : Option Value) : Option Value :=
  match held, given with
  | held, none => held
  | none, some given => some given
  | some held, some given => some (held.merge given)

variable {base upper value : Value} {lower fields : Entries Value}

theorem holdJson_iff : holdJson fields = true ↔ ∀ entry ∈ fields, entry.2.isJson = true := by
  induction fields with
  | nil => simp [holdJson]
  | cons entry rest ih =>
      obtain ⟨name, value⟩ := entry
      simp [holdJson, ih]

theorem isJson_object_iff : (Value.object fields).isJson = true ↔
    fields.keys.Nodup ∧ ∀ name held, fields.get? name = some held → held.isJson = true := by
  rw [isJson, Bool.and_eq_true, decide_eq_true_eq, holdJson_iff]
  refine and_congr_right fun hnodup => ⟨fun h name held hheld => ?_, fun h entry hentry => ?_⟩
  · exact h (name, held) (Entries.mem_of_get? hheld)
  · exact h entry.1 entry.2 (Entries.get?_of_mem hnodup hentry)

theorem exists_fields_of_isJson (h : value.isJson = true) (hobject : value.isObject = true) :
    ∃ fields : Entries Value, value = .object fields := by
  cases value with
  | object fields => exact ⟨fields, rfl⟩
  | mapping pairs => cases h
  | loop mark whole => cases h
  | _ => cases hobject

theorem isObject_iff_of_isJson (h : value.isJson = true) :
    value.isObject = true ↔ ∃ fields : Entries Value, value = .object fields := by
  refine ⟨exists_fields_of_isJson h, ?_⟩
  rintro ⟨fields, rfl⟩
  rfl

/-- What holds of a value if it holds of all that stands in it under a name holds of every value. -/
theorem objectInduction {P : Value → Prop}
    (h : ∀ value, (∀ fields name held, value = .object fields →
      Entries.get? fields name = some held → P held) → P value) (value : Value) : P value := by
  induction hsize : sizeOf value using Nat.strongRecOn generalizing value with
  | ind size ih =>
      subst hsize
      refine h value ?_
      rintro fields name held rfl hheld
      have hmem := List.sizeOf_lt_of_mem (Entries.mem_of_get? hheld)
      refine ih (sizeOf held) ?_ held rfl
      simp only [Prod.mk.sizeOf_spec, object.sizeOf_spec] at hmem ⊢
      omega

theorem areTrees_iff : areTrees fields = true ↔ ∀ entry ∈ fields, entry.2.isTree = true := by
  induction fields with
  | nil => simp [areTrees]
  | cons entry rest ih =>
      obtain ⟨name, value⟩ := entry
      simp [areTrees, ih]

theorem isTree_of_isJson (h : value.isJson = true) : value.isTree = true := by
  induction value using objectInduction with
  | h value ih =>
      cases value with
      | object fields =>
          obtain ⟨hnodup, hheld⟩ := isJson_object_iff.mp h
          rw [isTree, areTrees_iff]
          intro entry hentry
          have hget := Entries.get?_of_mem hnodup hentry
          exact ih fields entry.1 entry.2 rfl hget (hheld entry.1 entry.2 hget)
      | mapping pairs => cases h
      | loop mark whole => cases h
      | _ => rfl

theorem merge_eq_upper (h : base.isObject = false ∨ upper.isObject = false) :
    base.merge upper = upper :=
  (covers_merge base upper).1 h

theorem get?_mergeFields (h : fields.keys.Nodup) (lower : Entries Value) (name : String) :
    Entries.get? (mergeFields lower fields) name = stack (lower.get? name) (fields.get? name) := by
  have hstacked := stacked_merge (isObject_object lower) (plain_object h) name
  rw [merge_object, member?_object, member?_object, member?_object] at hstacked
  generalize lower.get? name = held at hstacked
  generalize fields.get? name = given at hstacked
  generalize Entries.get? (mergeFields lower fields) name = result at hstacked
  cases hstacked with
  | below => cases held <;> rfl
  | above => rfl
  | both hvalue => exact congrArg some hvalue.symm

theorem keys_mergeFields (h : fields.keys.Nodup) (lower : Entries Value) :
    Entries.keys (mergeFields lower fields) =
      lower.keys ++ fields.keys.filter (· ∉ lower.keys) := by
  have hsame : ∀ {others : Entries Value}, lower.keys = others.keys →
      Entries.keys (mergeFields lower fields) = (others.putAll fields).keys := by
    clear h
    induction fields generalizing lower with
    | nil =>
        intro others hothers
        rwa [mergeFields_nil]
    | cons entry rest ih =>
        intro others hothers
        obtain ⟨key, given⟩ := entry
        rw [mergeFields, Entries.putAll_cons]
        exact ih _ (Entries.keys_put_congr hothers key _ _)
  rw [hsame rfl, Entries.keys_putAll h]

theorem nodup_keys_mergeFields (hlower : lower.keys.Nodup) (h : fields.keys.Nodup) :
    (Entries.keys (mergeFields lower fields)).Nodup := by
  rw [keys_mergeFields h, List.nodup_append]
  refine ⟨hlower, h.filter _, ?_⟩
  rintro key hkey _ hnew rfl
  simpa [hkey] using (List.mem_filter.mp hnew).2

theorem isJson_stack {held given : Option Value}
    (hheld : ∀ below, held = some below → below.isJson = true)
    (hgiven : ∀ above, given = some above → above.isJson = true)
    (hboth : ∀ below above, held = some below → given = some above →
      (below.merge above).isJson = true) (h : stack held given = some value) :
    value.isJson = true := by
  cases given with
  | none =>
      cases held with
      | none => cases h
      | some below => exact hheld value h
  | some above =>
      cases held with
      | none => exact hgiven value h
      | some below =>
          cases h
          exact hboth below above rfl rfl

theorem isJson_merge (hbase : base.isJson = true) (hupper : upper.isJson = true) :
    (base.merge upper).isJson = true := by
  induction base using objectInduction generalizing upper with
  | h base ih =>
      cases hbaseObject : base.isObject with
      | false => rwa [merge_eq_upper (.inl hbaseObject)]
      | true =>
          cases hupperObject : upper.isObject with
          | false => rwa [merge_eq_upper (.inr hupperObject)]
          | true =>
              obtain ⟨lower, rfl⟩ := exists_fields_of_isJson hbase hbaseObject
              obtain ⟨fields, rfl⟩ := exists_fields_of_isJson hupper hupperObject
              obtain ⟨hlower, hbelow⟩ := isJson_object_iff.mp hbase
              obtain ⟨hfields, habove⟩ := isJson_object_iff.mp hupper
              rw [merge_object, isJson_object_iff]
              refine ⟨nodup_keys_mergeFields hlower hfields, fun name value hvalue => ?_⟩
              rw [get?_mergeFields hfields] at hvalue
              refine isJson_stack (hbelow name) (habove name) ?_ hvalue
              intro below above hheld hgiven
              exact ih lower name below rfl hheld (hbelow name below hheld)
                (habove name above hgiven)

/-- Two JSON objects are equal if they hold the same under the same names in the same order. -/
theorem object_ext {others : Entries Value} (h : fields.keys.Nodup)
    (hkeys : fields.keys = others.keys) (hget : ∀ name, fields.get? name = others.get? name) :
    Value.object fields = .object others :=
  congrArg Value.object (Entries.ext_get? h hkeys hget)

end Value

end FactScope
