import FactScope.Value.Layer

namespace FactScope

namespace Value

def isObject (value : Value) : Bool :=
  value.content.entries?.isSome

def member? (value : Value) (name : String) : Option Value :=
  match value with
  | .record _ fields => Entries.get? fields name
  | other => other.namedEntries?.bind fun fields => fields.get? name

def Distinct (value : Value) : Prop :=
  ∃ pairs, value.content.entries? = some pairs ∧ (textEntries pairs).keys.Nodup

/-- An object in which no name stands twice and that does not stand inside itself. -/
def Plain (value : Value) : Prop :=
  ∃ pairs, value.entries? = some pairs ∧ (textEntries pairs).keys.Nodup

variable {base upper value : Value} {name : String}

theorem Distinct.isObject (h : value.Distinct) : value.isObject = true := by
  obtain ⟨pairs, hpairs, -⟩ := h
  rw [Value.isObject, hpairs]
  rfl

theorem entries?_eq_none (h : value.isObject = false) : value.content.entries? = none :=
  Option.isSome_eq_false_iff.mp h |> Option.isNone_iff_eq_none.mp

theorem exists_entries (h : value.isObject = true) :
    ∃ pairs, value.content.entries? = some pairs :=
  Option.isSome_iff_exists.mp h

theorem content_of_entries? {pairs : List (Value × Value)} (h : value.entries? = some pairs) :
    value.content.entries? = some pairs := by
  cases value <;> first | exact h | cases h

theorem Plain.distinct (h : value.Plain) : value.Distinct := by
  obtain ⟨pairs, hpairs, hnodup⟩ := h
  exact ⟨pairs, content_of_entries? hpairs, hnodup⟩

theorem Plain.isObject (h : value.Plain) : value.isObject = true :=
  h.distinct.isObject

theorem member?_of_entries {pairs : List (Value × Value)}
    (h : value.content.entries? = some pairs) : value.member? name = pair? pairs (.text name) := by
  have hnamed : value.member? name = value.namedEntries?.bind fun fields => fields.get? name := by
    cases value <;> first | rfl | cases h
  rw [hnamed, namedEntries?]
  cases hcontent : value.content with
  | object fields =>
      rw [hcontent] at h
      cases h
      exact (pair?_pairsOf fields name).symm
  | mapping others =>
      rw [hcontent] at h
      cases h
      exact get?_textEntries pairs name
  | _ => rw [hcontent] at h; cases h

@[simp] theorem member?_object (fields : Entries Value) :
    (Value.object fields).member? name = fields.get? name := rfl

@[simp] theorem isObject_object (fields : List (String × Value)) :
    (Value.object fields).isObject = true := rfl

@[simp] theorem isObject_mapping (pairs : List (Value × Value)) :
    (Value.mapping pairs).isObject = true := rfl

theorem plain_object {fields : Entries Value} (h : fields.keys.Nodup) :
    (Value.object fields).Plain :=
  ⟨pairsOf fields, rfl, by rwa [textEntries_pairsOf]⟩

theorem plain_ofEntries {pairs : List (Value × Value)} (h : (textEntries pairs).keys.Nodup) :
    (ofEntries pairs).Plain := by
  unfold ofEntries
  split
  · exact plain_object h
  · exact ⟨pairs, rfl, h⟩

theorem content_ofEntries (pairs : List (Value × Value)) :
    ∃ written, (ofEntries pairs).content.entries? = some written ∧
      ∀ name, pair? written (.text name) = pair? pairs (.text name) := by
  unfold ofEntries
  split
  · refine ⟨pairsOf (textEntries pairs), rfl, ?_⟩
    intro name
    rw [pair?_pairsOf, get?_textEntries]
  · exact ⟨pairs, rfl, fun _ => rfl⟩

theorem isObject_ofEntries (pairs : List (Value × Value)) : (ofEntries pairs).isObject = true := by
  obtain ⟨written, hwritten, -⟩ := content_ofEntries pairs
  rw [isObject, hwritten]
  rfl

theorem member?_ofEntries (pairs : List (Value × Value)) :
    (ofEntries pairs).member? name = pair? pairs (.text name) := by
  obtain ⟨written, hwritten, hsame⟩ := content_ofEntries pairs
  rw [member?_of_entries hwritten, hsame]

theorem isSome_entries?_fill (mark : Mark) (whole value : Value) :
    (fill mark (.loop mark whole) value).entries?.isSome = value.entries?.isSome := by
  cases value with
  | again other =>
      rw [fill]
      split <;> rfl
  | _ => rfl

theorem isObject_loop (mark : Mark) (whole : Value) :
    (Value.loop mark whole).isObject = whole.entries?.isSome :=
  isSome_entries?_fill mark whole whole

def NamedBy (names : List String) (value : Value) : Prop :=
  ∀ key ∈ keysOf value.content, ∃ name ∈ names, key = .text name

theorem keysOf_eq {value : Value} {pairs : List (Value × Value)} (h : value.entries? = some pairs) :
    keysOf value = pairs.map (·.1) := by
  cases value with
  | object fields =>
      cases h
      simp [keysOf, pairsOf]
  | mapping others =>
      cases h
      rfl
  | _ => cases h

theorem namedBy_object {names : List String} {fields : Entries Value}
    (h : ∀ name ∈ fields.keys, name ∈ names) : (Value.object fields).NamedBy names := by
  intro key hkey
  obtain ⟨entry, hentry, rfl⟩ := List.mem_map.mp hkey
  exact ⟨entry.1, h entry.1 (List.mem_map.mpr ⟨entry, hentry, rfl⟩), rfl⟩

theorem mem_keys_textEntries {pairs : List (Value × Value)} {name : String}
    (h : name ∈ (textEntries pairs).keys) : .text name ∈ pairs.map (·.1) := by
  induction pairs with
  | nil => cases h
  | cons entry rest ih =>
      obtain ⟨key, value⟩ := entry
      cases key with
      | text first =>
          rcases List.mem_cons.mp h with rfl | hrest
          · exact List.mem_cons_self
          · exact List.mem_cons_of_mem _ (ih hrest)
      | _ => exact List.mem_cons_of_mem _ (ih h)

theorem exists_object_of_keys {names : List String} {pairs : List (Value × Value)}
    (h : ∀ key ∈ pairs.map (·.1), ∃ name ∈ names, key = .text name) :
    ∃ fields : Entries Value, ofEntries pairs = .object fields ∧
      ∀ name ∈ fields.keys, name ∈ names := by
  have htexts : pairs.all (fun entry => entry.1.isText) = true := by
    rw [List.all_eq_true]
    intro entry hentry
    obtain ⟨name, -, hname⟩ := h entry.1 (List.mem_map_of_mem hentry)
    rw [hname]
    rfl
  refine ⟨textEntries pairs, by rw [ofEntries, if_pos htexts], fun name hname => ?_⟩
  obtain ⟨other, hother, hsame⟩ := h _ (mem_keys_textEntries hname)
  cases hsame
  exact hother

/-- What stands under a name when one object is put on top of another; `onto` puts a value on top
of the one below it. -/
inductive Stacked (onto : Value → Value → Value → Prop) :
    Option Value → Option Value → Option Value → Prop where
  | below (held : Option Value) : Stacked onto held none held
  | above (given : Value) : Stacked onto none (some given) (some given)
  | both {held given value : Value} (h : onto held given value) :
      Stacked onto (some held) (some given) (some value)

theorem Stacked.mono {onto other : Value → Value → Value → Prop}
    (hle : ∀ held given value, onto held given value → other held given value)
    {lower above result : Option Value} (h : Stacked onto lower above result) :
    Stacked other lower above result := by
  cases h with
  | below => exact .below _
  | above => exact .above _
  | both hvalue => exact .both (hle _ _ _ hvalue)

inductive Written (onto : Value → Value → Value → Prop) :
    List (Value × Value) → List (Value × Value) → List (Value × Value) → Prop where
  | done (lower : List (Value × Value)) : Written onto lower [] lower
  | entry {lower rest written : List (Value × Value)} {key given value : Value}
      (hvalue : Stacked onto (pair? lower key) (some given) (some value))
      (hrest : Written onto (putPair lower key value) rest written) :
      Written onto lower ((key, given) :: rest) written

namespace Written

variable {onto : Value → Value → Value → Prop} {lower pairs written : List (Value × Value)}

/-- Where no name stands twice among the entries that are written, each name is written once. -/
theorem stacked (h : Written onto lower pairs written) (hpairs : (textEntries pairs).keys.Nodup)
    (name : String) :
    Stacked onto (pair? lower (.text name)) (pair? pairs (.text name))
      (pair? written (.text name)) := by
  induction h with
  | done lower => exact .below _
  | @entry lower rest written key given value hvalue _ ih =>
      have hrest : (textEntries rest).keys.Nodup := by
        cases key <;> first | exact hpairs | exact (List.nodup_cons.mp hpairs).2
      have hlast := ih hrest
      rw [pair?_putPair] at hlast
      rw [pair?]
      by_cases hkey : key = .text name
      · -- nothing is written under this name any more
        subst hkey
        have hnone : pair? rest (.text name) = none := by
          rw [← get?_textEntries, Entries.get?_eq_none_iff]
          exact (List.nodup_cons.mp hpairs).1
        rw [if_pos rfl, hnone] at hlast
        rw [if_pos (sameKey_self _)]
        generalize pair? written (.text name) = result at hlast
        cases hlast
        exact hvalue
      · have hother : ¬sameKey key (.text name) = true := mt sameKey_text_iff.mp hkey
        rw [if_neg hkey] at hlast
        rwa [if_neg hother]

theorem nodup (h : Written onto lower pairs written) (hlower : (textEntries lower).keys.Nodup) :
    (textEntries written).keys.Nodup := by
  induction h with
  | done lower => exact hlower
  | @entry lower rest written key given value _ _ ih =>
      refine ih ?_
      rw [textEntries_putPair]
      split
      · exact Entries.nodup_keys_put hlower _ _
      · exact hlower

theorem mem_keys_putPair {key name value : Value} (h : name ∈ (putPair pairs key value).map (·.1)) :
    name = key ∨ name ∈ pairs.map (·.1) := by
  induction pairs with
  | nil => simpa [putPair] using h
  | cons entry rest ih =>
      obtain ⟨first, old⟩ := entry
      rw [putPair] at h
      split at h
      · exact .inr h
      · rcases List.mem_cons.mp h with hfirst | hrest
        · exact .inr (List.mem_cons.mpr (.inl hfirst))
        · exact (ih hrest).imp_right fun hmem => List.mem_cons.mpr (.inr hmem)

theorem mem_keys (h : Written onto lower pairs written) {name : Value}
    (hname : name ∈ written.map (·.1)) : name ∈ lower.map (·.1) ∨ name ∈ pairs.map (·.1) := by
  induction h with
  | done lower => exact .inl hname
  | entry _ _ ih =>
      rcases ih hname with hput | hrest
      · rcases mem_keys_putPair hput with hkey | hlower
        · exact .inr (List.mem_cons.mpr (.inl hkey))
        · exact .inl hlower
      · exact .inr (List.mem_cons.mpr (.inr hrest))

end Written

theorem written_layerPairs {deeper : Value → Value → Except Fault Value}
    {lower pairs written : List (Value × Value)}
    (h : layerPairs deeper lower pairs = .ok written) :
    Written (fun held given value => layerWith deeper held given = .ok value)
      lower pairs written := by
  induction pairs generalizing lower with
  | nil =>
      cases h
      exact .done _
  | cons entry rest ih =>
      obtain ⟨key, given⟩ := entry
      rw [layerPairs] at h
      cases hbelow : pair? lower key with
      | none =>
          rw [hbelow] at h
          exact .entry (hbelow ▸ .above given) (ih h)
      | some held =>
          rw [hbelow] at h
          cases hvalue : layerWith deeper held given with
          | error fault =>
              simp only [hvalue] at h
              cases h
          | ok value =>
              simp only [hvalue] at h
              exact .entry (hbelow ▸ .both hvalue) (ih h)

theorem written_mergePairs (lower pairs : List (Value × Value)) :
    Written (fun held given value => held.merge given = value) lower pairs
      (mergePairs lower pairs) := by
  induction pairs generalizing lower with
  | nil => exact .done lower
  | cons entry rest ih =>
      obtain ⟨key, given⟩ := entry
      rw [mergePairs]
      refine .entry ?_ (ih _)
      cases pair? lower key with
      | none => exact .above given
      | some held => exact .both rfl

theorem pairsOf_cons (entry : String × Value) (fields : Entries Value) :
    pairsOf (entry :: fields) = (.text entry.1, entry.2) :: pairsOf fields := rfl

theorem layerFields_eq_layerPairs (deeper : Value → Value → Except Fault Value)
    (lower : List (Value × Value)) (fields : Entries Value) :
    layerFields deeper lower fields = layerPairs deeper lower (pairsOf fields) := by
  induction fields generalizing lower with
  | nil => rfl
  | cons entry rest ih =>
      rw [pairsOf_cons, layerFields, layerPairs]
      cases pair? lower (.text entry.1) with
      | none => exact ih _
      | some held => exact bind_congr fun value => ih _

theorem mergeNamed_eq_mergePairs (lower : List (Value × Value)) (fields : Entries Value) :
    mergeNamed lower fields = mergePairs lower (pairsOf fields) := by
  induction fields generalizing lower with
  | nil => rfl
  | cons entry rest ih =>
      rw [pairsOf_cons, mergeNamed, mergePairs]
      exact ih _

theorem pairsOf_mergeFields (lower fields : Entries Value) :
    pairsOf (mergeFields lower fields) = mergePairs (pairsOf lower) (pairsOf fields) := by
  induction fields generalizing lower with
  | nil =>
      rw [mergeFields]
      rfl
  | cons entry rest ih =>
      obtain ⟨key, given⟩ := entry
      rw [mergeFields, ih, pairsOf_cons, mergePairs, pair?_pairsOf, putPair_pairsOf]

end Value

end FactScope
