import FactScope.Entries

namespace FactScope.Entries

variable {α : Type} {entries updates first : Entries α} {key other : String}

theorem put_comm (hkey : key ∈ entries.keys) (hne : key ≠ other) (value last : α) :
    (entries.put key value).put other last = (entries.put other last).put key value := by
  induction entries with
  | nil => cases hkey
  | cons entry rest ih =>
      obtain ⟨name, old⟩ := entry
      by_cases hname : name = key
      · subst hname
        simp [put, hne]
      · have hrest : key ∈ keys rest := (List.mem_cons.mp hkey).resolve_left (Ne.symm hname)
        by_cases hother : name = other
        · simp [put, hother, hne.symm]
        · simp [put, hname, hother, ih hrest]

theorem put_of_not_mem (h : key ∉ entries.keys) (value : α) :
    entries.put key value = entries ++ [(key, value)] := by
  induction entries with
  | nil => rfl
  | cons entry rest ih =>
      obtain ⟨hne, hrest⟩ := List.ne_and_not_mem_of_not_mem_cons h
      rw [put, if_neg (Ne.symm hne), ih hrest, List.cons_append]

theorem get?_of_keys_subset {names : List String} (h : entries.keys ⊆ names) (hkey : key ∉ names) :
    entries.get? key = none :=
  get?_eq_none_iff.mpr fun hmem => hkey (h hmem)

theorem get?_ite_iff {p : Prop} [Decidable p] {given value : α} :
    get? (if p then [(key, given)] else []) key = some value ↔ p ∧ value = given := by
  split
  · next hp =>
    rw [get?, if_pos rfl, Option.some.injEq]
    exact ⟨fun h => ⟨hp, h.symm⟩, fun h => h.2.symm⟩
  · next hp =>
    constructor
    · intro h
      cases h
    · intro h
      exact absurd h.1 hp

theorem keys_ite_subset {p : Prop} [Decidable p] {given : α} :
    keys (if p then [(key, given)] else []) ⊆ [key] := by
  split
  · exact List.Subset.refl _
  · exact List.nil_subset _

theorem mem_keys_put (name : String) (value : α) (h : key ∈ entries.keys) :
    key ∈ (entries.put name value).keys := by
  rw [keys_put]
  split
  · exact h
  · exact List.mem_append_left _ h

theorem mem_keys_putAll (updates : Entries α) (h : key ∈ entries.keys) :
    key ∈ (entries.putAll updates).keys := by
  induction updates generalizing entries with
  | nil => exact h
  | cons entry rest ih => exact ih (mem_keys_put entry.1 entry.2 h)

theorem put_putAll_of_not_mem (hkey : key ∈ entries.keys) (hnew : key ∉ updates.keys)
    (value : α) :
    (entries.putAll updates).put key value = (entries.put key value).putAll updates := by
  induction updates generalizing entries with
  | nil => rfl
  | cons entry rest ih =>
      obtain ⟨name, given⟩ := entry
      obtain ⟨hne, hrest⟩ : key ≠ name ∧ key ∉ keys rest := by simpa using hnew
      rw [putAll_cons, putAll_cons, ih (mem_keys_put name given hkey) hrest, put_comm hkey hne]

theorem putAll_put (h : updates.keys.Nodup) (entries : Entries α) (key : String) (value : α) :
    entries.putAll (updates.put key value) = (entries.putAll updates).put key value := by
  induction updates generalizing entries with
  | nil => rfl
  | cons entry rest ih =>
      obtain ⟨name, old⟩ := entry
      obtain ⟨hnew, hrest⟩ := List.nodup_cons.mp h
      by_cases hname : name = key
      · subst hname
        have hthere : name ∈ (entries.put name old).keys :=
          has_iff.mp (by simp [has, get?_put_self])
        rw [put, if_pos rfl, putAll_cons, putAll_cons, put_putAll_of_not_mem hthere hnew, put_put]
      · rw [put, if_neg hname, putAll_cons, putAll_cons, ih hrest]

/-- Updating by updated updates is updating in two steps. -/
theorem putAll_putAll (h : first.keys.Nodup) (entries updates : Entries α) :
    entries.putAll (first.putAll updates) = (entries.putAll first).putAll updates := by
  induction updates generalizing first with
  | nil => rfl
  | cons entry rest ih =>
      obtain ⟨key, value⟩ := entry
      rw [putAll_cons, putAll_cons, ih (nodup_keys_put h key value), putAll_put h]

theorem keys_putAll (h : updates.keys.Nodup) (entries : Entries α) :
    (entries.putAll updates).keys = entries.keys ++ updates.keys.filter (· ∉ entries.keys) := by
  induction updates generalizing entries with
  | nil => simp [putAll_nil]
  | cons entry rest ih =>
      obtain ⟨name, given⟩ := entry
      obtain ⟨hnew, hrest⟩ := List.nodup_cons.mp h
      rw [putAll_cons, ih hrest, keys_put, keys_cons, List.filter_cons]
      by_cases hname : name ∈ entries.keys
      · simp [hname]
      · have hfilter : (keys rest).filter (· ∉ entries.keys ++ [name]) =
            (keys rest).filter (· ∉ entries.keys) := by
          apply List.filter_congr
          intro other hother
          have hne : other ≠ name := fun heq => hnew (heq ▸ hother)
          simp [hne]
        rw [if_neg hname, hfilter]
        simp [hname]

/-- What is read after updating is what the updates give, or else what was there before. -/
theorem get?_putAll (h : updates.keys.Nodup) (entries : Entries α) (key : String) :
    (entries.putAll updates).get? key = (updates.get? key).or (entries.get? key) := by
  induction updates generalizing entries with
  | nil => simp [putAll_nil]
  | cons entry rest ih =>
      obtain ⟨name, given⟩ := entry
      obtain ⟨hnew, hrest⟩ := List.nodup_cons.mp h
      rw [putAll_cons, ih hrest, get?_put, get?]
      by_cases hkey : key = name
      · subst hkey
        simp [get?_eq_none_iff.mpr hnew]
      · simp [hkey, Ne.symm hkey]

theorem get?_of_mem {name : String} {value : α} (h : entries.keys.Nodup)
    (hmem : (name, value) ∈ entries) : entries.get? name = some value := by
  induction entries with
  | nil => cases hmem
  | cons entry rest ih =>
      obtain ⟨hnew, hnodup⟩ : entry.1 ∉ keys rest ∧ _ := List.nodup_cons.mp h
      rcases List.mem_cons.mp hmem with rfl | hrest
      · simp [get?]
      · have hne : entry.1 ≠ name := by
          rintro rfl
          exact hnew (List.mem_map_of_mem (f := (·.1)) hrest)
        simpa [get?, hne] using ih hnodup hrest

/-- Entries with the same names in the same order are equal if they hold the same under each. -/
theorem ext_get? {others : Entries α} (h : entries.keys.Nodup) (hkeys : entries.keys = others.keys)
    (hget : ∀ key, entries.get? key = others.get? key) : entries = others := by
  induction entries generalizing others with
  | nil => exact (List.map_eq_nil_iff.mp hkeys.symm).symm
  | cons entry rest ih =>
      cases others with
      | nil => cases hkeys
      | cons other tail =>
          obtain ⟨name, value⟩ := entry
          obtain ⟨_, last⟩ := other
          obtain ⟨rfl, hrest⟩ : name = _ ∧ keys rest = keys tail := List.cons.inj hkeys
          obtain ⟨hnew, hnodup⟩ : name ∉ keys rest ∧ _ := List.nodup_cons.mp h
          have hvalue : value = last := by simpa [get?] using hget name
          subst hvalue
          refine congrArg _ (ih hnodup hrest fun key => ?_)
          by_cases hkey : name = key
          · subst hkey
            rw [get?_eq_none_iff.mpr hnew, get?_eq_none_iff.mpr (hrest ▸ hnew)]
          · simpa [get?, hkey] using hget key

theorem keys_put_congr {others : Entries α} (h : entries.keys = others.keys) (key : String)
    (value last : α) : (entries.put key value).keys = (others.put key last).keys := by
  rw [keys_put, keys_put, h]

theorem map_put (change : String → α → α) (entries : Entries α) (key : String) (value : α) :
    (entries.put key value).map (fun entry => (entry.1, change entry.1 entry.2)) =
      put (entries.map fun entry => (entry.1, change entry.1 entry.2)) key (change key value) := by
  induction entries with
  | nil => rfl
  | cons entry rest ih =>
      obtain ⟨name, old⟩ := entry
      by_cases hname : name = key
      · subst hname
        simp [put]
      · simp [put, hname, ih]

end FactScope.Entries
