/-!
Named entries in the order in which they were first written. Reading takes the first entry of a
name; writing replaces it where it stands and appends new names, so lists built by `put` hold
every name once.
-/

namespace FactScope

abbrev Entries (α : Type) : Type := List (String × α)

namespace Entries

variable {α : Type}

def keys (entries : Entries α) : List String :=
  entries.map (·.1)

def get? : Entries α → String → Option α
  | [], _ => none
  | (name, value) :: rest, key => if name = key then some value else get? rest key

def has (entries : Entries α) (key : String) : Bool :=
  (entries.get? key).isSome

/-- Sets the value of `key`, in place if the name is there and at the end otherwise. -/
def put : Entries α → String → α → Entries α
  | [], key, value => [(key, value)]
  | (name, old) :: rest, key, value =>
      if name = key then (name, value) :: rest else (name, old) :: put rest key value

def putAll (entries updates : Entries α) : Entries α :=
  updates.foldl (fun acc entry => acc.put entry.1 entry.2) entries

/-- Entries without repeated names: the last value of a name at its first place. -/
def ofList (pairs : List (String × α)) : Entries α :=
  putAll [] pairs

@[simp] theorem get?_nil (key : String) : get? ([] : Entries α) key = none := rfl

theorem get?_put_self (entries : Entries α) (key : String) (value : α) :
    (entries.put key value).get? key = some value := by
  induction entries with
  | nil => simp [put, get?]
  | cons entry rest ih =>
      obtain ⟨name, old⟩ := entry
      by_cases h : name = key <;> simp [put, get?, h, ih]

theorem get?_put_of_ne (entries : Entries α) {key other : String} (value : α) (h : other ≠ key) :
    (entries.put key value).get? other = entries.get? other := by
  induction entries with
  | nil => simp [put, get?, Ne.symm h]
  | cons entry rest ih =>
      obtain ⟨name, old⟩ := entry
      by_cases hk : name = key
      · subst hk
        simp [put, get?, Ne.symm h]
      · simp [put, get?, hk, ih]

theorem get?_put (entries : Entries α) (key other : String) (value : α) :
    (entries.put key value).get? other =
      if other = key then some value else entries.get? other := by
  split
  · next h => subst h; exact get?_put_self entries other value
  · next h => exact get?_put_of_ne entries value h

theorem put_put (entries : Entries α) (key : String) (first second : α) :
    (entries.put key first).put key second = entries.put key second := by
  induction entries with
  | nil => simp [put]
  | cons entry rest ih =>
      obtain ⟨name, old⟩ := entry
      by_cases h : name = key <;> simp [put, h, ih]

theorem get?_eq_none_iff {entries : Entries α} {key : String} :
    entries.get? key = none ↔ key ∉ entries.keys := by
  induction entries with
  | nil => simp [keys]
  | cons entry rest ih =>
      obtain ⟨name, value⟩ := entry
      by_cases h : name = key
      · simp [get?, keys, h]
      · simp only [get?, h, if_false, ih]
        simp [keys, Ne.symm h]

theorem mem_of_get? {entries : Entries α} {key : String} {value : α}
    (h : entries.get? key = some value) : (key, value) ∈ entries := by
  induction entries with
  | nil => cases h
  | cons entry rest ih =>
      obtain ⟨name, first⟩ := entry
      rw [get?] at h
      split at h
      · next hname =>
        cases h
        subst hname
        exact List.mem_cons_self
      · exact List.mem_cons_of_mem _ (ih h)

theorem has_iff {entries : Entries α} {key : String} :
    entries.has key = true ↔ key ∈ entries.keys := by
  have h := @get?_eq_none_iff _ entries key
  unfold has
  cases hget : entries.get? key with
  | none => simpa using h.mp hget
  | some value =>
      have : key ∈ entries.keys := by
        by_cases hmem : key ∈ entries.keys
        · exact hmem
        · simp [h.mpr hmem] at hget
      simpa using this

theorem get?_append (first second : Entries α) (key : String) :
    get? (first ++ second) key = (first.get? key).or (second.get? key) := by
  induction first with
  | nil => simp
  | cons entry rest ih =>
      obtain ⟨name, value⟩ := entry
      by_cases h : name = key
      · simp [get?, h]
      · simpa [get?, h] using ih

@[simp] theorem keys_nil : keys ([] : Entries α) = [] := rfl

@[simp] theorem keys_cons (entry : String × α) (rest : Entries α) :
    keys (entry :: rest) = entry.1 :: keys rest := rfl

theorem keys_put (entries : Entries α) (key : String) (value : α) :
    (entries.put key value).keys =
      if key ∈ entries.keys then entries.keys else entries.keys ++ [key] := by
  induction entries with
  | nil => simp [put]
  | cons entry rest ih =>
      obtain ⟨name, old⟩ := entry
      by_cases h : name = key
      · simp [put, h]
      · simp only [put, h, if_false, keys_cons, ih, List.mem_cons, Ne.symm h, false_or]
        split <;> simp

theorem nodup_keys_put {entries : Entries α} (h : entries.keys.Nodup) (key : String) (value : α) :
    (entries.put key value).keys.Nodup := by
  rw [keys_put]
  split
  · exact h
  · next hkey =>
    rw [List.nodup_append]
    refine ⟨h, by simp, ?_⟩
    intro first hfirst second hsecond heq
    rw [List.mem_singleton] at hsecond
    exact hkey (hsecond ▸ heq ▸ hfirst)

theorem putAll_nil (entries : Entries α) : entries.putAll [] = entries := rfl

theorem putAll_cons (entries updates : Entries α) (key : String) (value : α) :
    entries.putAll ((key, value) :: updates) = (entries.put key value).putAll updates := rfl

theorem nodup_keys_putAll {entries : Entries α} (h : entries.keys.Nodup) (updates : Entries α) :
    (entries.putAll updates).keys.Nodup := by
  induction updates generalizing entries with
  | nil => exact h
  | cons entry rest ih => exact ih (nodup_keys_put h entry.1 entry.2)

theorem nodup_keys_ofList (pairs : List (String × α)) : (ofList pairs).keys.Nodup :=
  nodup_keys_putAll (show (keys ([] : Entries α)).Nodup from List.nodup_nil) pairs

end Entries

end FactScope
