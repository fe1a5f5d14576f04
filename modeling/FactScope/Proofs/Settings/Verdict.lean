import FactScope.Settings.Validation

namespace FactScope

namespace Verdict

variable {α β γ : Type}

def fault? : Verdict α → Option Fault
  | undecided fault => some fault
  | _ => none

theorem fault?_eq_some_iff {v : Verdict α} {fault : Fault} :
    v.fault? = some fault ↔ v = .undecided fault := by
  cases v <;> simp [fault?]

@[simp] theorem fault?_map (f : α → β) (v : Verdict α) : (v.map f).fault? = v.fault? := by
  cases v <;> rfl

@[simp] theorem fault?_within (step : PlaceStep) (v : Verdict α) :
    (v.within step).fault? = v.fault? := by
  cases v <;> rfl

@[simp] theorem fault?_both (f : α → β → γ) (a : Verdict α) (b : Verdict β) :
    (both f a b).fault? = a.fault?.or b.fault? := by
  cases a <;> cases b <;> rfl

theorem map_eq_accepted_iff {f : α → β} {v : Verdict α} {b : β} :
    v.map f = .accepted b ↔ ∃ a, v = .accepted a ∧ f a = b := by
  cases v <;> simp [map]

@[simp] theorem within_eq_accepted_iff {step : PlaceStep} {v : Verdict α} {a : α} :
    v.within step = .accepted a ↔ v = .accepted a := by
  cases v <;> simp [within]

theorem both_eq_accepted_iff {f : α → β → γ} {a : Verdict α} {b : Verdict β} {c : γ} :
    both f a b = .accepted c ↔
      ∃ first second, a = .accepted first ∧ b = .accepted second ∧ f first second = c := by
  cases a <;> cases b <;> simp [both]

theorem both_accepted_unit (f : α → Unit → α) (hf : ∀ a, f a () = a) (v : Verdict α) :
    both f v (.accepted ()) = v := by
  cases v <;> simp [both, hf]

end Verdict

namespace Validation

variable {α : Type}

/-- What a field is where some value is given for it or none: the value as it is checked, or the
default. -/
def Takes (check : Value → Verdict α) (default : α) (given : Option Value) (result : α) : Prop :=
  match given with
  | none => result = default
  | some value => check value = .accepted result

theorem field_eq_accepted_iff {fields : Entries Value} {name : String} {default result : α}
    {check : Value → Verdict α} :
    field fields name default check = .accepted result ↔
      Takes check default (fields.get? name) result := by
  unfold field Takes
  cases fields.get? name with
  | none => simp [eq_comm]
  | some value => simp

theorem field_congr {fields others : Entries Value} {name : String}
    (h : fields.get? name = others.get? name) (default : α) (check : Value → Verdict α) :
    field fields name default check = field others name default check := by
  rw [field, field, h]

theorem fault?_field (fields : Entries Value) (name : String) (default : α)
    (check : Value → Verdict α) :
    (field fields name default check).fault? =
      (fields.get? name).bind fun value => (check value).fault? := by
  unfold field
  cases fields.get? name with
  | none => rfl
  | some value => simp

theorem fault?_items (check : Value → Verdict α) (n : Nat) (values : List Value) :
    (items check n values).fault? = values.findSome? fun value => (check value).fault? := by
  induction values generalizing n with
  | nil => rfl
  | cons value rest ih =>
      rw [items, Verdict.fault?_both, Verdict.fault?_within, ih, List.findSome?_cons]
      cases (check value).fault? <;> rfl

theorem mem_items {check : Value → Verdict α} {n : Nat} {values : List Value} {results : List α}
    (h : items check n values = .accepted results) {result : α} (hresult : result ∈ results) :
    ∃ value ∈ values, check value = .accepted result := by
  induction values generalizing n results with
  | nil =>
      cases h
      cases hresult
  | cons value rest ih =>
      obtain ⟨first, others, hfirst, hothers, rfl⟩ := Verdict.both_eq_accepted_iff.mp h
      rcases List.mem_cons.mp hresult with rfl | hmem
      · exact ⟨value, List.mem_cons_self, Verdict.within_eq_accepted_iff.mp hfirst⟩
      · obtain ⟨found, hfound, hcheck⟩ := ih hothers hmem
        exact ⟨found, List.mem_cons_of_mem _ hfound, hcheck⟩

theorem items_map {check : Value → Verdict α} {write : α → Value} {results : List α}
    (h : ∀ result ∈ results, check (write result) = .accepted result) (n : Nat) :
    items check n (results.map write) = .accepted results := by
  induction results generalizing n with
  | nil => rfl
  | cons first rest ih =>
      obtain ⟨hfirst, hrest⟩ := List.forall_mem_cons.mp h
      rw [List.map_cons, items, hfirst, ih hrest]
      rfl

theorem model_object (required : Section) (check : Entries Value → Verdict α)
    (fields : Entries Value) : model required check (.object fields) = check fields := rfl

theorem model_record (required : Section) (check : Entries Value → Verdict α)
    (fields : Entries Value) : model required check (.record required.model fields) = check fields :=
  if_pos rfl

theorem model_eq_accepted {required : Section} {check : Entries Value → Verdict α} {value : Value}
    {result : α} (h : model required check value = .accepted result) :
    ∃ fields, check fields = .accepted result := by
  unfold model at h
  split at h
  · split at h
    · exact ⟨_, h⟩
    · cases h
  · split at h
    · exact ⟨_, h⟩
    · cases h

end Validation

end FactScope
