import FactScope.Proofs.Settings.Verdict

namespace FactScope

def Path.Homeless (home : String) (p : Path) : Prop :=
  p.anchor = .relative ∧ ∃ user rest,
    p.components = (tilde :: user) :: rest ∧ (user = [] → home? home = none)

theorem Path.expandHome_eq_error_iff {home : String} {p : Path} {fault : Fault} :
    p.expandHome home = .error fault ↔ p.Homeless home ∧ fault = .noHome := by
  unfold expandHome Homeless
  split
  · next first user rest hanchor hcomponents =>
    rw [hanchor, hcomponents]
    by_cases hfirst : first = tilde
    · subst hfirst
      by_cases huser : user = []
      · subst huser
        cases hhome : home? home with
        | none => simp [eq_comm]
        | some base => simp
      · simp [huser, eq_comm]
    · simp [hfirst]
  · next hother =>
    simp only [reduceCtorEq, false_iff]
    rintro ⟨⟨hanchor, user, rest, hcomponents, -⟩, -⟩
    exact hother tilde user rest hanchor hcomponents

namespace Validation

/-- A destination that cannot be judged, and the fault. The name of a user that the system cannot
be asked for is refused instead. -/
inductive Undecidable (home : String) (value : Value) : Fault → Prop where
  | noHome {points : Text.Points} (htext : textOf? value = .ok points)
      (hword : points ≠ .ofString "stderr" ∧ points ≠ .ofString "stdout")
      (hhome : (Path.parse points).Homeless home)
      (huser : ∀ user, (Path.parse points).user? = some user → Path.faultOfUser user = .noHome) :
      Undecidable home value .noHome
  | unencodable {points : Text.Points} {path : Path} {before : Nat} {run : Text.Points}
      (htext : textOf? value = .ok points)
      (hword : points ≠ .ofString "stderr" ∧ points ≠ .ofString "stdout")
      (hpath : (Path.parse points).expandHome home = .ok path)
      (hrelative : path.isAbsolute = false)
      (hrun : points.unencodable? (fun _ => false) = some (before, run)) :
      Undecidable home value (.unencodable (Rule.pathSentence.length + before) run)

theorem faultOfUser_cases (user : Text.Points) :
    (∃ before run, Path.faultOfUser user = .unencodable before run) ∨
      Path.faultOfUser user = .nullByte ∨ Path.faultOfUser user = .noHome := by
  unfold Path.faultOfUser
  split
  · exact .inl ⟨_, _, rfl⟩
  · split
    · exact .inr (.inl rfl)
    · exact .inr (.inr rfl)

theorem destination_eq_undecided_iff {home : String} {value : Value} {fault : Fault} :
    destination home value = .undecided fault ↔ Undecidable home value fault := by
  constructor
  · intro h
    unfold destination at h
    split at h
    · cases h
    · next points htext =>
      split at h
      · cases h
      · next hstderr =>
        split at h
        · cases h
        · next hstdout =>
          split at h
          · next other hexpand =>
            obtain ⟨hhome, rfl⟩ := Path.expandHome_eq_error_iff.mp hexpand
            split at h
            · cases h
            · cases h
            · next hunencodable hnullByte =>
              cases h
              -- of the faults of a user name only the missing home is left
              refine .noHome htext ⟨hstderr, hstdout⟩ hhome fun user huser => ?_
              rcases faultOfUser_cases user with ⟨before, run, hfault⟩ | hfault | hfault
              · exact absurd (by rw [huser, Option.map_some, hfault]) (hunencodable before run)
              · exact absurd (by rw [huser, Option.map_some, hfault]) hnullByte
              · exact hfault
          · next path hexpand =>
            split at h
            · cases h
            · next hrelative =>
              unfold refusePath at h
              split at h
              · next before run hrun =>
                cases h
                exact .unencodable htext ⟨hstderr, hstdout⟩ hexpand
                  (Bool.eq_false_iff.mpr hrelative) hrun
              · cases h
  · intro h
    cases h with
    | @noHome points htext hword hhome huser =>
        have hexpand := Path.expandHome_eq_error_iff.mpr ⟨hhome, rfl⟩
        have hfault : (Path.parse points).user?.map Path.faultOfUser = none ∨
            (Path.parse points).user?.map Path.faultOfUser = some .noHome := by
          cases hpoints : (Path.parse points).user? with
          | none => exact .inl rfl
          | some user => exact .inr (congrArg some (huser user hpoints))
        simp only [destination, htext, if_neg hword.1, if_neg hword.2, hexpand]
        rcases hfault with hfault | hfault <;> rw [hfault]
    | unencodable htext hword hpath hrelative hrun =>
        simp only [destination, htext, if_neg hword.1, if_neg hword.2, hpath, hrelative,
          Bool.false_eq_true, if_false, refusePath, hrun]

def fieldsOf? (required : Section) (value : Value) : Option (Entries Value) :=
  match value with
  | .record name fields => if name = required.model then some fields else none
  | other => other.namedEntries?

def itemsOf (value : Value) : List Value :=
  match value.content with
  | .list values => values
  | .set values => values
  | _ => []

def destinations (fields : Entries Value) : List Value :=
  let logging := (fields.get? "logging").bind (fieldsOf? .logging)
  let outputs := (logging.bind fun held => held.get? "outputs").toList.flatMap itemsOf
  outputs.filterMap fun output =>
    (fieldsOf? .output output).bind fun fields => fields.get? "destination"

theorem model_eq {α : Type} (required : Section) (check : Entries Value → Verdict α)
    (value : Value) :
    model required check value =
      match fieldsOf? required value with
      | some fields => check fields
      | none => .refuse (.model required) value := by
  cases value with
  | record name fields => by_cases h : name = required.model <;> simp [model, fieldsOf?, h]
  | _ => rfl

theorem fault?_model {α : Type} (required : Section) (check : Entries Value → Verdict α)
    (value : Value) :
    (model required check value).fault? =
      (fieldsOf? required value).bind fun fields => (check fields).fault? := by
  rw [model_eq]
  cases fieldsOf? required value <;> rfl

theorem fault?_word {α : Type} (ofName? : String → Option α) (rule : Rule) (value : Value) :
    (word ofName? rule value).fault? = none := by
  unfold word
  split
  · split <;> rfl
  · rfl
  · rfl

theorem fault?_optionalLevel (value : Value) : (optionalLevel value).fault? = none := by
  unfold optionalLevel
  split
  · rfl
  · rw [Verdict.fault?_map]
    exact fault?_word ..

theorem fault?_version (value : Value) : (version value).fault? = none := by
  unfold version
  split
  · rfl
  · split <;> rfl

theorem fault?_output (home : String) (value : Value) :
    (output home value).fault? =
      ((fieldsOf? .output value).bind fun fields => fields.get? "destination").bind fun value =>
        (destination home value).fault? := by
  rw [output, fault?_model]
  cases fieldsOf? .output value with
  | none => rfl
  | some fields =>
      have hformat : ∀ value, (format value).fault? = none := fault?_word _ _
      simp [fault?_field, hformat, fault?_optionalLevel]

theorem fault?_outputs (home : String) (value : Value) :
    (outputs home value).fault? =
      (itemsOf value).findSome? fun item => (output home item).fault? := by
  unfold outputs itemsOf
  cases value.content with
  | list values => exact fault?_items _ _ _
  | set values => exact fault?_items _ _ _
  | _ => rfl

theorem fault?_logging (home : String) (value : Value) :
    (logging home value).fault? =
      ((fieldsOf? .logging value).bind fun fields => fields.get? "outputs").bind fun value =>
        (outputs home value).fault? := by
  rw [logging, fault?_model]
  cases fieldsOf? .logging value with
  | none => rfl
  | some fields =>
      have hlevel : ∀ value, (level value).fault? = none := fault?_word _ _
      simp [fault?_field, hlevel]

theorem fault?_context (value : Value) : (context value).fault? = none := by
  rw [context, fault?_model]
  cases fieldsOf? .context value with
  | none => rfl
  | some fields => simp [fault?_field, fault?_version]

theorem findSome?_filterMap {α β γ : Type} (f : α → Option β) (g : β → Option γ) (values : List α) :
    (values.filterMap f).findSome? g = values.findSome? fun value => (f value).bind g := by
  induction values with
  | nil => rfl
  | cons value rest ih =>
      rw [List.findSome?_cons, ← ih]
      cases hvalue : f value with
      | none => rw [List.filterMap_cons_none hvalue, Option.bind_none]
      | some found => rw [List.filterMap_cons_some hvalue, List.findSome?_cons, Option.bind_some]

theorem fault?_sections (home : String) (fields : Entries Value) :
    (sections home fields).fault? =
      (destinations fields).findSome? fun value => (destination home value).fault? := by
  have hlogging : (sections home fields).fault? =
      ((fields.get? "logging").bind fun held => (fieldsOf? .logging held).bind fun fields =>
        fields.get? "outputs").bind fun value => (outputs home value).fault? := by
    simp only [sections, Verdict.fault?_both, fault?_field, fault?_context, fault?_logging,
      Option.bind_fun_none, Option.or_none, Option.bind_assoc]
  rw [hlogging, destinations, findSome?_filterMap, ← Option.bind_assoc]
  cases ((fields.get? "logging").bind (fieldsOf? .logging)).bind fun held =>
      held.get? "outputs" with
  | none => rfl
  | some held =>
      simp only [Option.bind_some, fault?_outputs, fault?_output, Option.toList_some,
        List.flatMap_cons, List.flatMap_nil, List.append_nil]

end Validation

end FactScope
