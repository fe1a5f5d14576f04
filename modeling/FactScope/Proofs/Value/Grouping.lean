import FactScope.Proofs.Value.Descent

namespace FactScope

namespace Value

/-- At no path two values hold objects while the one between them holds something else. -/
def Groups (first second third : Value) : Prop :=
  ∀ path (held given : Entries Value), first.at? path = some (.object held) →
    third.at? path = some (.object given) →
      ∀ value, second.at? path = some value → ∃ others : Entries Value, value = .object others

variable {first second third last : Value} {fields : Entries Value} {name : String}

theorem groups_object_iff {a b c : Entries Value} :
    Groups (.object a) (.object b) (.object c) ↔
      ∀ name first second third, a.get? name = some first → b.get? name = some second →
        c.get? name = some third → Groups first second third := by
  constructor
  · intro h name first second third hfirst hsecond hthird path held given hheld hgiven value hvalue
    refine h (name :: path) held given ?_ ?_ value ?_
    · rw [at?_object_cons, hfirst]
      exact hheld
    · rw [at?_object_cons, hthird]
      exact hgiven
    · rw [at?_object_cons, hsecond]
      exact hvalue
  · intro h path held given hheld hgiven value hvalue
    cases path with
    | nil =>
        cases hvalue
        exact ⟨b, rfl⟩
    | cons name path =>
        obtain ⟨first, hfirst, hheld⟩ := Option.bind_eq_some_iff.mp hheld
        obtain ⟨second, hsecond, hvalue⟩ := Option.bind_eq_some_iff.mp hvalue
        obtain ⟨third, hthird, hgiven⟩ := Option.bind_eq_some_iff.mp hgiven
        exact h name first second third hfirst hsecond hthird path held given hheld hgiven
          value hvalue

theorem Groups.isObject {held given : Entries Value}
    (h : Groups (.object held) second (.object given)) : second.isObject = true := by
  obtain ⟨others, rfl⟩ := h [] held given rfl rfl second rfl
  rfl

theorem keys_mergeFields_assoc {a b c : Entries Value} (hb : b.keys.Nodup) (hc : c.keys.Nodup) :
    Entries.keys (mergeFields (mergeFields a b) c) =
      Entries.keys (mergeFields a (mergeFields b c)) := by
  rw [keys_mergeFields hc, keys_mergeFields hb, keys_mergeFields (nodup_keys_mergeFields hb hc),
    keys_mergeFields hc, List.filter_append, List.filter_filter, List.append_assoc]
  congr 2
  refine List.filter_congr fun key _ => ?_
  by_cases ha : key ∈ a.keys
  · simp [ha]
  · simp [ha]

theorem stack_assoc {held between given : Option Value}
    (h : ∀ a b c, held = some a → between = some b → given = some c →
      (a.merge b).merge c = a.merge (b.merge c)) :
    stack (stack held between) given = stack held (stack between given) := by
  cases given with
  | none => cases between <;> cases held <;> rfl
  | some c =>
      cases between with
      | none => cases held <;> rfl
      | some b =>
          cases held with
          | none => rfl
          | some a => exact congrArg some (h a b c rfl rfl rfl)

theorem merge_assoc (hfirst : first.isJson = true) (hsecond : second.isJson = true)
    (hthird : third.isJson = true) (h : Groups first second third) :
    (first.merge second).merge third = first.merge (second.merge third) := by
  induction first using objectInduction generalizing second third with
  | h first ih =>
      cases hthirdObject : third.isObject with
      | false => rw [merge_eq_upper (.inr hthirdObject), merge_eq_upper (.inr hthirdObject),
          merge_eq_upper (.inr hthirdObject)]
      | true =>
          obtain ⟨c, rfl⟩ := exists_fields_of_isJson hthird hthirdObject
          cases hfirstObject : first.isObject with
          | false => rw [merge_eq_upper (.inl hfirstObject), merge_eq_upper (.inl hfirstObject)]
          | true =>
              obtain ⟨a, rfl⟩ := exists_fields_of_isJson hfirst hfirstObject
              obtain ⟨b, rfl⟩ := exists_fields_of_isJson hsecond h.isObject
              obtain ⟨ha, haHeld⟩ := isJson_object_iff.mp hfirst
              obtain ⟨hb, hbHeld⟩ := isJson_object_iff.mp hsecond
              obtain ⟨hc, hcHeld⟩ := isJson_object_iff.mp hthird
              simp only [merge_object]
              refine object_ext ?_ (keys_mergeFields_assoc hb hc) fun name => ?_
              · exact nodup_keys_mergeFields (nodup_keys_mergeFields ha hb) hc
              · rw [get?_mergeFields hc, get?_mergeFields hb,
                  get?_mergeFields (nodup_keys_mergeFields hb hc), get?_mergeFields hc]
                refine stack_assoc fun held between given hheld hbetween hgiven => ?_
                exact ih a name held rfl hheld (haHeld name held hheld)
                  (hbHeld name between hbetween) (hcHeld name given hgiven)
                  (groups_object_iff.mp h name held between given hheld hbetween hgiven)

theorem merge_self (h : first.isJson = true) : first.merge first = first := by
  induction first using objectInduction with
  | h first ih =>
      cases hobject : first.isObject with
      | false => exact merge_eq_upper (.inl hobject)
      | true =>
          obtain ⟨fields, rfl⟩ := exists_fields_of_isJson h hobject
          obtain ⟨hnodup, hheld⟩ := isJson_object_iff.mp h
          rw [merge_object]
          refine object_ext (nodup_keys_mergeFields hnodup hnodup) ?_ fun name => ?_
          · rw [keys_mergeFields hnodup, List.append_right_eq_self, List.filter_eq_nil_iff]
            intro key hkey
            simpa using hkey
          · rw [get?_mergeFields hnodup]
            cases hvalue : Entries.get? fields name with
            | none => rfl
            | some value =>
                exact congrArg some (ih fields name value rfl hvalue (hheld name value hvalue))

theorem empty_merge (h : (Value.object fields).isJson = true) :
    (Value.object []).merge (.object fields) = .object fields := by
  have hnodup := (isJson_object_iff.mp h).1
  rw [merge_object]
  refine object_ext (nodup_keys_mergeFields List.nodup_nil hnodup) ?_ fun name => ?_
  · rw [keys_mergeFields hnodup]
    simp
  · rw [get?_mergeFields hnodup]
    cases fields.get? name <;> rfl

theorem merge_merge_self (hfirst : first.isJson = true) (hsecond : second.isJson = true) :
    (first.merge second).merge second = first.merge second := by
  have hgroups : Groups first second second :=
    fun _ _ given _ hgiven value hvalue => ⟨given, Option.some.inj (hvalue.symm.trans hgiven)⟩
  rw [merge_assoc hfirst hsecond hsecond hgroups, merge_self hsecond]

theorem at?_merge_object {path : List String} (hfirst : first.isJson = true)
    (hsecond : second.isJson = true) (h : (first.merge second).at? path = some (.object fields)) :
    (∃ given : Entries Value, second.at? path = some (.object given)) ∨
      second.at? path = none ∧ first.at? path = some (.object fields) := by
  by_cases hcut : second.Cut path
  · rw [at?_merge_of_cut hfirst hsecond hcut] at h
    cases h
  · rw [at?_merge hfirst hsecond hcut] at h
    cases hgiven : second.at? path with
    | none =>
        rw [hgiven] at h
        cases hheld : first.at? path with
        | none =>
            rw [hheld] at h
            cases h
        | some held =>
            rw [hheld] at h
            exact .inr ⟨rfl, h⟩
    | some given =>
        refine .inl ?_
        cases hobject : given.isObject with
        | true =>
            obtain ⟨others, rfl⟩ := exists_fields_of_isJson (isJson_at? hsecond hgiven) hobject
            exact ⟨others, rfl⟩
        | false =>
            have hsame : ∀ held, stack held (some given) = some given := by
              intro held
              cases held with
              | none => rfl
              | some held => exact congrArg some (merge_eq_upper (.inr hobject))
            rw [hgiven, hsame] at h
            exact ⟨fields, h⟩

/-- The first two of four values can be put together if each of them groups with the last two. -/
theorem Groups.merge_left (hfirst : first.isJson = true) (hsecond : second.isJson = true)
    (h : Groups first third last) (h' : Groups second third last) :
    Groups (first.merge second) third last := by
  intro path held given hheld hgiven value hvalue
  rcases at?_merge_object hfirst hsecond hheld with ⟨others, hothers⟩ | ⟨-, hbelow⟩
  · exact h' path others given hothers hgiven value hvalue
  · exact h path held given hbelow hgiven value hvalue

theorem Groups.merge_right (hthird : third.isJson = true) (hlast : last.isJson = true)
    (h : Groups first second third) (h' : Groups first second last) :
    Groups first second (third.merge last) := by
  intro path held given hheld hgiven value hvalue
  rcases at?_merge_object hthird hlast hgiven with ⟨others, hothers⟩ | ⟨-, hbelow⟩
  · exact h' path held others hheld hothers value hvalue
  · exact h path held given hheld hbelow value hvalue

/-- Laws of putting JSON objects together; the last one is for a row of four. -/
theorem merge_grouping {a b c : Entries Value} (ha : (Value.object a).isJson = true)
    (hb : (Value.object b).isJson = true) (hc : (Value.object c).isJson = true) :
    (Value.object a).merge (.object []) = .object a ∧
    (Value.object []).merge (.object a) = .object a ∧
    (Value.object a).merge (.object a) = .object a ∧
    ((Value.object a).merge (.object b)).merge (.object b) =
      (Value.object a).merge (.object b) ∧
    (Groups (.object a) (.object b) (.object c) →
      ((Value.object a).merge (.object b)).merge (.object c) =
        (Value.object a).merge ((Value.object b).merge (.object c)) ∧
      ∀ d : Entries Value, (Value.object d).isJson = true →
        Groups (.object a) (.object b) (.object d) → Groups (.object a) (.object c) (.object d) →
        Groups (.object b) (.object c) (.object d) →
        let whole := (((Value.object a).merge (.object b)).merge (.object c)).merge (.object d)
        ((Value.object a).merge ((Value.object b).merge (.object c))).merge (.object d) = whole ∧
        ((Value.object a).merge (.object b)).merge ((Value.object c).merge (.object d)) = whole ∧
        (Value.object a).merge (((Value.object b).merge (.object c)).merge (.object d)) = whole ∧
        (Value.object a).merge ((Value.object b).merge ((Value.object c).merge (.object d))) =
          whole) := by
  refine ⟨?_, empty_merge ha, merge_self ha, merge_merge_self ha hb, fun habc => ?_⟩
  · rw [merge_object, mergeFields_nil]
  · have hassoc := merge_assoc ha hb hc habc
    refine ⟨hassoc, fun d hd habd hacd hbcd => ?_⟩
    have hpairs := merge_assoc (isJson_merge ha hb) hc hd (hacd.merge_left ha hb hbcd)
    have hright := merge_assoc ha hb (isJson_merge hc hd) (habc.merge_right hc hd habd)
    have hmiddle := merge_assoc hb hc hd hbcd
    refine ⟨by rw [hassoc], hpairs.symm, ?_, ?_⟩
    · rw [hmiddle, ← hright, hpairs]
    · rw [← hright, hpairs]

theorem groups_of_flat (h : ∀ fields, first ≠ .object fields) : Groups first second third := by
  intro path held given hheld
  cases path with
  | nil => exact absurd (Option.some.inj hheld) (h held)
  | cons name path =>
      rw [at?_cons_of_flat h] at hheld
      cases hheld

theorem merge_grouping_of_four :
    let a : Entries Value := [("x", .object [("y", .int 1)]), ("z", .null)]
    let b : Entries Value := [("x", .object []), ("z", .object [])]
    let c : Entries Value := [("w", .bool true), ("x", .object [("y", .object [])])]
    let d : Entries Value := [("z", .object [("y", .null)])]
    Groups (.object a) (.object b) (.object c) ∧
      (Value.object a).merge (.object a) = .object a ∧
      (Value.object a).merge ((Value.object b).merge ((Value.object c).merge (.object d))) =
        .object [("x", .object [("y", .object [])]), ("z", .object [("y", .null)]),
          ("w", .bool true)] := by
  intro a b c d
  have habc : Groups (.object a) (.object b) (.object c) := by
    refine groups_object_iff.mpr fun name first second third hfirst hsecond hthird => ?_
    rcases List.mem_cons.mp (Entries.mem_of_get? hsecond) with heq | hrest
    · cases heq
      cases hfirst
      cases hthird
      exact groups_object_iff.mpr fun _ _ _ _ _ hnone => nomatch hnone
    · cases List.mem_singleton.mp hrest
      cases hthird
  have habd : Groups (.object a) (.object b) (.object d) := by
    refine groups_object_iff.mpr fun name first second third hfirst _ hthird => ?_
    cases List.mem_singleton.mp (Entries.mem_of_get? hthird)
    cases hfirst
    exact groups_of_flat nofun
  have hacd : Groups (.object a) (.object c) (.object d) := by
    refine groups_object_iff.mpr fun name first second third _ hsecond hthird => ?_
    cases List.mem_singleton.mp (Entries.mem_of_get? hthird)
    cases hsecond
  have hbcd : Groups (.object b) (.object c) (.object d) := by
    refine groups_object_iff.mpr fun name first second third _ hsecond hthird => ?_
    cases List.mem_singleton.mp (Entries.mem_of_get? hthird)
    cases hsecond
  obtain ⟨-, -, hself, -, hgrouped⟩ :=
    merge_grouping (a := a) (b := b) (c := c) (by decide) (by decide) (by decide)
  obtain ⟨-, -, -, hright⟩ := (hgrouped habc).2 d (by decide) habd hacd hbcd
  exact ⟨habc, hself, hright.trans rfl⟩

/-- A number between two objects: it depends on what is put together first. -/
example :
    let a := Value.object [("x", .object [("y", .null)])]
    let b := Value.object [("x", .int 1)]
    let c := Value.object [("x", .object [])]
    (a.merge b).merge c ≠ a.merge (b.merge c) := by decide

end Value

end FactScope
