import FactScope.Proofs.Value.Json

namespace FactScope

namespace Value

def dropName (name : String) (pairs : List (Value × Value)) : List (Value × Value) :=
  pairs.filter fun entry => entry.1 ≠ .text name

def without (name : String) (value : Value) : Value :=
  match value.content.entries? with
  | some pairs => ofEntries (dropName name pairs)
  | none => value

variable {base upper value : Value} {lower pairs written : List (Value × Value)} {name : String}
  {key : Value}

theorem dropName_cons_self (name : String) (value : Value) (pairs : List (Value × Value)) :
    dropName name ((.text name, value) :: pairs) = dropName name pairs := by
  simp [dropName]

theorem dropName_cons_of_ne (h : key ≠ .text name) (value : Value)
    (pairs : List (Value × Value)) :
    dropName name ((key, value) :: pairs) = (key, value) :: dropName name pairs := by
  simp [dropName, h]

@[simp] theorem dropName_dropName (name : String) (pairs : List (Value × Value)) :
    dropName name (dropName name pairs) = dropName name pairs :=
  List.filter_filter.trans (congrArg (List.filter · pairs) (funext fun _ => Bool.and_self _))

theorem nodup_dropName (h : (textEntries pairs).keys.Nodup) :
    (textEntries (dropName name pairs)).keys.Nodup := by
  have hfilter : textEntries (dropName name pairs) =
      (textEntries pairs).filter fun entry => entry.1 ≠ name := by
    induction pairs with
    | nil => rfl
    | cons entry rest ih =>
        obtain ⟨key, value⟩ := entry
        have hrest : (textEntries rest).keys.Nodup := by
          cases key <;> first | exact h | exact (List.nodup_cons.mp h).2
        by_cases hkey : key = .text name
        · subst hkey
          simpa [dropName_cons_self, textEntries] using ih hrest
        · rw [dropName_cons_of_ne hkey]
          cases key with
          | text other =>
              have hother : other ≠ name := fun heq => hkey (congrArg _ heq)
              simpa [textEntries, hother] using ih hrest
          | _ => exact ih hrest
  rw [hfilter]
  exact h.sublist (List.filter_sublist.map _)

theorem pair?_dropName_self (name : String) (pairs : List (Value × Value)) :
    pair? (dropName name pairs) (.text name) = none := by
  induction pairs with
  | nil => rfl
  | cons entry rest ih =>
      obtain ⟨first, value⟩ := entry
      by_cases hfirst : first = .text name
      · rw [hfirst, dropName_cons_self, ih]
      · rw [dropName_cons_of_ne hfirst, pair?, if_neg (mt sameKey_text_iff.mp hfirst), ih]

theorem pair?_dropName (h : key ≠ .text name) (pairs : List (Value × Value)) :
    pair? (dropName name pairs) key = pair? pairs key := by
  induction pairs with
  | nil => rfl
  | cons entry rest ih =>
      obtain ⟨first, value⟩ := entry
      by_cases hfirst : first = .text name
      · rw [hfirst, dropName_cons_self, ih, pair?, if_neg (mt text_sameKey_iff.mp h)]
      · rw [dropName_cons_of_ne hfirst, pair?, pair?, ih]

theorem dropName_putPair_self (name : String) (pairs : List (Value × Value)) (value : Value) :
    dropName name (putPair pairs (.text name) value) = dropName name pairs := by
  induction pairs with
  | nil => simp [putPair, dropName]
  | cons entry rest ih =>
      obtain ⟨first, old⟩ := entry
      by_cases hfirst : first = .text name
      · rw [hfirst, putPair, if_pos (sameKey_self _), dropName_cons_self, dropName_cons_self]
      · rw [putPair, if_neg (mt sameKey_text_iff.mp hfirst), dropName_cons_of_ne hfirst,
          dropName_cons_of_ne hfirst, ih]

theorem dropName_putPair (h : key ≠ .text name) (pairs : List (Value × Value)) (value : Value) :
    dropName name (putPair pairs key value) = putPair (dropName name pairs) key value := by
  induction pairs with
  | nil => simp [putPair, dropName, h]
  | cons entry rest ih =>
      obtain ⟨first, old⟩ := entry
      by_cases hfirst : first = .text name
      · rw [hfirst, putPair, if_neg (mt text_sameKey_iff.mp h), dropName_cons_self,
          dropName_cons_self, ih]
      · rw [dropName_cons_of_ne hfirst, putPair, putPair]
        split
        · rw [dropName_cons_of_ne hfirst]
        · rw [dropName_cons_of_ne hfirst, ih]

theorem find?_dropName (name : String) {wanted : Value × Value → Bool}
    (h : ∀ value, wanted (.text name, value) = false) (pairs : List (Value × Value)) :
    (dropName name pairs).find? wanted = pairs.find? wanted := by
  induction pairs with
  | nil => rfl
  | cons entry rest ih =>
      obtain ⟨key, value⟩ := entry
      by_cases hkey : key = .text name
      · rw [hkey, dropName_cons_self, List.find?_cons_of_neg (by simp [h]), ih]
      · rw [dropName_cons_of_ne hkey, List.find?_cons, List.find?_cons, ih]

theorem any_dropName (name : String) {wanted : Value × Value → Bool}
    (h : ∀ value, wanted (.text name, value) = false) (pairs : List (Value × Value)) :
    (dropName name pairs).any wanted = pairs.any wanted := by
  rw [← List.isSome_find?, ← List.isSome_find?, find?_dropName name h]

theorem layerPairs_dropName {deeper : Value → Value → Except Fault Value}
    (hpairs : (textEntries pairs).keys.Nodup)
    (hname : ∀ held given, pair? lower (.text name) = some held →
      pair? pairs (.text name) = some given → held.isObject = false ∨ given.isObject = false) :
    (layerPairs deeper lower pairs).map (dropName name) =
      layerPairs deeper (dropName name lower) (dropName name pairs) := by
  induction pairs generalizing lower with
  | nil => rfl
  | cons entry rest ih =>
      obtain ⟨key, given⟩ := entry
      have hrest : (textEntries rest).keys.Nodup := by
        cases key <;> first | exact hpairs | exact (List.nodup_cons.mp hpairs).2
      by_cases hkey : key = .text name
      · subst hkey
        have hnone : pair? rest (.text name) = none := by
          rw [← get?_textEntries, Entries.get?_eq_none_iff]
          exact (List.nodup_cons.mp hpairs).1
        have hlast : (layerPairs deeper (putPair lower (.text name) given) rest).map
            (dropName name) = layerPairs deeper (dropName name lower) (dropName name rest) := by
          rw [← dropName_putPair_self name lower given]
          exact ih hrest fun held other _ hother => nomatch hnone.symm.trans hother
        rw [dropName_cons_self, ← hlast, layerPairs]
        cases hheld : pair? lower (.text name) with
        | none => rfl
        | some held =>
            have hgiven := hname held given hheld (by rw [pair?, if_pos (sameKey_self _)])
            simp only [layerWith_eq_upper hgiven]
            rfl
      · have hothers : ∀ value, (layerPairs deeper (putPair lower key value) rest).map
            (dropName name) =
              layerPairs deeper (putPair (dropName name lower) key value) (dropName name rest) := by
          intro value
          rw [← dropName_putPair hkey]
          refine ih hrest fun held other hheld hother => hname held other ?_ ?_
          · rwa [pair?_putPair, if_neg hkey] at hheld
          · rwa [pair?, if_neg (mt sameKey_text_iff.mp hkey)]
        rw [dropName_cons_of_ne hkey, layerPairs, layerPairs, pair?_dropName hkey]
        cases pair? lower key with
        | none => exact hothers given
        | some held =>
            cases hvalue : layerWith deeper held given with
            | error fault => simp only [hvalue]; rfl
            | ok value => simp only [hvalue]; exact hothers value

theorem mergePairs_dropName (name : String) (lower pairs : List (Value × Value)) :
    dropName name (mergePairs lower pairs) =
      mergePairs (dropName name lower) (dropName name pairs) := by
  induction pairs generalizing lower with
  | nil => rfl
  | cons entry rest ih =>
      obtain ⟨key, given⟩ := entry
      by_cases hkey : key = .text name
      · rw [hkey, mergePairs, ih, dropName_putPair_self, dropName_cons_self]
      · rw [dropName_cons_of_ne hkey, mergePairs, mergePairs, ih, dropName_putPair hkey,
          pair?_dropName hkey]

theorem pair?_layerPairs {deeper : Value → Value → Except Fault Value}
    (h : layerPairs deeper lower pairs = .ok written) (hpairs : (textEntries pairs).keys.Nodup)
    (hname : ∀ held given, pair? lower (.text name) = some held →
      pair? pairs (.text name) = some given → held.isObject = false ∨ given.isObject = false) :
    pair? written (.text name) = (pair? pairs (.text name)).or (pair? lower (.text name)) := by
  have hstacked := (written_layerPairs h).stacked hpairs name
  generalize pair? written (.text name) = result at hstacked
  generalize hheld : pair? lower (.text name) = held at hstacked
  generalize hgiven : pair? pairs (.text name) = given at hstacked
  cases hstacked with
  | below => rfl
  | above => rfl
  | @both held given _ hvalue =>
      rw [layerWith_eq_upper (hname held given hheld hgiven)] at hvalue
      cases hvalue
      rfl

theorem pair?_mergePairs (hpairs : (textEntries pairs).keys.Nodup) :
    pair? (mergePairs lower pairs) (.text name) =
      stack (pair? lower (.text name)) (pair? pairs (.text name)) := by
  have hstacked := (written_mergePairs lower pairs).stacked hpairs name
  generalize pair? (mergePairs lower pairs) (.text name) = result at hstacked
  generalize pair? lower (.text name) = held at hstacked
  generalize pair? pairs (.text name) = given at hstacked
  cases hstacked with
  | below => cases result <;> rfl
  | above => rfl
  | both hvalue => exact congrArg some hvalue.symm

theorem pairsOf_textEntries (h : pairs.all (fun entry => entry.1.isText) = true) :
    pairsOf (textEntries pairs) = pairs := by
  induction pairs with
  | nil => rfl
  | cons entry rest ih =>
      obtain ⟨key, value⟩ := entry
      obtain ⟨hkey, hrest⟩ := Bool.and_eq_true_iff.mp h
      cases key with
      | text name => exact congrArg _ (ih hrest)
      | _ => cases hkey

@[simp] theorem entries?_ofEntries (pairs : List (Value × Value)) :
    (ofEntries pairs).entries? = some pairs := by
  unfold ofEntries
  split
  · next htexts => exact congrArg some (pairsOf_textEntries htexts)
  · rfl

theorem without_of_entries (h : value.content.entries? = some pairs) :
    value.without name = ofEntries (dropName name pairs) := by
  rw [without, h]

theorem layerWith_of_entries {deeper : Value → Value → Except Fault Value}
    (hbase : base.content.entries? = some lower) (hupper : upper.entries? = some pairs) :
    layerWith deeper base upper = (layerPairs deeper lower pairs).map ofEntries := by
  cases upper with
  | object fields =>
      cases hupper
      rw [layerWith, hbase, ← layerFields_eq_layerPairs]
  | mapping others =>
      cases hupper
      rw [layerWith, hbase]
  | _ => cases hupper

theorem exists_layerTo_eq (depth : Nat) : ∃ deeper : Value → Value → Except Fault Value,
    ∀ {base upper : Value} {lower pairs : List (Value × Value)},
      base.content.entries? = some lower → upper.entries? = some pairs →
        layerTo depth base upper = (layerPairs deeper lower pairs).map ofEntries := by
  cases depth with
  | zero => exact ⟨_, layerWith_of_entries⟩
  | succ depth => exact ⟨_, layerWith_of_entries⟩

/-- Where a name can be left out of both of two pairs of objects and what remains is the same, the
pairs are put together in the same way but for that name. -/
theorem layerTo_apart {below above : Value} {others givens : List (Value × Value)} (name : String)
    (depth : Nat)
    (hbase : base.content.entries? = some lower) (hupper : upper.entries? = some pairs)
    (hbelow : below.content.entries? = some others) (habove : above.entries? = some givens)
    (hpairs : (textEntries pairs).keys.Nodup) (hgivens : (textEntries givens).keys.Nodup)
    (hlower : dropName name lower = dropName name others)
    (hsame : dropName name pairs = dropName name givens)
    (hflat : ∀ held given, pair? lower (.text name) = some held →
      pair? pairs (.text name) = some given → held.isObject = false ∨ given.isObject = false)
    (hflat' : ∀ held given, pair? others (.text name) = some held →
      pair? givens (.text name) = some given → held.isObject = false ∨ given.isObject = false) :
    (∃ fault, layerTo depth base upper = .error fault ∧ layerTo depth below above = .error fault) ∨
    ∃ written rest, layerTo depth base upper = .ok (ofEntries written) ∧
      layerTo depth below above = .ok (ofEntries rest) ∧
      dropName name written = dropName name rest ∧
      pair? written (.text name) = (pair? pairs (.text name)).or (pair? lower (.text name)) ∧
      pair? rest (.text name) = (pair? givens (.text name)).or (pair? others (.text name)) := by
  obtain ⟨deeper, hlayer⟩ := exists_layerTo_eq depth
  rw [hlayer hbase hupper, hlayer hbelow habove]
  have hdropped : (layerPairs deeper lower pairs).map (dropName name) = _ :=
    layerPairs_dropName hpairs hflat
  rw [hlower, hsame, ← layerPairs_dropName hgivens hflat'] at hdropped
  cases hwritten : layerPairs deeper lower pairs with
  | error fault =>
      cases hrest : layerPairs deeper others givens with
      | error other =>
          rw [hwritten, hrest] at hdropped
          cases hdropped
          exact .inl ⟨fault, rfl, rfl⟩
      | ok rest =>
          rw [hwritten, hrest] at hdropped
          cases hdropped
  | ok written =>
      cases hrest : layerPairs deeper others givens with
      | error other =>
          rw [hwritten, hrest] at hdropped
          cases hdropped
      | ok rest =>
          rw [hwritten, hrest] at hdropped
          exact .inr ⟨written, rest, rfl, rfl, Except.ok.inj hdropped,
            pair?_layerPairs hwritten hpairs hflat, pair?_layerPairs hrest hgivens hflat'⟩

theorem layerPairs_mono {deeper deepest : Value → Value → Except Fault Value}
    (h : ∀ entry ∈ pairs, ∀ base value, layerWith deeper base entry.2 = .ok value →
      layerWith deepest base entry.2 = .ok value)
    (hwritten : layerPairs deeper lower pairs = .ok written) :
    layerPairs deepest lower pairs = .ok written := by
  induction pairs generalizing lower with
  | nil => exact hwritten
  | cons entry rest ih =>
      obtain ⟨key, given⟩ := entry
      obtain ⟨hgiven, hrest⟩ := List.forall_mem_cons.mp h
      rw [layerPairs] at hwritten ⊢
      cases hheld : pair? lower key with
      | none =>
          rw [hheld] at hwritten
          exact ih hrest hwritten
      | some held =>
          rw [hheld] at hwritten
          cases hvalue : layerWith deeper held given with
          | error fault =>
              simp only [hvalue] at hwritten
              cases hwritten
          | ok value =>
              simp only [hvalue] at hwritten
              simp only [hgiven held value hvalue]
              exact ih hrest hwritten

/-- Going deeper into what stands inside itself changes no result. -/
theorem layerWith_mono {deeper deepest : Value → Value → Except Fault Value}
    (h : ∀ base upper value, deeper base upper = .ok value → deepest base upper = .ok value)
    (hvalue : layerWith deeper base upper = .ok value) :
    layerWith deepest base upper = .ok value := by
  induction hsize : sizeOf upper using Nat.strongRecOn generalizing base upper value with
  | ind size ih =>
      subst hsize
      by_cases hflat : base.isObject = false ∨ upper.isObject = false
      · rwa [layerWith_eq_upper hflat] at hvalue ⊢
      · obtain ⟨hbase, hupper⟩ := not_or.mp hflat
        obtain ⟨lower, hlower⟩ := exists_entries (Bool.not_eq_false _ ▸ hbase)
        have hentries : ∀ pairs, upper.entries? = some pairs →
            (∀ entry ∈ pairs, sizeOf entry.2 < sizeOf upper) →
              layerWith deepest base upper = .ok value := by
          intro pairs hpairs hsmaller
          rw [layerWith_of_entries hlower hpairs] at hvalue ⊢
          cases hwritten : layerPairs deeper lower pairs with
          | error fault =>
              rw [hwritten] at hvalue
              cases hvalue
          | ok written =>
              rw [← hvalue, hwritten]
              refine congrArg _ (layerPairs_mono (fun entry hentry base value => ?_) hwritten)
              exact fun hheld => ih _ (hsmaller entry hentry) hheld rfl
        cases upper with
        | object fields =>
            refine hentries _ rfl fun entry hentry => ?_
            obtain ⟨field, hfield, rfl⟩ := List.mem_map.mp hentry
            have hmem := List.sizeOf_lt_of_mem hfield
            obtain ⟨key, given⟩ := field
            simp only [Prod.mk.sizeOf_spec, object.sizeOf_spec] at hmem ⊢
            omega
        | mapping pairs =>
            refine hentries _ rfl fun entry hentry => ?_
            have hmem := List.sizeOf_lt_of_mem hentry
            obtain ⟨key, given⟩ := entry
            simp only [Prod.mk.sizeOf_spec, mapping.sizeOf_spec] at hmem ⊢
            omega
        | loop mark whole =>
            rw [layerWith] at hvalue ⊢
            split at hvalue
            · next hboth =>
              rw [if_pos hboth]
              exact h base _ value hvalue
            · next hboth => rwa [if_neg hboth]
        | _ => exact absurd rfl hupper

theorem layerTo_succ {depth : Nat} (h : layerTo depth base upper = .ok value) :
    layerTo (depth + 1) base upper = .ok value := by
  induction depth generalizing base upper value with
  | zero =>
      refine layerWith_mono (fun base upper value hfault => ?_) h
      cases hfault
  | succ depth ih => exact layerWith_mono (fun _ _ _ => ih) h

/-- An object that stands inside itself is put on top of others as its content is, from a lesser
depth. -/
theorem exists_layer_eq_content (hupper : upper.isObject = true) :
    ∃ depth ≤ greatestDepth, (upper.entries?.isSome = true → depth = greatestDepth) ∧
      ∀ {base : Value}, base.isObject = true →
        base.layer upper = layerTo depth base upper.content := by
  cases upper with
  | loop mark whole =>
      refine ⟨greatestDepth - 1, Nat.sub_le .., nofun, fun {base} hbase => ?_⟩
      have hboth : (base.content.entries?.isSome && whole.entries?.isSome) = true := by
        rw [isObject_loop] at hupper
        exact Bool.and_eq_true_iff.mpr ⟨hbase, hupper⟩
      rw [layer, greatestDepth, layerTo, layerWith, if_pos hboth]
  | _ => exact ⟨greatestDepth, Nat.le_refl _, fun _ => rfl, fun _ => rfl⟩

theorem layerTo_le {depth more : Nat} (hle : depth ≤ more)
    (h : layerTo depth base upper = .ok value) : layerTo more base upper = .ok value := by
  induction hle with
  | refl => exact h
  | step _ ih => exact layerTo_succ ih

theorem layer_content (hbase : base.isObject = true) (hupper : upper.isObject = true)
    (hends : upper.entries?.isSome = true ∨ ∃ value, base.layer upper = .ok value) :
    base.layer upper = base.layer upper.content := by
  obtain ⟨depth, hle, hwhole, hlayer⟩ := exists_layer_eq_content hupper
  rw [hlayer hbase] at hends ⊢
  rcases hends with hentries | ⟨value, hvalue⟩
  · rw [hwhole hentries]
    rfl
  · rw [hvalue]
    exact (layerTo_le hle hvalue).symm

end Value

end FactScope
