import FactScope.Value.Text

namespace FactScope

theorem Decimal.text_ne_empty (d : Decimal) : d.text ≠ "" := by
  rw [text, ne_eq, String.ofList_eq_empty_iff]
  cases d with
  | notANumber => simp [textChars]
  | infinite negative => simp [textChars]
  | finite negative digits exponent =>
      have hdigits : digitChars digits ≠ [] := Nat.toDigits_ne_nil
      simp only [textChars, List.append_eq_nil_iff, not_and]
      intro _
      split
      · unfold positional
        split
        · simp
        · split
          · simp
          · simp
      · simp [scientific]

theorem Text.Points.shown_ne_empty {points : Text.Points} (h : points ≠ []) :
    points.shown ≠ "" := by
  rw [shown, ne_eq, String.ofList_eq_empty_iff, chars, List.map_eq_nil_iff]
  unfold combine
  split
  · split <;> simp
  · exact h

theorem Datum.text_ne_empty {d : Datum} (h : d ≠ .points []) : d.text ≠ "" := by
  cases d with
  | date d => simp [text, Date.text]
  | moment m => simp [text, Moment.text]
  | bytes b => simp [text, Text.Quoted.quoteBytes]
  | points p => exact Text.Points.shown_ne_empty fun hp => h (by rw [hp])
  | noNumber mark => exact Decimal.text_ne_empty _

theorem Datum.literal_ne_empty (d : Datum) : d.literal ≠ "" := by
  cases d with
  | date d =>
      unfold literal Date.literal
      simp only [ne_eq, String.append_eq_empty_iff, String.reduceEq, false_and, not_false_eq_true]
  | moment m =>
      unfold literal Moment.literal
      simp only [ne_eq, String.append_eq_empty_iff, String.reduceEq, false_and, not_false_eq_true]
  | bytes b => simp [literal, Text.Quoted.quoteBytes]
  | points p => simp [literal, Text.Points.quote]
  | noNumber mark => exact Decimal.text_ne_empty _

namespace Value

theorem ellipsis_ne_empty (value : Value) : value.ellipsis ≠ "" := by
  unfold ellipsis
  split <;> decide

theorem toString_int_ne_empty (n : Int) : toString n ≠ "" := by
  cases n with
  | ofNat n => exact Nat.repr_ne_empty
  | negSucc n =>
      change "-" ++ _ ≠ ""
      simp

theorem literalIn_ne_empty : ∀ (value : Value) {around : List (Mark × String)},
    (∀ entry ∈ around, entry.2 ≠ "") → value.literalIn around ≠ ""
  | .null, _, _ => by simp [literalIn]
  | .bool true, _, _ => by simp [literalIn]
  | .bool false, _, _ => by simp [literalIn]
  | .int n, _, _ => by
      rw [literalIn]
      exact toString_int_ne_empty n
  | .decimal d, _, _ => by
      rw [literalIn]
      exact d.text_ne_empty
  | .text s, _, _ => by
      simp [literalIn, Text.Quoted.quote, Text.Quoted.quoteChars]
  | .datum d, _, _ => by
      rw [literalIn]
      exact d.literal_ne_empty
  | .list _, _, _ => by simp [literalIn]
  | .pair _ _, _, _ => by simp [literalIn]
  | .set [], _, _ => by simp [literalIn]
  | .set (_ :: _), _, _ => by simp [literalIn]
  | .object _, _, _ => by simp [literalIn]
  | .mapping _, _, _ => by simp [literalIn]
  | .loop mark whole, around, h => by
      rw [literalIn]
      split
      · next shown hshown =>
        obtain ⟨before, after, rfl, -⟩ := List.lookup_eq_some_iff.mp hshown
        exact h (mark, shown) (by simp)
      · apply literalIn_ne_empty whole
        intro entry hentry
        rcases List.mem_cons.mp hentry with rfl | hmem
        · exact whole.ellipsis_ne_empty
        · exact h entry hmem
  | .again mark, around, h => by
      rw [literalIn]
      cases hshown : around.lookup mark with
      | none => simp
      | some shown =>
          obtain ⟨before, after, rfl, -⟩ := List.lookup_eq_some_iff.mp hshown
          exact h (mark, shown) (by simp)
  | .logger _, _, _ => by simp [literalIn]
  | .record _ _, _, _ => by simp [literalIn]

theorem toText_ne_empty {value : Value} (hgiven : value.truthy = true)
    (hrecord : ∀ model, value ≠ .record model []) (hpoints : value ≠ .datum (.points [])) :
    value.toText ≠ "" := by
  have hliteral : value.literal ≠ "" := value.literalIn_ne_empty (by simp)
  cases value with
  | text s =>
      rintro rfl
      cases hgiven
  | datum d => exact d.text_ne_empty fun hd => hpoints (by rw [hd])
  | record model fields =>
      cases fields with
      | nil => exact absurd rfl (hrecord model)
      | cons field rest =>
          rw [toText, literalMembers]
          cases literalMembers [] rest <;> simp
  | _ => exact hliteral

end Value

end FactScope
