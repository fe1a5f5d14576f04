import FactScope.Text.Points

namespace FactScope.Text.Points

/-- A text can be encoded if its surrogates are all spared. -/
theorem unencodable?_eq_none_iff {spared : Nat → Bool} {points : Points} :
    points.unencodable? spared = none ↔
      ∀ code ∈ points, isSurrogate code = true → spared code = true := by
  induction points with
  | nil => simp [unencodable?]
  | cons code rest ih =>
      rw [unencodable?, List.forall_mem_cons, ← ih]
      by_cases hspared : isSurrogate code = true ∧ spared code = false
      · simp [hspared]
      · have hcode : (isSurrogate code && !spared code) = false := by simpa using hspared
        have hspare : isSurrogate code = true → spared code = true := by simpa using hspared
        rw [hcode, if_neg Bool.false_ne_true, Option.map_eq_none_iff]
        exact (and_iff_right hspare).symm

theorem combine_ofChars (text : List Char) : combine (ofChars text) = ofChars text := by
  induction text with
  | nil => rfl
  | cons c rest ih =>
      cases rest with
      | nil => rfl
      | cons next others =>
          have hhigh : isHigh c.toNat = false := by
            have hc := isSurrogate_toNat c
            rw [isSurrogate, Bool.or_eq_false_iff] at hc
            exact hc.1
          have hcons : ofChars (c :: next :: others) =
              c.toNat :: next.toNat :: ofChars others := rfl
          rw [hcons, combine, hhigh, Bool.false_and, if_neg Bool.false_ne_true]
          exact congrArg (c.toNat :: ·) ih

theorem shown_ofString (s : String) : shown (ofString s) = s := by
  rw [shown, ofString, combine_ofChars, chars_ofChars, String.ofList_toList]

end FactScope.Text.Points
