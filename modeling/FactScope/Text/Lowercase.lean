import FactScope.Text.CaseTable
import FactScope.Text.Points
import FactScope.Text.Range

namespace FactScope.Text

namespace Lowercase

open CaseTable

def shiftBy : List Span → Nat → Nat
  | [], code => code
  | span :: rest, code =>
      if code < span.first then code
      else if code ≤ span.last then
        if (code - span.first) % span.step = 0 then (code + span.shift).toNat else code
      else shiftBy rest code

/-- The lower case of a character where its neighbours do not matter. The capital I with a dot
above is the one character that becomes two. -/
def lowerChar (c : Char) : List Char :=
  if c = 'İ' then ['i', '\u0307'] else [Char.ofNat (shiftBy spans c.toNat)]

def isCased (c : Char) : Bool :=
  Range.contains cased c.toNat

def isIgnorable (c : Char) : Bool :=
  Range.contains ignorable c.toNat

def startsCased (text : List Char) : Bool :=
  match text.dropWhile isIgnorable with
  | [] => false
  | c :: _ => isCased c

/-- A sigma ends a word when a cased letter comes before it and none follows; case-ignorable
characters between do not count. `before` is the preceding text, nearest character first. -/
def endsWord (before after : List Char) : Bool :=
  startsCased before && !startsCased after

def lowerAt (before : List Char) (c : Char) (after : List Char) : List Char :=
  if c = 'Σ' then [if endsWord before after then 'ς' else 'σ'] else lowerChar c

def lowerFrom (before : List Char) : List Char → List Char
  | [] => []
  | c :: after => lowerAt before c after ++ lowerFrom (c :: before) after

def lower (text : List Char) : List Char :=
  lowerFrom [] text

@[simp] theorem lower_nil : lower [] = [] := rfl

theorem lowerAt_ne_nil (before after : List Char) (c : Char) : lowerAt before c after ≠ [] := by
  unfold lowerAt lowerChar
  split
  · simp
  · split <;> simp

theorem length_le_length_lowerFrom (before text : List Char) :
    text.length ≤ (lowerFrom before text).length := by
  induction text generalizing before with
  | nil => simp
  | cons c after ih =>
      have hc : 0 < (lowerAt before c after).length :=
        List.length_pos_iff.mpr (lowerAt_ne_nil before after c)
      have := ih (c :: before)
      simp only [lowerFrom, List.length_append, List.length_cons]
      omega

theorem lower_eq_nil_iff {text : List Char} : lower text = [] ↔ text = [] := by
  constructor
  · intro h
    have := length_le_length_lowerFrom [] text
    rw [lower] at h
    rw [h] at this
    exact List.eq_nil_of_length_eq_zero (by simpa using this)
  · rintro rfl
    rfl

example : lower "ΟΔΟΣ Σ ßÉ".toList = "οδος σ ßé".toList := by decide +kernel

example : lower "İ".toList = ['i', '\u0307'] := by decide +kernel

end Lowercase

namespace Points

def leading (points : Points) : List Char :=
  chars (points.takeWhile fun code => !isSurrogate code)

/-- Lower-cases code points behind some characters, nearest character first. A surrogate stays as it
is, and no letter sees beyond it. -/
def lowerFrom (before : List Char) : Points → Points
  | [] => []
  | code :: after =>
      if isSurrogate code then code :: lowerFrom [] after
      else
        ofChars (Lowercase.lowerAt before (charOf code) (leading after)) ++
          lowerFrom (charOf code :: before) after

def lower (points : Points) : Points :=
  lowerFrom [] points

theorem charOf_toNat (c : Char) : charOf c.toNat = c :=
  List.singleton_inj.mp (chars_ofChars [c])

theorem leading_ofChars (text : List Char) : leading (ofChars text) = text := by
  induction text with
  | nil => rfl
  | cons c rest ih =>
      have hcons : ofChars (c :: rest) = c.toNat :: ofChars rest := rfl
      rw [leading, chars] at ih
      rw [hcons, leading, chars, List.takeWhile_cons_of_pos (by simp [isSurrogate_toNat]),
        List.map_cons, charOf_toNat, ih]

theorem lowerFrom_ofChars (before text : List Char) :
    lowerFrom before (ofChars text) = ofChars (Lowercase.lowerFrom before text) := by
  induction text generalizing before with
  | nil => rfl
  | cons c after ih =>
      have hcons : ofChars (c :: after) = c.toNat :: ofChars after := rfl
      rw [hcons, lowerFrom, isSurrogate_toNat, if_neg Bool.false_ne_true, charOf_toNat,
        leading_ofChars, ih, Lowercase.lowerFrom, ofChars, ofChars, ofChars, List.map_append]

theorem lower_ofChars (text : List Char) : lower (ofChars text) = ofChars (Lowercase.lower text) :=
  lowerFrom_ofChars [] text

example : lower (ofString "ΑΣ" ++ [0xD83D] ++ ofString "Σ") =
    ofString "ας" ++ [0xD83D] ++ ofString "σ" := by
  decide +kernel

end Points

end FactScope.Text
