import FactScope.Text.Quoted

namespace FactScope.Text

/-- A text as its code points, which may be surrogates. -/
abbrev Points : Type := List Nat

namespace Points

def ofChars (chars : List Char) : Points :=
  chars.map Char.toNat

abbrev ofString (s : String) : Points :=
  ofChars s.toList

def isHigh (code : Nat) : Bool :=
  0xD800 ≤ code && code < 0xDC00

def isLow (code : Nat) : Bool :=
  0xDC00 ≤ code && code < 0xE000

def isSurrogate (code : Nat) : Bool :=
  isHigh code || isLow code

def paired (high low : Nat) : Nat :=
  0x10000 + (high - 0xD800) * 0x400 + (low - 0xDC00)

/-- Puts the code point of every surrogate pair in the place of its halves. -/
def combine : Points → Points
  | high :: low :: rest =>
      if isHigh high && isLow low then paired high low :: combine rest
      else high :: combine (low :: rest)
  | points => points

/-- The character of a code point; a surrogate has none and shows as the replacement character. -/
def charOf (code : Nat) : Char :=
  if isSurrogate code then '\uFFFD' else Char.ofNat code

def chars (points : Points) : List Char :=
  points.map charOf

/-- The string that a text is if each of its code points has a character. -/
def string? (points : Points) : Option String :=
  if ∀ code ∈ points, code.isValidChar then some (String.ofList points.chars) else none

def shown (points : Points) : String :=
  String.ofList points.combine.chars

def isByte (code : Nat) : Bool :=
  0xDC80 ≤ code && code < 0xDD00

def byteCount (code : Nat) : Nat :=
  if code < 0x80 || isByte code then 1
  else if code < 0x800 then 2
  else if code < 0x10000 then 3
  else 4

/-- The first run of surrogates that cannot be encoded, with the number of code points before it.
The run begins with a surrogate that is not `spared`. -/
def unencodable? (spared : Nat → Bool) : Points → Option (Nat × Points)
  | [] => none
  | code :: rest =>
      if isSurrogate code && !spared code then some (0, code :: rest.takeWhile isSurrogate)
      else (unencodable? spared rest).map fun (before, run) => (before + 1, run)

def escape (code : Nat) : String :=
  String.ofList ('\\' :: 'u' :: Quoted.hex 4 code)

def escaped (points : Points) : Points :=
  points.flatMap fun code => if isSurrogate code then ofString (escape code) else [code]

/-- The quoted form of a text; surrogates are escaped one by one. -/
def quote (points : Points) : String :=
  let mark := Quoted.mark points.chars
  let escape (code : Nat) : List Char :=
    if isSurrogate code then (Points.escape code).toList
    else Quoted.escape mark (Char.ofNat code)
  String.ofList (mark :: points.flatMap escape ++ [mark])

theorem isSurrogate_toNat (c : Char) : isSurrogate c.toNat = false := by
  have h := c.valid
  simp only [UInt32.isValidChar, Nat.isValidChar] at h
  simp only [isSurrogate, isHigh, isLow, Char.toNat]
  grind

theorem chars_ofChars (text : List Char) : (ofChars text).chars = text := by
  induction text with
  | nil => rfl
  | cons c rest ih =>
      have hc : charOf c.toNat = c := by simp [charOf, isSurrogate_toNat]
      simpa [ofChars, chars, hc] using ih

theorem unencodable?_eq_none_of_ofChars (spared : Nat → Bool) (text : List Char) :
    unencodable? spared (ofChars text) = none := by
  induction text with
  | nil => rfl
  | cons c rest ih => simpa [ofChars, unencodable?, isSurrogate_toNat] using ih

theorem escaped_of_encodable {points : Points} (h : unencodable? (fun _ => false) points = none) :
    points.escaped = points := by
  induction points with
  | nil => rfl
  | cons code rest ih =>
      simp only [unencodable?, Bool.not_false, Bool.and_true] at h
      split at h
      · cases h
      · next hcode =>
        rw [Option.map_eq_none_iff] at h
        rw [escaped, List.flatMap_cons, if_neg hcode]
        exact congrArg (code :: ·) (ih h)

theorem isValidChar_toNat (c : Char) : c.toNat.isValidChar := c.valid

theorem toNat_charOf {code : Nat} (h : code.isValidChar) : (charOf code).toNat = code := by
  have hcode : isSurrogate code = false := by
    simp only [Nat.isValidChar] at h
    simp only [isSurrogate, isHigh, isLow]
    grind
  have hchar : Char.ofNat code = Char.ofNatAux code h := dif_pos h
  rw [charOf, hcode, if_neg Bool.false_ne_true, hchar]
  rfl

theorem string?_ofChars (text : List Char) :
    string? (ofChars text) = some (String.ofList text) := by
  have h : ∀ code ∈ ofChars text, code.isValidChar := by
    simp [ofChars, isValidChar_toNat]
  rw [string?, if_pos h, chars_ofChars]

theorem string?_eq_some_iff {points : Points} {s : String} :
    points.string? = some s ↔ points = ofString s := by
  constructor
  · intro h
    unfold string? at h
    split at h
    · next hvalid =>
      cases h
      rw [ofString, String.toList_ofList, ofChars, chars, List.map_map]
      refine (List.map_id' points).symm.trans (List.map_congr_left fun code hcode => ?_)
      exact (toNat_charOf (hvalid code hcode)).symm
    · cases h
  · rintro rfl
    rw [ofString, string?_ofChars, String.ofList_toList]

theorem ofString_inj {a b : String} : ofString a = ofString b ↔ a = b := by
  rw [← string?_eq_some_iff, string?_ofChars, String.ofList_toList, Option.some.injEq]

example : shown [0x78, 0xD83D, 0xDE00] = "x😀" ∧ quote [0xD83D, 0x27] = "\"\\ud83d'\"" := by
  decide +kernel

example : unencodable? isByte [0x78, 0xDC80, 0xD83D, 0xDE00, 0x78] =
    some (2, [0xD83D, 0xDE00]) := by
  decide +kernel

end Points

end FactScope.Text
