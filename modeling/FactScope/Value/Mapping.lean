import FactScope.Value

namespace FactScope.Value

mutual

/-- Puts a value where the collection with a mark stands inside itself. -/
def fill (mark : Mark) (whole : Value) : Value → Value
  | .again other => if other = mark then whole else .again other
  | .loop other value => .loop other (if other = mark then value else fill mark whole value)
  | .list items => .list (fillItems mark whole items)
  | .pair first second => .pair (fill mark whole first) (fill mark whole second)
  | .object fields => .object (fillFields mark whole fields)
  | .mapping pairs => .mapping (fillPairs mark whole pairs)
  | .null => .null
  | .bool b => .bool b
  | .int n => .int n
  | .decimal d => .decimal d
  | .text s => .text s
  | .datum d => .datum d
  | .set members => .set members
  | .logger name => .logger name
  | .record model fields => .record model fields
termination_by structural value => value

def fillItems (mark : Mark) (whole : Value) : List Value → List Value
  | [] => []
  | item :: rest => fill mark whole item :: fillItems mark whole rest
termination_by structural items => items

def fillFields (mark : Mark) (whole : Value) :
    List (String × Value) → List (String × Value)
  | [] => []
  | (key, value) :: rest => (key, fill mark whole value) :: fillFields mark whole rest
termination_by structural fields => fields

def fillPairs (mark : Mark) (whole : Value) : List (Value × Value) → List (Value × Value)
  | [] => []
  | (key, value) :: rest => (key, fill mark whole value) :: fillPairs mark whole rest
termination_by structural pairs => pairs

end

/-- A collection that stands inside itself with itself in those places; any other value as it is. -/
def content : Value → Value
  | .loop mark whole => fill mark (.loop mark whole) whole
  | value => value

/-- Whether two keys are one: they are written alike or equal as values. -/
def sameKey (a b : Value) : Bool :=
  a == b || a.alike b

theorem sameKey_self (a : Value) : sameKey a a = true := by
  simp [sameKey]

theorem sameKey_text_iff {value : Value} {s : String} :
    sameKey value (.text s) = true ↔ value = .text s := by
  simp [sameKey, alike_text_iff]

theorem text_sameKey_iff {value : Value} {s : String} :
    sameKey (.text s) value = true ↔ value = .text s := by
  rw [sameKey, Bool.or_eq_true, beq_iff_eq, text_alike_iff]
  exact ⟨fun h => h.elim Eq.symm id, .inr⟩

def pair? : List (Value × Value) → Value → Option Value
  | [], _ => none
  | (name, value) :: rest, key => if sameKey name key then some value else pair? rest key

def putPair : List (Value × Value) → Value → Value → List (Value × Value)
  | [], key, value => [(key, value)]
  | (name, old) :: rest, key, value =>
      if sameKey name key then (name, value) :: rest else (name, old) :: putPair rest key value

def pairsOf (fields : Entries Value) : List (Value × Value) :=
  fields.map fun entry => (.text entry.1, entry.2)

def textEntries : List (Value × Value) → Entries Value
  | [] => []
  | (.text name, value) :: rest => (name, value) :: textEntries rest
  | _ :: rest => textEntries rest

theorem putPair_pairsOf (fields : Entries Value) (key : String) (value : Value) :
    putPair (pairsOf fields) (.text key) value = pairsOf (fields.put key value) := by
  induction fields with
  | nil => rfl
  | cons entry rest ih =>
      obtain ⟨name, old⟩ := entry
      by_cases h : name = key <;>
        simp_all [pairsOf, putPair, Entries.put, sameKey, alike]

theorem pair?_pairsOf (fields : Entries Value) (key : String) :
    pair? (pairsOf fields) (.text key) = fields.get? key := by
  induction fields with
  | nil => rfl
  | cons entry rest ih =>
      obtain ⟨name, old⟩ := entry
      by_cases h : name = key <;> simp_all [pairsOf, pair?, Entries.get?, sameKey, alike]

theorem textEntries_pairsOf (fields : Entries Value) : textEntries (pairsOf fields) = fields := by
  induction fields with
  | nil => rfl
  | cons entry rest ih => simpa [pairsOf, textEntries] using ih

theorem get?_textEntries (pairs : List (Value × Value)) (name : String) :
    Entries.get? (textEntries pairs) name = pair? pairs (.text name) := by
  induction pairs with
  | nil => rfl
  | cons entry rest ih =>
      obtain ⟨key, value⟩ := entry
      cases key with
      | text first =>
          by_cases hname : first = name <;>
            simp [textEntries, Entries.get?, pair?, sameKey_text_iff, hname, ih]
      | _ => simpa [textEntries, pair?, sameKey_text_iff] using ih

theorem textEntries_putPair (pairs : List (Value × Value)) (key value : Value) :
    textEntries (putPair pairs key value) =
      match key with
      | .text name => (textEntries pairs).put name value
      | _ => textEntries pairs := by
  induction pairs with
  | nil => cases key <;> rfl
  | cons entry rest ih =>
      obtain ⟨first, old⟩ := entry
      rw [putPair]
      split
      · next hkey =>
        by_cases htext : ∃ name, key = .text name
        · obtain ⟨name, rfl⟩ := htext
          rw [sameKey_text_iff] at hkey
          subst hkey
          simp [textEntries, Entries.put]
        · have hfirst : ∀ name, first ≠ .text name := by
            rintro name rfl
            exact htext ⟨name, text_sameKey_iff.mp hkey⟩
          cases key <;> cases first <;> simp_all [textEntries]
      · next hkey =>
        cases first with
        | text other =>
            cases key with
            | text name =>
                have hne : other ≠ name := by
                  rintro rfl
                  exact hkey (sameKey_self _)
                simp [textEntries, Entries.put, hne, ih]
            | _ => simp [textEntries, ih]
        | _ => cases key <;> simp [textEntries, ih]

theorem pair?_putPair (pairs : List (Value × Value)) (key value : Value) (name : String) :
    pair? (putPair pairs key value) (.text name) =
      if key = .text name then some value else pair? pairs (.text name) := by
  rw [← get?_textEntries, ← get?_textEntries, textEntries_putPair]
  split
  · next written =>
    rw [Entries.get?_put]
    simp only [Value.text.injEq, eq_comm]
  · next hkey =>
    rw [if_neg]
    exact hkey name

def isText : Value → Bool
  | .text _ => true
  | _ => false

/-- The object with some entries, or the mapping if not all their keys are texts. -/
def ofEntries (pairs : List (Value × Value)) : Value :=
  if pairs.all fun entry => entry.1.isText then .object (textEntries pairs) else .mapping pairs

@[simp] theorem ofEntries_pairsOf (fields : Entries Value) :
    ofEntries (pairsOf fields) = .object fields := by
  have htexts : (pairsOf fields).all (fun entry => entry.1.isText) = true := by
    simp [pairsOf, isText]
  simp [ofEntries, htexts, textEntries_pairsOf]

def ofPairs (pairs : List (Value × Value)) : Value :=
  ofEntries (pairs.foldl (fun entries entry => putPair entries entry.1 entry.2) [])

def entries? : Value → Option (List (Value × Value))
  | .object fields => some (pairsOf fields)
  | .mapping pairs => some pairs
  | _ => none

def keysOf : Value → List Value
  | .object fields => fields.map fun entry => .text entry.1
  | .mapping pairs => pairs.map (·.1)
  | _ => []

/-- The entries of an object, and those of a mapping that have texts for keys; other values have
none. -/
def namedEntries? (value : Value) : Option (Entries Value) :=
  match value.content with
  | .object fields => some fields
  | .mapping pairs => some (textEntries pairs)
  | _ => none

example : ofPairs [(.int 1, .null), (.text "a", .null), (.bool true, .text "x")] =
    .mapping [(.int 1, .text "x"), (.text "a", .null)] := by decide +kernel

end FactScope.Value
