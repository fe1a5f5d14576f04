import FactScope.Datum
import FactScope.Decimal
import FactScope.Entries

namespace FactScope

/-- A fact or setting value. An `object` has texts for keys; a `mapping` has some key that is no
text. A collection that stands inside itself is a `loop` with a mark of its own, and so is every
collection on the way there; inside it `again` stands for the collection with a mark. A `logger` is
a handle on a named logger, and a `record` a typed section of settings: its model's name and its
fields. -/
inductive Value where
  | null
  | bool (b : Bool)
  | int (n : Int)
  | decimal (d : Decimal)
  | text (s : String)
  | datum (d : Datum)
  | list (items : List Value)
  | pair (first second : Value)
  | set (members : List Value)
  | object (fields : List (String × Value))
  | mapping (pairs : List (Value × Value))
  | loop (mark : Mark) (whole : Value)
  | again (mark : Mark)
  | logger (name : String)
  | record (model : String) (fields : List (String × Value))
deriving Repr, Inhabited

namespace Value

mutual

def identical : Value → Value → Bool
  | .null, .null => true
  | .bool a, .bool b => a == b
  | .int a, .int b => a == b
  | .decimal a, .decimal b => a == b
  | .text a, .text b => a == b
  | .datum a, .datum b => a == b
  | .list a, .list b => identicalItems a b
  | .pair a c, .pair b d => identical a b && identical c d
  | .set a, .set b => identicalItems a b
  | .object a, .object b => identicalFields a b
  | .mapping a, .mapping b => identicalPairs a b
  | .loop m a, .loop n b => m == n && identical a b
  | .again m, .again n => m == n
  | .logger a, .logger b => a == b
  | .record m a, .record n b => m == n && identicalFields a b
  | _, _ => false
termination_by structural value => value

def identicalItems : List Value → List Value → Bool
  | [], [] => true
  | a :: as, b :: bs => identical a b && identicalItems as bs
  | _, _ => false
termination_by structural value => value

def identicalFields : List (String × Value) → List (String × Value) → Bool
  | [], [] => true
  | (k, a) :: as, (l, b) :: bs => k == l && identical a b && identicalFields as bs
  | _, _ => false
termination_by structural value => value

def identicalPairs : List (Value × Value) → List (Value × Value) → Bool
  | [], [] => true
  | (k, a) :: as, (l, b) :: bs => identical k l && identical a b && identicalPairs as bs
  | _, _ => false
termination_by structural value => value

end

mutual

theorem eq_of_identical : ∀ {a b : Value}, identical a b = true → a = b
  | .null, b, h => by cases b <;> simp_all [identical]
  | .bool _, b, h => by cases b <;> simp_all [identical]
  | .int _, b, h => by cases b <;> simp_all [identical]
  | .decimal _, b, h => by cases b <;> simp_all [identical]
  | .text _, b, h => by cases b <;> simp_all [identical]
  | .datum _, b, h => by cases b <;> simp_all [identical]
  | .logger _, b, h => by cases b <;> simp_all [identical]
  | .again _, b, h => by cases b <;> simp_all [identical]
  | .list as, b, h => by
      cases b with
      | list bs => exact congrArg Value.list (eq_of_identicalItems (by simpa [identical] using h))
      | _ => simp [identical] at h
  | .pair a c, b, h => by
      cases b with
      | pair b d =>
          simp only [identical, Bool.and_eq_true] at h
          rw [eq_of_identical h.1, eq_of_identical h.2]
      | _ => simp [identical] at h
  | .set as, b, h => by
      cases b with
      | set bs => exact congrArg Value.set (eq_of_identicalItems (by simpa [identical] using h))
      | _ => simp [identical] at h
  | .object as, b, h => by
      cases b with
      | object bs =>
          exact congrArg Value.object (eq_of_identicalFields (by simpa [identical] using h))
      | _ => simp [identical] at h
  | .mapping as, b, h => by
      cases b with
      | mapping bs =>
          exact congrArg Value.mapping (eq_of_identicalPairs (by simpa [identical] using h))
      | _ => simp [identical] at h
  | .loop m a, b, h => by
      cases b with
      | loop n b =>
          simp only [identical, Bool.and_eq_true, beq_iff_eq] at h
          rw [h.1, eq_of_identical h.2]
      | _ => simp [identical] at h
  | .record m as, b, h => by
      cases b with
      | record n bs =>
          simp only [identical, Bool.and_eq_true, beq_iff_eq] at h
          rw [h.1, eq_of_identicalFields h.2]
      | _ => simp [identical] at h

theorem eq_of_identicalItems : ∀ {as bs : List Value}, identicalItems as bs = true → as = bs
  | [], bs, h => by cases bs <;> simp_all [identicalItems]
  | a :: as, bs, h => by
      cases bs with
      | nil => simp [identicalItems] at h
      | cons b bs =>
          simp only [identicalItems, Bool.and_eq_true] at h
          rw [eq_of_identical h.1, eq_of_identicalItems h.2]

theorem eq_of_identicalFields :
    ∀ {as bs : List (String × Value)}, identicalFields as bs = true → as = bs
  | [], bs, h => by cases bs <;> simp_all [identicalFields]
  | (k, a) :: as, bs, h => by
      cases bs with
      | nil => simp [identicalFields] at h
      | cons entry bs =>
          obtain ⟨l, b⟩ := entry
          simp only [identicalFields, Bool.and_eq_true, beq_iff_eq] at h
          rw [h.1.1, eq_of_identical h.1.2, eq_of_identicalFields h.2]

theorem eq_of_identicalPairs :
    ∀ {as bs : List (Value × Value)}, identicalPairs as bs = true → as = bs
  | [], bs, h => by cases bs <;> simp_all [identicalPairs]
  | (k, a) :: as, bs, h => by
      cases bs with
      | nil => simp [identicalPairs] at h
      | cons entry bs =>
          obtain ⟨l, b⟩ := entry
          simp only [identicalPairs, Bool.and_eq_true] at h
          rw [eq_of_identical h.1.1, eq_of_identical h.1.2, eq_of_identicalPairs h.2]

end

mutual

theorem identical_self : ∀ a : Value, identical a a = true
  | .null => by simp [identical]
  | .bool _ => by simp [identical]
  | .int _ => by simp [identical]
  | .decimal _ => by simp [identical]
  | .text _ => by simp [identical]
  | .datum _ => by simp [identical]
  | .logger _ => by simp [identical]
  | .list as => by simpa [identical] using identicalItems_self as
  | .pair a b => by simp [identical, identical_self a, identical_self b]
  | .set as => by simpa [identical] using identicalItems_self as
  | .object as => by simpa [identical] using identicalFields_self as
  | .mapping as => by simpa [identical] using identicalPairs_self as
  | .loop _ a => by simpa [identical] using identical_self a
  | .again _ => by simp [identical]
  | .record _ as => by simpa [identical] using identicalFields_self as

theorem identicalItems_self : ∀ as : List Value, identicalItems as as = true
  | [] => rfl
  | a :: as => by simp [identicalItems, identical_self a, identicalItems_self as]

theorem identicalFields_self : ∀ as : List (String × Value), identicalFields as as = true
  | [] => rfl
  | (_, a) :: as => by simp [identicalFields, identical_self a, identicalFields_self as]

theorem identicalPairs_self : ∀ as : List (Value × Value), identicalPairs as as = true
  | [] => rfl
  | (k, a) :: as => by
      simp [identicalPairs, identical_self k, identical_self a, identicalPairs_self as]

end

instance : DecidableEq Value := fun a b =>
  if h : identical a b = true then .isTrue (eq_of_identical h)
  else .isFalse fun hab => h (hab ▸ identical_self a)

def ofPoints (points : Text.Points) : Value :=
  match points.string? with
  | some s => .text s
  | none => .datum (.points points)

def points? : Value → Option Text.Points
  | .text s => some (.ofString s)
  | .datum (.points points) => some points
  | _ => none

@[simp] theorem ofPoints_ofString (s : String) : ofPoints (.ofString s) = .text s := by
  rw [ofPoints, Text.Points.string?_eq_some_iff.mpr rfl]

@[simp] theorem points?_ofPoints (points : Text.Points) :
    (ofPoints points).points? = some points := by
  unfold ofPoints
  split
  · next s hs => rw [points?, Text.Points.string?_eq_some_iff.mp hs]
  · rfl

/-- Empty values, zeros, `false` and `null` count as not given. -/
def truthy : Value → Bool
  | .null => false
  | .bool b => b
  | .int n => n != 0
  | .decimal d => !d.isZero
  | .text s => s != ""
  | .datum d => d.truthy
  | .list items => !items.isEmpty
  | .pair _ _ => true
  | .set members => !members.isEmpty
  | .object fields => !fields.isEmpty
  | .mapping pairs => !pairs.isEmpty
  | .loop _ _ => true
  | .again _ => true
  | .logger _ => true
  | .record _ _ => true

def orElse (first second : Value) : Value :=
  if first.truthy then first else second

theorem orElse_of_truthy {first second : Value} (h : first.truthy = true) :
    first.orElse second = first := by
  simp [orElse, h]

theorem orElse_of_not_truthy {first second : Value} (h : first.truthy = false) :
    first.orElse second = second := by
  simp [orElse, h]

/-- Values that can be members of a set: all but lists, sets, objects and records. -/
def hashable : Value → Bool
  | .list _ => false
  | .pair first second => first.hashable && second.hashable
  | .set _ => false
  | .object _ => false
  | .mapping _ => false
  | .loop _ _ => false
  | .again _ => false
  | .record _ _ => false
  | _ => true

def integer? : Value → Option Int
  | .bool b => some (if b then 1 else 0)
  | .int n => some n
  | _ => none

mutual

/-- Equality of values: numbers and truth values by their number, texts by their characters, lists
item by item, objects by their entries whatever the order. -/
def alike : Value → Value → Bool
  | .null, .null => true
  | .text a, .text b => a == b
  | .datum a, .datum b => a.alike b
  | .logger a, .logger b => a == b
  | .list as, .list bs => alikeItems as bs
  | .pair a c, .pair b d => alike a b && alike c d
  | .set as, .set bs => as.length == bs.length && alikeMembers as bs
  | .object as, .object bs => as.length == bs.length && alikeFields as bs
  | .mapping as, .mapping bs => as.length == bs.length && alikePairs as bs
  | .loop _ a, .loop _ b => alike a b
  | .again m, .again n => m == n
  | .record m as, .record n bs => m == n && as.length == bs.length && alikeFields as bs
  | .decimal a, .decimal b => a.sameNumber b
  | .decimal a, b => b.integer?.any a.isInt
  | a, .decimal b => a.integer?.any b.isInt
  | .bool a, b => b.integer? == some (if a then 1 else 0)
  | .int a, b => b.integer? == some a
  | _, _ => false
termination_by structural value => value

def alikeItems : List Value → List Value → Bool
  | [], [] => true
  | a :: as, b :: bs => alike a b && alikeItems as bs
  | _, _ => false
termination_by structural value => value

def alikeMembers : List Value → List Value → Bool
  | [], _ => true
  | a :: as, bs => bs.any (fun b => alike a b) && alikeMembers as bs
termination_by structural value => value

def alikePairs : List (Value × Value) → List (Value × Value) → Bool
  | [], _ => true
  | (key, a) :: as, bs =>
      bs.any (fun entry => alike key entry.1 && alike a entry.2) && alikePairs as bs
termination_by structural value => value

def alikeFields : List (String × Value) → List (String × Value) → Bool
  | [], _ => true
  | (key, a) :: as, bs =>
      (match Entries.get? bs key with
        | some b => alike a b
        | none => false) && alikeFields as bs
termination_by structural value => value

end

theorem alike_text_iff {value : Value} {s : String} :
    value.alike (.text s) = true ↔ value = .text s := by
  cases value <;> simp [alike, integer?]

theorem text_alike_iff {value : Value} {s : String} :
    (Value.text s).alike value = true ↔ value = .text s := by
  cases value with
  | text t =>
      simp only [alike, beq_iff_eq, text.injEq]
      exact eq_comm
  | _ => simp [alike, integer?]

def fields : Value → Entries Value
  | .object fields => fields
  | _ => []

example : alike (.int 1) (.bool true) = true ∧
    alike (.decimal (.normal false 1 0)) (.int 1) = true ∧
    alike (.int 3) (.text "3") = false := by decide +kernel

end Value

inductive Kind where
  | null
  | bool
  | int
  | decimal
  | text
  | bytes
  | date
  | moment
  | list
  | pair
  | set
  | object
  | logger
  | record (model : String)
deriving DecidableEq, Repr

namespace Kind

def label : Kind → String
  | .null => "NoneType"
  | .bool => "bool"
  | .int => "int"
  | .decimal => "float"
  | .text => "str"
  | .bytes => "bytes"
  | .date => "datetime.date"
  | .moment => "datetime.datetime"
  | .list => "list"
  | .pair => "tuple"
  | .set => "set"
  | .object => "dict"
  | .logger => "BoundLogger"
  | .record model => model

/-- The word for a sort of values where it is told from other words by the sentence alone. -/
def word : Kind → String
  | .date => "date"
  | .moment => "datetime"
  | kind => kind.label

end Kind

def Datum.kind : Datum → Kind
  | .date _ => .date
  | .moment _ => .moment
  | .bytes _ => .bytes
  | .points _ => .text
  | .noNumber _ => .decimal

def Value.kind : Value → Kind
  | .null => .null
  | .bool _ => .bool
  | .int _ => .int
  | .decimal _ => .decimal
  | .text _ => .text
  | .datum d => d.kind
  | .list _ => .list
  | .pair _ _ => .pair
  | .set _ => .set
  | .object _ => .object
  | .mapping _ => .object
  | .loop _ whole => whole.kind
  | .again _ => .object
  | .logger _ => .logger
  | .record model _ => .record model

/-- How many collections can stand inside each other where a value is read, written or put on top of
another. -/
def Value.greatestDepth : Nat := 985

end FactScope
