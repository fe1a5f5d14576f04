import FactScope.Value.Mapping

/-!
Sets of numbers and the order of their members. Each number stands in a slot of a table, by its
residue if that slot is free, and the members come in the order of their slots.
-/

namespace FactScope.Value

namespace Members

def modulus : Nat := Nat.pow 2 61 - 1

/-- The residue of the number `mantissa · 2 ^ exponent`. The power of two with the exponent 61 is
one more than the modulus, so negative exponents stand for positive ones. No residue is `-1`. -/
def residue (mantissa exponent : Int) : Int :=
  let magnitude : Nat := mantissa.natAbs * Nat.pow 2 (exponent % 61).toNat % modulus
  if mantissa < 0 then (if magnitude = 1 then -2 else -magnitude) else magnitude

def infiniteResidue : Int := 314159

def residue? : Value → Option Int
  | .bool b => some (if b then 1 else 0)
  | .int n => some (residue n 0)
  | .decimal (.infinite negative) => some (if negative then -infiniteResidue else infiniteResidue)
  | .decimal d => d.value?.map fun (mantissa, exponent) => residue mantissa exponent
  | _ => none

def doubled (n : Nat) : Nat → Nat → Nat
  | 0, size => size
  | fuel + 1, size => if n < size then size else doubled n fuel (2 * size)

/-- How many slots there are for so many members: a power of two, at least eight, and with five
members or more it is more than twice their number. -/
def slots (count : Nat) : Nat :=
  if count < 5 then 8 else doubled (2 * count) count 8

def run : Nat := 9

/-- The first free slot for a number. Where those of a run are taken, the search goes on elsewhere;
`stir` is what has a say in that of the residue. -/
def freeSlot (taken : List Nat) (size : Nat) : Nat → Nat → Nat → Nat
  | 0, slot, _ => slot
  | fuel + 1, slot, stir =>
      let tried := List.range' slot (if slot + run < size then run + 1 else 1)
      match tried.find? (!taken.contains ·) with
      | some free => free
      | none =>
          let stir := stir / 32
          freeSlot taken size fuel ((slot * 5 + 1 + stir) % size) stir

def place (slot : Nat) (member : Value) : List (Nat × Value) → List (Nat × Value)
  | [] => [(slot, member)]
  | other :: rest =>
      if slot < other.1 then (slot, member) :: other :: rest
      else other :: place slot member rest

def fillTable (size : Nat) : List (Int × Value) → List (Nat × Value) → List (Nat × Value)
  | [], table => table
  | (residue, member) :: rest, table =>
      let stir := (residue % (Nat.pow 2 64 : Nat)).toNat
      let slot := freeSlot (table.map (·.1)) size (size + 13) (stir % size) stir
      fillTable size rest (place slot member table)

def inOrder (members : List Value) : List Value :=
  if members.all fun member => (residue? member).isSome then
    let known := members.map fun member => ((residue? member).getD 0, member)
    (fillTable (slots members.length) known []).map (·.2)
  else members

end Members

def setOf (members : List Value) : Value :=
  .set (Members.inOrder members)

example : setOf [.int 3, .int 1, .int 2] = .set [.int 1, .int 2, .int 3] := by decide +kernel

example : setOf [.int 9, .int 8, .int (-1)] = .set [.int 8, .int 9, .int (-1)] := by
  decide +kernel

end FactScope.Value
