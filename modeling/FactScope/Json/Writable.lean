import FactScope.Json
import FactScope.Value.Told

namespace FactScope.Json

def checkInteger (n : Int) : Except Fault Unit :=
  if Value.isLong n then .error .longInteger else .ok ()

def checkKey (key : Value) : Except Fault Unit :=
  match key with
  | .int n => checkInteger n
  | key =>
      if [Kind.text, .bool, .decimal, .null].contains key.kind then .ok ()
      else .error (.notKey key.kind)

def within (room : Nat) (found : Except Fault Unit) : Except Fault Unit :=
  if room = 0 then .error .tooDeep else found

section

variable (other : Value → Except Fault Unit)

def checkDatum (d : Datum) : Except Fault Unit :=
  if d.kind = .text ∨ d.kind = .decimal then .ok () else other (.datum d)

mutual

/-- Finds the first part of a value that cannot be written, from the outside in and each key before
its value; `other` judges the parts that have no form of their own. -/
def checkIn (room : Nat) : Value → Except Fault Unit
  | .int n => checkInteger n
  | .datum d => checkDatum other d
  | .list items => within room (checkItems (room - 1) items)
  | .pair first second => within room do
      checkIn (room - 1) first
      checkIn (room - 1) second
  | .set members => other (.set members)
  | .object fields => within room (checkFields (room - 1) fields)
  | .mapping pairs => within room (checkPairs (room - 1) pairs)
  | .loop _ whole => checkIn room whole
  | .again _ => .error .circular
  | .record model fields => other (.record model fields)
  | .logger name => other (.logger name)
  | .null => .ok ()
  | .bool _ => .ok ()
  | .decimal _ => .ok ()
  | .text _ => .ok ()
termination_by structural value => value

def checkItems (room : Nat) : List Value → Except Fault Unit
  | [] => .ok ()
  | item :: rest => do
      checkIn room item
      checkItems room rest
termination_by structural items => items

def checkFields (room : Nat) : List (String × Value) → Except Fault Unit
  | [] => .ok ()
  | (_, value) :: rest => do
      checkIn room value
      checkFields room rest
termination_by structural fields => fields

def checkPairs (room : Nat) : List (Value × Value) → Except Fault Unit
  | [] => .ok ()
  | (key, value) :: rest => do
      checkKey key
      checkIn room value
      checkPairs room rest
termination_by structural pairs => pairs

end

end

def check (value : Value) : Except Fault Unit :=
  checkIn (fun part => .error (.notWritable part.kind)) Value.greatestDepth value

/-- Finds out why a value cannot be written where parts without a form are told as text. -/
def checkTelling (value : Value) : Except Fault Unit :=
  checkIn Value.checkText Value.greatestDepth value

example : check (.object [("a", .list [.datum (.bytes []), .set []])]) =
    .error (.notWritable .bytes) := rfl

example : check (.mapping [(.datum (.bytes []), .set [])]) = .error (.notKey .bytes) :=
  rfl

example : checkTelling (.list [.datum (.bytes []), .again []]) = .error .circular :=
  rfl

end FactScope.Json
