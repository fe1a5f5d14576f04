import FactScope.Text.Digits
import FactScope.Text.Quoted
import FactScope.Value

namespace FactScope.Value

def ellipsis : Value → String
  | .list _ => "[...]"
  | .pair _ _ => "(...)"
  | _ => "\x7b...\x7d"

mutual

/-- The written form of a value inside others; `around` holds the marks of the collections that it
stands in, with what is written for them inside themselves. -/
def literalIn (around : List (Mark × String)) : Value → String
  | .null => "None"
  | .bool true => "True"
  | .bool false => "False"
  | .int n => toString n
  | .decimal d => d.text
  | .text s => Text.Quoted.quote s
  | .datum d => d.literal
  | .list items => "[" ++ ", ".intercalate (literalItems around items) ++ "]"
  | .pair first second =>
      "(" ++ literalIn around first ++ ", " ++ literalIn around second ++ ")"
  | .set [] => "set()"
  | .set members => "\x7b" ++ ", ".intercalate (literalItems around members) ++ "\x7d"
  | .object fields => "\x7b" ++ ", ".intercalate (literalFields around fields) ++ "\x7d"
  | .mapping pairs => "\x7b" ++ ", ".intercalate (literalPairs around pairs) ++ "\x7d"
  | .loop mark whole =>
      match around.lookup mark with
      | some shown => shown
      | none => literalIn ((mark, whole.ellipsis) :: around) whole
  | .again mark => (around.lookup mark).getD "..."
  | .logger name => "<logger " ++ name ++ ">"
  | .record model fields => model ++ "(" ++ ", ".intercalate (literalMembers around fields) ++ ")"

def literalItems (around : List (Mark × String)) : List Value → List String
  | [] => []
  | item :: rest => literalIn around item :: literalItems around rest

def literalFields (around : List (Mark × String)) : List (String × Value) → List String
  | [] => []
  | (key, value) :: rest =>
      (Text.Quoted.quote key ++ ": " ++ literalIn around value) :: literalFields around rest

def literalPairs (around : List (Mark × String)) : List (Value × Value) → List String
  | [] => []
  | (key, value) :: rest =>
      (literalIn around key ++ ": " ++ literalIn around value) :: literalPairs around rest

def literalMembers (around : List (Mark × String)) : List (String × Value) → List String
  | [] => []
  | (key, value) :: rest => (key ++ "=" ++ literalIn around value) :: literalMembers around rest

end

def literal (value : Value) : String :=
  value.literalIn []

/-- A value as text of its own, if it has one: strings stand as they are, records show their members
only. -/
def toText : Value → String
  | .text s => s
  | .datum d => d.text
  | .record _ fields => " ".intercalate (literalMembers [] fields)
  | value => literal value

def isLong (n : Int) : Bool :=
  Nat.pow 10 Text.Digits.greatestCount ≤ n.natAbs

mutual

/-- Whether a value has a text: no integer in it has too many digits. -/
def hasText : Value → Bool
  | .int n => !isLong n
  | .list items => haveText items
  | .pair first second => hasText first && hasText second
  | .set members => haveText members
  | .object fields => fieldsHaveText fields
  | .mapping pairs => pairsHaveText pairs
  | .loop _ whole => hasText whole
  | .record _ fields => fieldsHaveText fields
  | _ => true
termination_by structural value => value

def haveText : List Value → Bool
  | [] => true
  | item :: rest => hasText item && haveText rest
termination_by structural items => items

def fieldsHaveText : List (String × Value) → Bool
  | [] => true
  | (_, value) :: rest => hasText value && fieldsHaveText rest
termination_by structural fields => fields

def pairsHaveText : List (Value × Value) → Bool
  | [] => true
  | (key, value) :: rest => hasText key && hasText value && pairsHaveText rest
termination_by structural pairs => pairs

end

mutual

def depth : Value → Nat
  | .list items => depthOfItems items + 1
  | .pair first second => max (depth first) (depth second) + 1
  | .set members => depthOfItems members + 1
  | .object fields => depthOfFields fields + 1
  | .mapping pairs => depthOfPairs pairs + 1
  | .loop _ whole => depth whole
  | .record _ fields => depthOfFields fields + 1
  | _ => 0
termination_by structural value => value

def depthOfItems : List Value → Nat
  | [] => 0
  | item :: rest => max (depth item) (depthOfItems rest)
termination_by structural items => items

def depthOfFields : List (String × Value) → Nat
  | [] => 0
  | (_, value) :: rest => max (depth value) (depthOfFields rest)
termination_by structural fields => fields

def depthOfPairs : List (Value × Value) → Nat
  | [] => 0
  | (key, value) :: rest => max (depth key) (max (depth value) (depthOfPairs rest))
termination_by structural pairs => pairs

end

@[simp] theorem toText_text (s : String) : toText (.text s) = s := rfl

example : toText (.object [("k", .list [.text "it's", .bool true, .null])]) =
    "\x7b'k': [\"it's\", True, None]\x7d" := by decide +kernel

example : toText (.record "M" [("level", .text "x"), ("n", .int (-3))]) = "level='x' n=-3" := by
  decide +kernel

end FactScope.Value
