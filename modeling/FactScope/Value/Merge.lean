import FactScope.Value.Mapping

namespace FactScope.Value

mutual

/-- Puts a value on top of `base`. Only two objects or mappings are layered; anything else is
replaced. The upper value must not stand inside itself. -/
def merge (base : Value) : Value → Value
  | .object upper =>
      match base.content with
      | .object lower => .object (mergeFields lower upper)
      | .mapping lower => ofEntries (mergeNamed lower upper)
      | _ => .object upper
  | .mapping upper =>
      match base.content.entries? with
      | some lower => ofEntries (mergePairs lower upper)
      | none => .mapping upper
  | .null => .null
  | .bool b => .bool b
  | .int n => .int n
  | .decimal d => .decimal d
  | .text s => .text s
  | .datum d => .datum d
  | .list items => .list items
  | .pair first second => .pair first second
  | .set members => .set members
  | .loop mark whole => .loop mark whole
  | .again mark => .again mark
  | .logger name => .logger name
  | .record model fields => .record model fields
termination_by structural value => value

/-- Writes the upper entries one after another; a name in both keeps the lower one's place. -/
def mergeFields (lower : List (String × Value)) : List (String × Value) → List (String × Value)
  | [] => lower
  | (key, value) :: rest =>
      mergeFields
        (Entries.put lower key
          (match Entries.get? lower key with
            | some below => merge below value
            | none => value))
        rest
termination_by structural entries => entries

def mergeNamed (lower : List (Value × Value)) : List (String × Value) → List (Value × Value)
  | [] => lower
  | (key, value) :: rest =>
      mergeNamed
        (putPair lower (.text key)
          (match pair? lower (.text key) with
            | some below => merge below value
            | none => value))
        rest
termination_by structural entries => entries

def mergePairs (lower : List (Value × Value)) : List (Value × Value) → List (Value × Value)
  | [] => lower
  | (key, value) :: rest =>
      mergePairs
        (putPair lower key
          (match pair? lower key with
            | some below => merge below value
            | none => value))
        rest
termination_by structural entries => entries

end

@[simp] theorem merge_object (lower upper : List (String × Value)) :
    merge (.object lower) (.object upper) = .object (mergeFields lower upper) := by
  simp [merge, content]

@[simp] theorem mergeFields_nil (lower : List (String × Value)) : mergeFields lower [] = lower := by
  simp [mergeFields]

theorem merge_of_not_object (lower upper : Value) (h : ∀ fields, upper ≠ .object fields)
    (hpairs : ∀ pairs, upper ≠ .mapping pairs) : merge lower upper = upper := by
  cases upper with
  | object fields => exact absurd rfl (h fields)
  | mapping pairs => exact absurd rfl (hpairs pairs)
  | _ => simp [merge]

end FactScope.Value
