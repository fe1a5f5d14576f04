import FactScope.Fault
import FactScope.Value.Merge

/-!
Layering of values that may stand inside themselves. Two such values can meet each other again and
again, and then layering them has no end. Main statement: where the upper value does not stand
inside itself this is the layering of objects.
-/

namespace FactScope.Value

mutual

/-- Puts a value on top of `base`; `deeper` does so with the content of an upper collection that
stands inside itself. -/
def layerWith (deeper : Value → Value → Except Fault Value) (base : Value) :
    Value → Except Fault Value
  | .object upper =>
      match base.content.entries? with
      | some lower => (layerFields deeper lower upper).map ofEntries
      | none => .ok (.object upper)
  | .mapping upper =>
      match base.content.entries? with
      | some lower => (layerPairs deeper lower upper).map ofEntries
      | none => .ok (.mapping upper)
  | .loop mark whole =>
      if base.content.entries?.isSome && whole.entries?.isSome then
        deeper base (content (.loop mark whole))
      else .ok (.loop mark whole)
  | .null => .ok .null
  | .bool b => .ok (.bool b)
  | .int n => .ok (.int n)
  | .decimal d => .ok (.decimal d)
  | .text s => .ok (.text s)
  | .datum d => .ok (.datum d)
  | .list items => .ok (.list items)
  | .pair first second => .ok (.pair first second)
  | .set members => .ok (.set members)
  | .again mark => .ok (.again mark)
  | .logger name => .ok (.logger name)
  | .record model fields => .ok (.record model fields)
termination_by structural value => value

def layerFields (deeper : Value → Value → Except Fault Value) (lower : List (Value × Value)) :
    List (String × Value) → Except Fault (List (Value × Value))
  | [] => .ok lower
  | (key, value) :: rest => do
      let value ←
        match pair? lower (.text key) with
        | some below => layerWith deeper below value
        | none => .ok value
      layerFields deeper (putPair lower (.text key) value) rest
termination_by structural entries => entries

def layerPairs (deeper : Value → Value → Except Fault Value) (lower : List (Value × Value)) :
    List (Value × Value) → Except Fault (List (Value × Value))
  | [] => .ok lower
  | (key, value) :: rest => do
      let value ←
        match pair? lower key with
        | some below => layerWith deeper below value
        | none => .ok value
      layerPairs deeper (putPair lower key value) rest
termination_by structural entries => entries

end

/-- Puts a value on top of `base`, going at most `depth` times into an upper collection that stands
inside itself. -/
def layerTo : Nat → Value → Value → Except Fault Value
  | 0 => layerWith fun _ _ => .error .tooDeep
  | depth + 1 => layerWith (layerTo depth)

def layer (base upper : Value) : Except Fault Value :=
  layerTo greatestDepth base upper

mutual

def isTree : Value → Bool
  | .object fields => areTrees fields
  | .mapping pairs => arePairsOfTrees pairs
  | .loop _ _ => false
  | _ => true
termination_by structural value => value

def areTrees : List (String × Value) → Bool
  | [] => true
  | (_, value) :: rest => isTree value && areTrees rest
termination_by structural entries => entries

def arePairsOfTrees : List (Value × Value) → Bool
  | [] => true
  | (_, value) :: rest => isTree value && arePairsOfTrees rest
termination_by structural entries => entries

end

mutual

theorem layerWith_eq_merge (deeper : Value → Value → Except Fault Value) (base : Value) :
    ∀ upper : Value, upper.isTree = true → layerWith deeper base upper = .ok (base.merge upper)
  | .object upper, h => by
      have hfields : areTrees upper = true := by simpa [isTree] using h
      cases hbase : base.content with
      | object lower =>
          simp [layerWith, merge, hbase, entries?,
            layerFields_pairsOf deeper upper hfields lower, Except.map]
      | mapping lower =>
          simp [layerWith, merge, hbase, entries?, layerFields_eq deeper upper hfields lower,
            Except.map]
      | _ => simp [layerWith, merge, hbase, entries?]
  | .mapping upper, h => by
      have hpairs : arePairsOfTrees upper = true := by simpa [isTree] using h
      cases hbase : base.content.entries? with
      | some lower =>
          simp [layerWith, merge, hbase, layerPairs_eq deeper upper hpairs lower, Except.map]
      | none => simp [layerWith, merge, hbase]
  | .loop _ _, h => by simp [isTree] at h
  | .null, _ => by simp [layerWith, merge]
  | .bool _, _ => by simp [layerWith, merge]
  | .int _, _ => by simp [layerWith, merge]
  | .decimal _, _ => by simp [layerWith, merge]
  | .text _, _ => by simp [layerWith, merge]
  | .datum _, _ => by simp [layerWith, merge]
  | .list _, _ => by simp [layerWith, merge]
  | .pair _ _, _ => by simp [layerWith, merge]
  | .set _, _ => by simp [layerWith, merge]
  | .again _, _ => by simp [layerWith, merge]
  | .logger _, _ => by simp [layerWith, merge]
  | .record _ _, _ => by simp [layerWith, merge]

theorem layerFields_pairsOf (deeper : Value → Value → Except Fault Value) :
    ∀ upper : List (String × Value), areTrees upper = true → ∀ lower : Entries Value,
      layerFields deeper (pairsOf lower) upper = .ok (pairsOf (mergeFields lower upper))
  | [], _, _ => by simp [layerFields, mergeFields]
  | (key, value) :: rest, h, lower => by
      simp only [areTrees, Bool.and_eq_true] at h
      rw [layerFields, mergeFields, pair?_pairsOf]
      cases hget : lower.get? key with
      | some below =>
          simp only [layerWith_eq_merge deeper below value h.1]
          simpa [putPair_pairsOf, bind, Except.bind] using
            layerFields_pairsOf deeper rest h.2 _
      | none =>
          simpa [putPair_pairsOf, bind, Except.bind] using
            layerFields_pairsOf deeper rest h.2 _

theorem layerFields_eq (deeper : Value → Value → Except Fault Value) :
    ∀ upper : List (String × Value), areTrees upper = true → ∀ lower : List (Value × Value),
      layerFields deeper lower upper = .ok (mergeNamed lower upper)
  | [], _, _ => by simp [layerFields, mergeNamed]
  | (key, value) :: rest, h, lower => by
      simp only [areTrees, Bool.and_eq_true] at h
      rw [layerFields, mergeNamed]
      cases hget : pair? lower (.text key) with
      | some below =>
          simp only [layerWith_eq_merge deeper below value h.1]
          simpa [bind, Except.bind] using layerFields_eq deeper rest h.2 _
      | none => simpa [bind, Except.bind] using layerFields_eq deeper rest h.2 _

theorem layerPairs_eq (deeper : Value → Value → Except Fault Value) :
    ∀ upper : List (Value × Value), arePairsOfTrees upper = true →
      ∀ lower : List (Value × Value), layerPairs deeper lower upper = .ok (mergePairs lower upper)
  | [], _, _ => by simp [layerPairs, mergePairs]
  | (key, value) :: rest, h, lower => by
      simp only [arePairsOfTrees, Bool.and_eq_true] at h
      rw [layerPairs, mergePairs]
      cases hget : pair? lower key with
      | some below =>
          simp only [layerWith_eq_merge deeper below value h.1]
          simpa [bind, Except.bind] using layerPairs_eq deeper rest h.2 _
      | none => simpa [bind, Except.bind] using layerPairs_eq deeper rest h.2 _

end

/-- Where the upper value does not stand inside itself, values are layered as objects are. -/
theorem layer_eq_merge (base upper : Value) (h : upper.isTree = true) :
    base.layer upper = .ok (base.merge upper) :=
  layerWith_eq_merge _ base upper h

end FactScope.Value
