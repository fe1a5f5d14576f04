import FactScope.Forest
import FactScope.Version

/-!
Building nodes. Every node sees a logger, and every tree has a version: a node that sees no
logger gets the default one, and a node that sees no version has its root marked with the default
version in force.
-/

namespace FactScope.Forest

/-- What a node with these own facts will see of a well-known fact below `parent`. -/
def foresee (f : Forest) (own : Entries Value) (parent : Option (Fin f.size)) (fact : Fact) :
    Value :=
  match own.get? fact.name with
  | some value => value
  | none =>
      match parent with
      | some p => f.see p fact
      | none => .null

def withLogger (f : Forest) (own : Entries Value) (parent : Option (Fin f.size)) : Entries Value :=
  if (f.foresee own parent .logger).truthy then own
  else own.put Fact.logger.name defaultLogger

/-- Adds a node with the supplied facts, numbered `f.size`. Where the node would see no version,
the default version goes to the root of its tree, which may be an older node. -/
def create (f : Forest) (default : Version) (supplied : Entries Value)
    (parent : Option (Fin f.size)) : Forest :=
  let own := f.withLogger supplied parent
  if (f.foresee supplied parent .version).truthy then f.push own parent
  else
    match parent with
    | none => f.push (own.put Fact.version.name (.text default.text)) none
    | some p =>
        (f.put (f.root p) Fact.version.name (.text default.text)).push own
          (some (p.cast (size_put ..).symm))

def parentFin? (f : Forest) (i : Nat) : Option (Fin f.size) :=
  match h : f.parent? i with
  | none => none
  | some p => some ⟨p, Nat.lt_trans (lt_of_parent? h) (lt_size_of_parent? h)⟩

theorem map_parentFin? (f : Forest) (i : Nat) : (f.parentFin? i).map (·.val) = f.parent? i := by
  unfold parentFin?
  split <;> simp_all

def child (f : Forest) (default : Version) (of : Fin f.size) (supplied : Entries Value) : Forest :=
  f.create default supplied (some of)

/-- Adds a node beside an existing one with a snapshot of its facts, updated by `overrides`. -/
def clone (f : Forest) (default : Version) (of : Nat) (overrides : Entries Value) : Forest :=
  f.create default ((f.facts of).putAll overrides) (f.parentFin? of)

@[simp] theorem size_create (f : Forest) (default : Version) (supplied : Entries Value)
    (parent : Option (Fin f.size)) : (f.create default supplied parent).size = f.size + 1 := by
  unfold create
  cases parent <;> (simp only; split <;> simp)

def nest (f : Forest) (default : Version) (of : Fin f.size) (supplied : Entries Value) :
    Nat → Forest
  | 0 => f
  | count + 1 =>
      nest (f.child default of supplied) default ⟨f.size, by simp [child]⟩ supplied count

end FactScope.Forest
