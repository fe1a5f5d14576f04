import FactScope.Scope
import FactScope.Value.Text

/-!
Resolution of partial type references to absolute names. The enclosing type is tried first, an
absolute reference stands for itself, then the aliases are tried in insertion order, and what no
alias covers lies in the current namespace.
-/

namespace FactScope

/-- The use of an alias: the reference, the alias that matched and the name it led to. -/
structure AliasUse where
  reference : String
  used : Value
  resolved : String
deriving DecidableEq, Repr

structure Resolution where
  name : String
  aliasUse : Option AliasUse
deriving DecidableEq, Repr

namespace Resolution

open QualifiedName

section

variable {α : Type} [Alphabet α] [DecidableEq α]

/-- Whether an alias stands for the leading segments of a qualified reference, or for all of an
unqualified one. -/
def covers (reference used : List α) : Bool :=
  if isQualified reference then sameName (reference.take (used.length + 1)) (used ++ [sep])
  else sameName used reference

def remainder (reference used : List α) : List α :=
  if isQualified reference then reference.drop used.length else []

def expand (reference used target : List α) : List α :=
  sep :: relative target ++ remainder reference used

end

/-- An alias as its use is told: as it stands in the table, or as text where it is only a part of
the reference. -/
def told (reference : List Char) (used : Value) : Value :=
  if isQualified reference then .text used.toText else used

def byAlias (reference : String) (entry : Value × Value) : Resolution :=
  let name := String.ofList (expand reference.toList entry.1.toText.toList entry.2.toText.toList)
  ⟨name, some ⟨reference, told reference.toList entry.1, name⟩⟩

def firstCovering? (aliases : List (Value × Value)) (reference : String) :
    Option (Value × Value) :=
  aliases.find? fun entry => covers reference.toList entry.1.toText.toList

/-- Applies the first alias that covers the reference. -/
def viaAlias? (aliases : List (Value × Value)) (reference : String) : Option Resolution :=
  (firstCovering? aliases reference).map (byAlias reference)

def ofOther (scope : Scope) (currentNamespace reference : String) : Resolution :=
  if isAbsolute reference.toList then ⟨reference, none⟩
  else
    match viaAlias? scope.aliases reference with
    | some resolution => resolution
    | none => ⟨currentNamespace ++ reference, none⟩

/-- Resolves a reference where the namespace, the type and the reference are no data of files and
every alias has a text. -/
def resolve (scope : Scope) (reference : Value) : Except Fault Resolution :=
  if reference.truthy then do
    let space ← scope.currentNamespace
    match scope.enclosingType?, reference with
    | none, .text written => return ofOther scope space written
    | none, other => throw (.noBeginning other.kind)
    | some (.text type), .text written =>
        if sameName written.toList type.toList then return ⟨space ++ type, none⟩
        else return ofOther scope space written
    | some other, .text _ => throw (.noLowerCase other.kind)
    | some _, other => throw (.noLowerCase other.kind)
  else return ⟨"", none⟩

end Resolution

end FactScope
