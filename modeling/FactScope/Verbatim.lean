import FactScope.Location
import FactScope.Value.Told

/-!
Name resolution and locations for all values as they are: texts that no string holds, bytes, which
have a lower case too, and values without a text.
-/

namespace FactScope.Verbatim

open QualifiedName Resolution
open Text (Points)

structure Use where
  reference : Points
  used : Value
  resolved : Points
deriving DecidableEq, Repr

structure Naming where
  name : Points
  use : Option Use
deriving DecidableEq, Repr

def lowerByte (byte : UInt8) : UInt8 :=
  if 65 ≤ byte ∧ byte ≤ 90 then byte + 32 else byte

def lowered (value : Value) : Except Fault Value :=
  match value with
  | .datum (.bytes bytes) => .ok (.datum (.bytes (bytes.map lowerByte)))
  | value =>
      match value.points? with
      | some points => .ok (.ofPoints points.lower)
      | none => .error (.noLowerCase value.kind)

def joined (text : Points) (value : Value) : Except Fault Points :=
  match value.points? with
  | some points => .ok (text ++ points)
  | none => .error (.notJoinable value.kind)

def currentNamespace (scope : Scope) : Except Fault Points :=
  if scope.space.truthy then do
    return collapse ((← joined [sep] scope.space) ++ [sep])
  else .ok [sep]

def named? (scope : Scope) (reference : Value) : Except Fault (Option Value) := do
  match scope.enclosingType? with
  | none => return none
  | some type =>
      let name ← lowered reference
      return if name = (← lowered type) then some type else none

/-- Applies the first alias that covers a reference. The aliases behind it are not looked at. -/
def viaAlias? (reference : Points) : List (Value × Value) → Except Fault (Option Naming)
  | [] => .ok none
  | (used, target) :: rest => do
      let spelling ← used.written
      if covers reference spelling then
        let name := expand reference spelling (← target.written)
        let told := if isQualified reference then .ofPoints spelling else used
        return some ⟨name, some ⟨reference, told, name⟩⟩
      else viaAlias? reference rest

/-- Resolves a reference that is not the enclosing type. Bytes are asked for a beginning that is
text, which they cannot compare. -/
def ofOther (scope : Scope) (space : Points) (reference : Value) : Except Fault Naming :=
  match reference, reference.points? with
  | .datum (.bytes _), _ => .error .mixedBeginning
  | reference, none => .error (.noBeginning reference.kind)
  | _, some written =>
      if isAbsolute written then .ok ⟨written, none⟩
      else do
        let naming ← viaAlias? written scope.aliases
        return naming.getD ⟨space ++ written, none⟩

def resolve (scope : Scope) (reference : Value) : Except Fault Naming := do
  if reference.truthy then
    let space ← currentNamespace scope
    match ← named? scope reference with
    | some type => return ⟨← joined space type, none⟩
    | none => ofOther scope space reference
  else return ⟨[], none⟩

def ownerName (site : Site) : Except Fault Points := do
  if site.scope.space.truthy then return (← resolve site.scope site.scope.classType).name
  else joined [] site.scope.classType

def memberText (site : Site) : Except Fault Points := do
  if site.method.truthy then
    let mark := if site.static.truthy then "::" else "->"
    return .ofString mark ++ (← site.method.written) ++ .ofString "()"
  else
    let mark := if site.static.truthy then "::$" else "->"
    return .ofString mark ++ (← site.property.written)

def join (known : Points) (words : String) (next : Points) : Points :=
  (if known = [] then [] else known ++ .ofString words) ++ next

def withFile (site : Site) (known : Points) : Except Fault Points := do
  if site.filename.truthy then return join known " in " (← site.filename.written)
  else return known

def withLine (site : Site) (known : Points) : Except Fault Points := do
  if site.line.truthy then
    let line := .ofString "line " ++ (← site.line.written)
    if site.character.truthy then
      return join known " on " (line ++ .ofString ":" ++ (← site.character.written))
    else return join known " on " line
  else return known

def member (site : Site) : Except Fault Points := do
  if site.hasMember then return (← ownerName site) ++ (← memberText site)
  else return []

def describe (site : Site) : Except Fault Points := do
  withLine site (← withFile site (← member site))

end FactScope.Verbatim
