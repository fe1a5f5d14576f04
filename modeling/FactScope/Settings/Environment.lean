import FactScope.Json
import FactScope.Settings.Basic
import FactScope.Text.Lowercase
import FactScope.Value.Merge

/-!
Settings from environment variables. The variable of a section holds JSON; a variable of a section
and a key holds that key's text, and further keys make nested objects. Names are compared without
regard to case.
-/

namespace FactScope.Environment

def lead : String := "ANNOSCOPE__"

def lowerText (s : String) : String :=
  String.ofList (Text.Lowercase.lower s.toList)

/-- The variables by lower-case name; of several that differ in case only the last counts. -/
def variablesByName (environment : List (String × String)) : Entries String :=
  Entries.ofList (environment.map fun (name, value) => (lowerText name, value))

def splitKeys : List Char → List (List Char)
  | [] => [[]]
  | '_' :: '_' :: rest => [] :: splitKeys rest
  | c :: rest =>
      match splitKeys rest with
      | [] => [[c]]
      | part :: parts => (c :: part) :: parts

def keysWithin? (sectionName name : String) : Option (List String) :=
  let lead := (sectionName ++ "__").toList
  if lead.isPrefixOf name.toList then
    some ((splitKeys (name.toList.drop lead.length)).map String.ofList)
  else none

/-- Sets a value below a chain of keys. Where something other than an object is in the way, the
value is dropped. -/
def plant (value : Value) : List String → Entries Value → Entries Value
  | [], tree => tree
  | [key], tree => tree.put key value
  | key :: keys, tree =>
      match tree.get? key with
      | none => tree.put key (.object (plant value keys []))
      | some (.object inner) => tree.put key (.object (plant value keys inner))
      | some _ => tree

/-- The value of a variable. A list is written as JSON, anything else is text as it stands. -/
def nestedValue (listKeys keys : List String) (text : String) : Json.Reading Value :=
  match keys with
  | [key] =>
      if listKeys.contains key && text != "" then Json.read text else .ok (.text text)
  | _ => .ok (.text text)

def nested (sectionName : String) (listKeys : List String) :
    Entries String → Entries Value → Json.Reading (Entries Value)
  | [], tree => .ok tree
  | (name, text) :: rest, tree =>
      match keysWithin? sectionName name with
      | none => nested sectionName listKeys rest tree
      | some keys =>
          match nestedValue listKeys keys text with
          | .ok value => nested sectionName listKeys rest (plant value keys tree)
          | .error failure => .error failure

def respell (fieldNames : List String) (fields : Entries Value) : Entries Value :=
  Entries.ofList (fields.map fun (name, value) =>
    ((fieldNames.find? fun known => lowerText known == lowerText name).getD name, value))

def sectionValue (vars : Entries String) (key : String) (fieldNames listKeys : List String) :
    Json.Reading (Option Value) := do
  let sectionName := lowerText lead ++ key
  let spelled : Value → Value := fun value =>
    match value with
    | .object fields => .object (respell fieldNames fields)
    | other => other
  match vars.get? sectionName with
  | none =>
      let fields ← nested sectionName listKeys vars []
      return if fields.isEmpty then none else some (spelled (.object fields))
  | some text =>
      match ← Json.read text with
      | .object base =>
          let fields ← nested sectionName listKeys vars []
          return some (spelled (.object (Value.mergeFields base fields)))
      | .null => return none
      | other => return some other

structure Unreadable where
  key : String
  failure : Json.Failure
deriving DecidableEq, Repr

def Unreadable.message (e : Unreadable) : String :=
  match e.failure with
  | .malformed =>
      "error parsing value for field \"" ++ e.key ++ "\" from source \"EnvSettingsSource\""
  | .tooDeep => ""

def contribution (environment : List (String × String)) : Except Unreadable (Entries Value) := do
  let vars := variablesByName environment
  let logging ← (sectionValue vars "logging" ["level", "outputs"] ["outputs"]).mapError
    (⟨"logging", ·⟩)
  let context ← (sectionValue vars "context" ["default_version"] []).mapError (⟨"context", ·⟩)
  return (logging.map fun value => ("logging", value)).toList ++
    (context.map fun value => ("context", value)).toList

example :
    (contribution
      [("ANNOSCOPE__LOGGING__LEVEL", "INFO"), ("Annoscope__Logging__X__Y", "1")]).toOption =
      some [("logging", .object [("level", .text "INFO"), ("x", .object [("y", .text "1")])])] := by
  decide +kernel

end FactScope.Environment
