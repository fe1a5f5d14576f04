import FactScope.CodedError
import FactScope.Signature
import FactScope.Value.Told

namespace FactScope

/-- The forms of errors; `plain` makes an error of any family from its parts. -/
inductive ErrorForm where
  | plain (family : ErrorFamily)
  | unreadable
  | invalidValue
  | missing
  | noFile
  | unsupportedVersion
  | unexpected
deriving DecidableEq, Repr

namespace ErrorForm

def name : ErrorForm → String
  | plain _ => "new"
  | unreadable => "parse_error"
  | invalidValue => "invalid_value"
  | missing => "missing_required"
  | noFile => "file_not_found"
  | unsupportedVersion => "unsupported_version"
  | unexpected => "unexpected"

def offered : ErrorFamily → List ErrorForm
  | .general => [plain .general]
  | .config =>
      [plain .config, unreadable, invalidValue, missing, noFile, unsupportedVersion]
  | .internal => [plain .internal, unexpected]

def ofName (family : ErrorFamily) (name : String) : Except Fault ErrorForm :=
  match (offered family).find? (·.name == name) with
  | some form => .ok form
  | none => .error (.noOperation ("type object '" ++ family.name ++ "'") name)

def signature : ErrorForm → Signature
  | plain _ => ⟨"AnnoscopeError.__init__", ["self"], ["code", "message"], ["details"], false⟩
  | unreadable => config unreadable ["path", "reason"]
  | invalidValue => config invalidValue ["field", "value", "reason"]
  | missing => config missing ["field"]
  | noFile => config noFile ["path"]
  | unsupportedVersion => config unsupportedVersion ["version", "supported"]
  | unexpected => ⟨"InternalError.unexpected", ["cls"], ["reason"], [], true⟩
where
  config (form : ErrorForm) (needed : List String) : Signature :=
    ⟨"ConfigError." ++ form.name, ["cls"], needed, [], false⟩

/-- The texts that a value lists: the items of a list, the characters of a text or the names of an
object. -/
def listedTexts (value : Value) : Except Fault (List String) :=
  match value with
  | .list items => each 0 items
  | .text s => .ok (s.toList.map Char.toString)
  | .object fields => .ok (Entries.keys fields)
  | _ => .error .notListed
where
  each (index : Nat) : List Value → Except Fault (List String)
    | [] => .ok []
    | .text s :: rest => return s :: (← each (index + 1) rest)
    | item :: _ => .error (.notTextAt index item.kind)

/-- The arguments that a form tells, in their order. -/
def told : ErrorForm → List String
  | plain _ => []
  | unreadable => ["path", "reason"]
  | invalidValue => ["field", "reason", "value"]
  | missing => ["field"]
  | noFile => ["path"]
  | unsupportedVersion => ["version"]
  | unexpected => ["reason"]

/-- The error of a form from arguments that are all there; what is left of them are details of an
unexpected failure. -/
def fill (form : ErrorForm) (given : Entries Value) : Except Fault CodedError := do
  let argument (name : String) : Value := (given.get? name).getD .null
  form.told.forM fun name => (argument name).checkText
  match form with
  | plain family =>
      return ⟨family, ← ErrorCode.ofValue (argument "code"), argument "message",
        (given.get? "details").getD (.object [])⟩
  | unreadable =>
      return (ConfigProblem.unreadable (argument "path") (argument "reason")).toError
  | invalidValue =>
      return (ConfigProblem.invalidValue (argument "field") (argument "value")
        (argument "reason")).toError
  | missing => return (ConfigProblem.missing (argument "field")).toError
  | noFile => return (ConfigProblem.noFile (argument "path")).toError
  | unsupportedVersion =>
      let supported ← listedTexts (argument "supported")
      return (ConfigProblem.unsupportedVersion (argument "version") supported).toError
  | unexpected =>
      return .unexpected (argument "reason") (given.filter fun entry => entry.1 != "reason")

/-- Makes an error. The code of a plain error is looked at before its other parts. -/
def make (form : ErrorForm) (given : Entries Value) : Except Fault CodedError := do
  if let plain _ := form then
    if let some code := given.get? "code" then
      discard (ErrorCode.ofValue code)
  form.signature.check given
  form.fill given

end ErrorForm

end FactScope
