import FactScope.Fault
import FactScope.Value.Text
import FactScope.Version

namespace FactScope

/-- Error codes: 2001 to 2005 concern the configuration, 9001 internal failures. -/
inductive ErrorCode where
  | parseError
  | invalidValue
  | missingRequired
  | fileNotFound
  | unsupportedVersion
  | internal
deriving DecidableEq, Repr

namespace ErrorCode

def number : ErrorCode → Nat
  | parseError => 2001
  | invalidValue => 2002
  | missingRequired => 2003
  | fileNotFound => 2004
  | unsupportedVersion => 2005
  | internal => 9001

def name : ErrorCode → String
  | parseError => "CONFIG_PARSE_ERROR"
  | invalidValue => "CONFIG_INVALID_VALUE"
  | missingRequired => "CONFIG_MISSING_REQUIRED"
  | fileNotFound => "CONFIG_FILE_NOT_FOUND"
  | unsupportedVersion => "CONFIG_UNSUPPORTED_VERSION"
  | internal => "INTERNAL_ERROR"

def all : List ErrorCode :=
  [parseError, invalidValue, missingRequired, fileNotFound, unsupportedVersion, internal]

def ofName? (s : String) : Option ErrorCode :=
  all.find? (·.name == s)

def ofValue (value : Value) : Except Fault ErrorCode :=
  match all.find? fun code => (Value.int code.number).alike value with
  | some code => .ok code
  | none => .error (.notCode value.literal)

theorem ofValue_number (code : ErrorCode) : ofValue (.int code.number) = .ok code := by
  cases code <;> rfl

theorem ofName?_name (code : ErrorCode) : ofName? code.name = some code := by
  cases code <;> decide

end ErrorCode

inductive ErrorFamily where
  | general
  | config
  | internal
deriving DecidableEq, Repr

def ErrorFamily.name : ErrorFamily → String
  | general => "AnnoscopeError"
  | config => "ConfigError"
  | internal => "InternalError"

/-- A coded error. Its message is a text and its details are an object unless the caller has given
something else. -/
structure CodedError where
  family : ErrorFamily
  code : ErrorCode
  message : Value
  details : Value
deriving DecidableEq, Repr

namespace CodedError

def text (e : CodedError) : String :=
  "[" ++ toString e.code.number ++ "] " ++ e.code.name ++ ": " ++ e.message.toText

def toObject (e : CodedError) : Value :=
  .object [("code", .int e.code.number), ("error", .text e.code.name), ("message", e.message),
    ("details", e.details)]

def literal (e : CodedError) : String :=
  e.family.name ++ "(code=<ErrorCode." ++ e.code.name ++ ": " ++ toString e.code.number ++
    ">, message=" ++ e.message.literal ++ ", details=" ++ e.details.literal ++ ")"

def alike (a b : CodedError) : Bool :=
  a.family == b.family && a.code == b.code && a.message.alike b.message &&
    a.details.alike b.details

def faultOfSetting (name : String) : Fault :=
  if ["code", "message", "details"].contains name then .fixedField name else .noField

end CodedError

inductive ConfigProblem where
  | unreadable (path reason : Value)
  | invalidValue (field value reason : Value)
  | missing (field : Value)
  | noFile (path : Value)
  | unsupportedVersion (version : Value) (supported : List String)
deriving DecidableEq, Repr

namespace ConfigProblem

def versionSentence (version : Value) (supported : List String) : String :=
  "Unsupported version " ++ version.literal ++ ", expected one of: " ++ ", ".intercalate supported

def code : ConfigProblem → ErrorCode
  | unreadable _ _ => .parseError
  | invalidValue _ _ _ => .invalidValue
  | missing _ => .missingRequired
  | noFile _ => .fileNotFound
  | unsupportedVersion _ _ => .unsupportedVersion

def message : ConfigProblem → String
  | unreadable path reason => "Failed to parse config at " ++ path.toText ++ ": " ++ reason.toText
  | invalidValue field _ reason =>
      "Invalid value for '" ++ field.toText ++ "': " ++ reason.toText
  | missing field => "Missing required config field: " ++ field.toText
  | noFile path => "Config file not found: " ++ path.toText
  | unsupportedVersion version supported => versionSentence version supported

/-- The parts of a problem. A value at fault is kept as its text only. -/
def details : ConfigProblem → Entries Value
  | unreadable path reason => [("path", path), ("reason", reason)]
  | invalidValue field value reason =>
      [("field", field), ("value", .text value.toText), ("reason", reason)]
  | missing field => [("field", field)]
  | noFile path => [("path", path)]
  | unsupportedVersion version supported =>
      [("version", version), ("supported", .list (supported.map .text))]

def toError (problem : ConfigProblem) : CodedError :=
  ⟨.config, problem.code, .text problem.message, .object problem.details⟩

end ConfigProblem

def CodedError.unexpected (reason : Value) (details : Entries Value) : CodedError :=
  ⟨.internal, .internal, .text ("Internal error: " ++ reason.toText), .object details⟩

/-- The default version that a value chooses; only the text of a supported version chooses one. -/
def Version.choose (version : Value) : Except ConfigProblem Version :=
  match version with
  | .text s =>
      match Version.ofText? s with
      | some version => .ok version
      | none => .error (.unsupportedVersion (.text s) (Version.supported.map Version.text))
  | other => .error (.unsupportedVersion other (Version.supported.map Version.text))

end FactScope
