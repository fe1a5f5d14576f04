import FactScope.Settings.Violation
import FactScope.Value.Mapping

namespace FactScope.Validation

def field {α : Type} (fields : Entries Value) (name : String) (default : α)
    (check : Value → Verdict α) : Verdict α :=
  match fields.get? name with
  | none => .accepted default
  | some value => (check value).within (.field name)

def items {α : Type} (check : Value → Verdict α) (n : Nat) : List Value → Verdict (List α)
  | [] => .accepted []
  | item :: rest => .both (· :: ·) ((check item).within (.index n)) (items check (n + 1) rest)

/-- Checks the fields of an object, or of a typed section of the required model. Entries whose key
is no text are no fields. -/
def model {α : Type} (required : Section) (check : Entries Value → Verdict α)
    (value : Value) : Verdict α :=
  match value with
  | .record name fields =>
      if name = required.model then check fields else .refuse (.model required) value
  | other =>
      match other.namedEntries? with
      | some fields => check fields
      | none => .refuse (.model required) other

def word {α : Type} (ofName? : String → Option α) (rule : Rule) (value : Value) : Verdict α :=
  match value with
  | .text s =>
      match ofName? s with
      | some result => .accepted result
      | none => .refuse rule value
  | .datum (.points _) => .refuse .unpaired value
  | _ => .refuse rule value

def level : Value → Verdict Level :=
  word Level.ofName? .level

def optionalLevel (value : Value) : Verdict (Option Level) :=
  match value with
  | .null => .accepted none
  | value => (level value).map some

def format : Value → Verdict Format :=
  word Format.ofName? .format

/-- The text that a value is: a text, or bytes that encode one. -/
def textOf? (value : Value) : Except Rule Text.Points :=
  match value with
  | .text s => .ok (.ofString s)
  | .datum (.points points) => .ok points
  | .datum (.bytes bytes) =>
      match String.fromUTF8? ⟨bytes.toArray⟩ with
      | some s => .ok (.ofString s)
      | none => .error .unpaired
  | _ => .error .text

def refusePath {α : Type} (points : Text.Points) (value : Value) : Verdict α :=
  match points.unencodable? fun _ => false with
  | some (before, run) => .undecided (.unencodable (Rule.pathSentence.length + before) run)
  | none => .refuse (.absolutePath points.shown) value

/-- A standard stream, or an absolute path after expansion of the home directory. -/
def destination (home : String) (value : Value) : Verdict Destination :=
  match textOf? value with
  | .error rule => .refuse rule value
  | .ok points =>
      if points = .ofString "stderr" then .accepted .stderr
      else if points = .ofString "stdout" then .accepted .stdout
      else
        match (Path.parse points).expandHome home with
        | .error fault =>
            match (Path.parse points).user?.map Path.faultOfUser with
            | some (.unencodable before run) => .refuse (.user (.unencodable before run)) value
            | some .nullByte => .refuse (.user .nullByte) value
            | _ => .undecided fault
        | .ok path =>
            if path.isAbsolute then .accepted (.file path) else refusePath points value

def version (value : Value) : Verdict Version :=
  match textOf? value with
  | .error rule => .refuse rule value
  | .ok points =>
      match points.string?.bind Version.ofText? with
      | some version => .accepted version
      | none => .refuse (.version points) value

def output (home : String) : Value → Verdict OutputSettings :=
  model .output fun fields =>
    .both (fun format (destination, level) => ⟨format, destination, level⟩)
      (field fields "format" OutputSettings.default.format format)
      (.both Prod.mk
        (field fields "destination" OutputSettings.default.destination (destination home))
        (field fields "level" OutputSettings.default.level optionalLevel))

def outputs (home : String) (value : Value) : Verdict (List OutputSettings) :=
  match value.content with
  | .list values => items (output home) 0 values
  | .set values => items (output home) 0 values
  | _ => .refuse .list value

def logging (home : String) : Value → Verdict LoggingSettings :=
  model .logging fun fields =>
    .both LoggingSettings.mk
      (field fields "level" LoggingSettings.default.level level)
      (field fields "outputs" LoggingSettings.default.outputs (outputs home))

def singleOutput (home : String) (level : Value) (format : Format) : Verdict LoggingSettings :=
  logging home (.object
    [("level", level),
      ("outputs", .list [{ OutputSettings.default with format := format }.record])])

def context : Value → Verdict ContextSettings :=
  model .context fun fields =>
    .map ContextSettings.mk
      (field fields "default_version" ContextSettings.default.version version)

def sections (home : String) (fields : Entries Value) : Verdict Settings :=
  .both Settings.mk
    (field fields "logging" Settings.default.logging (logging home))
    (field fields "context" Settings.default.context context)

def settings (home : String) : Value → Verdict Settings :=
  model .settings (sections home)

def noExtras : Entries Value → Verdict Unit
  | [] => .accepted ()
  | (name, value) :: rest =>
      if name = "logging" ∨ name = "context" then noExtras rest
      else
        .both (fun _ _ => ())
          ((Verdict.refuse (α := Unit) .noExtra value).within (.field name))
          (noExtras rest)

def closedSettings (home : String) (fields : Entries Value) : Verdict Settings :=
  .both (fun settings _ => settings) (sections home fields) (noExtras fields)

def construct (home : String) (required : Section) (data : Value) : Verdict Value :=
  match required with
  | .output => (output home data).map OutputSettings.record
  | .logging => (logging home data).map LoggingSettings.record
  | .context => (context data).map ContextSettings.record
  | .settings => (settings home data).map Settings.record

def dump (home : String) (required : Section) (data : Value) : Verdict Value :=
  match required with
  | .output => (output home data).map fun output => .object output.fields
  | .logging => (logging home data).map fun logging => .object (logging.fields .object)
  | .context => (context data).map fun context => .object context.fields
  | .settings => (settings home data).map Settings.dump

end FactScope.Validation
