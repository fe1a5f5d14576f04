import FactScope.FileTree
import FactScope.Log.Event

/-!
Delivery of log events. An event passes the logger's least level, then the root level, then the
level of each output, and goes to every output that it reaches.
-/

namespace FactScope.Log

structure Handler where
  destination : Destination
  format : Format
  level : Level
deriving DecidableEq, Repr

/-- How a logger hands its events on: the least level it passes, and whether it writes straight to
the standard output or passes events to the installed outputs. -/
structure Pipeline where
  least : Nat
  direct : Bool
deriving DecidableEq, Repr

structure State where
  pipeline : Pipeline
  rootLevel : Nat
  handlers : List Handler
  scanId : Value
  tree : FileTree
deriving DecidableEq, Repr

/-- Before any configuration loggers write straight out, and other records from warnings on go to
the standard error stream. -/
def State.start (tree : FileTree) : State :=
  ⟨⟨0, true⟩, Level.warning.number, [], .null, tree⟩

/-- A logger: what it is bound to, and the pipeline in force when it was made. A logger without a
pipeline of its own follows the current configuration. -/
structure Logger where
  bound : Entries Value
  pipeline : Option Pipeline
deriving DecidableEq, Repr

structure Delivery where
  destination : Destination
  written : Written
deriving DecidableEq, Repr

/-- What logging an event comes to: its writes, and the fault that ends the call if one does. -/
structure Emission where
  deliveries : List Delivery
  fault : Option Fault
deriving DecidableEq, Repr

def Emission.nothing : Emission := ⟨[], none⟩

namespace Handler

def ofOutput (level : Level) (output : OutputSettings) : Handler :=
  ⟨output.destination, output.format, output.level.getD level⟩

def lastResort : Handler := ⟨.stderr, .console, .warning⟩

def takes (handler : Handler) (level : Level) : Bool :=
  handler.level.number ≤ level.number

def write (handler : Handler) (e : Event) : Except Fault Written := do
  (← e.write handler.format).sentTo handler.destination

/-- Hands a record to handlers one after another. A handler keeps the faults of writing to itself,
all but that of values nested too deeply, which ends the call. -/
def handTo (write : Handler → Except Fault Written) : List Handler → Emission
  | [] => .nothing
  | handler :: rest =>
      match write handler with
      | .ok written =>
          let later := handTo write rest
          ⟨⟨handler.destination.resolved, written⟩ :: later.deliveries, later.fault⟩
      | .error .tooDeep => ⟨[], some .tooDeep⟩
      | .error _ => handTo write rest

end Handler

namespace State

def openDestination (tree : FileTree) : Destination → FileTree × Option Fault
  | .file path => tree.openFile path
  | _ => (tree, none)

def install (level : Level) : List OutputSettings → State → State × Option Fault
  | [], s => (s, none)
  | output :: rest, s =>
      match openDestination s.tree output.destination with
      | (tree, some fault) => ({ s with tree := tree }, some fault)
      | (tree, none) =>
          install level rest
            { s with tree := tree, handlers := s.handlers ++ [.ofOutput level output] }

/-- Puts the configured level and outputs in the place of all earlier ones. The scan id stays as it
is. -/
def configure (s : State) (settings : LoggingSettings) : State × Option Fault :=
  install settings.level settings.outputs
    { s with
      pipeline := ⟨settings.level.number, false⟩
      rootLevel := settings.level.number
      handlers := [] }

theorem install_eq_append (level : Level) :
    ∀ (outputs : List OutputSettings) (s s' : State), install level outputs s = (s', none) →
      s'.handlers = s.handlers ++ outputs.map (.ofOutput level) ∧ s'.rootLevel = s.rootLevel ∧
        s'.pipeline = s.pipeline ∧ s'.scanId = s.scanId
  | [], s, s', h => by
      simp only [install, Prod.mk.injEq, and_true] at h
      simp [h]
  | output :: rest, s, s', h => by
      unfold install at h
      split at h
      · simp at h
      · have hrest := install_eq_append level rest _ s' h
        simpa using hrest

/-- Where all files can be opened, the outputs of a configuration are those that it names. -/
theorem handlers_configure {s s' : State} {settings : LoggingSettings}
    (h : s.configure settings = (s', none)) :
    s'.handlers = settings.outputs.map (.ofOutput settings.level) := by
  have hinstall := (install_eq_append settings.level settings.outputs _ s' h).1
  simpa using hinstall

def setScanId (s : State) (given fresh : Value) : State :=
  { s with scanId := given.orElse fresh }

def clearScanId (s : State) : State :=
  { s with scanId := .null }

def logger (s : State) (name : Value) : Logger :=
  if name.truthy then ⟨[("logger", name)], some s.pipeline⟩ else ⟨[], none⟩

def bind (s : State) (logger : Logger) (given : Entries Value) : Logger :=
  ⟨logger.bound.putAll given, some (logger.pipeline.getD s.pipeline)⟩

/-- Passes a record of some level to the outputs that take it. With no output installed, warnings
and worse are written as `fallback`. -/
def emit (s : State) (level : Level) (write : Handler → Except Fault Written)
    (fallback : Except Fault Text.Points) : Emission :=
  if level.number < s.rootLevel then .nothing
  else if s.handlers.isEmpty then
    Handler.handTo (fun handler => do (Written.text (← fallback)).sentTo handler.destination)
      ([.lastResort].filter (·.takes level))
  else Handler.handTo write (s.handlers.filter (·.takes level))

def writeOut (e : Event) : Emission :=
  match do (Written.text (← Line.text columnLayout e)).sentTo .stdout with
  | .ok written => ⟨[⟨.stdout, written⟩], none⟩
  | .error fault => ⟨[], some fault⟩

def log (s : State) (logger : Logger) (level : Level) (happened : Value) (given : Entries Value)
    (time : String) : Emission :=
  let pipeline := logger.pipeline.getD s.pipeline
  let e := Event.assemble logger.bound given happened
  if level.number < pipeline.least then .nothing
  else if pipeline.direct then writeOut (e.stamped level time .null)
  else
    let e := e.stamped level time s.scanId
    s.emit level (·.write e) (Value.object e).spelled

def logForeign (s : State) (level : Level) (happened : Value) (time : String) : Emission :=
  let write (handler : Handler) : Except Fault Written := do
    handler.write ((Event.bare (.ofPoints (← happened.written))).stamped level time s.scanId)
  s.emit level write happened.written

def logAlias (s : State) (reference : Text.Points) (used : Value) (resolved : Text.Points)
    (time : String) : Emission :=
  s.log ⟨[], none⟩ .debug (.text "alias_applied")
    [("reference", .ofPoints reference), ("alias", used), ("resolved", .ofPoints resolved)] time

end State

end FactScope.Log
