import FactScope.Json.Writable
import FactScope.Settings.Basic

namespace FactScope.Log

open Text (Points)

/-- An event: its entries in the order in which they were first given. -/
abbrev Event : Type := Entries Value

namespace Event

/-- The entries that every event gets replace what the caller gave under their names. -/
def stamped (e : Event) (level : Level) (time : String) (scanId : Value) : Event :=
  let e := Entries.put (Entries.put e "level" (.text level.word)) "timestamp" (.text time)
  if scanId.truthy then Entries.put e "scan_id" scanId else e

def assemble (bound given : Entries Value) (happened : Value) : Event :=
  let e := bound.putAll given
  if happened = .null then e else e.put "event" happened

def bare (happened : Value) : Event := [("event", happened)]

end Event

structure LineLayout where
  eventWidth : Nat
  levelWidth : Nat

def compactLayout : LineLayout := ⟨0, 0⟩

/-- Before any configuration events and levels are padded to columns. -/
def columnLayout : LineLayout := ⟨30, 9⟩

namespace Line

def space : Nat := ' '.toNat

def pad (width : Nat) (text : Points) : Points :=
  text ++ List.replicate (width - text.length) space

def bracketed (width : Nat) (text : Points) : Points :=
  .ofString "[" ++ pad width text ++ .ofString "]"

def isDelicate (code : Nat) : Bool :=
  [' ', '\t', '=', '\r', '\n', '"', '\''].any (·.toNat == code)

def valueText (value : Value) : Except Fault Points :=
  match value.points? with
  | some text => if text.any isDelicate then value.spelled else .ok text
  | none => value.spelled

def assignment (name : String) (value : Value) : Except Fault Points := do
  return .ofString (name ++ "=") ++ (← valueText value)

def placed : List String := ["", "timestamp", "level", "event", "logger", "logger_name"]

/-- The names of what stands below a line. A note that an error is at hand stands nowhere. -/
def below : List String := ["stack", "exception", "exc_info"]

/-- The parts of a line: the entry without a name, time, level, event and loggers, then the other
entries by name. -/
def parts (layout : LineLayout) (e : Event) : List (Except Fault Points) :=
  let part (name : String) (write : Value → Except Fault Points) : List (Except Fault Points) :=
    ((Entries.get? e name).map write).toList
  let plain (place : Points → Points) (value : Value) : Except Fault Points :=
    value.written.map place
  let others := e.filter fun entry => !placed.contains entry.1 && !below.contains entry.1
  part "" (assignment "") ++ part "timestamp" (plain id) ++
    part "level" (plain (bracketed layout.levelWidth)) ++
    part "event" (plain (pad layout.eventWidth)) ++ part "logger" (plain (bracketed 0)) ++
    part "logger_name" (plain (bracketed 0)) ++
    (others.mergeSort fun a b => a.1 ≤ b.1).map fun entry => assignment entry.1 entry.2

def gather : List (Except Fault Points) → Except Fault (List Points)
  | [] => .ok []
  | part :: rest => do return (← part) :: (← gather rest)

def trimEnd (text : Points) : Points :=
  (text.reverse.dropWhile (· == space)).reverse

def join (parts : List Points) : Points :=
  trimEnd ([space].intercalate (parts.filter (· ≠ [])))

def rule : Points := List.replicate 79 '='.toNat

def textBelow (e : Event) (name : String) : Except Fault Points :=
  match (Entries.get? e name).getD .null with
  | .null => .ok []
  | value =>
      match value.points? with
      | some text => .ok (.ofString "\n" ++ text)
      | none => .error (.notJoinable value.kind)

def footer (e : Event) : Except Fault Points := do
  let given (name : String) : Value := (Entries.get? e name).getD .null
  let stack ← textBelow e "stack"
  let error ← textBelow e "exception"
  let parted := given "stack" ≠ .null ∧ ((given "exc_info").truthy ∨ given "exception" ≠ .null)
  return stack ++ (if parted then .ofString "\n\n" ++ rule ++ .ofString "\n" else []) ++ error

def text (layout : LineLayout) (e : Event) : Except Fault Points := do
  return join (← gather (parts layout e)) ++ (← footer e)

end Line

inductive Written where
  | object (fields : Entries Value)
  | text (lines : Points)
deriving DecidableEq, Repr

/-- A text as it arrives: the standard error stream escapes surrogates, and nothing else can encode
them. Objects are written without any. -/
def Written.sentTo (destination : Destination) (written : Written) : Except Fault Written :=
  match written with
  | .object fields => .ok (.object fields)
  | .text lines =>
      match lines.unencodable? (fun _ => false), destination with
      | none, _ => .ok (.text lines)
      | some _, .stderr => .ok (.text lines.escaped)
      | some (before, run), _ => .error (.unencodable before run)

namespace Event

def reserved : List String := ["_record", "_from_structlog"]

def shown (e : Event) : Entries Value :=
  e.filter fun entry => !reserved.contains entry.1

def write (e : Event) (format : Format) : Except Fault Written := do
  match format with
  | .json =>
      Json.checkTelling (.object e.shown)
      return .object e.shown
  | .console => return .text (← Line.text compactLayout e.shown)

end Event

end FactScope.Log
