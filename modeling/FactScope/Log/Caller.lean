import FactScope.Log.Method

namespace FactScope.Log

/-- What a caller does. Where no scan id is given a fresh one takes its place, which is never
empty. Loggers are numbered in the order in which the caller obtains them. -/
inductive Act where
  | configure (settings : LoggingSettings)
  | setScanId (given : Value) (fresh : { id : Value // id.truthy = true })
  | clearScanId
  | obtain (name : Value)
  | bind (k : Nat) (given : Entries Value)
  | log (k : Nat) (method : String) (happened : Value) (given : Entries Value) (time : String)

/-- A logger in a caller's hands, and how many configurations there had been when it was obtained,
or the logger that it was bound from. -/
structure Held where
  logger : Logger
  since : Nat
deriving DecidableEq, Repr

structure Caller where
  state : State
  configurations : Nat
  loggers : List Held
deriving DecidableEq, Repr

namespace Caller

def start (tree : FileTree) : Caller := ⟨.start tree, 0, []⟩

/-- Binds a logger to more. One that follows the configuration is from here on as old as the
configuration in force. -/
def bind (c : Caller) (held : Held) (given : Entries Value) : Caller :=
  match c.state.bindNamed held.logger given with
  | .ok logger =>
      let since := if held.logger.pipeline.isSome then held.since else c.configurations
      { c with loggers := c.loggers ++ [⟨logger, since⟩] }
  | .error _ => c

def apply (c : Caller) : Act → Caller
  | .configure settings =>
      { c with state := (c.state.configure settings).1, configurations := c.configurations + 1 }
  | .setScanId given fresh => { c with state := c.state.setScanId given fresh }
  | .clearScanId => { c with state := c.state.clearScanId }
  | .obtain name =>
      { c with loggers := c.loggers ++ [⟨c.state.logger name, c.configurations⟩] }
  | .bind k given =>
      match c.loggers[k]? with
      | some held => c.bind held given
      | none => c
  | .log .. => c

/-- What an act delivers. A call that is refused delivers nothing. -/
def deliveries (c : Caller) : Act → List Delivery
  | .log k method happened given time =>
      match c.loggers[k]? with
      | some held =>
          match c.state.call held.logger method happened given time with
          | .ok emission => emission.deliveries
          | .error _ => []
      | none => []
  | _ => []

def run (c : Caller) (acts : List Act) : Caller :=
  acts.foldl apply c

def delivered (c : Caller) : List Act → List Delivery
  | [] => []
  | act :: acts => c.deliveries act ++ (c.apply act).delivered acts

def fault? (c : Caller) : Act → Option Fault
  | .configure settings => (c.state.configure settings).2
  | _ => none

def succeeds (c : Caller) : List Act → Bool
  | [] => true
  | act :: acts => (c.fault? act).isNone && (c.apply act).succeeds acts

end Caller

end FactScope.Log
