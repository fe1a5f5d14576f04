import FactScope.Log.Delivery
import FactScope.Signature

namespace FactScope.Log

/-- What a name means to a logger. -/
inductive Method where
  | plain (level : Level)
  | exception
  | leveled
  | asks
  | tells
  | binds (name : String)
  | unbinds (name : String) (strict : Bool)
  | value (sort : String)
deriving DecidableEq, Repr

namespace Method

def ofWord? : String → Option Method
  | "debug" => some (.plain .debug)
  | "info" | "msg" => some (.plain .info)
  | "warning" | "warn" => some (.plain .warning)
  | "error" => some (.plain .error)
  | "critical" | "fatal" => some (.plain .critical)
  | "exception" => some .exception
  | "log" => some .leveled
  | _ => none

theorem ofWord?_word (level : Level) : ofWord? level.word = some (.plain level) := by
  cases level <;> rfl

/-- What a name means to a logger. One that `follows` the configuration holds no parts of its own
yet. -/
def ofName? (follows : Bool) (name : String) : Option Method :=
  match name with
  | "bind" | "new" => some (.binds name)
  | "unbind" => some (.unbinds name true)
  | "try_unbind" => some (.unbinds name false)
  | "is_enabled_for" => some .asks
  | "get_effective_level" => some .tells
  | "_context" | "__dict__" => some (.value "dict")
  | "_processors" => some (.value (if follows then "NoneType" else "list"))
  | "_logger" => some (.value (if follows then "NoneType" else "_FixedFindCallerLogger"))
  | "__module__" => some (.value "str")
  | name => ofWord? name

/-- What a way of logging takes before it knows whether it logs: entries of any name, but no second
event. -/
def signature (least : Nat) (level : Level) (method : Method) : Signature :=
  let operation :=
    if method = exception then "exception"
    else if least ≤ level.number then
      "_make_filtering_bound_logger.<locals>.make_method.<locals>.meth"
    else "_nop"
  ⟨operation, ["self", "event"], [], [], true⟩

def leveledSignature : Signature :=
  ⟨"_make_filtering_bound_logger.<locals>.log", ["self", "level"], ["event"], [], true⟩

def question (filled : List String) : Signature :=
  ⟨"_make_filtering_bound_logger.<locals>.<lambda>", filled, [], [], false⟩

def passing : Signature :=
  ⟨"BoundLoggerBase._proxy_to_logger", ["self", "method_name", "event"], [], [], true⟩

def completed (method : Method) (given : Entries Value) : Entries Value :=
  if method = exception ∧ given.has "exc_info" = false then given.put "exc_info" (.bool true)
  else given

end Method

def isBelow? (value : Value) (number : Nat) : Option Bool :=
  match value with
  | .decimal d => some (d.isBelow number)
  | value => value.integer?.map fun n => n < (number : Int)

def levelOf? (value : Value) : Option Level :=
  Level.all.find? fun level => (Value.int level.number).alike value

def loggerSort (least : Nat) : String :=
  let level := (Level.all.find? (·.number == least)).elim "Notset" Level.title
  "'BoundLoggerFilteringAt" ++ level ++ "' object"

def Logger.owner (logger : Logger) : String :=
  if logger.pipeline.isSome then "BoundLoggerBase" else "BoundLoggerLazyProxy"

def Logger.checkUnbind (logger : Logger) (strict : Bool) (key : Value) : Except Fault Unit :=
  if !key.hashable then
    if strict ∨ logger.bound ≠ [] then .error (.notHashable key.kind) else .ok ()
  else if strict then
    match key with
    | .text name => if logger.bound.has name then .ok () else .error (.noKey key.literal)
    | key => .error (.noKey key.literal)
  else .ok ()

namespace State

def logThrough (s : State) (logger : Logger) (level : Level) (happened : Value)
    (given : Entries Value) (time : String) : Except Fault Emission := do
  if (logger.pipeline.getD s.pipeline).least ≤ level.number then Method.passing.check given
  return s.log logger level happened given time

/-- Calls what a name means to a logger with one argument, which mostly is what happened, and with
entries. -/
def call (s : State) (logger : Logger) (name : String) (happened : Value) (given : Entries Value)
    (time : String) : Except Fault Emission := do
  let least := (logger.pipeline.getD s.pipeline).least
  let logAt (level : Level) (method : Method) : Except Fault Emission := do
    (method.signature least level).check given
    s.logThrough logger level happened (method.completed given) time
  match Method.ofName? logger.pipeline.isNone name with
  | none => throw (.noOperation (loggerSort least) name)
  | some (.plain level) => logAt level (.plain level)
  | some .exception => logAt .error .exception
  | some .leveled =>
      Method.leveledSignature.check given
      match isBelow? happened least, levelOf? happened with
      | none, _ => throw (.notOrdered "<" happened.kind)
      | some true, _ => return .nothing
      | some false, none => throw (.noKey happened.literal)
      | some false, some level =>
          s.logThrough logger level ((given.get? "event").getD .null)
            (given.filter fun entry => entry.1 ≠ "event") time
  | some .asks =>
      (Method.question ["self", "level"]).check given
      if (isBelow? happened least).isNone then throw (.notOrdered ">=" happened.kind)
      return .nothing
  | some .tells =>
      (Method.question ["self"]).check given
      throw (.unnamedArgument (Method.question []).operation)
  | some (.binds name) =>
      Signature.check ⟨logger.owner ++ "." ++ name, ["self"], [], [], true⟩ given
      throw (.unnamedArgument (logger.owner ++ "." ++ name))
  | some (.unbinds name strict) =>
      Signature.check ⟨logger.owner ++ "." ++ name, ["self"], [], [], false⟩ given
      logger.checkUnbind strict happened
      return .nothing
  | some (.value sort) => throw (.notOperation sort)

def callNamed (s : State) (logger : Logger) (name : Value) (happened : Value)
    (given : Entries Value) (time : String) : Except Fault Emission :=
  match name with
  | .text name => s.call logger name happened given time
  | name => .error (.notName name.kind)

def bindNamed (s : State) (logger : Logger) (given : Entries Value) : Except Fault Logger := do
  Signature.check ⟨logger.owner ++ ".bind", ["self"], [], [], true⟩ given
  return s.bind logger given

end State

end FactScope.Log
