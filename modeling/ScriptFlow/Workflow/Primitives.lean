import ScriptFlow.Registration.Table
import ScriptFlow.Workflow.World

/-!
# Workflow primitives

Orchestration code sees an engine only through these operations. Each takes the context of the call first. Starting an activity or a child workflow gives
a promise at once; only reading a promise, a side effect and a pause wait.
-/

namespace ScriptFlow

structure Primitives (ε : Type) where
  log : Context → LogLevel → String → Play ε Unit
  identity : Context → Play ε Identity
  startActivity : Context → Target → List Data → Play ε Promise
  startChild : Context → Target → List Data → Play ε Promise
  get : Context → Promise → Option ResultType → Play ε Data
  childExecution : Promise → Play ε Promise
  signalChild : Context → Promise → String → Data → Play ε Promise
  setQueryHandler : Context → String → QueryHandler → Play ε Unit
  setSignalHandler : Context → String → SignalHandler → Play ε Unit
  sideEffect : Context → Except Fault Data → Play ε Data
  now : Context → Play ε Data
  sleep : Context → Data → Play ε Unit

namespace Promise

variable {ε : Type}

/-- Waits for a value and decodes it. -/
def await (ctx : Context) (p : Promise) (type : Option ResultType) : Play ε Data := do
  let d ← Flow.awaitUnder ctx.scope p.source
  Flow.ofExcept (d.decodeAs type)

/-- A promise that is decided. -/
def decided (o : Outcome) (translates : Bool := false) : Play ε Promise := do
  return { source := ← Flow.ofKernel (·.decided o), translates := translates }

/-- The error for an operation that only child workflows have. -/
def notAChild (operation : String) : Fault := .error .access ("no attribute '" ++ operation ++ "'")

end Promise

/-- The seconds of a pause: a span, or what denotes a number. -/
def pauseSeconds (d : Data) : Except Fault Float :=
  match d with
  | .span us => .ok (Span.toSeconds us)
  | .float x => .ok x
  | .bool b => .ok (if b then 1.0 else 0.0)
  | .int n =>
    match Float.ofInt? n with
    | some x => .ok x
    | none => .error (.error .overflow "int too large to convert to float")
  | .str s =>
    match Text.float? s with
    | some x => .ok x
    | none => .error (.error .badValue ("could not convert string to float: " ++ Text.quoted s))
  | _ => .error (.error .misuse "float() argument must be a string or a real number")

/-- Seconds that are not negative; a missing number counts as such. -/
def checkedSeconds (d : Data) : Except Fault Float := do
  let seconds ← pauseSeconds d
  if seconds < 0.0 then throw (.error .badValue "sleep duration must not be negative")
  return seconds

end ScriptFlow
