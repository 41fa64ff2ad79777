import ScriptFlow.Durable.Failure
import ScriptFlow.Durable.Primitives
import ScriptFlow.Service.ScriptService

/-!
# Starting an execution

The arguments of an execution are decoded into the types that the function declares for its parameters, if their number fits and every parameter is one that
takes an argument by its place. The function then runs behind its boundary, and its end becomes the last command of the execution: a result, a
failure that the engine knows, or — after a request to cancel — a cancellation. Any other error is a fault of the worker, and no command.
-/

namespace ScriptFlow

namespace Entry

/-- The error for arguments that do not fit. -/
def undecodable : Fault := .error .runtime "Failed decoding arguments"

/-- A number as a whole number, its fraction cut off. -/
def wholeOf (d : Data) : Except Fault Data :=
  match d with
  | .int n => .ok (.int n)
  | .bool b => .ok (.int (if b then 1 else 0))
  | .float x =>
    match Binary.ofFloat x with
    | .finite negative m e => .ok (.int (Binary.truncate negative m e))
    | _ => .error undecodable
  | _ => .error undecodable

/-- Do the entries map texts to texts? -/
def isTextMap (d : Data) : Bool :=
  match d with
  | .dict es => es.all fun e => e.1.text?.isSome && e.2.text?.isSome
  | _ => false

/-- Has a field of a request, if it is there, its type? -/
def fits (d : Data) (name : String) : Bool :=
  match d.field? name, name with
  | none, _ => true
  | some (.str _), "path" | some (.str _), "function" | some (.list _), "args" | some (.dict _), "kwargs" => true
  | some d, "sources" | some d, "environ" => isTextMap d
  | _, _ => false

/-- A script request without unknown fields, or any other mapping as it is. -/
def requestOf (d : Data) : Except Fault Data :=
  match d with
  | .dict es =>
    let isRequest := (d.field? "path").isSome && (d.field? "function").isSome && ScriptRequest.fields.all (fits d)
    .ok (if isRequest then .dict (es.filter fun e => match e.1 with
      | .str name => ScriptRequest.fields.contains name
      | _ => false) else d)
  | _ => .error undecodable

/-- An argument as the type of its parameter asks for. -/
def argumentOf (d : Data) (a : Annotation) : Except Fault Data :=
  match a with
  | .type "int" _ => wholeOf d
  | .type "str" _ => if d.typeName == "str" then .ok d else .error undecodable
  | .type "Union" _ => requestOf d
  | _ => .ok d

def byPlace (p : ParameterShape) : Bool := p.kind == .positional || p.kind == .positionalOnly

/-- The arguments of a function, decoded. -/
def arguments (c : Callable) (args : List Data) : Except Fault (List Data) :=
  let parameters := c.parameters.drop 1
  if parameters.all byPlace && parameters.length == args.length then
    (args.zip parameters).mapM fun (d, p) => argumentOf d p.annotation
  else .ok args

/-- Is the error a cancellation, by itself or of a call? -/
def isCancellation : Fault → Bool
  | .engineCancelled _ => true
  | .activityFailed _ (some (.engineCancelled _)) | .childFailed _ (some (.engineCancelled _)) => true
  | _ => false

/-- The end of an execution that fails. -/
def ending (cancelRequested : Bool) (e : Fault) : Except Fault Command :=
  let e : Fault := match e with
    | .taskCancelled m => .engineCancelled m
    | e => e
  if cancelRequested && isCancellation e then .ok .cancelExecution
  else if e.isEngineFailure then
    .ok (.failExecution (match e with
      | .application m type details n => .application m type (((details.mapM WirePayload.carry).toOption).getD []) n
      | e => e))
  else .error e

/-- The task of an execution. -/
def main (function : Execution.Play Data) : Execution.Play Data := do
  let r ← Flow.attempt do
    let d ← function
    Flow.ofExcept (WirePayload.carry d)
  match r with
  | .ok d => Execution.emit (.complete d)
  | .error e => do
    match ending (← Play.engine).cancelRequested e with
    | .ok c => Execution.emit c
    | .error e => Play.modifyEngine fun x => { x with failure := some e }
  return .null

end Entry

end ScriptFlow
