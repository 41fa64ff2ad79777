import ScriptFlow.Flow.Basic
import ScriptFlow.Options.Basic
import ScriptFlow.Registration.Callable
import ScriptFlow.Text.Case

/-!
# Adapters

The durable engine knows workflows as classes with one method and activities as functions that carry their name. An adapter is made for every registration: it has the
parameters of the function after the context, with their types, so arguments are decoded as the function declares.

Not every function has one. The method takes the object in front of the parameters of the function, and together they must be a signature; the class must have a
name that a class can have; and the engine has rules of its own, `EngineRules`.
-/

namespace ScriptFlow

/-- What the engine refuses: a method that runs a workflow, by its full name, and an activity. -/
structure EngineRules where
  method : String → Except Fault Unit := fun path =>
    if (path.splitOn "<locals>").length = 1 then .ok ()
    else .error (.error .badValue "Local classes unsupported, @workflow.run cannot be on a local class")
  activity : Callable → Except Fault Unit := fun c =>
    if c.parameters.all (·.kind != .named) then .ok () else .error (.error .misuse "Activity cannot have keyword-only arguments")

/-- A workflow function as the engine knows it. -/
structure WorkflowAdapter where
  name : String
  function : Callable
  className : String
  parameters : List String
  /-- the types of the arguments, if every parameter takes its argument by its place -/
  argumentTypes : Option (List String)
  result : Option String
  /-- the options of activities under contexts without options of their own -/
  activityOptions : ActivityOptions

/-- An activity as the engine knows it. -/
structure ActivityAdapter where
  name : String
  isAsync : Bool
  function : Callable
  deriving Inhabited

namespace WorkflowAdapter

/-- The name of a class: the parts of the name between hyphens and points, each with a capital. -/
def classNameOf (name : String) : String :=
  let isBreak (c : Char) : Bool := c == '-' || c == '.'
  let parts := (name.split isBreak).toList.map fun s => s.toString
  let words := String.join (parts.map Text.capitalize)
  (if words == "" then "Script" else words) ++ "Workflow"

/-- The short name of a type; a parameter whose type is unknown has none. -/
def typeName? : Annotation → Option String
  | .type short _ | .context short => some short
  | .absent | .forward _ => none

/-- Is every annotation of the function one that can be resolved? -/
def resolves (c : Callable) : Bool := c.parameters.all fun p => match p.annotation with
  | .forward _ => false
  | _ => true

def ofCallable (name : String) (c : Callable) (options : ActivityOptions) : WorkflowAdapter :=
  let parameters := c.parameters.drop 1
  let known (a : Annotation) : Option String := if resolves c then typeName? a else none
  { name := name, function := c, className := classNameOf name, parameters := "self" :: parameters.map (·.name)
    argumentTypes := if parameters.all (·.kind.isByPlace) then some (parameters.map fun p => (known p.annotation).getD "None") else none
    result := known c.result, activityOptions := options }

/-- The parameters of the method: the object, and those of the function after the context. -/
def methodParameters (c : Callable) : List ParameterShape := { name := "self" } :: c.parameters.drop 1

/-- Checks the name of a class. -/
def checkClassName (className : String) : Except Fault Unit :=
  if className.toList.contains '\x00' then .error (.error .badValue "type name must not contain null characters") else .ok ()

/-- The adapter of a function, if it can have one under the name. -/
def build (rules : EngineRules) (name : String) (c : Callable) (options : ActivityOptions) : Except Fault WorkflowAdapter := do
  Signature.check (methodParameters c)
  rules.method (classNameOf name ++ ".run")
  checkClassName (classNameOf name)
  return ofCallable name c options

def toData (a : WorkflowAdapter) : Data := .object
  [("class", .str a.className), ("name", .str a.name), ("params", .list (a.parameters.map .str)),
   ("args", .ofOption (fun ts => .list (ts.map .str)) a.argumentTypes), ("ret", .ofOption .str a.result)]

end WorkflowAdapter

namespace ActivityAdapter

/-- The adapter of a function, if the engine takes it. -/
def build (rules : EngineRules) (name : String) (c : Callable) : Except Fault ActivityAdapter := do
  rules.activity c
  return { name := name, isAsync := c.isAsync, function := c }

def toData (a : ActivityAdapter) : Data := .object [("name", .str a.name), ("async", .bool a.isAsync)]

variable {σ : Type}

/-- What the definition does when it is called. It waits for its function if that is declared to be asynchronous; what another function gives, it
gives as it is. -/
def call (a : ActivityAdapter) (body : Body σ) : Body σ := fun args =>
  if a.isAsync then return .awaitable do (← body args).await else body args

/-- What the engine makes of the definition: it waits for one that is asynchronous. -/
def execute (a : ActivityAdapter) (body : Body σ) : Body σ := fun args => do
  let result ← a.call body args
  if a.isAsync then return .value (← result.await) else return result

end ActivityAdapter

end ScriptFlow
