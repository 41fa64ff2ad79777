import ScriptFlow.Plugin.Basic
import ScriptFlow.Program.Run
import ScriptFlow.Sample.Functions
import ScriptFlow.Service.Session

/-!
# The script workflow

One workflow runs a function of a script. Its request carries the sources, so a run always sees the code it started with. Every run has modules, a storage and
an environment of its own.
-/

namespace ScriptFlow

/-- The input of the script workflow. -/
structure ScriptRequest where
  path : Data
  function : Data
  sources : Data := .dict []
  args : Data := .list []
  options : Data := .dict []
  environ : Data := .dict []

namespace ScriptRequest

def fields : List String := ["path", "function", "sources", "args", "kwargs", "environ"]

def toData (r : ScriptRequest) : Data := .object
  [("path", r.path), ("function", r.function), ("sources", r.sources), ("args", r.args), ("kwargs", r.options), ("environ", r.environ)]

/-- The error for a request without a path or function, or with other fields. -/
def malformed : Fault := .error .misuse "not a script request"

/-- Reads a request. -/
def ofData (d : Data) : Except Fault ScriptRequest :=
  match d with
  | .dict es =>
    let known := es.all fun e => match e.1 with
      | .str name => fields.contains name
      | _ => false
    match known, d.field? "path", d.field? "function" with
    | true, some path, some function =>
      let field (name : String) (default : Data) : Data := (d.field? name).getD default
      .ok { path := path, function := function, sources := field "sources" (.dict []), args := field "args" (.list [])
            options := field "kwargs" (.dict []), environ := field "environ" (.dict []) }
    | _, _, _ => .error malformed
  | _ => .error (.error .access "not a script request")

/-- The entries of a value that can be made a dictionary. -/
def entriesOf (d : Data) : Except Fault (List (Data × Data)) :=
  match d with
  | .dict es => .ok es
  | .list [] | .tuple [] => .ok []
  | _ => .error malformed

/-- The sources by path. -/
def sourceTexts (r : ScriptRequest) : Except Fault Sources :=
  match r.sources with
  | .dict es => .ok (es.filterMap fun e => match e with
    | (.str path, .str text) => some (path, text)
    | _ => none)
  | _ => .error (.error .access "sources are no mapping")

def argList (r : ScriptRequest) : Except Fault (List Data) :=
  match r.args with
  | .list xs | .tuple xs => .ok xs
  | _ => .error malformed

/-- The options of the call; nothing at all counts as none. -/
def optionEntries (r : ScriptRequest) : Except Fault (List (Data × Data)) :=
  if r.options.truthy then entriesOf r.options else .ok []

/-- The place of the function in log lines. -/
def place (r : ScriptRequest) : String := r.path.text ++ ":" ++ r.function.text

end ScriptRequest

namespace ScriptService

/-- The name of the script workflow. -/
def workflowName : String := "starworker"

variable {ε : Type}

/-- Loads the script and calls the function. -/
def runSession (s : Session ε) (r : ScriptRequest) : Play ε Data := do
  let (s, loaded) ← s.load r.path
  discard (Flow.ofExcept loaded)
  let args ← Flow.ofExcept r.argList
  let options ← Flow.ofExcept r.optionEntries
  let (_, result) ← s.call r.path r.function args options
  Flow.ofExcept result

/-- Runs a request. -/
def run (plugins : PluginSet ε) (w : Primitives ε) (ctx : Context) (request : Data) : Play ε Data := do
  let r ← Flow.ofExcept (ScriptRequest.ofData request)
  let identity ← w.identity ctx
  let environ ← Flow.ofExcept (ScriptRequest.entriesOf r.environ)
  let number ← Play.newRun
  let modules := plugins.createModules w identity environ number
  let thread : Thread := { name := identity.id ++ "/" ++ identity.runId, context := ctx, run := number }
  let sources ← Flow.ofExcept r.sourceTexts
  let session ← Flow.ofExcept (Session.create sources modules thread)
  w.log ctx .info ("Running " ++ r.place)
  match ← Flow.attempt (runSession session r) with
  | .ok d => do
    w.log ctx .info ("Finished " ++ r.place)
    return d
  | .error e => do
    if e.isOrdinary then w.log ctx .error ("Script " ++ r.place ++ " failed: " ++ e.logText)
    Flow.fail e

/-! ### Functions that workers know

What the workflow functions do that a worker can register: the sample functions, programs, and the script workflow with a set of plugins. All engines share
them; an engine brings its primitives as a host. -/

/-- The script workflow as a function. -/
def callable : Callable :=
  { key := workflowName, shown := "<bound method StarService.run of <starworker.service.service.StarService object>>", typeName := "method"
    shortName := some "run", qualifiedName := some "starworker.service.service.StarService.run"
    parameters := [.required "ctx" (.context "Context") .positional, .required "request" (.type "Union" "typing.Union") .positional]
    result := .type "Any" "typing.Any" }

/-- Registers the script workflow and what the plugins bring. -/
def register (plugins : PluginSet ε) (r : Registry) : Except Fault Registry := do
  plugins.register (← r.register .workflow callable { name := some workflowName })

/-- What a workflow function does. -/
def runFunction (plugins : PluginSet ε) (host : ProgramHost ε) (c : Callable) (ctx : Context) (args : List Data) : Play ε Data :=
  if c.key == workflowName then
    match args with
    | [request] => run plugins host.primitives ctx request
    | _ => Flow.fail Sample.badArguments
  else if c.key == Sample.programFunction.key then
    match args with
    | [steps] =>
      match steps.items? with
      | some steps => Program.run host ctx steps
      | none => Flow.fail Sample.badArguments
    | _ => Flow.fail Sample.badArguments
  else Sample.workflow c.key ctx args

end ScriptService

end ScriptFlow
