import ScriptFlow.Durable.Activation
import ScriptFlow.Plugin.Catalogue
import ScriptFlow.Worker.Config

/-!
# Trying executions

A trial starts an execution on a worker that knows the script workflow with some plugins, programs and two sample workflows, and activates it every ten seconds. It shows
what every activation asks for. A fault of the worker ends the trial; an execution that has ended asks for nothing any more.
-/

namespace ScriptFlow

structure ExecutionTrial where
  workflow : String
  args : List Data
  headers : List (Data × Data) := []
  config : WorkerConfig := {}
  plugins : List (Plugin Execution)
  activations : List (List News) := []

/-- What a trial shows. -/
structure ExecutionReport where
  activations : List (Except Fault (List Command))
  /-- the answers of the paths that the program has started, by name -/
  paths : List (String × List Data)

namespace ExecutionTrial

/-- Microseconds between two activations. -/
def interval : Int := 10000000

def identity (workflow : String) : Identity :=
  { id := "wf-1", runId := "run-1", workflowType := workflow, domain := "default", taskList := "starworker" }

/-- Workflows of the worker besides those of the plugins. -/
def samples : List Callable := [Sample.programFunction] ++ ["greet", "posonly"].filterMap Sample.named?

/-- An execution before its first activation, with its task. -/
def start (t : ExecutionTrial) : Except Fault (Activation.Stage × FutureId) := do
  let plugins ← PluginSet.ofList t.plugins
  let registry ← ScriptService.register plugins {}
  let registry ← samples.foldlM (fun (r : Registry) c => r.register .workflow c { name := c.shortName }) registry
  let function ← match registry.workflows.get? t.workflow with
    | some r => pure r.function
    | none => throw (.error .notRegistered ("workflow '" ++ t.workflow ++ "' is not registered"))
  let options ← t.config.activityOptions
  let args ← Entry.arguments function (← t.args.mapM WirePayload.carry)
  let (kernel, scope) := Kernel.newScope {}
  let execution : Execution := { identity := identity t.workflow, registries := [registry] }
  let body : Execution.Play Data := do
    let inbound ← Flow.ofExcept (do (← Message.carry [] t.headers).metadata)
    Play.modifyEngine fun e => { e with inbound := inbound }
    let ctx : Context := { headers := inbound, activityOptions := options, scope := scope }
    Boundary.run scope (ScriptService.runFunction plugins Execution.programHost function ctx args)
  let l : Activation.Stage := { state := { kernel := kernel, world := { engine := execution } } }
  return l.start false fun _ => Entry.main body .finish

/-- Activates an execution until it ends; the clock shows the time of the next activation. -/
def activateAll (main : FutureId) (l : Activation.Stage) (clock : Int) :
    List (List News) → List (Except Fault (List Command)) × Activation.Stage
  | [] => ([], l)
  | news :: rest =>
    match Activation.activate main l clock news with
    | (l, .error e) => ([.error e], l)
    | (l, .ok commands) =>
      if commands.any Command.isTerminal then (.ok commands :: rest.map fun _ => .ok [], l)
      else
        let (reports, l) := activateAll main l (clock + interval) rest
        (.ok commands :: reports, l)

def run (t : ExecutionTrial) : ExecutionReport :=
  match t.start with
  | .error e => { activations := [.error e], paths := [] }
  | .ok (l, main) =>
    let (reports, l) := activateAll main l 0 ([] :: t.activations)
    { activations := reports, paths := l.state.world.pathAnswers 0 }

end ExecutionTrial

end ScriptFlow
