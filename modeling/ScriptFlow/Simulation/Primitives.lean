import ScriptFlow.Service.ScriptService
import ScriptFlow.Simulation.Engine

/-!
# Primitives and functions of the simulated engine

Every primitive but `get`, `now` and the deciding of futures wants a context of the simulation. A call is recorded when it is made; whether it can be carried out is found
out by its task, which is cancelled with the scope of the context.

A library says what the functions of a simulated worker do. A workflow may start workflows in turn; the functions that those run are the same one level further
down.
-/

namespace ScriptFlow

/-! ### Primitives -/

namespace Simulator

/-- A part of a program on the simulated engine. -/
abbrev Play := ScriptFlow.Play Simulator

/-- The identity of a context of the simulation. -/
def own (ctx : Context) : Play Identity :=
  match ctx.identity with
  | some i => return i
  | none => Flow.fail (.error .wrongType "expected SimulatedContext, got Context")

/-- The registered name of a target. -/
def nameOf (kind : RegistrationKind) (target : Target) : Play String := do
  match target with
  | .name n => return n
  | .function c =>
    match c.text? with
    | some n => return n
    | none =>
      match ((← Play.engine).registry.table kind).lookup? target with
      | some r => return r.name
      | none => Flow.fail (.error .notRegistered (kind.name ++ " " ++ c.shown ++ " is not registered"))

/-- The error for a name that is not registered. -/
def notRegistered (kind : CallKind) (name : String) : Fault :=
  .error .notRegistered (kind.name ++ " '" ++ name ++ "' is not registered")

/-- Carries out a call: as expected of it, or by what is registered. -/
def perform (kind : CallKind) (name : String) (args : List Data) (registered : Registration → List Data → Play Data) : Play Data := do
  let args ← Flow.ofExcept (Data.toPayloads args)
  let expected ← Flow.ofExcept (← Play.ofEngine (·.expect kind name args))
  match expected with
  | some outcome => Flow.ofExcept (do (← outcome).toPayload)
  | none =>
    let registry := (← Play.engine).registry
    let table := match kind with
      | .activity => registry.activities
      | .workflow => registry.workflows
    match table.get? name with
    | none => Flow.fail (notRegistered kind name)
    | some r => do
      let result ← registered r args
      Flow.ofExcept result.toPayload

/-- Calls the function of an activity, and waits if what it gives can be waited for. -/
def callActivity (lib : Library Simulator) (c : Callable) (args : List Data) : Play Data := do
  let result ← lib.activity c args
  result.settle

def runActivity (lib : Library Simulator) (name : String) (args : List Data) : Play Data :=
  perform .activity name args fun r args => callActivity lib r.function args

def runWorkflow (lib : Library Simulator) (ctx : Context) (name : String) (args : List Data) : Play Data :=
  perform .workflow name args fun r args => lib.workflow r.function ctx args

def startActivity (lib : Library Simulator) (ctx : Context) (target : Target) (args : List Data) : Play Promise := do
  discard (own ctx)
  let name ← nameOf .activity target
  Play.modifyEngine fun e => { e with activityCalls := e.activityCalls ++ [⟨name, args, ctx⟩] }
  return { source := ← Flow.spawnUnder ctx.scope (runActivity lib name args) }

def startChild (lib : Library Simulator) (ctx : Context) (target : Target) (args : List Data) : Play Promise := do
  let parent ← own ctx
  let name ← nameOf .workflow target
  let options := ctx.childOptions
  let (id, runId) ← Play.ofEngine (·.nextChild parent)
  let id := (nonEmpty options.workflowId).getD id
  let scope ← Flow.ofKernel (·.childScope ctx.scope)
  let child : Context :=
    { headers := ctx.headers, scope := scope
      identity := some
        { id := id, runId := runId, workflowType := name, domain := (nonEmpty options.domain).getD parent.domain
          taskList := (nonEmpty options.taskList).getD parent.taskList } }
  Play.modifyEngine fun e => { e with workflowCalls := e.workflowCalls ++ [⟨name, args, ctx⟩] }
  return { source := ← Flow.spawnUnder ctx.scope (runWorkflow lib child name args), child := some (.known id runId) }

def childExecution (p : Promise) : Play Promise :=
  match p.child with
  | some (.known id runId) => Promise.decided (.value (.execution id runId))
  | _ => Flow.fail (Promise.notAChild "get_child_workflow_execution")

/-- Hands a signal to the handler of a run, or keeps it for one; `call` is how handlers are called. -/
def deliverSignalBy (call : SignalHandler → Data → Play Unit) (runId name : String) (d : Data) : Play Unit := do
  match (← Play.engine).signalHandlers.get? runId name with
  | some h => call h d
  | none => Play.modifyEngine fun e =>
    { e with pendingSignals := e.pendingSignals.set runId name (((e.pendingSignals.get? runId name).getD []) ++ [d]) }

def deliverSignal (runId name : String) (d : Data) : Play Unit := deliverSignalBy Play.deliver runId name d

def signalChild (_ctx : Context) (p : Promise) (name : String) (d : Data) : Play Promise :=
  match p.child with
  | some (.known _ runId) =>
    match d.toPayload with
    | .error e => Promise.decided (.error e)
    | .ok d => do
      deliverSignal runId name d
      Promise.decided (.value .null)
  | _ => Flow.fail (Promise.notAChild "signal_child_workflow")

def setQueryHandler (ctx : Context) (name : String) (h : QueryHandler) : Play Unit := do
  let runId := (← own ctx).runId
  Play.modifyEngine fun e => { e with queryHandlers := e.queryHandlers.set runId name h }

/-- Sets a handler and hands it the signals that waited for it; `call` is how handlers are called. -/
def setSignalHandlerBy (call : SignalHandler → Data → Play Unit) (ctx : Context) (name : String) (h : SignalHandler) : Play Unit := do
  let runId := (← own ctx).runId
  let waiting ← Play.ofEngine fun e =>
    ({ e with signalHandlers := e.signalHandlers.set runId name h, pendingSignals := e.pendingSignals.erase runId name },
      (e.pendingSignals.get? runId name).getD [])
  for d in waiting do
    call h d

def setSignalHandler (ctx : Context) (name : String) (h : SignalHandler) : Play Unit := setSignalHandlerBy Play.deliver ctx name h

/-- Pauses for one turn; the clock then shows at least the wake-up time. -/
def sleep (ctx : Context) (duration : Data) : Play Unit := do
  let seconds ← Flow.ofExcept (checkedSeconds duration)
  ctx.check
  let wake ← Flow.ofExcept (wakeTime (← Play.engine).clock seconds)
  Flow.turn
  ctx.check
  Play.modifyEngine fun e => { e with clock := max e.clock wake }

def primitives (lib : Library Simulator) : Primitives Simulator where
  log ctx level text := do
    discard (own ctx)
    Play.log level text
  identity ctx := own ctx
  startActivity := startActivity lib
  startChild := startChild lib
  get ctx p type := p.await ctx type
  childExecution := childExecution
  signalChild := signalChild
  setQueryHandler := setQueryHandler
  setSignalHandler := setSignalHandler
  sideEffect _ r := Flow.ofExcept (do (← r).toPayload)
  now _ := do return .instant (← Play.engine).clock
  sleep := sleep

end Simulator

/-! ### Functions of a worker -/

namespace Simulator

/-- Answers a query of a run by its handler. -/
def query (ctx : Context) (name : String) (args : List Data) : Play Data := do
  let runId := (← own ctx).runId
  let w ← Flow.world
  if (w.engine.queryHandlers.lookup runId).isNone then Flow.fail (.missingKey (.str runId))
  else
    match w.engine.queryHandlers.get? runId name with
    | some h => Flow.ofExcept (w.answer h args)
    | none => Flow.fail (.missingKey (.str name))

def programHost (w : Primitives Simulator) : ProgramHost Simulator where
  primitives := w
  calls := do return (← Play.engine).callData
  query := query
  signalExternal _ _ _ _ _ := Flow.fail (.error .access "no other workflow executions")

/-- The functions of a worker whose workflows nest at most as deep as the number says. -/
def library (plugins : PluginSet Simulator) : Nat → Library Simulator
  | 0 => { activity := fun c => Sample.body c.key, workflow := fun _ _ _ => Flow.fail (.error .recursion "workflows nest too deep") }
  | depth + 1 =>
    { activity := fun c => Sample.body c.key
      workflow := ScriptService.runFunction plugins (programHost (primitives (library plugins depth))) }

/-- How deep workflows nest. -/
def maxDepth : Nat := 10000

/-- What a workflow sees of an engine with these plugins. -/
def enginePrimitives (plugins : PluginSet Simulator) : Primitives Simulator := primitives (library plugins maxDepth)

end Simulator

end ScriptFlow
