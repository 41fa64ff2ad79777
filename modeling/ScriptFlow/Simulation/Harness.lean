import ScriptFlow.Flow.Loop
import ScriptFlow.Script.Sources
import ScriptFlow.Simulation.Primitives

/-!
# The script harness

A harness runs functions of scripts as the script workflow of a simulated engine. The engine lives as long as the harness: expectations, recorded calls, handlers
and the clock carry over from one execution to the next, while the sources are read anew for each. An execution that is cancelled from outside leaves the
harness without a new outcome.
-/

namespace ScriptFlow

structure Harness where
  files : FileTree
  /-- the directory of the sources -/
  root : String := ""
  plugins : PluginSet Simulator
  identity : Identity
  world : World Simulator
  /-- how the latest execution ended -/
  outcome : Option (Except Fault Data) := none

namespace Harness

/-- The identity of the script workflow when nothing else is said. -/
def defaultIdentity : Identity :=
  { workflowType := ScriptService.workflowName, domain := "default-test-domain", taskList := "default-test-task-list" }

/-- A harness for sources and plugins; the plugins bring their functions. -/
def create (files : FileTree) (root : String) (plugins : List (Plugin Simulator)) (identity : Identity) : Except Fault Harness := do
  let plugins ← PluginSet.ofList plugins
  let registry ← ScriptService.register plugins {}
  return { files := files, root := root, plugins := plugins, identity := identity, world := { engine := { registry := registry } } }

def engine (h : Harness) : Simulator := h.world.engine

/-- Adds an expectation and gives its place. -/
def expect (h : Harness) (p : ExpectationPlan) : Harness × Except Fault Nat :=
  let (x, failure) := p.expectation
  let place := h.engine.expectations.length
  ({ h with world := { h.world with engine := { h.engine with expectations := h.engine.expectations ++ [x] } } },
    match failure with
    | some e => .error e
    | none => .ok place)

/-- The script workflow under a context of its own. -/
def runScript (h : Harness) (request : ScriptRequest) (headers : List (Data × Data)) : Simulator.Play Data := do
  let scope ← Flow.ofKernel (·.newScope)
  let ctx : Context := { headers := headers, scope := scope, identity := some h.identity }
  Simulator.runWorkflow (Simulator.library h.plugins Simulator.maxDepth) ctx ScriptService.workflowName [request.toData]

/-- Runs a function; gives its result and what was logged if it came to run. -/
def execute (h : Harness) (request : ScriptRequest) (headers : List (Data × Data)) :
    Harness × Except Fault Data × Option (List LogLine) :=
  match Sources.load h.files h.root with
  | .error e => (h, .error e, none)
  | .ok sources =>
    let request := { request with sources := .object (sources.map fun s => (s.1, .str s.2)) }
    let (r, w) := Loop.runMain { h.world with log := [] } (h.runScript request headers)
    let kept := match r with
      | .ok _ => some r
      | .error e => if e.isOrdinary then some r else h.outcome
    ({ h with world := w, outcome := kept }, r, some w.lines)

/-- The result of the latest execution, decoded. -/
def result (h : Harness) (type : Option ResultType) : Except Fault Data :=
  match h.outcome with
  | none => .error (.error .runtime "no function has been executed yet")
  | some r => do (← r).decodeAs type

/-- Asks the script workflow. -/
def query (h : Harness) (name : String) (args : List Data) : Except Fault Data :=
  match h.engine.queryHandlers.get? h.identity.runId name with
  | some handler => h.world.answer handler args
  | none => .error (.missingKey (.str ("no query handler '" ++ name ++ "' registered")))

/-- The arguments of the calls of a name, activities first. -/
def argumentsOf (h : Harness) (name : String) : List (List Data) :=
  ((h.engine.activityCalls ++ h.engine.workflowCalls).filter (·.name == name)).map (·.args)

/-- Fails unless every expectation was met and nothing unexpected was called. -/
def verify (h : Harness) : Except Fault Unit :=
  match h.engine.unexpected ++ h.engine.expectations.filterMap (·.complaint?) with
  | [] => .ok ()
  | complaints => .error (.error .assertion ("unmet expectations:\n  " ++ "\n  ".intercalate complaints))

def isCompleted (h : Harness) : Bool := h.outcome.isSome

def hasFailed (h : Harness) : Bool :=
  match h.outcome with
  | some (.error _) => true
  | _ => false

end Harness

end ScriptFlow
