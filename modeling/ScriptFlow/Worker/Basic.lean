import ScriptFlow.Registration.Table
import ScriptFlow.Service.ScriptService
import ScriptFlow.Worker.Adapter
import ScriptFlow.Worker.Config

/-!
# Workers of the durable engine

A worker belongs to one location, domain and task list, which are checked when it is made. Functions are registered first; every registration that succeeds has its
entry in a table and an adapter under the same name. The entry comes first: it stays when no adapter can be made. `Backend` keeps the workers that share one set of primitives, in the order in which they were made: a
function is called by the name it has with the first worker that knows it.
-/

namespace ScriptFlow

/-- Puts an entry in the place of the one with its name, or at the end. -/
def putNamed {α : Type} (entries : List (String × α)) (name : String) (a : α) : List (String × α) :=
  if entries.any (·.1 == name) then entries.map fun e => if e.1 == name then (name, a) else e else entries ++ [(name, a)]

structure DurableWorker where
  config : WorkerConfig
  rules : EngineRules := {}
  registry : Registry := {}
  adapters : List (String × WorkflowAdapter) := []
  definitions : List (String × ActivityAdapter) := []

/-- What is to be registered, one after the other. -/
structure RegistrationRequest where
  kind : RegistrationKind
  function : Callable
  options : RegisterOptions := {}

namespace DurableWorker

/-- A worker for a place; the rest of a configuration is kept. -/
def create (location domain taskList : String) (config : WorkerConfig := {}) : Except Fault DurableWorker := do
  let config := { config with location := .str location, domain := .str domain, taskList := .str taskList }
  config.validate
  return { config := config }

/-- The adapter of a workflow function, with the options of the worker. -/
def workflowAdapter (w : DurableWorker) (name : String) (c : Callable) : Except Fault WorkflowAdapter := do
  WorkflowAdapter.build w.rules name c (← w.config.activityOptions)

def activityAdapter (w : DurableWorker) (name : String) (c : Callable) : Except Fault ActivityAdapter :=
  ActivityAdapter.build w.rules name c

/-- Makes the adapter of a function that has an entry. -/
def adapt (w : DurableWorker) (kind : RegistrationKind) (name : String) (c : Callable) : DurableWorker × Except Fault Unit :=
  match kind with
  | .workflow =>
    match w.workflowAdapter name c with
    | .error e => (w, .error e)
    | .ok adapter => ({ w with adapters := putNamed w.adapters name adapter }, .ok ())
  | .activity =>
    match w.activityAdapter name c with
    | .error e => (w, .error e)
    | .ok adapter => ({ w with definitions := putNamed w.definitions name adapter }, .ok ())

def register (w : DurableWorker) (r : RegistrationRequest) : DurableWorker × Except Fault Unit :=
  match w.registry.enter r.kind r.function r.options with
  | .error e => (w, .error e)
  | .ok (table, entry) => { w with registry := w.registry.setTable table }.adapt r.kind entry.name r.function

/-- Registers one after the other until one is refused; what came before it stays. -/
def registerAll (w : DurableWorker) : List RegistrationRequest → DurableWorker × Except Fault Unit
  | [] => (w, .ok ())
  | r :: rest =>
    match w.register r with
    | (w, .ok ()) => w.registerAll rest
    | failed => failed

def workflow? (w : DurableWorker) (name : String) : Except Fault WorkflowAdapter :=
  match w.adapters.lookup name with
  | some a => .ok a
  | none => .error (.missingKey (.str name))

def activity? (w : DurableWorker) (name : String) : Except Fault ActivityAdapter :=
  match w.definitions.lookup name with
  | some a => .ok a
  | none => .error (.missingKey (.str name))

/-- The names in the tables and of the adapters. -/
def names (w : DurableWorker) : Data :=
  let texts (ss : List String) : Data := .list (ss.map .str)
  .object
    [("workflows", texts w.registry.workflows.names), ("activities", texts w.registry.activities.names),
     ("classes", texts (w.adapters.map Prod.fst)), ("definitions", texts (w.definitions.map Prod.fst))]

end DurableWorker

namespace ScriptService

variable {ε : Type}

/-- What a plugin registers. -/
def requestsOf (p : Plugin ε) : List RegistrationRequest :=
  p.registrations.map fun (kind, c) => { kind := kind, function := c, options := { name := c.shortName } }

/-- Registers plugin by plugin; gives the plugins that were come to. -/
def registerPlugins (w : DurableWorker) : List (Plugin ε) → DurableWorker × List String × Except Fault Unit
  | [] => (w, [], .ok ())
  | p :: rest =>
    match w.registerAll (requestsOf p) with
    | (w, .error e) => (w, [p.id], .error e)
    | (w, .ok ()) =>
      let (w, ids, r) := registerPlugins w rest
      (w, p.id :: ids, r)

/-- Registers the script workflow and then what the plugins bring. -/
def registerOn (plugins : PluginSet ε) (w : DurableWorker) : DurableWorker × List String × Except Fault Unit :=
  match w.register { kind := .workflow, function := callable, options := { name := some workflowName } } with
  | (w, .error e) => (w, [], .error e)
  | (w, .ok ()) => registerPlugins w plugins.plugins

end ScriptService

/-- Workers that share one set of primitives; of several with one name the latest is meant. -/
structure Backend where
  workers : List (String × DurableWorker) := []

namespace Backend

def worker? (b : Backend) (name : String) : Except Fault DurableWorker :=
  match b.workers.reverse.lookup name with
  | some w => .ok w
  | none => .error (.missingKey (.str name))

def add (b : Backend) (name : String) (w : DurableWorker) : Backend := ⟨b.workers ++ [(name, w)]⟩

/-- Replaces the first entry of a name. -/
def replaceFirst (name : String) (w : DurableWorker) : List (String × DurableWorker) → List (String × DurableWorker)
  | [] => []
  | e :: rest => if e.1 == name then (name, w) :: rest else e :: replaceFirst name w rest

/-- Changes the worker that a name means. -/
def put (b : Backend) (name : String) (w : DurableWorker) : Backend := ⟨(replaceFirst name w b.workers.reverse).reverse⟩

/-- The name of a target of a call. -/
def nameOf (b : Backend) (kind : RegistrationKind) (target : Target) : Except Fault String :=
  Registry.nameAmong (b.workers.map (·.2.registry)) kind target

end Backend

end ScriptFlow
