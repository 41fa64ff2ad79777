import ScriptFlow.Flow.Loop
import ScriptFlow.Plugin.Catalogue
import ScriptFlow.Worker.Basic

/-!
# Trying workers

Steps on the workers of one backend: making workers, registering functions and whole services, and looking at the adapters.
-/

namespace ScriptFlow

inductive WorkerStep where
  | create (name location domain taskList : String) (config : Except Fault WorkerConfig)
  | register (worker : String) (kind : RegistrationKind) (function : Callable) (options : Data)
  | workflow (worker name : String)
  | activity (worker name : String)
  | callActivity (worker name : String) (args : List Data)
  | resolve (kind : RegistrationKind) (target : Target)
  | list (worker : String)
  | service (worker : String) (plugins : List String)

namespace WorkerStep

/-- Changes a worker. -/
def update (b : Backend) (name : String) (f : DurableWorker → DurableWorker × Except Fault Unit) : Backend × Except Fault Data :=
  match b.worker? name with
  | .error e => (b, .error e)
  | .ok w =>
    let (w, r) := f w
    (b.put name w, r.map fun _ => .null)

/-- What an activity gives. -/
def call (a : ActivityAdapter) (args : List Data) : Except Fault Data :=
  (Loop.runMain () (do (← a.execute (Sample.body a.function.key) args).settle)).1

def run (b : Backend) : WorkerStep → Backend × Except Fault Data
  | create name location domain taskList config =>
    match do DurableWorker.create location domain taskList (← config) with
    | .error e => (b, .error e)
    | .ok w => (b.add name w, .ok (.object [("config", w.config.toData), ("shared", .bool true)]))
  | register name kind c options => update b name fun w =>
    match Model.read RegisterOptions.reader options with
    | .error e => (w, .error e)
    | .ok o => w.register { kind := kind, function := c, options := o }
  | workflow worker name => (b, do return (← (← b.worker? worker).workflow? name).toData)
  | activity worker name => (b, do return (← (← b.worker? worker).activity? name).toData)
  | callActivity worker name args => (b, do call (← (← b.worker? worker).activity? name) args)
  | resolve kind target => (b, (b.nameOf kind target).map .str)
  | list worker => (b, do return (← b.worker? worker).names)
  | service worker ids => update b worker fun w =>
    match PluginSet.ofList (ids.map (Catalogue.plugin (ε := Unit))) with
    | .error e => (w, .error e)
    | .ok plugins =>
      let (w, _, r) := ScriptService.registerOn plugins w
      (w, r)

def runAll (b : Backend) : List WorkerStep → List (Except Fault Data)
  | [] => []
  | s :: rest =>
    let (b, r) := run b s
    r :: runAll b rest

end WorkerStep

end ScriptFlow
