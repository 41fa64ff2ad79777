import ScriptFlow.Plugin.Catalogue
import ScriptFlow.Worker.Life

/-!
# Worker processes

A worker process takes its configuration from the surroundings unless it is given one, serves scripts with the plugins it is given or with those that the configuration selects, and
runs until it is stopped. Being cancelled is an orderly end.
-/

namespace ScriptFlow

/-- A process that serves scripts. -/
structure WorkerProcess where
  surroundings : Surroundings := {}
  config : Option WorkerConfig := none
  /-- plugins by ID; without them the configuration selects bundled ones -/
  plugins : Option (List String) := none
  plan : EnginePlan := {}
  stop : StopPlan := .none

namespace WorkerProcess

/-- The plugins that a configuration names, if it names any. -/
def selected (c : WorkerConfig) : Except Fault (Option (List String)) :=
  if !c.plugins.truthy then .ok none
  else
    match c.plugins with
    | .str s => .ok (some (s.toList.map fun ch => String.ofList [ch]))
    | d =>
      match d.items?.bind fun ds => ds.mapM Data.text? with
      | some ids => .ok (some ids)
      | none => .error (.error .misuse "plugins are a list of texts")

/-- The plugins of the process. -/
def pluginList (p : WorkerProcess) (c : WorkerConfig) : Except Fault (List (Plugin Unit)) :=
  match p.plugins with
  | some ids => .ok (ids.map Catalogue.plugin)
  | none => do Catalogue.select (← selected c)

/-- A worker for a configuration. -/
def workerFor (c : WorkerConfig) : Except Fault DurableWorker := do
  c.validate
  return { config := c }

/-- What a process starts with. -/
def prepare (p : WorkerProcess) : Except Fault (WorkerConfig × DurableWorker × PluginSet Unit) := do
  let config ← match p.config with
    | some c => pure c
    | none => WorkerConfig.load p.surroundings none
  let plugins ← p.pluginList config
  let worker ← workerFor config
  return (config, worker, ← PluginSet.ofList plugins)

/-- The line about a worker that starts. -/
def startingText (c : WorkerConfig) (ids : List String) : String :=
  "Starting worker on queue '" ++ c.taskList.text ++ "' with plugins " ++ (Data.list (ids.map .str)).expression ++ "..."

/-- How the run of the worker ends for its process. -/
def conclude (seen : Sightings) (ended : Option (Except Fault Unit)) : Sightings × Option (Except Fault Unit) :=
  let cancelled (s : Sightings) : Sightings := s.info "Worker cancelled, shutting down..."
  let stopped (s : Sightings) : Sightings := s.info "Worker stopped."
  match ended with
  | none => (seen, none)
  | some (.error (.taskCancelled _)) => (stopped (cancelled seen), some (.ok ()))
  | some (.error (.error .interrupt m)) => (stopped (cancelled seen), some (.error (.error .interrupt m)))
  | some r => (stopped seen, some r)

/-- Runs the process: what was seen of it and how it ends, if it does. -/
def run (p : WorkerProcess) : Sightings × Option (Except Fault Unit) :=
  match p.prepare with
  | .error e => ({}, some (.error e))
  | .ok (config, worker, plugins) =>
    let (worker, ids, registered) := ScriptService.registerOn plugins worker
    let seen := ids.foldl (fun (s : Sightings) id => s.info ("Registering plugin '" ++ id ++ "'")) {}
    match registered with
    | .error e => (seen, some (.error e))
    | .ok () =>
      let life : WorkerLife := { worker := worker, seen := seen.info (startingText config plugins.ids) }
      let (life, ended) := life.run p.plan p.stop
      conclude life.seen ended

end WorkerProcess

end ScriptFlow
