import ScriptFlow.Worker.Life

/-!
# Trying the life of a worker

Steps in the life of one worker. Each shows how it ended, what the engine and the log have seen of it, and whether the worker holds a pool of threads.
-/

namespace ScriptFlow

inductive LifeStep where
  | start
  | stop
  | run (stop : StopPlan)

structure LifeReport where
  /-- how the step ended, if it did -/
  outcome : Option (Except Fault Unit)
  isRun : Bool
  seen : Sightings
  holdsPool : Bool

namespace LifeStep

def perform (plan : EnginePlan) (l : WorkerLife) : LifeStep → WorkerLife × Option (Except Fault Unit)
  | start =>
    let (l, r) := l.start plan
    (l, some r)
  | stop => (l.stop, some (.ok ()))
  | run plan' => l.run plan plan'

def isRun : LifeStep → Bool
  | run _ => true
  | _ => false

def runAll (plan : EnginePlan) (l : WorkerLife) : List LifeStep → List LifeReport
  | [] => []
  | s :: rest =>
    let (l, r) := perform plan { l with seen := {} } s
    { outcome := r, isRun := s.isRun, seen := l.seen, holdsPool := l.pool.isSome } :: runAll plan l rest

end LifeStep

/-- A life to try: the worker, what is registered, and whether it was given a client. -/
structure LifeTrial where
  location : String
  domain : String
  taskList : String
  config : Except Fault WorkerConfig
  hasClient : Bool
  registrations : List (RegistrationKind × Callable)
  plan : EnginePlan
  steps : List LifeStep

namespace LifeTrial

/-- The name of a client that a worker is given. -/
def givenClient : String := "given client"

/-- Functions are registered under their own names. -/
def requests (t : LifeTrial) : List RegistrationRequest :=
  t.registrations.map fun (kind, c) => { kind := kind, function := c, options := { name := some c.key } }

def run (t : LifeTrial) : Except Fault (List LifeReport) := do
  let worker ← DurableWorker.create t.location t.domain t.taskList (← t.config)
  let (worker, registered) := worker.registerAll t.requests
  registered
  return LifeStep.runAll t.plan { worker := worker, client := if t.hasClient then some givenClient else none } t.steps

end LifeTrial

end ScriptFlow
