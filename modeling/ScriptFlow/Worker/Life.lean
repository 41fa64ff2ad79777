import ScriptFlow.Durable.Command
import ScriptFlow.Worker.Basic
import ScriptFlow.Worker.Connection

/-!
# The life of a worker

A worker is started at most once: it connects unless it was given a client, makes a pool of threads and a poller, and keeps them. Running it starts it and polls until
the poller ends, or until a stop is requested; a stop shuts the poller down and gives up the pool. A run that ends by itself leaves the pool
where it is. After a shutdown the poller can be run again, and then ends at once.

A run waits in phases, and goes on with whatever happens next (`RunEvent`, `RunPhase`); `WorkerLife.attend` is a run in which things happen one after the other.
`WorkerLife.history` says what happens when engine and stop event behave to a plan.
-/

namespace ScriptFlow

/-- How a run is told to stop. -/
inductive StopPlan where
  /-- there is nothing that could tell it -/
  | none
  /-- it could be told and is not -/
  | never
  /-- it is told beforehand -/
  | set
  /-- it is told when everything else has settled -/
  | later
  /-- the run is cancelled when everything has settled -/
  | cancel
  deriving DecidableEq, Repr

/-- Something that happens while a run waits. -/
inductive RunEvent where
  /-- the poller has ended, and the stop has not been requested yet -/
  | pollerEnds (r : Except Fault Unit)
  /-- the stop event is set -/
  | stopRequested
  /-- the poller has been shut down -/
  | shutDown
  /-- the run is cancelled -/
  | cancelled
  /-- the engine sees something -/
  | saw (c : EngineCall)

/-- What a run waits for. -/
inductive RunPhase where
  /-- for the end of the poller, or for a stop event that comes first if it watches one -/
  | polling (watches : Bool)
  /-- for the shutdown that it has asked for; the poller may have ended already -/
  | stopping (ended : Option (Except Fault Unit))
  /-- for the end of the poller after its shutdown -/
  | draining
  | finished (r : Except Fault Unit)

namespace RunPhase

/-- Where a run gets by what happens. -/
def next : RunPhase → RunEvent → RunPhase
  | polling _, .pollerEnds r => finished r
  | polling true, .stopRequested => stopping none
  | stopping _, .pollerEnds r => stopping (some r)
  | stopping none, .shutDown => draining
  | stopping (some r), .shutDown => finished r
  | draining, .pollerEnds r => finished r
  | finished r, _ => finished r
  | _, .cancelled => finished (.error (.taskCancelled ""))
  | p, _ => p

def outcome? : RunPhase → Option (Except Fault Unit)
  | finished r => some r
  | _ => none

end RunPhase

/-- Does a run watch a stop event? -/
def StopPlan.watches : StopPlan → Bool
  | none | cancel => false
  | never | set | later => true

structure WorkerLife where
  worker : DurableWorker
  client : Option String := none
  /-- the poller, once it is made: has it been shut down? -/
  poller : Option Bool := none
  /-- the size of the pool of threads -/
  pool : Option Data := none
  /-- how many pools have been made, and how many of them shut down -/
  made : Nat := 0
  released : Nat := 0
  /-- tasks that wait for a stop event -/
  waiters : Nat := 0
  seen : Sightings := {}

namespace WorkerLife

def config (l : WorkerLife) : WorkerConfig := l.worker.config

def call (l : WorkerLife) (c : EngineCall) : WorkerLife := { l with seen := l.seen.call c }

def info (l : WorkerLife) (text : String) : WorkerLife := { l with seen := l.seen.info text }

/-- The client, connected if need be. -/
def ensureClient (l : WorkerLife) (plan : EnginePlan) : WorkerLife × Except Fault String :=
  match l.client with
  | some c => (l, .ok c)
  | none =>
    match l.config.connect plan l.seen with
    | (seen, .error e) => ({ l with seen := seen }, .error e)
    | (seen, .ok c) => ({ l with seen := seen, client := some c }, .ok c)

/-- The size of a pool of threads. -/
def poolSize (c : WorkerConfig) : Except Fault Data := do
  if c.maxConcurrentActivities.typeName == "NoneType" then return .null
  if ← WorkerConfig.compareZero c.maxConcurrentActivities fun n zero => n.less zero || n.same zero then
    throw (.error .badValue "max_workers must be greater than 0")
  return c.maxConcurrentActivities

/-- The poller for a client and a pool. -/
def pollerShape (l : WorkerLife) (client : String) (threads : Data) : PollerShape :=
  { client := client, taskQueue := l.config.taskList, workflows := l.worker.adapters.map (·.2.name)
    activities := l.worker.definitions.map (·.2.name) ++ [Command.sideEffectType]
    maxConcurrentActivities := l.config.maxConcurrentActivities, threads := threads }

/-- The line about a worker that is ready. -/
def readyText (l : WorkerLife) : String :=
  "Worker ready on task queue '" ++ l.config.taskList.text ++ "' (" ++ toString l.worker.adapters.length ++ " workflows, " ++
    toString l.worker.definitions.length ++ " activities)"

def start (l : WorkerLife) (plan : EnginePlan) : WorkerLife × Except Fault Unit :=
  if l.poller.isSome then (l, .ok ())
  else
    match l.ensureClient plan with
    | (l, .error e) => (l, .error e)
    | (l, .ok client) =>
      match poolSize l.config with
      | .error e => (l, .error e)
      | .ok threads =>
        let l := { l with pool := some threads, made := l.made + 1 }
        match plan.pollerError with
        | some e => (l, .error e)
        | none => (({ l with poller := some false }.call (.poller (l.pollerShape client threads))).info l.readyText, .ok ())

/-- Shuts the poller down, if there is one. -/
def shutPoller (l : WorkerLife) : WorkerLife :=
  match l.poller with
  | some _ => { l with poller := some true }.call .shutdown
  | none => l

/-- Gives up the pool, if there is one. -/
def releasePool (l : WorkerLife) : WorkerLife :=
  match l.pool with
  | some _ => { l with pool := none, released := l.released + 1 }
  | none => l

def stop (l : WorkerLife) : WorkerLife := l.shutPoller.releasePool

/-- What a run does when something happens. A poller that ends first takes the wait for the stop event back, a cancellation does not. -/
def react (l : WorkerLife) (p : RunPhase) (e : RunEvent) : WorkerLife :=
  match p, e with
  | .finished _, _ => l
  | .polling true, .pollerEnds _ => { l with waiters := l.waiters - 1 }
  | .polling true, .stopRequested => ({ l with waiters := l.waiters - 1 }.info "Stop requested, shutting down worker...").shutPoller
  | .stopping _, .shutDown => l.releasePool
  | _, .saw c => l.call c
  | _, _ => l

/-- A run in which things happen one after the other. -/
def attend (l : WorkerLife) (p : RunPhase) : List RunEvent → WorkerLife × RunPhase
  | [] => (l, p)
  | e :: rest => attend (l.react p e) (p.next e) rest

/-- A run that may watch a stop event waits. -/
def watch (l : WorkerLife) (watches : Bool) : WorkerLife := if watches then { l with waiters := l.waiters + 1 } else l

/-- A run: what happens in it may depend on the worker once it is started. -/
def runThrough (l : WorkerLife) (plan : EnginePlan) (watches : Bool) (happens : WorkerLife → List RunEvent) :
    WorkerLife × Option (Except Fault Unit) :=
  match l.start plan with
  | (l, .error e) => (l, some (.error e))
  | (l, .ok ()) =>
    let (l', p) := (l.watch watches).attend (.polling watches) (happens l)
    (l', p.outcome?)

/-- What happens in a run. -/
def history (l : WorkerLife) (plan : EnginePlan) (stop : StopPlan) : List RunEvent :=
  let (saw, ended) : List RunEvent × Option (Except Fault Unit) := match plan.poller with
    | .returns => ([], some (.ok ()))
    | .fails e => ([], some (.error e))
    | .untilShutdown => if l.poller == some true then ([.saw .runEnded], some (.ok ())) else ([], none)
  .saw .run :: saw ++ match stop, ended with
    | .set, some r => [.stopRequested, .pollerEnds r, .shutDown]
    | .set, none | .later, none => [.stopRequested, .shutDown, .saw .runEnded, .pollerEnds (.ok ())]
    | _, some r => [.pollerEnds r]
    | .cancel, none => [.saw .runCancelled, .cancelled]
    | .none, none | .never, none => []

/-- Runs a worker: how the run ends, if it does. -/
def run (l : WorkerLife) (plan : EnginePlan) (stop : StopPlan) : WorkerLife × Option (Except Fault Unit) :=
  l.runThrough plan stop.watches fun l => l.history plan stop

end WorkerLife

end ScriptFlow
