import ScriptFlow.Worker.Config
import ScriptFlow.Workflow.World

/-!
# Connections to the engine

A process talks to the engine through a client: it connects once and then polls, starts workflows or asks about them. `Sightings` is the record of what the engine
and the log have seen of a process, in order; `EnginePlan` says how the engine behaves.
-/

namespace ScriptFlow

/-- Where and how a client connects. -/
structure Connection where
  target : String
  domain : Data
  tls : Bool

/-- A poller as the engine sees it. -/
structure PollerShape where
  client : String
  taskQueue : Data
  workflows : List String
  activities : List String
  maxConcurrentActivities : Data
  threads : Data

/-- What the engine sees of a process. -/
inductive EngineCall where
  | connect (c : Connection)
  | poller (p : PollerShape)
  | run
  | runEnded
  | runCancelled
  | shutdown

namespace EngineCall

def texts (ss : List String) : Data := .list (ss.map .str)

def mark (name : String) : Data := .object [(name, .bool true)]

def toData : EngineCall → Data
  | connect c => .object
    [("connect", .str c.target), ("namespace", c.domain), ("tls", .bool c.tls), ("converter", .str "LoggingPayloadConverter"),
     ("interceptors", texts ["HeadersInterceptor"])]
  | poller p => .object
    [("poller", .str p.client), ("task_queue", p.taskQueue), ("workflows", texts p.workflows), ("activities", texts p.activities),
     ("max_concurrent_activities", p.maxConcurrentActivities), ("threads", p.threads), ("runner", .str "UnsandboxedWorkflowRunner")]
  | run => mark "run"
  | runEnded => mark "run_ended"
  | runCancelled => mark "run_cancelled"
  | shutdown => mark "shutdown"

end EngineCall

structure Sightings where
  calls : List EngineCall := []
  log : List LogLine := []
  deriving Inhabited

namespace Sightings

def call (s : Sightings) (c : EngineCall) : Sightings := { s with calls := s.calls ++ [c] }

def line (s : Sightings) (level : LogLevel) (text : String) : Sightings := { s with log := s.log ++ [⟨level, text⟩] }

def info (s : Sightings) (text : String) : Sightings := s.line .info text

end Sightings

/-- How the polling of a worker goes. -/
inductive PollerPlan where
  /-- until it is shut down -/
  | untilShutdown
  /-- it ends at once -/
  | returns
  | fails (e : Fault)

/-- How the engine behaves. -/
structure EnginePlan where
  connectError : Option Fault := none
  /-- the failure to make a poller -/
  pollerError : Option Fault := none
  poller : PollerPlan := .untilShutdown

/-- The name of a client that was made by connecting. -/
def connectedClient : String := "fake client"

namespace WorkerConfig

/-- Connects to the engine of a configuration; gives the client. -/
def connect (c : WorkerConfig) (plan : EnginePlan) (s : Sightings) : Sightings × Except Fault String :=
  match Location.ofData c.location with
  | .error e => (s, .error e)
  | .ok l =>
    let s := s.info ("Connecting to Temporal at " ++ l.target ++ " (" ++ l.scheme ++ ")...")
    let s := s.call (.connect { target := l.target, domain := c.domain, tls := l.tls })
    match plan.connectError with
    | some e => (s, .error e)
    | none => (s, .ok connectedClient)

end WorkerConfig

end ScriptFlow
