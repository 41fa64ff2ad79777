import ScriptFlow.Durable.CallOptions
import ScriptFlow.Durable.Headers

/-!
# Commands

What an execution asks of the durable engine, as a record per command. The values in a command are as they arrive at the other side of the wire. Commands
about one call share its number; numbers are counted per kind of call from one.

`RetryPolicy.complaint?` says which policies the engine refuses.
-/

namespace ScriptFlow

namespace RetryPolicy

/-- Why the engine refuses a policy; one that allows a single attempt is not looked at any further. -/
def complaint? (p : RetryPolicy) : Option String :=
  if p.maximumAttempts == 1 then none
  else if p.initialInterval < 0 then some "Initial interval cannot be negative"
  else
    match p.maximumInterval with
    | none => none
    | some most =>
      if most == 0 then none
      else if most < 0 then some "Maximum interval cannot be negative"
      else if most < p.initialInterval then some "Maximum interval cannot be less than initial interval"
      else none

/-- The longest pause between attempts; without one of its own, a hundred times the first. -/
def longestPause (p : RetryPolicy) : Int :=
  match p.maximumInterval with
  | some most => if most == 0 then 100 * p.initialInterval else most
  | none => 100 * p.initialInterval

/-- The policy as a command carries it. -/
def commandData (p : RetryPolicy) : Data := .object
  [("initial", .span p.initialInterval), ("coefficient", .float p.backoffCoefficient), ("maximum_interval", .span p.longestPause),
   ("maximum_attempts", .int p.maximumAttempts), ("non_retryable", .list (p.nonRetriableReasons.map .str))]

end RetryPolicy

/-- Identities that are made up for an execution all show as this text. -/
def anyIdentity : String := "<uuid>"

/-- A task for an activity worker. -/
structure ActivityTask where
  seq : Nat
  id : String
  type : String
  args : List Data
  headers : Message
  scheduleToClose : Option Int := none
  scheduleToStart : Option Int := none
  startToClose : Option Int := none
  retryPolicy : Option RetryPolicy := none
  waitForCancellation : Bool := false
  taskQueue : String := ""
  heartbeat : Option Int := none

/-- A task for the worker of the execution itself: a side effect under a key. -/
structure SideEffectTask where
  seq : Nat
  key : Nat
  headers : Message

structure ChildRequest where
  seq : Nat
  id : String
  type : String
  taskQueue : String
  args : List Data
  executionTimeout : Option Int := none
  taskTimeout : Option Int := none
  retryPolicy : Option RetryPolicy := none
  cronSchedule : String := ""
  headers : Message := []
  memo : List (String × Data) := []
  searchAttributes : List (String × Data) := []
  /-- what becomes of a cancellation, by its number -/
  cancellation : Nat := 0

/-- Who gets a signal. -/
inductive SignalTarget where
  | child (id : String)
  | execution (id runId : String)

structure SignalRequest where
  seq : Nat
  target : SignalTarget
  name : String
  args : List Data
  headers : Message

inductive Command where
  | scheduleActivity (task : ActivityTask)
  | scheduleSideEffect (task : SideEffectTask)
  | cancelActivity (seq : Nat)
  | cancelSideEffect (seq : Nat)
  | startChild (request : ChildRequest)
  | cancelChild (seq : Nat)
  | startTimer (seq : Nat) (after : Int)
  | cancelTimer (seq : Nat)
  | signal (request : SignalRequest)
  | cancelSignal (seq : Nat)
  /-- the answer of the query with a number in its activation -/
  | respond (number : Nat) (answer : Except String Data)
  | complete (result : Data)
  | failExecution (failure : Fault)
  | cancelExecution

namespace Command

/-- Does the command end the execution? -/
def isTerminal : Command → Bool
  | complete _ | failExecution _ | cancelExecution => true
  | _ => false

def isResponse : Command → Bool
  | respond .. => true
  | _ => false

/-- Commands without those after the end; queries are answered all the same. -/
def untilEnd : List Command → List Command
  | [] => []
  | c :: rest => c :: if c.isTerminal then rest.filter isResponse else untilEnd rest

/-- A span that says something: none at all and zero count as absent. -/
def timeout (us : Option Int) : Option Data := (us.filter (· != 0)).map .span

/-- The failure of an execution. -/
def failureData : Fault → Data
  | .application message type details nonRetryable => .object
    [("message", .str message), ("type", .str (type.getD "")), ("details", .list details), ("non_retryable", .bool nonRetryable)]
  | .engineCancelled message => .object [("canceled", .bool true), ("message", .str message)]
  | e => .object [("message", .str (e.message))]

/-- A command about a call that is known by its number. -/
def about (name : String) (seq : Nat) : Data := .object [("command", .str name), ("seq", .int seq)]

def activityData (t : ActivityTask) : Data := presentFields
  [("command", some (.str "schedule_activity")), ("seq", some (.int t.seq)), ("id", some (.str t.id)), ("type", some (.str t.type)),
   ("args", some (.list t.args)), ("headers", some t.headers.toData), ("schedule_to_close_timeout", timeout t.scheduleToClose),
   ("schedule_to_start_timeout", timeout t.scheduleToStart), ("start_to_close_timeout", timeout t.startToClose),
   ("retry", some (.ofOption RetryPolicy.commandData t.retryPolicy)),
   ("cancellation", some (.int (if t.waitForCancellation then 1 else 0))), ("task_queue", some (.str t.taskQueue)),
   ("heartbeat_timeout", timeout t.heartbeat)]

def childData (r : ChildRequest) : Data := presentFields
  [("command", some (.str "start_child_workflow_execution")), ("seq", some (.int r.seq)), ("id", some (.str r.id)),
   ("type", some (.str r.type)), ("task_queue", some (.str r.taskQueue)), ("args", some (.list r.args)),
   ("workflow_execution_timeout", timeout r.executionTimeout), ("workflow_task_timeout", timeout r.taskTimeout),
   ("retry", some (.ofOption RetryPolicy.commandData r.retryPolicy)), ("cron", some (.str r.cronSchedule)),
   ("headers", some r.headers.toData), ("memo", some (.object r.memo)), ("search", some (.object r.searchAttributes)),
   ("cancellation", some (.int r.cancellation))]

def signalData (r : SignalRequest) : Data := presentFields
  [("command", some (.str "signal_external_workflow_execution")), ("seq", some (.int r.seq)), ("name", some (.str r.name)),
   ("args", some (.list r.args)), ("headers", some r.headers.toData),
   ("child", some (.str (match r.target with
     | .child id => id
     | .execution .. => ""))),
   ("execution", match r.target with
     | .child _ => none
     | .execution id runId => some (.object [("id", .str id), ("run_id", .str runId)]))]

/-- How long a side effect may take. -/
def sideEffectTimeout : Int := 30000000

/-- The name of the activity that runs side effects. -/
def sideEffectType : String := "starworker.side_effect"

def toData : Command → Data
  | scheduleActivity t => activityData t
  | scheduleSideEffect t => .object
    [("command", .str "schedule_local_activity"), ("seq", .int t.seq), ("type", .str sideEffectType), ("args", .list [.str anyIdentity]),
     ("start_to_close_timeout", .span sideEffectTimeout)]
  | cancelActivity seq => about "request_cancel_activity" seq
  | cancelSideEffect seq => about "request_cancel_local_activity" seq
  | startChild r => childData r
  | cancelChild seq => about "cancel_child_workflow_execution" seq
  | startTimer seq after => .object [("command", .str "start_timer"), ("seq", .int seq), ("after", .span after)]
  | cancelTimer seq => about "cancel_timer" seq
  | signal r => signalData r
  | cancelSignal seq => about "cancel_signal_workflow" seq
  | respond number answer => .object
    [("command", .str "respond_to_query"), ("id", .str ("q" ++ toString number)),
     match answer with
     | .ok d => ("ok", d)
     | .error text => ("failed", .str text)]
  | complete result => .object [("command", .str "complete_workflow_execution"), ("result", result)]
  | failExecution failure => .object [("command", .str "fail_workflow_execution"), ("failure", failureData failure)]
  | cancelExecution => .object [("command", .str "cancel_workflow_execution")]

end Command

end ScriptFlow
