import ScriptFlow.Options.Model

/-!
# Options of calls and registrations

Options of activities and child workflows do not depend on an engine: the adapters translate them. All times are spans in microseconds. A record never
changes; applying an option makes a new one.
-/

namespace ScriptFlow

/-- When and how often a failed call is tried again. -/
structure RetryPolicy where
  initialInterval : Int := 1000000
  backoffCoefficient : Float := 2.0
  maximumInterval : Option Int := none
  /-- zero means no limit -/
  maximumAttempts : Int := 0
  nonRetriableReasons : List String := []

/-- Options of the activities that are started under a context. -/
structure ActivityOptions where
  taskList : Option String := none
  scheduleToClose : Option Int := none
  scheduleToStart : Option Int := none
  startToClose : Option Int := some 300000000
  heartbeat : Option Int := none
  waitForCancellation : Bool := false
  activityId : Option String := none
  retryPolicy : Option RetryPolicy := none

/-- Options of the child workflows that are started under a context. -/
structure ChildOptions where
  domain : Option String := none
  workflowId : Option String := none
  taskList : Option String := none
  executionTimeout : Option Int := none
  taskTimeout : Option Int := none
  waitForCancellation : Bool := false
  cronSchedule : Option String := none
  memo : Option (List (String × Data)) := none
  searchAttributes : Option (List (String × Data)) := none
  retryPolicy : Option RetryPolicy := none

/-- Options of a registration. -/
structure RegisterOptions where
  name : Option String := none
  shortName : Bool := false
  allowDuplicate : Bool := false

instance : Inhabited RetryPolicy := ⟨{}⟩
instance : Inhabited ActivityOptions := ⟨{}⟩
instance : Inhabited ChildOptions := ⟨{}⟩
instance : Inhabited RegisterOptions := ⟨{}⟩

/-- An absent value is null. -/
def Data.ofOption {α : Type} (f : α → Data) : Option α → Data
  | some a => f a
  | none => .null

/-- A text that says something: an empty one counts as absent. -/
def nonEmpty (s : Option String) : Option String := s.filter (· != "")

open Model

namespace RetryPolicy

def reader : Reader RetryPolicy := record fun d => do
  return { initialInterval := ← field d "initial_interval" 1000000 span
           backoffCoefficient := ← field d "backoff_coefficient" 2.0 (numberFrom 1.0)
           maximumInterval := ← field d "maximum_interval" none (optional span)
           maximumAttempts := ← field d "maximum_attempts" 0 (wholeFrom 0)
           nonRetriableReasons := ← field d "non_retriable_error_reasons" [] (listOf text) }

def toData (p : RetryPolicy) : Data := .object
  [("initial_interval", .span p.initialInterval), ("backoff_coefficient", .float p.backoffCoefficient),
   ("maximum_interval", .ofOption .span p.maximumInterval), ("maximum_attempts", .int p.maximumAttempts),
   ("non_retriable_error_reasons", .list (p.nonRetriableReasons.map .str))]

end RetryPolicy

namespace ActivityOptions

def reader : Reader ActivityOptions := record fun d => do
  return { taskList := ← field d "task_list" none (optional text)
           scheduleToClose := ← field d "schedule_to_close_timeout" none (optional span)
           scheduleToStart := ← field d "schedule_to_start_timeout" none (optional span)
           startToClose := ← field d "start_to_close_timeout" (some 300000000) (optional span)
           heartbeat := ← field d "heartbeat_timeout" none (optional span)
           waitForCancellation := ← field d "wait_for_cancellation" false flag
           activityId := ← field d "activity_id" none (optional text)
           retryPolicy := ← field d "retry_policy" none (optional RetryPolicy.reader) }

def toData (o : ActivityOptions) : Data := .object
  [("task_list", .ofOption .str o.taskList), ("schedule_to_close_timeout", .ofOption .span o.scheduleToClose),
   ("schedule_to_start_timeout", .ofOption .span o.scheduleToStart), ("start_to_close_timeout", .ofOption .span o.startToClose),
   ("heartbeat_timeout", .ofOption .span o.heartbeat), ("wait_for_cancellation", .bool o.waitForCancellation),
   ("activity_id", .ofOption .str o.activityId), ("retry_policy", .ofOption RetryPolicy.toData o.retryPolicy)]

end ActivityOptions

namespace ChildOptions

def reader : Reader ChildOptions := record fun d => do
  return { domain := ← field d "domain" none (optional text)
           workflowId := ← field d "workflow_id" none (optional text)
           taskList := ← field d "task_list" none (optional text)
           executionTimeout := ← field d "execution_start_to_close_timeout" none (optional span)
           taskTimeout := ← field d "task_start_to_close_timeout" none (optional span)
           waitForCancellation := ← field d "wait_for_cancellation" false flag
           cronSchedule := ← field d "cron_schedule" none (optional text)
           memo := ← field d "memo" none (optional namedValues)
           searchAttributes := ← field d "search_attributes" none (optional namedValues)
           retryPolicy := ← field d "retry_policy" none (optional RetryPolicy.reader) }

def toData (o : ChildOptions) : Data := .object
  [("domain", .ofOption .str o.domain), ("workflow_id", .ofOption .str o.workflowId), ("task_list", .ofOption .str o.taskList),
   ("execution_start_to_close_timeout", .ofOption .span o.executionTimeout),
   ("task_start_to_close_timeout", .ofOption .span o.taskTimeout), ("wait_for_cancellation", .bool o.waitForCancellation),
   ("cron_schedule", .ofOption .str o.cronSchedule), ("memo", .ofOption Data.object o.memo),
   ("search_attributes", .ofOption Data.object o.searchAttributes), ("retry_policy", .ofOption RetryPolicy.toData o.retryPolicy)]

end ChildOptions

namespace RegisterOptions

def reader : Reader RegisterOptions := record fun d => do
  return { name := ← field d "name" none (optional text)
           shortName := ← field d "enable_short_name" false flag
           allowDuplicate := ← field d "disable_already_registered_check" false flag }

def toData (o : RegisterOptions) : Data := .object
  [("name", .ofOption .str o.name), ("enable_short_name", .bool o.shortName),
   ("disable_already_registered_check", .bool o.allowDuplicate)]

end RegisterOptions

/-- The records by name: reads fields and shows the record. -/
def readOptions (model : String) (fields : Data) : Except Fault Data :=
  match model with
  | "RetryPolicy" => (Model.read RetryPolicy.reader fields).map (·.toData)
  | "ActivityOptions" => (Model.read ActivityOptions.reader fields).map (·.toData)
  | "ChildWorkflowOptions" => (Model.read ChildOptions.reader fields).map (·.toData)
  | "RegisterOptions" => (Model.read RegisterOptions.reader fields).map (·.toData)
  | _ => .error (.missingKey (.str model))

end ScriptFlow
