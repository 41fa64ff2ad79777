import ScriptFlow.Options.Basic

/-!
# Options of calls to the durable engine

The options of activities and child workflows under the names of the engine. Empty texts count as absent; a child cannot run in another namespace than its
parent.
-/

namespace ScriptFlow

/-- How a call is cancelled. -/
def cancellationName (waits : Bool) : String := if waits then "WAIT_CANCELLATION_COMPLETED" else "TRY_CANCEL"

namespace RetryPolicy

def callData (p : RetryPolicy) : Data := .object
  [("initial_interval", .span p.initialInterval), ("backoff_coefficient", .float p.backoffCoefficient),
   ("maximum_interval", .ofOption .span p.maximumInterval), ("maximum_attempts", .int p.maximumAttempts),
   ("non_retryable_error_types", if p.nonRetriableReasons.isEmpty then .null else .list (p.nonRetriableReasons.map .str))]

end RetryPolicy

/-- Fields without those that are absent. -/
def presentFields (fields : List (String × Option Data)) : Data :=
  .object (fields.filterMap fun f => f.2.map fun d => (f.1, d))

namespace ActivityOptions

/-- The arguments of a call; `default` is the task queue of a call without one of its own. -/
def callData (o : ActivityOptions) (default : Option String) : Data := presentFields
  [("task_queue", some (.ofOption .str ((nonEmpty o.taskList).orElse fun _ => default))),
   ("schedule_to_close_timeout", some (.ofOption .span o.scheduleToClose)),
   ("schedule_to_start_timeout", some (.ofOption .span o.scheduleToStart)),
   ("start_to_close_timeout", some (.ofOption .span o.startToClose)), ("heartbeat_timeout", some (.ofOption .span o.heartbeat)),
   ("cancellation_type", some (.str (cancellationName o.waitForCancellation))), ("activity_id", (nonEmpty o.activityId).map .str),
   ("retry_policy", o.retryPolicy.map RetryPolicy.callData)]

end ActivityOptions

namespace ChildOptions

/-- Refuses a domain other than the namespace. -/
def checkDomain (o : ChildOptions) (space : String) : Except Fault Unit :=
  match nonEmpty o.domain with
  | some d =>
    if d == space then .ok ()
    else .error (.custom "invalid-argument" [.str ("child workflow domain '" ++ d ++ "' differs from namespace '" ++ space ++ "'")])
  | none => .ok ()

/-- A search attribute has a list of values. -/
def attributeValues : Data → Data
  | .list xs => .list xs
  | d => .list [d]

def memoData (o : ChildOptions) : Option Data := (o.memo.filter (!·.isEmpty)).map Data.object

def attributesData (o : ChildOptions) : Option Data :=
  (o.searchAttributes.filter (!·.isEmpty)).map fun es => .object (es.map fun e => (e.1, attributeValues e.2))

/-- The arguments of a call; `id` is the identity of a child without one of its own. -/
def callData (o : ChildOptions) (space id : String) (default : Option String) : Except Fault Data := do
  o.checkDomain space
  return presentFields
    [("id", some (.str ((nonEmpty o.workflowId).getD id))),
     ("task_queue", some (.ofOption .str ((nonEmpty o.taskList).orElse fun _ => default))),
     ("execution_timeout", some (.ofOption .span o.executionTimeout)), ("task_timeout", some (.ofOption .span o.taskTimeout)),
     ("cancellation_type", some (.str (cancellationName o.waitForCancellation))), ("cron_schedule", (nonEmpty o.cronSchedule).map .str),
     ("memo", o.memoData), ("search_attributes", o.attributesData), ("retry_policy", o.retryPolicy.map RetryPolicy.callData)]

end ChildOptions

end ScriptFlow
