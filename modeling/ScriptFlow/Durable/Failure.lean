import ScriptFlow.Data.Text
import ScriptFlow.Workflow.World

/-!
# Errors and the boundary of the durable engine

How errors cross the boundary of the durable engine, and how a workflow function runs behind it.
-/

namespace ScriptFlow

/-! ### Errors at the boundary of the durable engine

* `Fault.translated` — errors of the engine as orchestration code sees them: a cancellation, or the reason and details that application code gave.
* `Fault.failure` — errors of a workflow function as the engine sees them: errors of the library become application failures that are not tried
  again, their own cancellation ends the workflow as cancelled.
-/

namespace Fault

/-- The cancellation with a text, which says something in any case. -/
def canceledWith (message : String) : Fault := .error .canceled (if message == "" then "cancelled" else message)

/-- What the cause of a failed call comes to. -/
def translatedCause? : Fault → Option Fault
  | .engineCancelled m => some (canceledWith m)
  | .application _ type details _ =>
    let reason := type.getD ""
    some (.custom (if reason == "" then "application-error" else reason) details)
  | _ => none

/-- The error in orchestration code, if it differs. -/
def translated? : Fault → Option Fault
  | .activityFailed _ (some cause) | .childFailed _ (some cause) => translatedCause? cause
  | .engineCancelled m => some (canceledWith m)
  | _ => none

def translated (e : Fault) : Fault := e.translated?.getD e

/-- How a workflow function that ends with an error ends for the engine: the error, and whether it stands in for another. -/
def failure (e : Fault) : Fault :=
  match e with
  | .custom reason details => .application e.message (some reason) details true
  | .error .canceled m => .taskCancelled m
  | .taskCancelled _ => .taskCancelled ""
  | e => if e.isLibrary then .application e.message (some e.name) [] true else e

/-- The name of the error that a failure stands in for. -/
def failureCause? (e : Fault) : Option String :=
  match e with
  | .custom .. => some e.name
  | .error .canceled _ => none
  | e => if e.isLibrary then some e.name else none

end Fault

/-! ### The boundary of a workflow function

A workflow function runs as a task of its own, behind a shield. A request to cancel the execution reaches the task of the boundary, not the function: it
cancels the scope of the function's context, and the function winds down at its next wait under that scope. The boundary ends as the function
does, with its errors as the engine knows them.
-/

namespace Boundary

variable {ε : Type}

/-- More requests than any execution gets. -/
def patience : Nat := Nat.pow 2 62

/-- Waits for the function; every request while it runs cancels the scope. -/
def waitFor (scope : ScopeId) (function : FutureId) : Nat → Play ε Data
  | 0 => Flow.fail (.error .runtime "cancelled too often")
  | n + 1 => do
    let waiter ← Flow.ofKernel (·.shield function)
    match ← Flow.attempt (Flow.await waiter) with
    | .error (.taskCancelled m) => do
      if (← Flow.kernel).isDone function then Flow.fail (.taskCancelled m)
      else do
        Flow.modifyKernel (·.cancelScope scope)
        waitFor scope function n
    | r => Flow.ofExcept r

/-- Runs a workflow function under a context's scope. -/
def run (scope : ScopeId) (function : Play ε Data) : Play ε Data := do
  let task ← Flow.spawn function
  match ← Flow.attempt (waitFor scope task patience) with
  | .ok d => return d
  | .error e => Flow.fail e.failure

end Boundary

end ScriptFlow
