import ScriptFlow.Data.Decode
import ScriptFlow.Data.Notation
import ScriptFlow.Sample.Functions

/-!
# Programs as data

A program is a list of steps in JSON: each names what it does and, where it matters, the context it does it under. Contexts, promises and lists of
signals have names that the steps of one program share. `ProgramStep.read` reads a step; the steps of a path that a program starts stay data until
that path runs.
-/

namespace ScriptFlow

/-- What a step does. -/
inductive ProgramAction where
  /- contexts -/
  | withValue (name : String) (key value : Data)
  | withHeaders (name : String) (headers : Data)
  | derive (name : String) (changes : Data)
  | withCancel (name : String)
  | disconnect (name : String)
  | withTaskList (name taskList : String)
  | withWorkflowDomain (name domain : String)
  | withWorkflowTaskList (name taskList : String)
  | withActivityOptions (name : String) (options : Data)
  | withChildOptions (name : String) (options : Data)
  | showContext (brief : Bool)
  | value (key default : Data)
  | cancel
  /- calls -/
  | activity (name : String) (target : Target) (args : List Data)
  | child (name : String) (target : Target) (args : List Data)
  | execution (future name : String)
  | signal (future name signal : String) (d : Data)
  | signalExternal (id : String) (runId : Option String) (signal : String) (d : Data)
  /- futures -/
  | future (name : String)
  | settle (future : String) (s : Settling)
  | chain (future source : String)
  | get (future : String) (type : Option ResultType)
  | ready (future : String)
  /- paths -/
  | go (name : String) (steps : List Data)
  | pause (turns : Option Nat)
  | return (value : Option Data)
  | raise (e : Fault)
  /- the engine -/
  | sideEffect (r : Except Fault Data)
  | now
  | sleep (duration : Data)
  /-- the time that is so many seconds from now -/
  | later (seconds : Data)
  | setQuery (name : String) (value : Data)
  | query (name : String) (args : List Data)
  | setSignal (name list : String)
  | received (list : String)
  | info
  | customError (reason : String) (details : List Data)
  | calls
  | unknown (name : String)

/-- Does the step end its path with an error? -/
def ProgramAction.isRaise : ProgramAction → Bool
  | raise _ => true
  | _ => false

structure ProgramStep where
  /-- the context, or that of the path -/
  context : Option String
  /-- does a failure end the path? -/
  propagates : Bool
  action : ProgramAction

namespace ProgramStep

/-- The error of a step that needs an error and has none. -/
def noFault : Fault := .missingKey (.str "error")

/-- Reads a step. -/
def read (d : Data) : ProgramStep :=
  let field (name : String) : Data := (d.field? name).getD .null
  let text (name : String) : String := ((field name).text?).getD ""
  let decoded (name : String) : Data := Data.ofNotation (field name)
  let items (x : Data) : List Data := (x.items?).getD []
  let name := text "as"
  let isRaw := (field "raw").truthy
  let args := if isRaw then items (field "args") else items (decoded "args")
  let target : Target := match d.field? "fn" with
    | some (.str key) =>
      match Sample.named? key with
      | some c => .function c
      | none => .name key
    | _ => .name (text "name")
  let fault : Fault := (Fault.ofReport? (field "error")).getD noFault
  let action : ProgramAction := match text "do" with
    | "with_value" => .withValue name (decoded "key") (decoded "value")
    | "with_headers" => .withHeaders name (decoded "headers")
    | "derive" => .derive name (decoded "changes")
    | "with_cancel" => .withCancel name
    | "new_disconnected_context" => .disconnect name
    | "with_task_list" => .withTaskList name (text "name")
    | "with_workflow_domain" => .withWorkflowDomain name (text "name")
    | "with_workflow_task_list" => .withWorkflowTaskList name (text "name")
    | "with_activity_options" => .withActivityOptions name (decoded "options")
    | "with_child_options" => .withChildOptions name (decoded "options")
    | "ctx" => .showContext (field "brief").truthy
    | "value" => .value (decoded "key") (decoded "default")
    | "cancel" => .cancel
    | "activity" => .activity name target args
    | "child" => .child name target args
    | "execution" => .execution (text "future") name
    | "signal" => .signal (text "future") name (text "name") (decoded "data")
    | "signal_external" => .signalExternal (text "id") (field "run_id").text? (text "name") (decoded "data")
    | "future" => .future name
    | "set_value" => .settle (text "future") (.value (decoded "value"))
    | "set_error" => .settle (text "future") (.error fault)
    | "set" =>
      match d.field? "error" with
      | some .null | none => .settle (text "future") (.either (decoded "value") none)
      | some _ => .settle (text "future") (.either (decoded "value") (some fault))
    | "chain" => .chain (text "future") (text "to")
    | "get" => .get (text "future") ((field "type").text?.bind ResultType.ofName?)
    | "ready" => .ready (text "future")
    | "go" => .go name (items (field "steps"))
    | "yield" => .pause (match field "n" with
      | .int n => some n.toNat
      | _ => none)
    | "return" => .return (if (field "last").truthy then none else some (decoded "value"))
    | "raise" => .raise fault
    | "side_effect" => .sideEffect (if (d.field? "error").isSome then .error fault else .ok (decoded "value"))
    | "now" => .now
    | "sleep" => .sleep (decoded "duration")
    | "add_seconds" => .later (decoded "n")
    | "set_query" => .setQuery (text "name") (decoded "value")
    | "query" => .query (text "name") args
    | "set_signal" => .setSignal (text "name") ((field "into").text?.getD (text "name"))
    | "received" => .received (text "name")
    | "info" => .info
    | "custom_error" => .customError (text "reason") (items (decoded "details"))
    | "calls" => .calls
    | other => .unknown other
  { context := (field "ctx").text?, propagates := (field "propagate").truthy, action := action }

end ProgramStep

end ScriptFlow
