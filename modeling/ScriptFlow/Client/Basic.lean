import ScriptFlow.Plugin.Bundled
import ScriptFlow.Script.Sources
import ScriptFlow.Service.ScriptService
import ScriptFlow.Worker.Connection

/-!
# Clients of script workers

A client starts the script workflow with the sources of a directory, and asks about workflows that were started. It has to be connected first. A workflow without an
identity of its own gets one from the stem of its path and the name of the function.
-/

namespace ScriptFlow

/-- What a client asks to start. -/
structure ScriptStart where
  request : ScriptRequest
  /-- the directory of the sources -/
  directory : String := ""
  headers : List (Data × Data) := []
  workflowId : Option String := none
  timeout : Data := .null

/-- What the engine sees of a connected client. -/
inductive ClientCall where
  | start (id : String) (taskQueue : Data) (request : ScriptRequest) (headers : List (Data × Data)) (timeout : Data)
  | query (id name : String)
  | cancel (id : String)

namespace ClientCall

def toData : ClientCall → Data
  | start id taskQueue request headers timeout => .object
    [("start", .str ScriptService.workflowName), ("id", .str id), ("task_queue", taskQueue), ("request", request.toData),
     ("headers", .dict headers), ("execution_timeout", timeout), ("maximum_attempts", .int 1)]
  | query id name => .object [("query", .str name), ("id", .str id)]
  | cancel id => .object [("cancel", .str id)]

end ClientCall

/-- What the engine tells of a workflow. -/
structure WorkflowDescription where
  status : Option String := none
  startTime : Option Int := none
  closeTime : Option Int := none

namespace WorkflowDescription

def toData (d : WorkflowDescription) (id : String) : Data :=
  let time (us : Option Int) : Data := .ofOption (fun us => .str (Instant.text us)) us
  .object [("workflow_id", .str id), ("status", .ofOption .str d.status), ("start_time", time d.startTime), ("close_time", time d.closeTime)]

end WorkflowDescription

structure ScriptClient where
  config : WorkerConfig := {}
  isConnected : Bool := false

namespace ScriptClient

/-- The last component of a path without its ending; a name that starts or ends with its only point has no ending. -/
def stem (path : String) : String :=
  let name := ((Sources.parts path).getLast?).getD []
  let ending := name.reverse.takeWhile (· != '.')
  let base := name.take (name.length - ending.length - 1)
  String.ofList (if name.contains '.' && !base.isEmpty && !ending.isEmpty then base else name)

/-- The identity of a workflow that is given none. -/
def defaultId (r : ScriptRequest) : Except Fault String :=
  match r.path with
  | .str path => .ok (ScriptService.workflowName ++ "-" ++ stem path ++ "-" ++ r.function.text)
  | _ => .error (.error .misuse "a path is a text")

/-- The error of a client that is not connected. -/
def notConnected : Fault := .error .runtime "Client not connected. Use 'async with StarClient()' or call connect()"

def requireConnection (c : ScriptClient) : Except Fault Unit := if c.isConnected then .ok () else .error notConnected

/-- Starts a script; gives the identity of its workflow. -/
def start (c : ScriptClient) (files : FileTree) (s : ScriptStart) : Except Fault (String × ClientCall) := do
  let sources ← Sources.load files s.directory
  let request := { s.request with sources := .object (sources.map fun f => (f.1, .str f.2)) }
  let id ← match nonEmpty s.workflowId with
    | some id => pure id
    | none => defaultId request
  c.requireConnection
  return (id, .start id c.config.taskList request s.headers s.timeout)

def progress (c : ScriptClient) (id : String) : Except Fault ClientCall := do
  c.requireConnection
  return .query id Progress.queryName

def status (c : ScriptClient) (id : String) (d : WorkflowDescription) : Except Fault Data := do
  c.requireConnection
  return d.toData id

def cancel (c : ScriptClient) (id : String) : Except Fault ClientCall := do
  c.requireConnection
  return .cancel id

end ScriptClient

end ScriptFlow
