import ScriptFlow.Data.Span
import ScriptFlow.Options.Basic
import ScriptFlow.Script.Sources
import ScriptFlow.Worker.Location
import ScriptFlow.Yaml.Value

/-!
# Configuration of workers

A configuration comes from fields, from a YAML file or from the environment. Its values are taken as they come; `WorkerConfig.validate` looks at them before a
worker uses them, in a fixed order, and reports the first that is wrong. An unknown key is refused when the configuration is made.
-/

namespace ScriptFlow

/-- What a program finds when it starts: variables of its environment, and the files below a directory. -/
structure Surroundings where
  /-- the variables -/
  settings : List (String × String) := []
  /-- the directory of the files -/
  root : String := ""
  files : FileTree := { files := [], directories := [] }

namespace Surroundings

/-- The value of a variable, or the default. -/
def setting? (s : Surroundings) (name : String) : Option String := s.settings.lookup name

/-- Path components without detours. -/
def straighten : List (List Char) → List (List Char) → List (List Char)
  | acc, [] => acc.reverse
  | acc, p :: rest => if p == "..".toList then straighten (acc.drop 1) rest else straighten (p :: acc) rest

/-- The contents of the file with a path. -/
def file? (s : Surroundings) (path : String) : Option ByteArray :=
  let root := s.root.toList
  if root.isPrefixOf path.toList then
    let below := straighten [] (Sources.parts (String.ofList (path.toList.drop root.length)))
    (s.files.files.find? fun f => Sources.parts f.1 == below).map Prod.snd
  else none

/-- The path of a file below the directory. -/
def path (s : Surroundings) (name : String) : String := s.root ++ "/" ++ name

end Surroundings

structure WorkerConfig where
  location : Data := .str "grpc://localhost:7233"
  domain : Data := .str "default"
  taskList : Data := .str "starworker"
  /-- seconds -/
  activityTimeout : Data := .int 300
  /-- seconds; zero means no heartbeats -/
  heartbeatTimeout : Data := .int 0
  maxConcurrentActivities : Data := .int 100
  /-- the plugins by ID; none means all bundled ones -/
  plugins : Data := .tuple []
  deriving Inhabited

namespace WorkerConfig

open Location (configurationError)

def fieldNames : List String :=
  ["location", "domain", "task_list", "activity_start_to_close_timeout", "activity_heartbeat_timeout", "max_concurrent_activities",
   "plugins"]

/-- A configuration from fields; the others have their defaults. -/
def ofFields (fields : List (String × Data)) : WorkerConfig :=
  let base : WorkerConfig := {}
  let field (name : String) (default : Data) : Data := (fields.lookup name).getD default
  { location := field "location" base.location, domain := field "domain" base.domain, taskList := field "task_list" base.taskList
    activityTimeout := field "activity_start_to_close_timeout" base.activityTimeout
    heartbeatTimeout := field "activity_heartbeat_timeout" base.heartbeatTimeout
    maxConcurrentActivities := field "max_concurrent_activities" base.maxConcurrentActivities
    plugins := field "plugins" base.plugins }

def toData (c : WorkerConfig) : Data := .object
  (fieldNames.zip [c.location, c.domain, c.taskList, c.activityTimeout, c.heartbeatTimeout, c.maxConcurrentActivities, c.plugins])

/-- The fields of a dictionary with names alone as keys. -/
def namedEntries? (es : List (Data × Data)) : Option (List (String × Data)) := es.mapM fun e => e.1.text?.map fun name => (name, e.2)

/-- A configuration from named values, as a program gives them. -/
def ofNamed (d : Data) : Except Fault WorkerConfig :=
  match d with
  | .dict es =>
    match namedEntries? es with
    | some fields => if fields.all fun f => fieldNames.contains f.1 then .ok (ofFields fields) else .error (.error .misuse "unknown field")
    | none => .error (.error .misuse "unknown field")
  | _ => .error (.error .misuse "not a mapping")

/-- The list of plugins in a value; nothing at all is the empty one. -/
def pluginList (d : Data) : Except Fault Data :=
  if !d.truthy then .ok (.tuple [])
  else
    match d with
    | .list xs | .tuple xs => .ok (.tuple xs)
    | .str s => .ok (.tuple (s.toList.map fun c => .str c.toString))
    | .bytes bs => .ok (.tuple (bs.toList.map fun b => .int b.toNat))
    | .dict es => .ok (.tuple (es.map Prod.fst))
    | _ => .error (.error .misuse "plugins are no list")

/-- A configuration from a mapping, as a file gives it. -/
def ofMapping (d : Data) : Except Fault WorkerConfig :=
  match d with
  | .dict es => do
    let unknown := (es.map Prod.fst).filter fun k => match k with
      | .str name => !fieldNames.contains name
      | _ => true
    match unknown with
    | [] => do
      let fields := es.filterMap fun e => e.1.text?.map fun name => (name, e.2)
      let fields ← fields.mapM fun f => do return (f.1, ← if f.1 == "plugins" then pluginList f.2 else pure f.2)
      return ofFields fields
    | _ =>
      match unknown.mapM Data.text? with
      | some names =>
        configurationError ("unknown config keys: " ++ ", ".intercalate (names.mergeSort fun s t => !decide (t < s)))
      | none => throw (.error .misuse "keys are no texts")
  | _ => configurationError "config must be a mapping"

/-- The text of a part between commas, without blanks around it, if anything is left. -/
def commaParts (s : String) : List String := ((s.splitOn ",").map Text.strip).filter (· != "")

def ofEnvironment (s : Surroundings) : Except Fault WorkerConfig := do
  let base : WorkerConfig := {}
  let text (name : String) (default : Data) : Data := ((s.setting? name).map .str).getD default
  let whole (name : String) (default : Data) : Except Fault Data :=
    match s.setting? name with
    | some t => (Text.readInt t).map .int
    | none => .ok default
  return { location := text "STARWORKER_LOCATION" base.location, domain := text "STARWORKER_DOMAIN" base.domain
           taskList := text "STARWORKER_TASK_LIST" base.taskList
           activityTimeout := ← whole "STARWORKER_ACTIVITY_TIMEOUT" base.activityTimeout
           heartbeatTimeout := ← whole "STARWORKER_HEARTBEAT_TIMEOUT" base.heartbeatTimeout
           maxConcurrentActivities := ← whole "STARWORKER_MAX_CONCURRENT_ACTIVITIES" base.maxConcurrentActivities
           plugins := .tuple ((commaParts ((s.setting? "STARWORKER_PLUGINS").getD "")).map .str) }

/-- The error for a file that cannot be read. -/
def unreadable {α : Type} : Except Fault α := configurationError "cannot read config"

/-- A configuration from a YAML file; a file without contents gives the defaults. -/
def ofFile (s : Surroundings) (path : String) : Except Fault WorkerConfig :=
  match s.file? path with
  | none => unreadable
  | some bs => do
    let text ← Sources.fileText bs
    match Yaml.read text with
    | .error (.malformed _) => unreadable
    | .error (.unfit e) => throw e
    | .ok d => ofMapping (if d.truthy then d else .dict [])

/-- How a value stands to zero. -/
def compareZero (d : Data) (test : Data.Numeric → Data.Numeric → Bool) : Except Fault Bool :=
  match d.numeric? with
  | some n => .ok (test n (Data.Numeric.ofInt 0))
  | none => .error (.error .misuse "not supported between instances")

/-- Checks a configuration before it is used. -/
def validate (c : WorkerConfig) : Except Fault Unit := do
  discard (Location.ofData c.location)
  if !c.domain.truthy then configurationError "domain must not be empty"
  if !c.taskList.truthy then configurationError "task_list must not be empty"
  if ← compareZero c.activityTimeout fun n zero => n.less zero || n.same zero then
    configurationError "activity_start_to_close_timeout must be positive"
  if ← compareZero c.heartbeatTimeout fun n zero => n.less zero then
    configurationError "activity_heartbeat_timeout must not be negative"

/-- The configuration of a program: from the file it names, from the file that the environment names, or from the environment. -/
def load (s : Surroundings) (path : Option String) : Except Fault WorkerConfig := do
  let c ← match (nonEmpty path).orElse fun _ => nonEmpty (s.setting? "STARWORKER_CONFIG") with
    | some path => ofFile s path
    | none => ofEnvironment s
  c.validate
  return c

def target (c : WorkerConfig) : Except Fault String := (Location.ofData c.location).map (·.target)

/-- The options of activities that have none of their own. -/
def activityOptions (c : WorkerConfig) : Except Fault ActivityOptions := do
  let timeout ← Span.ofNumber c.activityTimeout
  let beats ← compareZero c.heartbeatTimeout fun n zero => zero.less n
  let heartbeat ← if beats then (Span.ofNumber c.heartbeatTimeout).map some else pure none
  return { startToClose := some timeout, heartbeat := heartbeat }

end WorkerConfig

end ScriptFlow
