import ScriptFlow.Flow.Basic
import ScriptFlow.Options.Basic

/-!
# Contexts and what tasks share

A context says under which options, headers and cancellation scope a call is made. It never changes: every `with…` operation derives a new one. Only
the scope is shared between a context and what is derived from it; `Context.withCancel` links a new scope below it, `Context.disconnected`
starts one that the parent's cancellation does not reach.

A world holds what all tasks of one loop share besides the kernel: the engine's own state, the lines of the log, for every script run the storage that
its modules keep values in, and for every run of a program what its steps have named.
-/

namespace ScriptFlow

/-! ### Contexts -/

/-- Identity of a running workflow. -/
structure Identity where
  id : String := "default-test-workflow-id"
  runId : String := "default-test-run-id"
  workflowType : String := ""
  domain : String := ""
  taskList : String := ""
  deriving DecidableEq, Repr, Inhabited

structure Context where
  values : List (Data × Data) := []
  headers : List (Data × Data) := []
  activityOptions : ActivityOptions := {}
  childOptions : ChildOptions := {}
  scope : ScopeId := 0
  /-- the workflow of the simulated engine that the context belongs to -/
  identity : Option Identity := none
  deriving Inhabited

namespace Context

def withValue (c : Context) (key value : Data) : Context := { c with values := Data.insertKey c.values key value }

def withHeaders (c : Context) (headers : List (Data × Data)) : Context :=
  { c with headers := headers.foldl (fun acc h => Data.insertKey acc h.1 h.2) c.headers }

def withTaskList (c : Context) (name : String) : Context :=
  { c with activityOptions := { c.activityOptions with taskList := some name } }

def withWorkflowDomain (c : Context) (name : String) : Context :=
  { c with childOptions := { c.childOptions with domain := some name } }

def withWorkflowTaskList (c : Context) (name : String) : Context :=
  { c with childOptions := { c.childOptions with taskList := some name } }

def withActivityOptions (c : Context) (o : ActivityOptions) : Context := { c with activityOptions := o }

def withChildOptions (c : Context) (o : ChildOptions) : Context := { c with childOptions := o }

/-- The value under a key. -/
def value (c : Context) (key default : Data) : Data := (Data.lookup? c.values key).getD default

variable {σ : Type}

/-- A context with a scope of its own below the present one. -/
def withCancel (c : Context) : Flow σ Context := do
  return { c with scope := ← Flow.ofKernel (·.childScope c.scope) }

/-- A context that the cancellation of the present one does not reach. -/
def disconnected (c : Context) : Flow σ Context := do
  return { c with scope := ← Flow.ofKernel (·.newScope) }

def cancel (c : Context) : Flow σ Unit := Flow.modifyKernel (·.cancelScope c.scope)

def isCancelled (c : Context) : Flow σ Bool := do return (← Flow.kernel).scopes.isCancelled c.scope

/-- Fails when the context is cancelled. -/
def check (c : Context) : Flow σ Unit := do Flow.ofExcept ((← Flow.kernel).scopes.check c.scope)

end Context

/-! ### Promises and handlers

A promise is a value that is decided once, as orchestration code holds it. Handlers say what queries and signals of a run come to; they are data, so the
engine can keep them.
-/

/-- What is known of a child workflow that was started. -/
inductive ChildStart where
  | known (id runId : String)
  /-- the future of its execution -/
  | awaited (started : FutureId)
  deriving Inhabited

/-- A value that is decided once, with what its owner allows besides reading it. -/
structure Promise where
  source : FutureId
  /-- are errors of the durable engine translated on reading? -/
  translates : Bool := false
  child : Option ChildStart := none
  deriving Inhabited

/-- What a query is answered with. -/
inductive QueryHandler where
  /-- the arguments behind a value -/
  | fixed (value : Data)
  /-- what a script run keeps under a key -/
  | stored (run : Nat) (key : Data)
  deriving Inhabited

/-- What becomes of a signal. -/
inductive SignalHandler where
  /-- it is added to a list of a program -/
  | collect (program : Nat) (list : String)
  deriving Inhabited

/-! ### Worlds -/

inductive LogLevel where
  | info
  | warning
  | error
  deriving DecidableEq, Repr, Inhabited

namespace LogLevel

def name : LogLevel → String
  | info => "INFO"
  | warning => "WARNING"
  | error => "ERROR"

end LogLevel

structure LogLine where
  level : LogLevel
  text : String
  deriving Inhabited

/-- What the modules of one script run keep. -/
structure RunState where
  storage : List (Data × Data) := []
  /-- how often a counting property has been read, by module -/
  counts : List (Nat × Nat) := []
  deriving Inhabited

/-- What the steps of one program run have named. -/
structure ProgramState where
  contexts : List (String × Context) := []
  promises : List (String × Promise) := []
  /-- names of promises that the program decides itself -/
  settables : List (String × FutureId) := []
  /-- signals by the list they are added to -/
  received : List (String × List Data) := []
  /-- the numbers of the paths that were started, by name -/
  paths : List (String × Nat) := []
  deriving Inhabited

structure World (ε : Type) where
  engine : ε
  /-- the latest line first -/
  log : List LogLine := []
  runs : Array RunState := #[]
  programs : Array ProgramState := #[]
  /-- the answers of every path by its number, the latest first -/
  paths : Array (List Data) := #[]

/-- A part of a cooperative program over an engine. -/
abbrev Play (ε α : Type) := Flow (World ε) α

namespace Play

variable {ε α : Type}

def log (level : LogLevel) (text : String) : Play ε Unit :=
  Flow.modifyWorld fun w => { w with log := ⟨level, text⟩ :: w.log }

def info (text : String) : Play ε Unit := log .info text

def error (text : String) : Play ε Unit := log .error text

/-- A new script run. -/
def newRun : Play ε Nat := Flow.ofWorld fun w => ({ w with runs := w.runs.push {} }, w.runs.size)

def run (r : Nat) : Play ε RunState := do return ((← Flow.world).runs[r]?).getD {}

def modifyRun (r : Nat) (f : RunState → RunState) : Play ε Unit :=
  Flow.modifyWorld fun w => { w with runs := w.runs.modify r f }

/-- A new program run. -/
def newProgram (p : ProgramState) : Play ε Nat :=
  Flow.ofWorld fun w => ({ w with programs := w.programs.push p }, w.programs.size)

def program (n : Nat) : Play ε ProgramState := do return ((← Flow.world).programs[n]?).getD {}

def modifyProgram (n : Nat) (f : ProgramState → ProgramState) : Play ε Unit :=
  Flow.modifyWorld fun w => { w with programs := w.programs.modify n f }

/-- A new path, without answers. -/
def newPath : Play ε Nat := Flow.ofWorld fun w => ({ w with paths := w.paths.push [] }, w.paths.size)

/-- Adds an answer of a path. -/
def addAnswer (path : Nat) (answer : Data) : Play ε Unit :=
  Flow.modifyWorld fun w => { w with paths := w.paths.modify path (answer :: ·) }

/-- Hands a signal to its handler. -/
def deliver (h : SignalHandler) (d : Data) : Play ε Unit :=
  match h with
  | .collect n list => modifyProgram n fun p =>
    { p with received := (list, (p.received.lookup list).getD [] ++ [d]) :: p.received.filter (·.1 != list) }

def engine : Play ε ε := do return (← Flow.world).engine

def modifyEngine (f : ε → ε) : Play ε Unit := Flow.modifyWorld fun w => { w with engine := f w.engine }

/-- Changes the engine and gives a result. -/
def ofEngine (f : ε → ε × α) : Play ε α := Flow.ofWorld fun w =>
  let (e, a) := f w.engine
  ({ w with engine := e }, a)

end Play

/-- The answer of a query. -/
def World.answer {ε : Type} (w : World ε) (h : QueryHandler) (args : List Data) : Except Fault Data :=
  match h with
  | .fixed value => .ok (.list (value :: args))
  | .stored run key =>
    if args.isEmpty then .ok ((Data.lookup? ((w.runs[run]?).getD {}).storage key).getD .null)
    else .error (.error .misuse "a query takes no arguments")

/-- The answers of a path, the oldest first. -/
def World.answers {ε : Type} (w : World ε) (path : Nat) : List Data := ((w.paths[path]?).getD []).reverse

/-- The answers of the paths that a program has started, by name. -/
def World.pathAnswers {ε : Type} (w : World ε) (program : Nat) : List (String × List Data) :=
  match w.programs[program]? with
  | some p => p.paths.map fun (name, path) => (name, w.answers path)
  | none => []

/-- The lines of a log, the oldest first. -/
def World.lines {ε : Type} (w : World ε) : List LogLine := w.log.reverse

end ScriptFlow
