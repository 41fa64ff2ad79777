import ScriptFlow.Flow.Scope

/-!
# Futures, tasks and turns

The kernel of the cooperative loop. A future is open until it gets its outcome, once. A task is a future that a running program resolves; it waits for at most one other
future. Everything that happens because of an outcome happens in a later turn: the callbacks of a future are queued, in the order in which they were
added, at the end of one first-in-first-out queue of jobs.

Cancelling a task cancels what it waits for. A task that waits for nothing, or for something that is decided already, keeps the
request (`Task.cancelRequested`) until it next runs.
-/

namespace ScriptFlow

abbrev FutureId := Nat

/-- How a future ended. -/
inductive Outcome where
  | value (d : Data)
  | error (e : Fault)
  | cancelled
  deriving Inhabited

/-- What one gets from a decided future. -/
def Outcome.result : Outcome → Except Fault Data
  | value d => .ok d
  | error e => .error e
  | cancelled => .error (.taskCancelled "")

/-- What happens after a future is decided. -/
inductive Callback where
  /-- a task goes on -/
  | wake (task : FutureId)
  /-- another future, if it is open, gets the same outcome -/
  | forward (target : FutureId)
  /-- the future need not be cancelled with a scope any more -/
  | unlink (scope : ScopeId)
  /-- a waiter gets the same outcome -/
  | relay (waiter : FutureId)
  /-- a waiter is gone and leaves the future it stood for -/
  | unrelay (source waiter : FutureId)
  deriving DecidableEq, Repr

/-- What runs a future. -/
structure Task where
  waitsFor : Option FutureId := none
  cancelRequested : Bool := false
  started : Bool := false
  /-- how often it was asked to end -/
  cancels : Nat := 0
  deriving Inhabited

structure FutureCell where
  outcome : Option Outcome := none
  callbacks : List Callback := []
  /-- will another future decide this one? -/
  chained : Bool := false
  task : Option Task := none
  /-- has the world to hear of a cancellation before the start? -/
  watched : Bool := false
  deriving Inhabited

/-- Work for one turn. -/
inductive Job where
  /-- a task goes on, perhaps with an error -/
  | resume (task : FutureId) (input : Except Fault Data)
  | callback (source : FutureId) (c : Callback)

structure Kernel where
  futures : Array FutureCell := #[]
  scopes : Forest FutureId := {}
  ready : List Job := []
  /-- watched tasks cancelled before their start, the latest first -/
  notices : List FutureId := []
  deriving Inhabited

/-- What another future is to be decided by. -/
inductive ChainSource where
  | future (f : FutureId)
  /-- something that is no future, by the name of its type -/
  | other (type : String)

/-- What the owner of a future asks of it. -/
inductive Settling where
  | value (d : Data)
  | error (e : Fault)
  /-- the error, if there is one, and else the value -/
  | either (d : Data) (e : Option Fault)
  | chain (source : ChainSource)

/-- The error for a second outcome. -/
def alreadyResolved : Fault := .error .alreadyResolved "future already resolved"

namespace Kernel

def future (k : Kernel) (f : FutureId) : FutureCell := (k.futures[f]?).getD {}

def update (k : Kernel) (f : FutureId) (g : FutureCell → FutureCell) : Kernel := { k with futures := k.futures.modify f g }

def isDone (k : Kernel) (f : FutureId) : Bool := (k.future f).outcome.isSome

/-- Did the future end by cancellation? -/
def wasCancelled (k : Kernel) (f : FutureId) : Bool :=
  match (k.future f).outcome with
  | some .cancelled => true
  | _ => false

def newFuture (k : Kernel) (cell : FutureCell := {}) : Kernel × FutureId :=
  ({ k with futures := k.futures.push cell }, k.futures.size)

/-- A future that is decided from the start. -/
def decided (k : Kernel) (o : Outcome) : Kernel × FutureId := k.newFuture { outcome := some o }

def queue (k : Kernel) (jobs : List Job) : Kernel := { k with ready := k.ready ++ jobs }

/-- Decides an open future; its callbacks are due in later turns. -/
def resolve (k : Kernel) (f : FutureId) (o : Outcome) : Kernel :=
  if k.isDone f then k
  else (k.update f fun c => { c with outcome := some o, callbacks := [] }).queue
    ((k.future f).callbacks.map (.callback f))

/-- Adds a callback, which is due at once on a decided future. -/
def addCallback (k : Kernel) (f : FutureId) (c : Callback) : Kernel :=
  if k.isDone f then k.queue [.callback f c] else k.update f fun x => { x with callbacks := x.callbacks ++ [c] }

def removeCallback (k : Kernel) (f : FutureId) (c : Callback) : Kernel :=
  k.update f fun x => { x with callbacks := x.callbacks.filter (· != c) }

def updateTask (k : Kernel) (f : FutureId) (g : Task → Task) : Kernel :=
  k.update f fun c => { c with task := c.task.map g }

/-- A task will be told of a cancellation when it next runs. -/
def requestCancel (k : Kernel) (t : FutureId) : Kernel := k.updateTask t fun task => { task with cancelRequested := true }

/-- Counts a request that a task end; a watched task that has not started leaves a notice. -/
def noteCancel (k : Kernel) (t : FutureId) : Kernel :=
  let k' := k.updateTask t fun task => { task with cancels := task.cancels + 1 }
  match (k.future t).task with
  | some { started := false, .. } => if (k.future t).watched then { k' with notices := t :: k'.notices } else k'
  | _ => k'

/-- Cancels a future; tells whether the request was taken. Tasks that wait for each other form no circle, so there are at most as many of them in a row
as there are futures. -/
def cancelWithin : Nat → Kernel → FutureId → Kernel × Bool
  | 0, k, _ => (k, false)
  | fuel + 1, k, f =>
    let cell := k.future f
    if cell.outcome.isSome then (k, false)
    else
      match cell.task with
      | none => (k.resolve f .cancelled, true)
      | some task =>
        let k := k.noteCancel f
        match task.waitsFor with
        | none => (k.requestCancel f, true)
        | some w =>
          match cancelWithin fuel k w with
          | (k, true) => (k, true)
          | (k, false) => (k.requestCancel f, true)

def cancel (k : Kernel) (f : FutureId) : Kernel := (cancelWithin (k.futures.size + 1) k f).1

/-! ### Scopes -/

/-- Works off errands of the forest: a callback cancels its future. -/
def workOff : Nat → Kernel → List (Errand FutureId) → Kernel
  | 0, k, _ => k
  | _, k, [] => k
  | fuel + 1, k, e :: rest =>
    let (scopes, more, due) := k.scopes.next e
    let k := { k with scopes := scopes }
    let k := match due with
      | some f => k.cancel f
      | none => k
    workOff fuel k (more ++ rest)

/-- More errands than there can be: every scope is left at most once by each of its parents' and its own errands, every callback fires once. -/
def errandLimit (k : Kernel) : Nat :=
  k.scopes.scopes.foldl (fun n s => n + 2 + s.callbacks.length + 2 * s.children.length) 4

def cancelScope (k : Kernel) (s : ScopeId) : Kernel := workOff k.errandLimit k [.cancel s]

/-- Cancels a future with a scope. -/
def onCancel (k : Kernel) (s : ScopeId) (f : FutureId) : Kernel :=
  let (scopes, due) := k.scopes.on s f
  workOff k.errandLimit { k with scopes := scopes } due

/-- Ends what `onCancel` began; a scope that was cancelled has forgotten about it. -/
def offCancel (k : Kernel) (s : ScopeId) (f : FutureId) : Kernel := { k with scopes := k.scopes.remove s f }

/-- Cancels a future with a scope until the future is decided. -/
def link (k : Kernel) (s : ScopeId) (f : FutureId) : Kernel :=
  let linked := !k.scopes.isCancelled s
  let k := k.onCancel s f
  if linked then k.addCallback f (.unlink s) else k

def newScope (k : Kernel) : Kernel × ScopeId :=
  let (scopes, s) := k.scopes.new
  ({ k with scopes := scopes }, s)

def childScope (k : Kernel) (s : ScopeId) : Kernel × ScopeId :=
  let (scopes, s) := k.scopes.child s
  ({ k with scopes := scopes }, s)

/-! ### Waiting -/

/-- A stand-in for a future that can be cancelled without the future. -/
def shield (k : Kernel) (f : FutureId) : Kernel × FutureId :=
  if k.isDone f then (k, f)
  else
    let (k, waiter) := k.newFuture
    ((k.addCallback f (.relay waiter)).addCallback waiter (.unrelay f waiter), waiter)

/-- Gives an outcome to the future that was promised it. -/
def forward (k : Kernel) (source target : FutureId) : Kernel :=
  match (k.future source).outcome with
  | none => k
  | some .cancelled => k.resolve target (.error (.error .canceled "chained future cancelled"))
  | some o => k.resolve target o

/-- Runs a callback; a task that goes on is queued by its own job. -/
def runCallback (k : Kernel) (source : FutureId) : Callback → Kernel
  | .wake _ => k
  | .forward target => k.forward source target
  | .unlink s => k.offCancel s source
  | .relay waiter =>
    match (k.future source).outcome with
    | none => k
    | some .cancelled => k.cancel waiter
    | some o => k.resolve waiter o
  | .unrelay inner waiter => if k.isDone inner then k else k.removeCallback inner (.relay waiter)

/-- May the future still be decided by its owner? -/
def isSettable (k : Kernel) (f : FutureId) : Bool := !(k.isDone f || (k.future f).chained)

/-- Decides a future of an owner. -/
def settle (k : Kernel) (f : FutureId) (o : Outcome) : Except Fault Kernel :=
  if k.isSettable f then .ok (k.resolve f o) else .error alreadyResolved

/-- Another future will decide the future. -/
def setChained (k : Kernel) (f : FutureId) : Kernel := k.update f fun c => { c with chained := true }

/-- A future gets the outcome of another. -/
def chain (k : Kernel) (f source : FutureId) : Except Fault Kernel :=
  if k.isSettable f then .ok ((k.setChained f).addCallback source (.forward f)) else .error alreadyResolved

/-- What an owner asks of a future is done, or refused. -/
def settleBy (k : Kernel) (f : FutureId) : Settling → Except Fault Kernel
  | .value d | .either d none => k.settle f (.value d)
  | .error e | .either _ (some e) => k.settle f (.error e)
  | .chain (.future source) => k.chain f source
  | .chain (.other type) => .error (.error .wrongType ("cannot chain " ++ type))

/-- How a wait for a future under a scope ends when the task that waits is told this; a cancellation that comes from the scope or from the future
counts as that of the context. -/
def endOfWait (k : Kernel) (s : ScopeId) (f : FutureId) : Except Fault Data → Except Fault Data
  | .error (.taskCancelled m) =>
    .error (if k.scopes.isCancelled s || k.wasCancelled f then contextCancelled else .taskCancelled m)
  | r => r

/-! ### Tasks -/

/-- A new task; it runs in a later turn. -/
def newTask (k : Kernel) (watched : Bool) : Kernel × FutureId :=
  let (k, t) := k.newFuture { task := some {}, watched := watched }
  (k.queue [.resume t (.ok .null)], t)

/-- A task starts its turn: what it is told. -/
def enterTask (k : Kernel) (t : FutureId) (input : Except Fault Data) : Kernel × Except Fault Data :=
  let requested := match (k.future t).task with
    | some task => task.cancelRequested
    | none => false
  let k := k.updateTask t fun task => { task with waitsFor := none, cancelRequested := false, started := true }
  let input := match requested, input with
    | true, .error (.taskCancelled m) => .error (.taskCancelled m)
    | true, _ => .error (.taskCancelled "")
    | false, r => r
  (k, input)

/-- A task is to go on when a future is decided. -/
def awaiting (k : Kernel) (t f : FutureId) : Kernel :=
  (k.addCallback f (.wake t)).updateTask t fun task => { task with waitsFor := some f }

/-- A task waits for an open future; a cancellation that it was not told of goes to the future. -/
def waitFor (k : Kernel) (t f : FutureId) : Kernel :=
  let k := k.awaiting t f
  match (k.future t).task with
  | some { cancelRequested := true, .. } =>
    match cancelWithin (k.futures.size + 1) k f with
    | (k, true) => k.updateTask t fun task => { task with cancelRequested := false }
    | (k, false) => k
  | _ => k

/-- A task has ended. -/
def finishTask (k : Kernel) (t : FutureId) (r : Except Fault Data) : Kernel :=
  let requested := match (k.future t).task with
    | some task => task.cancelRequested
    | none => false
  match r with
  | .ok d => k.resolve t (if requested then .cancelled else .value d)
  | .error (.taskCancelled _) => k.resolve t .cancelled
  | .error e => k.resolve t (.error e)

end Kernel

end ScriptFlow
