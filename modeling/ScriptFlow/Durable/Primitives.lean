import ScriptFlow.Durable.Execution
import ScriptFlow.Durable.Failure
import ScriptFlow.Program.Run

/-!
# Primitives of the durable engine

A call becomes a command and a task that waits for the outcome. The task of an activity exists before the command does, so its cancellation is never lost; a child workflow
is started by a task of its own, which ends when it is known whether the child runs.

Every call carries the headers of its context. A side effect has no context of its own at the engine: it carries those the execution was started with.
-/

namespace ScriptFlow

namespace Execution

/-- More cancellations than any call meets. -/
def patience : Nat := Nat.pow 2 62

/-- Waits for an outcome; a cancellation of the waiting task is passed on and does not end the wait. -/
def hold (outcome : FutureId) (onCancel : Play Unit) : Nat → Play Data
  | 0 => Flow.fail (.error .runtime "cancelled too often")
  | n + 1 => do
    let waiter ← Flow.ofKernel (·.shield outcome)
    match ← Flow.attempt (Flow.await waiter) with
    | .error (.taskCancelled _) => do
      onCancel
      hold outcome onCancel n
    | r => Flow.ofExcept r

/-- The metadata of a context as headers of a call. -/
def headersOf (entries : List (Data × Data)) : Play Message := Flow.ofExcept (Message.carry [] entries)

/-- Values as they arrive. -/
def carried (ds : List Data) : Play (List Data) := Flow.ofExcept (ds.mapM WirePayload.carry)

/-- Refuses what the engine does not accept as a policy. -/
def checkPolicy (p : Option RetryPolicy) : Play Unit :=
  match p.bind RetryPolicy.complaint? with
  | some text => Flow.fail (.error .badValue text)
  | none => return ()

/-- The task of a call, which is known before the call is asked for. -/
def newCall (isSideEffect : Bool) : Play (Nat × PendingCall) := do
  let seq ← nextCall
  let call : CallTask := { seq := seq, isSideEffect := isSideEffect }
  let outcome ← Flow.ofKernel (·.newFuture)
  let task ← Flow.spawnWatched fun _ => hold outcome (emit call.cancellation) patience
  Play.modifyEngine fun e => { e with callTasks := (task, call) :: e.callTasks }
  return (seq, { task := task, outcome := outcome })

/-- From now on the outcome of a call can be delivered. -/
def expectOutcome (seq : Nat) (call : PendingCall) : Play Unit :=
  Play.modifyEngine fun e => { e with pendingCalls := (seq, call) :: e.pendingCalls }

/-! ### Activities -/

/-- The error for an activity that could take forever. -/
def noDeadline : Fault := .error .badValue "Activity must have start_to_close_timeout or schedule_to_close_timeout"

/-- Schedules an activity and gives the task that waits for it. A refused policy leaves a command without it and what comes after it. -/
def schedule (ctx : Context) (name : String) (args : List Data) : Play FutureId := do
  let o := ctx.activityOptions
  let headers ← headersOf ctx.headers
  if (Command.timeout o.startToClose).isNone && (Command.timeout o.scheduleToClose).isNone then Flow.fail noDeadline
  let (seq, call) ← newCall false
  let args ← carried args
  let queue := (← Play.engine).identity.taskList
  let task : ActivityTask :=
    { seq := seq, id := (nonEmpty o.activityId).getD (toString seq), type := name, args := args, headers := headers
      scheduleToClose := o.scheduleToClose, scheduleToStart := o.scheduleToStart, startToClose := o.startToClose }
  match ← Flow.attempt (checkPolicy o.retryPolicy) with
  | .error e => do
    emit (.scheduleActivity task)
    Flow.fail e
  | .ok () => do
    emit (.scheduleActivity
      { task with
        retryPolicy := o.retryPolicy, waitForCancellation := o.waitForCancellation, taskQueue := (nonEmpty o.taskList).getD queue
        heartbeat := o.heartbeat })
    expectOutcome seq call
    return call.task

def nameOf (kind : RegistrationKind) (target : Target) : Play String := do
  Flow.ofExcept (Registry.nameAmong (← Play.engine).registries kind target)

def startActivity (ctx : Context) (target : Target) (args : List Data) : Play Promise := do
  let name ← nameOf .activity target
  match ← Flow.attempt (schedule ctx name args) with
  | .error e => Promise.decided (.error e) true
  | .ok task => do
    Flow.modifyKernel (·.link ctx.scope task)
    return { source := task, translates := true }

/-! ### Child workflows -/

/-- Asks for a child and waits until it runs; gives its number. A refused policy leaves a command without it and what comes after it. -/
def startRun (ctx : Context) (name : String) (args : List Data) : Play Data := do
  let o := ctx.childOptions
  let headers ← headersOf ctx.headers
  let seq ← nextChild
  let start ← Flow.ofKernel (·.newFuture)
  let outcome ← Flow.ofKernel (·.newFuture)
  let onCancel := emit (.cancelChild seq)
  let task ← Flow.spawn (hold outcome onCancel patience)
  let args ← carried args
  let queue := (← Play.engine).identity.taskList
  let id := (nonEmpty o.workflowId).getD anyIdentity
  let request : ChildRequest :=
    { seq := seq, id := id, type := name, taskQueue := (nonEmpty o.taskList).getD queue, args := args
      executionTimeout := o.executionTimeout, taskTimeout := o.taskTimeout }
  match ← Flow.attempt (checkPolicy o.retryPolicy) with
  | .error e => do
    emit (.startChild request)
    Flow.fail e
  | .ok () => do
    let named (es : List (String × Data)) : Play (List (String × Data)) :=
      es.mapM fun f => do return (f.1, ← Flow.ofExcept (WirePayload.carry f.2))
    let memo ← named (o.memo.getD [])
    let attributes ← named ((o.searchAttributes.getD []).map fun f => (f.1, ChildOptions.attributeValues f.2))
    emit (.startChild
      { request with
        retryPolicy := o.retryPolicy, cronSchedule := o.cronSchedule.getD "", headers := headers, memo := memo
        searchAttributes := attributes, cancellation := if o.waitForCancellation then 2 else 1 })
    Play.modifyEngine fun e =>
      { e with childRuns := (seq, { id := id, start := start, outcome := outcome, task := task }) :: e.childRuns }
    discard (hold start onCancel patience)
    return .int seq

/-- The child that the task of `startRun` gives. -/
def runOf (d : Data) : Play ChildRun :=
  match d with
  | .int seq => childRun seq.toNat
  | _ => return default

def startChild (ctx : Context) (target : Target) (args : List Data) : Play Promise := do
  let name ← nameOf .workflow target
  match ctx.childOptions.checkDomain (← Play.engine).identity.domain with
  | .error e => do
    let p ← Promise.decided (.error e) true
    return { p with child := some (.awaited p.source) }
  | .ok () => do
    let started ← Flow.spawn (startRun ctx name args)
    let task ← Flow.spawnUnder ctx.scope do
      let run ← runOf (← Flow.await started)
      Flow.await run.task
    return { source := task, translates := true, child := some (.awaited started) }

/-- The task that started a child. -/
def starting (p : Promise) (operation : String) : Play FutureId :=
  match p.child with
  | some (.awaited started) => return started
  | _ => Flow.fail (Promise.notAChild operation)

def childExecution (p : Promise) : Play Promise := do
  let started ← starting p "get_child_workflow_execution"
  let task ← Flow.spawn do
    let run ← runOf (← Flow.await started)
    return .execution run.id run.runId
  return { source := task, translates := true }

/-! ### Signals -/

/-- Sends a signal and waits until it has been delivered. -/
def send (headers : List (Data × Data)) (target : SignalTarget) (name : String) (d : Data) : Play Unit := do
  let headers ← headersOf headers
  let args ← carried [d]
  let seq ← nextSignal
  let done ← Flow.ofKernel (·.newFuture)
  emit (.signal { seq := seq, target := target, name := name, args := args, headers := headers })
  Play.modifyEngine fun e => { e with pendingSignals := (seq, done) :: e.pendingSignals }
  discard (hold done (emit (.cancelSignal seq)) patience)

def signalChild (ctx : Context) (p : Promise) (name : String) (d : Data) : Play Promise := do
  let started ← starting p "signal_child_workflow"
  let task ← Flow.spawn do
    let run ← runOf (← Flow.await started)
    send ctx.headers (.child run.id) name d
    return .null
  return { source := task, translates := true }

def signalExternal (ctx : Context) (id : String) (runId : Option String) (name : String) (d : Data) : Play Unit :=
  send ctx.headers (.execution id (runId.getD "")) name d

/-! ### Handlers -/

/-- A signal that a handler takes has one argument. -/
def signalTask (h : SignalHandler) (args : List Data) : Play Data := do
  match args with
  | [d] => Play.deliver h d
  | _ => Play.modifyEngine fun e => { e with failure := some Sample.badArguments }
  return .null

def setSignalHandler (_ctx : Context) (name : String) (h : SignalHandler) : Play Unit := do
  let waiting ← Play.ofEngine fun e =>
    ({ e with signalHandlers := (name, h) :: e.signalHandlers, waitingSignals := e.waitingSignals.filter (·.1 != name) },
      (e.waitingSignals.lookup name).getD [])
  for args in waiting do
    discard (Flow.spawn (signalTask h args))

def setQueryHandler (_ctx : Context) (name : String) (h : QueryHandler) : Play Unit :=
  Play.modifyEngine fun e => { e with queryHandlers := (name, h) :: e.queryHandlers }

/-! ### Promises, side effects and time -/

/-- Reads a promise; errors of the engine are translated. -/
def get (ctx : Context) (p : Promise) (type : Option ResultType) : Play Data := do
  match ← Flow.attempt (p.await ctx type) with
  | .ok d => return d
  | .error e => Flow.fail (if p.translates then e.translated else e)

/-- Runs a closure as a task of the worker. Its closure is kept under a key while it is waited for. -/
def sideEffect (ctx : Context) (closure : Except Fault Data) : Play Data := do
  let headers ← headersOf (← Play.engine).inbound
  let (seq, call) ← newCall true
  Play.modifyEngine fun e => { e with sideEffects := (seq, closure) :: e.sideEffects }
  emit (.scheduleSideEffect { seq := seq, key := seq, headers := headers })
  expectOutcome seq call
  Flow.modifyKernel (·.link ctx.scope call.task)
  let r ← Flow.attempt (get ctx { source := call.task, translates := true } none)
  Play.modifyEngine fun e => { e with sideEffects := without e.sideEffects seq }
  Flow.ofExcept r

/-- The span of a timer: whole nanoseconds, and of those the whole microseconds. -/
def timerSpan (seconds : Float) : Except Fault Int :=
  match Binary.ofFloat (seconds * 1e9) with
  | .finite negative m e => .ok ((Binary.truncate negative m e) / 1000)
  | .nan => .error (.error .badValue "cannot convert float NaN to integer")
  | .infinite _ => .error (.error .overflow "cannot convert float infinity to integer")

/-- Waits until a timer fires; a pause without length takes one turn and no timer. -/
def pause (seconds : Float) : Play Data := do
  if seconds <= 0.0 then
    Flow.turn
    return .null
  let fired ← Flow.ofKernel (·.newFuture)
  let seq ← nextTimer
  match timerSpan seconds with
  | .error e => do
    emit (.startTimer seq 0)
    Flow.fail e
  | .ok after => do
    emit (.startTimer seq after)
    Play.modifyEngine fun e => { e with pendingTimers := (seq, fired) :: e.pendingTimers }
    let r ← Flow.attempt (Flow.await fired)
    if ((← Play.engine).pendingTimers.lookup seq).isSome then
      Play.modifyEngine fun e => { e with pendingTimers := without e.pendingTimers seq }
      emit (.cancelTimer seq)
    Flow.ofExcept r

def sleep (ctx : Context) (duration : Data) : Play Unit := do
  let seconds ← Flow.ofExcept (checkedSeconds duration)
  let timer ← Flow.spawnUnder ctx.scope (pause seconds)
  discard (get ctx { source := timer, translates := true } none)

def primitives : Primitives Execution where
  log _ level text := Play.log level text
  identity _ := do return (← Play.engine).identity
  startActivity := startActivity
  startChild := startChild
  get := get
  childExecution := childExecution
  signalChild := signalChild
  setQueryHandler := setQueryHandler
  setSignalHandler := setSignalHandler
  sideEffect := sideEffect
  now _ := do return .instant (← Play.engine).clock
  sleep := sleep

/-- What a program sees of the engine: no simulation, so neither its calls nor its handlers. -/
def programHost : ProgramHost Execution where
  primitives := primitives
  calls := Flow.fail (.error .access "no simulated engine")
  query _ _ _ := Flow.fail (.error .access "no simulated engine")
  signalExternal := signalExternal

end Execution

end ScriptFlow
