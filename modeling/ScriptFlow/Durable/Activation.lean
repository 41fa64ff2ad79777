import ScriptFlow.Data.Payload
import ScriptFlow.Durable.Entry
import ScriptFlow.Flow.Loop

/-!
# Activations

An execution goes on when the engine activates it with news: outcomes of calls, timers, signals, queries and requests to cancel. Signals are delivered first and
run until nothing can proceed; then the other news, in order; then queries are answered. The answer of an activation is the commands that
came of it.

News about a call that is not pending, and an error that the engine does not know, are faults of the worker: the activation fails, and the execution
stops where it was.
-/

namespace ScriptFlow

/-- The outcome of a call. -/
inductive CallOutcome where
  | value (d : Data)
  | failure (e : Fault)
  | cancelled (message : String)
  | timedOut (message : String)
  deriving Inhabited

/-- Whether a child runs. -/
inductive StartOutcome where
  | running (runId : String)
  /-- the identity is taken -/
  | taken
  | cancelled (message : String)

/-- What an activation delivers. -/
inductive News where
  | activity (seq : Nat) (outcome : CallOutcome)
  /-- a worker runs a side effect, under its own key or an unknown one -/
  | sideEffect (seq : Nat) (knowsKey : Bool)
  | childStart (seq : Nat) (outcome : StartOutcome)
  | child (seq : Nat) (outcome : CallOutcome)
  | timer (seq : Nat)
  | signal (name : String) (args : List Data)
  | signalled (seq : Nat) (failure : Option Fault)
  | query (name : String) (args : List Data)
  | cancel

namespace News

def isSignal : News → Bool
  | signal .. => true
  | _ => false

def isQuery : News → Bool
  | query .. => true
  | _ => false

end News

/-- An error as it arrives: what the engine does not know becomes a failure of the application. -/
def Fault.arrived : Fault → Fault
  | .application m type details n => .application m (nonEmpty type) (((details.mapM WirePayload.carry).toOption).getD []) n
  | .engineCancelled m => .engineCancelled m
  | .activityFailed m cause => .activityFailed m cause
  | .childFailed m cause => .childFailed m cause
  | e => .application e.message (some e.name) [] false

namespace CallOutcome

/-- The outcome as the waiting task gets it; `wrap` names the call that failed. -/
def decide (wrap : Option Fault → Fault) : CallOutcome → Except Fault Outcome
  | value d => do return .value (← WirePayload.carry d)
  | failure e => .ok (.error (wrap (some e.arrived)))
  | cancelled m => .ok (.error (wrap (some (.engineCancelled m))))
  | timedOut _ => .ok (.error (wrap none))

end CallOutcome

def activityFailure (cause : Option Fault) : Fault := .activityFailed "Activity task failed" cause

def childFailure (cause : Option Fault) : Fault := .childFailed "Child Workflow execution failed" cause

namespace Activation

/-- A loop that runs an execution. -/
abbrev Stage := Loop (World Execution)

def engine (l : Stage) : Execution := l.state.world.engine

def modify (l : Stage) (f : Execution → Execution) : Stage := { l with state := Execution.modifyState l.state f }

/-- Runs until nothing is left to do, or the worker is at fault. -/
def settle (l : Stage) : Stage := Loop.runWhile (fun l => l.focus.isSome || (engine l).failure.isNone) Loop.steps l

/-- The error for news about a call that is not pending. -/
def unknownCall {α : Type} (what : String) (seq : Nat) : Except Fault α :=
  .error (.error .runtime ("Failed finding " ++ what ++ " for sequence " ++ toString seq))

/-- Delivers the outcome of an activity or a side effect; a failure means nothing to a task that never started. -/
def deliverCall (l : Stage) (seq : Nat) (outcome : CallOutcome) : Except Fault Stage := do
  match (engine l).pendingCalls.lookup seq with
  | none => unknownCall "activity handle" seq
  | some call =>
    let l := modify l fun e => { e with pendingCalls := Execution.without e.pendingCalls seq }
    let started := match (l.state.kernel.future call.task).task with
      | some t => t.started
      | none => true
    match ← outcome.decide activityFailure with
    | .error e => return if started then l.withKernel (·.resolve call.outcome (.error e)) else l
    | o => return l.withKernel (·.resolve call.outcome o)

/-- The outcome of running a side effect. -/
def runSideEffect (x : Execution) (seq : Nat) (knowsKey : Bool) : CallOutcome :=
  match if knowsKey then x.sideEffects.lookup seq else none with
  | none => .failure (.application "side effect is not pending" none [] true)
  | some closure =>
    match do (← closure).toPayload with
    | .ok d => .value d
    | .error e => .failure e

/-- What becomes of a child when it is known whether it runs. -/
def settleStart (l : Stage) (seq : Nat) (run : ChildRun) (o : Outcome) : Stage :=
  (modify l fun e => { e with childRuns := (seq, run) :: Execution.without e.childRuns seq }).withKernel fun k => k.resolve run.start o

def deliverStart (l : Stage) (seq : Nat) (outcome : StartOutcome) : Except Fault Stage :=
  match ((engine l).childRuns.lookup seq).filter (·.isPending) with
  | none => unknownCall "child workflow handle" seq
  | some run =>
    match outcome with
    | .running runId => .ok (settleStart l seq { run with runId := runId } (.value .null))
    | .taken => .ok (settleStart l seq { run with isPending := false }
        (.error (.error .workflowAlreadyStarted "Workflow execution already started")))
    | .cancelled m => .ok (settleStart l seq { run with isPending := false } (.error (childFailure (some (.engineCancelled m)))))

/-- Delivers the outcome of a child; a failure before the start is the outcome of the start. -/
def deliverChild (l : Stage) (seq : Nat) (outcome : CallOutcome) : Except Fault Stage := do
  match ((engine l).childRuns.lookup seq).filter (·.isPending) with
  | none => unknownCall "child workflow handle" seq
  | some run =>
    let l := modify l fun e =>
      { e with childRuns := (seq, { run with isPending := false }) :: Execution.without e.childRuns seq }
    let o ← outcome.decide childFailure
    let target := match o with
      | .error _ => if l.state.kernel.isDone run.start then run.outcome else run.start
      | _ => run.outcome
    return l.withKernel fun k => k.resolve target o

/-- A timer that fires decides its future in a turn of its own; one that is not pending is ignored. -/
def fire (l : Stage) (seq : Nat) : Stage :=
  match (engine l).pendingTimers.lookup seq with
  | none => l
  | some fired => (modify l fun e => { e with pendingTimers := Execution.without e.pendingTimers seq }).withKernel fun k =>
      let (k, due) := k.decided (.value .null)
      k.addCallback due (.forward fired)

def deliverSignalled (l : Stage) (seq : Nat) (failure : Option Fault) : Except Fault Stage :=
  match (engine l).pendingSignals.lookup seq with
  | none => unknownCall "signal handle" seq
  | some done =>
    .ok ((modify l fun e => { e with pendingSignals := Execution.without e.pendingSignals seq }).withKernel
      (·.resolve done (match failure with
        | some e => .error e.arrived
        | none => .value .null)))

/-- Hands a signal to the task of its handler, or keeps it for one. -/
def deliverSignal (l : Stage) (name : String) (args : List Data) : Except Fault Stage := do
  let args ← args.mapM WirePayload.carry
  match (engine l).signalHandlers.lookup name with
  | some h => return (l.start false fun _ => Execution.signalTask h args .finish).1
  | none => return modify l fun e =>
    { e with waitingSignals :=
        (name, (e.waitingSignals.lookup name).getD [] ++ [args]) :: e.waitingSignals.filter (·.1 != name) }

/-- A request to cancel reaches the task of the execution in a turn of its own. -/
def requestCancel (l : Stage) (main : FutureId) : Stage :=
  (modify l fun e => { e with cancelRequested := true }).withKernel fun k =>
    let (k, due) := k.decided .cancelled
    k.addCallback due (.relay main)

/-- The answer of a query as the engine gets it. -/
def answerQuery (w : World Execution) (name : String) (args : List Data) : Except String Data :=
  match w.engine.queryHandlers.lookup name with
  | none => .error ("Query handler for '" ++ name ++ "' expected but not found")
  | some h =>
    match (do WirePayload.carry (← w.answer h (← args.mapM WirePayload.carry)) : Except Fault Data) with
    | .ok d => .ok d
    | .error e => .error e.message

/-- Delivers one piece of news; `query` is the number of the next query. -/
def deliver (main : FutureId) (query : Nat) (l : Stage) : News → Except Fault Stage
  | .activity seq outcome => deliverCall l seq outcome
  | .sideEffect seq knowsKey => deliverCall l seq (runSideEffect (engine l) seq knowsKey)
  | .childStart seq outcome => deliverStart l seq outcome
  | .child seq outcome => deliverChild l seq outcome
  | .timer seq => .ok (fire l seq)
  | .signal name args => deliverSignal l name args
  | .signalled seq failure => deliverSignalled l seq failure
  | .query name args => .ok { l with state := Execution.addCommand l.state (.respond query (answerQuery l.state.world name args)) }
  | .cancel => .ok (requestCancel l main)

/-- Delivers news in order. -/
def deliverAll (main : FutureId) (query : Nat) (l : Stage) : List News → Except Fault Stage
  | [] => .ok l
  | n :: rest => do deliverAll main (if n.isQuery then query + 1 else query) (← deliver main query l n) rest

/-- Delivers groups of news one after the other; after each the execution runs until nothing can proceed. -/
def proceed (main : FutureId) (l : Stage) : List (List News) → Stage × Except Fault Unit
  | [] => (l, .ok ())
  | group :: rest =>
    match deliverAll main 1 l group with
    | .error e => (l, .error e)
    | .ok l =>
      let l := settle l
      match (engine l).failure with
      | some e => (l, .error e)
      | none => proceed main l rest

/-- Activates the execution: it goes on and says what it asks for. -/
def activate (main : FutureId) (l : Stage) (clock : Int) (news : List News) : Stage × Except Fault (List Command) :=
  let l := modify l fun e => { e with clock := clock, commands := [] }
  let groups := [news.filter News.isSignal, news.filter fun n => !(n.isSignal || n.isQuery), news.filter News.isQuery]
  let (l, r) := proceed main l groups
  (l, r.map fun _ => Execution.commandsOf l.state)

end Activation

end ScriptFlow
