import ScriptFlow.Durable.Command
import ScriptFlow.Registration.Table
import ScriptFlow.Workflow.World

/-!
# A running execution

What the durable engine knows of one execution: the commands of the present activation, and by their numbers the calls whose outcome will be delivered. An
outcome is delivered to a future; the task that stands for the call waits for that future behind a shield, so cancelling the task asks the
engine for a cancellation and leaves the outcome open.

A task that is cancelled before it starts cannot ask for anything. The kernel keeps a notice of it instead, and `Execution.takeNotices` turns
notices into commands before any other command is added: commands are in the order of what caused them.
-/

namespace ScriptFlow

/-- A call of an activity or a side effect, as the task that waits for it is known to the kernel. -/
structure CallTask where
  seq : Nat
  isSideEffect : Bool

/-- The request to cancel a call. -/
def CallTask.cancellation (c : CallTask) : Command :=
  if c.isSideEffect then .cancelSideEffect c.seq else .cancelActivity c.seq

/-- A call whose outcome is still to come. -/
structure PendingCall where
  task : FutureId
  outcome : FutureId
  deriving Inhabited

/-- A child workflow. -/
structure ChildRun where
  id : String
  runId : String := ""
  /-- decided when it is known whether the child runs -/
  start : FutureId
  outcome : FutureId
  /-- the task that waits for the outcome -/
  task : FutureId
  isPending : Bool := true
  deriving Inhabited

structure Execution where
  identity : Identity
  registries : List Registry := []
  /-- the metadata that the execution was started with -/
  inbound : List (Data × Data) := []
  /-- microseconds after the start -/
  clock : Int := 0
  /-- the commands of the activation, the latest first -/
  commands : List Command := []
  /-- how many calls of activities and side effects there have been -/
  calls : Nat := 0
  children : Nat := 0
  timers : Nat := 0
  signals : Nat := 0
  callTasks : List (FutureId × CallTask) := []
  pendingCalls : List (Nat × PendingCall) := []
  /-- the closures of side effects that have not ended, by key -/
  sideEffects : List (Nat × Except Fault Data) := []
  childRuns : List (Nat × ChildRun) := []
  pendingTimers : List (Nat × FutureId) := []
  pendingSignals : List (Nat × FutureId) := []
  queryHandlers : List (String × QueryHandler) := []
  signalHandlers : List (String × SignalHandler) := []
  /-- the arguments of signals that no handler has taken, by name -/
  waitingSignals : List (String × List (List Data)) := []
  cancelRequested : Bool := false
  /-- an error that the engine takes for a fault of the worker -/
  failure : Option Fault := none

instance : Inhabited Execution := ⟨{ identity := {} }⟩

namespace Execution

/-- A part of a program on the durable engine. -/
abbrev Play := ScriptFlow.Play Execution

/-- The state of a loop with an execution. -/
abbrev State := LoopState (World Execution)

def modifyState (s : State) (f : Execution → Execution) : State := { s with world := { s.world with engine := f s.world.engine } }

/-- Entries without the one under a number. -/
def without {α : Type} (entries : List (Nat × α)) (n : Nat) : List (Nat × α) := entries.filter (·.1 != n)

/-- Turns notices of tasks that never started into commands. -/
def takeNotices (s : State) : State :=
  let tasks := s.world.engine.callTasks
  let commands := s.kernel.notices.filterMap fun t => (tasks.lookup t).map CallTask.cancellation
  modifyState { s with kernel := { s.kernel with notices := [] } } fun e => { e with commands := commands ++ e.commands }

/-- Adds a command. -/
def addCommand (s : State) (c : Command) : State := modifyState (takeNotices s) fun e => { e with commands := c :: e.commands }

def emit (c : Command) : Play Unit := Flow.modifyGet fun s => ((), addCommand s c)

/-- The commands of the activation in order. -/
def commandsOf (s : State) : List Command := Command.untilEnd (takeNotices s).world.engine.commands.reverse

def nextCall : Play Nat := Play.ofEngine fun e => ({ e with calls := e.calls + 1 }, e.calls + 1)

def nextChild : Play Nat := Play.ofEngine fun e => ({ e with children := e.children + 1 }, e.children + 1)

def nextTimer : Play Nat := Play.ofEngine fun e => ({ e with timers := e.timers + 1 }, e.timers + 1)

def nextSignal : Play Nat := Play.ofEngine fun e => ({ e with signals := e.signals + 1 }, e.signals + 1)

/-- A child that was started. -/
def childRun (seq : Nat) : Play ChildRun := do return ((← Play.engine).childRuns.lookup seq).getD default

end Execution

end ScriptFlow
