import ScriptFlow.Data.Payload
import ScriptFlow.Flow.Basic
import ScriptFlow.Simulation.Expectation
import ScriptFlow.Workflow.Primitives

/-!
# The simulated engine

The engine runs activities and child workflows as tasks of the same loop, either as expectations say or by the registered functions. Arguments and results
take the trip through payloads that they would take on a real worker. Time is virtual and moves only by pauses.

A child gets an identity below that of its parent, numbered over the whole engine. Signals to a run wait until a handler for their
name is there.
-/

namespace ScriptFlow

/-- A call that was made, with the context it was made under. -/
structure Call where
  name : String
  args : List Data
  context : Context
  deriving Inhabited

/-- What a record of a call shows. -/
def Call.toData (c : Call) : Data := .object
  [("name", .str c.name), ("args", .list c.args), ("headers", .dict c.context.headers),
   ("activity_task_list", .ofOption .str c.context.activityOptions.taskList),
   ("child_domain", .ofOption .str c.context.childOptions.domain), ("child_task_list", .ofOption .str c.context.childOptions.taskList),
   ("execution_id", .str ((c.context.identity.map (·.id)).getD ""))]

/-- Values under a run and a name. -/
abbrev ByRun (α : Type) := List (String × List (String × α))

namespace ByRun

variable {α : Type}

def ofRun (m : ByRun α) (run : String) : List (String × α) := (m.lookup run).getD []

def get? (m : ByRun α) (run name : String) : Option α := (m.ofRun run).lookup name

def setRun (m : ByRun α) (run : String) (entries : List (String × α)) : ByRun α :=
  (run, entries) :: m.filter (·.1 != run)

def set (m : ByRun α) (run name : String) (a : α) : ByRun α :=
  m.setRun run ((name, a) :: (m.ofRun run).filter (·.1 != name))

def erase (m : ByRun α) (run name : String) : ByRun α := m.setRun run ((m.ofRun run).filter (·.1 != name))

end ByRun

structure Simulator where
  registry : Registry := {}
  expectations : List Expectation := []
  /-- texts about calls that no expectation took, in order -/
  unexpected : List String := []
  activityCalls : List Call := []
  workflowCalls : List Call := []
  queryHandlers : ByRun QueryHandler := []
  signalHandlers : ByRun SignalHandler := []
  pendingSignals : ByRun (List Data) := []
  /-- microseconds after the start -/
  clock : Int := 0
  children : Nat := 0

instance : Inhabited Simulator := ⟨{}⟩

/-- What the registered functions do. -/
structure Library (ε : Type) where
  activity : Callable → Body (World ε)
  workflow : Callable → Context → List Data → Play ε Data

namespace Simulator

/-- Hands a call to the expectations of its name; nothing is expected of a name without any. -/
def expect (s : Simulator) (kind : CallKind) (name : String) (args : List Data) :
    Simulator × Except Fault (Option (Except Fault Data)) :=
  if !s.expectations.any (·.isAbout kind name) then (s, .ok none)
  else
    match Expectation.taker? kind name args 0 s.expectations with
    | .error e => (s, .error e)
    | .ok (some i) =>
      let outcome := ((s.expectations[i]?).map (·.outcome)).getD (.ok .null)
      ({ s with expectations := s.expectations.modify i fun e => { e with calls := e.calls + 1 } }, .ok (some outcome))
    | .ok none =>
      let text := unexpectedCall kind name args
      ({ s with unexpected := s.unexpected ++ [text] }, .error (.error .unexpectedCall text))

/-- The calls that were made. -/
def callData (s : Simulator) : Data := .object
  [("activities", .list (s.activityCalls.map (·.toData))), ("workflows", .list (s.workflowCalls.map (·.toData)))]

/-- The next identity of a child. -/
def nextChild (s : Simulator) (parent : Identity) : Simulator × String × String :=
  let n := s.children + 1
  let suffix := "-child-" ++ toString n
  ({ s with children := n }, parent.id ++ suffix, parent.runId ++ suffix)

/-- The instant of a wake-up. -/
def wakeTime (clock : Int) (seconds : Float) : Except Fault Int := do
  Instant.after clock (← Span.ofSeconds seconds)

end Simulator

end ScriptFlow
