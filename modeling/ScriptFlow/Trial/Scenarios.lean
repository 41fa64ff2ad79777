import ScriptFlow.Simulation.Harness

/-!
# Scenarios on a harness

A scenario sets expectations, executes functions of scripts and looks at what came of them, step by step.
-/

namespace ScriptFlow

inductive ScenarioStep where
  | expect (p : ExpectationPlan)
  | execute (request : ScriptRequest) (headers : List (Data × Data))
  | result (type : Option ResultType)
  | query (name : String) (args : List Data)
  | verify
  | calls
  | callsTo (name : String)
  /-- an expectation, counted among those that were set up without an error -/
  | expectation (i : Nat)
  | state

/-- What a step shows, with the log of an execution. -/
structure ScenarioReport where
  outcome : Except Fault Data
  log : Option (List LogLine) := none

structure Scenario where
  harness : Harness
  /-- the places of the expectations -/
  places : List Nat := []

namespace Scenario

def expectationData (x : Expectation) : Data := .object
  [("calls", .int x.calls), ("expected", .int x.expected), ("exhausted", .bool x.isExhausted), ("describe", .str x.describe)]

def stateData (h : Harness) : Data := .object
  [("completed", .bool h.isCompleted), ("failed", .bool h.hasFailed), ("now", .instant h.engine.clock)]

def perform (s : Scenario) : ScenarioStep → Scenario × ScenarioReport
  | .expect p =>
    match s.harness.expect p with
    | (h, .ok place) => ({ harness := h, places := s.places ++ [place] }, { outcome := .ok .null })
    | (h, .error e) => ({ s with harness := h }, { outcome := .error e })
  | .execute request headers =>
    let (h, r, log) := s.harness.execute request headers
    ({ s with harness := h }, { outcome := r, log := log })
  | .result type => (s, { outcome := s.harness.result type })
  | .query name args => (s, { outcome := s.harness.query name args })
  | .verify => (s, { outcome := s.harness.verify.map fun _ => .null })
  | .calls => (s, { outcome := .ok s.harness.engine.callData })
  | .callsTo name => (s, { outcome := .ok (.list ((s.harness.argumentsOf name).map .list)) })
  | .expectation i =>
    let x := (s.places[i]?).bind fun place => s.harness.engine.expectations[place]?
    (s, { outcome := match x with
      | some x => .ok (expectationData x)
      | none => .error (.error .outOfRange "list index out of range") })
  | .state => (s, { outcome := .ok (stateData s.harness) })

def run (s : Scenario) : List ScenarioStep → List ScenarioReport
  | [] => []
  | step :: rest =>
    let (s, r) := s.perform step
    r :: run s rest

end Scenario

end ScriptFlow
