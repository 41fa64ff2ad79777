import ScriptFlow.Flow.Loop
import ScriptFlow.Simulation.Primitives

/-!
# Trying programs

A trial runs a program as the root workflow of a simulated engine that knows the sample functions and programs, and shows what the engine has seen when the
program ends. Tasks that are still under way then are left alone.
-/

namespace ScriptFlow

structure ProgramTrial where
  steps : List Data
  headers : List (Data × Data) := []
  identity : Identity := {}
  expectations : List ExpectationPlan := []

/-- What a trial shows. -/
structure ProgramReport where
  /-- the answers of the root path -/
  results : List Data
  /-- the answers of the paths that it started, by name -/
  paths : List (String × List Data)
  unexpected : List String

namespace ProgramTrial

/-- The sample functions and programs under their own names. -/
def registry : Registry :=
  let table (kind : RegistrationKind) (cs : List Callable) : RegistrationTable :=
    { kind := kind, entries := cs.map fun c => ⟨c.key, c⟩ }
  { workflows := table .workflow (Sample.workflows ++ [Sample.programFunction]), activities := table .activity Sample.activities }

def run (t : ProgramTrial) : ProgramReport :=
  let engine : Simulator := { registry := registry, expectations := t.expectations.map fun p => p.expectation.1 }
  let body : Simulator.Play Data := do
    let scope ← Flow.ofKernel (·.newScope)
    let ctx : Context := { headers := t.headers, scope := scope, identity := some t.identity }
    Program.run (Simulator.programHost (Simulator.enginePrimitives {})) ctx t.steps
  let (_, w) := Loop.runMain { engine := engine } body
  { results := w.answers 0
    paths := w.pathAnswers 0
    unexpected := w.engine.unexpected }

end ProgramTrial

end ScriptFlow
