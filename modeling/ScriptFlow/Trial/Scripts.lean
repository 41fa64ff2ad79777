import ScriptFlow.Flow.Loop
import ScriptFlow.Plugin.Catalogue
import ScriptFlow.Service.Session

/-!
# Trying scripts

A trial loads scripts and calls their functions one after the other in one session with the tools, without any engine, and tells after each step what it
gave and what was logged.
-/

namespace ScriptFlow

/-- A step of a trial. -/
inductive ScriptStep where
  | load (path : Data)
  | call (path function : Data) (args : List Data) (options : List (Data × Data))

/-- What a step gave and logged. -/
structure StepReport where
  outcome : Except Fault Data
  log : List LogLine

structure ScriptTrial where
  sources : Sources
  /-- global names of the tools -/
  modules : List String := ["tools"]
  thread : String := "test"
  environ : List (Data × Data) := []
  steps : List ScriptStep

namespace ScriptTrial

/-- The part of a program that a trial is: its world collects the reports, the latest first. -/
abbrev TrialPlay := Play (List StepReport)

def performStep (s : Session (List StepReport)) : ScriptStep → TrialPlay (Session (List StepReport) × Except Fault Data)
  | .load path => s.load path
  | .call path function args options => s.call path function args options

/-- Performs steps; each has a log of its own. -/
def perform (s : Session (List StepReport)) : List ScriptStep → TrialPlay Data
  | [] => return .null
  | step :: rest => do
    let (s, r) ← performStep s step
    Flow.modifyWorld fun w => { w with engine := ⟨r, w.lines⟩ :: w.engine, log := [] }
    perform s rest

/-- The reports of all steps. -/
def run (t : ScriptTrial) : Except Fault (List StepReport) := do
  let modules := t.modules.zipIdx.map fun (name, i) => (name, Tools.module 0 i t.environ)
  let s ← Session.create t.sources modules { name := t.thread, context := {}, run := 0 }
  let body : TrialPlay Data := do
    let _ ← Play.newRun
    perform s t.steps
  let (_, w) := Loop.runMain { engine := [] } body
  return w.engine.reverse

end ScriptTrial

end ScriptFlow
