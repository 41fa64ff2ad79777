import ScriptFlow.Plugin.Module

/-!
# Script sessions

A session is a script environment at work: its modules are there, and the thread of the run is known to their functions. `Session.load` runs a script,
`Session.call` a function of a loaded script. A function of a module may let the script wait; the script waits nowhere else, and what it asks
for is asked in the order in which it asks.

Errors become errors of the script, which may catch them. Two things leave the script instead: a cancellation of the task, and a result that was waited for
and has no form in scripts.
-/

namespace ScriptFlow

open Script

structure Session (ε : Type) where
  environment : Environment
  modules : List (String × Module ε)
  thread : Thread

/-- What has become of a script: the store, and a value or an error. -/
abbrev Ending := Store × Except Fault Value

namespace Session

variable {ε : Type}

def create (sources : Sources) (modules : List (String × Module ε)) (thread : Thread) : Except Fault (Session ε) := do
  let environment ← Environment.create sources (modules.map fun m => (m.1, m.2.name))
  return { environment := environment, modules := modules, thread := thread }

def module (s : Session ε) (number : Nat) : Module ε := ((s.modules[number]?).map Prod.snd).getD {}

/-- The attribute of a module, as an answer for the script. -/
def readAttribute (s : Session ε) (number : Nat) (name : Option String) (shown : String) : Play ε Answer := do
  let m := s.module number
  match name with
  | none => return .error (attributeNotFound m.name shown)
  | some name =>
    match m.attributes.resolve m.name name with
    | .ok (.builtin name _) => return .function name
    | .ok (.property p) =>
      match ← Flow.attempt p with
      | .ok d => return .value d
      | .error e => return .error e
    | .error e => return .error e

/-- Calls a function of a module. -/
def invoke (s : Session ε) (number : Nat) (function : String) (args : List Data) (options : List (String × Data)) :
    Play ε (Reply ε) :=
  let m := s.module number
  match m.attributes.builtins.lookup function with
  | some f => f.call s.thread args options
  | none => Flow.fail (attributeNotFound m.name function)

/-- Runs a script to its end, answering what it asks for. -/
def drive (s : Session ε) : Nat → Machine → Play ε Ending
  | 0, m => pure (m.store, .error (.error .runtime "script runs too long"))
  | fuel + 1, m =>
    match Environment.advance m with
    | .finished store vs => pure (store, .ok (first vs))
    | .failed store e => pure (Environment.told store e, .error (Environment.uncaught store e))
    | .running m => drive s fuel m
    | .asking request waiting => do
      match waiting.ask request with
      | .refused report e =>
        match report with
        | some line => Play.error line
        | none => pure ()
        drive s fuel (waiting.refuse e)
      | .attribute number name shown => drive s fuel (waiting.answer (← s.readAttribute number name shown))
      | .names number => drive s fuel (waiting.answer (.value (.list ((s.module number).attributes.names.map .str))))
      | .log text =>
        Play.info text
        drive s fuel (waiting.answer (.value .null))
      | .invoke number function args options =>
        match ← Flow.attempt (s.invoke number function args options) with
        | .error e => drive s fuel (waiting.refuse e)
        | .ok (.now d) => drive s fuel (waiting.answer (.value d))
        | .ok (.later wait) =>
          if waiting.canPause then
            match ← Flow.attempt wait with
            | .ok d =>
              match waiting.store.ofData d with
              | .ok (store, v) => drive s fuel ({ waiting with store := store }.reply (.value v))
              | .error e => pure (waiting.store, .error e)
            | .error e => if e.isOrdinary then drive s fuel (waiting.refuse e) else pure (waiting.store, .error e)
          else drive s fuel waiting.stuck

/-- Runs a machine of the session. -/
def runMachine (s : Session ε) (m : Machine) : Play ε (Session ε × Except Fault Value) := do
  let (store, r) ← s.drive Environment.steps m
  return ({ s with environment := ⟨store⟩ }, r)

/-- Loads a script, once. -/
def load (s : Session ε) (path : Data) : Play ε (Session ε × Except Fault Data) := do
  match s.environment.load path with
  | .error e => return (s, .error e)
  | .ok m =>
    let (s, r) ← s.runMachine m
    return (s, r.map fun _ => .null)

/-- Calls a function of a loaded script. -/
def call (s : Session ε) (path function : Data) (args : List Data) (options : List (Data × Data)) :
    Play ε (Session ε × Except Fault Data) := do
  match s.environment.call path function args options with
  | .error e => return (s, .error e)
  | .ok m =>
    let (s, r) ← s.runMachine m
    return (s, r.bind s.environment.store.toData)

end Session

end ScriptFlow
