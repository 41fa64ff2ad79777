import ScriptFlow.Options.Basic
import ScriptFlow.Registration.Table

/-!
# Trying registrations

A trial works on the tables of one worker and tells after each step what it found. Adding to a table takes anything with a name; registering on the worker
checks the function first.
-/

namespace ScriptFlow

inductive RegistrationStep where
  | name (c : Callable) (options : Data)
  | validate (c : Callable)
  | add (kind : RegistrationKind) (c : Callable) (options : Data)
  | register (kind : RegistrationKind) (c : Callable) (options : Data)
  | get (kind : RegistrationKind) (name : String)
  | lookup (kind : RegistrationKind) (target : Target)
  | contains (kind : RegistrationKind) (name : String)
  | list (kind : RegistrationKind)
  | start
  | stop
  /-- runs until it is told to stop; shows whether the worker is running before and after that -/
  | run

namespace Registration

def toData (r : Registration) : Data := .object [("name", .str r.name), ("fn", .str r.function.key)]

end Registration

namespace RegistrationStep

def perform (r : Registry) : RegistrationStep → Except Fault (Registry × Data)
  | name c options => do
    let o ← Model.read RegisterOptions.reader options
    return (r, .str (← registrationName c o))
  | validate c => do return (r, .list ((← c.workflowParameters).map fun p => .str p.name))
  | add kind c options => do
    let o ← Model.read RegisterOptions.reader options
    let (t, entry) ← (r.table kind).add c o
    return (r.setTable t, entry.toData)
  | register kind c options => do
    let o ← Model.read RegisterOptions.reader options
    return (← r.register kind c o, .null)
  | get kind n => return (r, .ofOption Registration.toData ((r.table kind).get? n))
  | lookup kind target => return (r, .ofOption Registration.toData ((r.table kind).lookup? target))
  | contains kind n => return (r, .bool ((r.table kind).contains n))
  | list kind =>
    let entries := (r.table kind).entries
    return (r, .list [.int entries.length, .list (entries.map (·.toData))])
  | start => return (r, .bool true)
  | stop => return (r, .bool false)
  | run => return (r, .list [.bool true, .bool false])

/-- Performs steps; one that fails changes nothing. -/
def runAll (r : Registry) : List RegistrationStep → List (Except Fault Data)
  | [] => []
  | s :: rest =>
    match s.perform r with
    | .ok (r, d) => .ok d :: runAll r rest
    | .error e => .error e :: runAll r rest

end RegistrationStep

end ScriptFlow
