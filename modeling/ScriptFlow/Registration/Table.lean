import ScriptFlow.Options.Basic
import ScriptFlow.Registration.Callable

/-!
# Registration tables

A worker knows its functions by name. A name is registered once, unless the registration allows a duplicate; then the new function takes the place of the
old one. All workers share these rules.
-/

namespace ScriptFlow

structure Registration where
  name : String
  function : Callable
  deriving Inhabited

inductive RegistrationKind where
  | workflow
  | activity
  deriving DecidableEq, Repr, Inhabited

def RegistrationKind.name : RegistrationKind → String
  | workflow => "workflow"
  | activity => "activity"

/-- The error for a value without a name. -/
def nameless : Fault := .error .access "no name"

/-- The name under which a function is registered. -/
def registrationName (c : Callable) (o : RegisterOptions) : Except Fault String :=
  let own (name : Option String) : Except Fault String :=
    match name with
    | some n => .ok n
    | none => .error nameless
  match o.name with
  | some n => if n != "" then .ok n else own (if o.shortName then c.shortName else c.qualifiedName)
  | none => own (if o.shortName then c.shortName else c.qualifiedName)

structure RegistrationTable where
  kind : RegistrationKind
  entries : List Registration := []
  deriving Inhabited

namespace RegistrationTable

def get? (t : RegistrationTable) (name : String) : Option Registration := t.entries.find? (·.name == name)

def contains (t : RegistrationTable) (name : String) : Bool := (t.get? name).isSome

/-- Puts an entry in the place of the one with its name, or at the end. -/
def put (t : RegistrationTable) (r : Registration) : RegistrationTable :=
  if t.contains r.name then { t with entries := t.entries.map fun e => if e.name == r.name then r else e }
  else { t with entries := t.entries ++ [r] }

def add (t : RegistrationTable) (c : Callable) (o : RegisterOptions) : Except Fault (RegistrationTable × Registration) := do
  let name ← registrationName c o
  if t.contains name && !o.allowDuplicate then
    throw (.error .registration (t.kind.name ++ " '" ++ name ++ "' is already registered"))
  let r : Registration := ⟨name, c⟩
  return (t.put r, r)

/-- The entry with a name, or the first with a function. -/
def lookup? (t : RegistrationTable) : Target → Option Registration
  | .name n => t.get? n
  | .function c =>
    match c.text? with
    | some n => t.get? n
    | none => t.entries.find? (·.function.key == c.key)

def names (t : RegistrationTable) : List String := t.entries.map (·.name)

end RegistrationTable

/-- The tables of a worker. -/
structure Registry where
  workflows : RegistrationTable := { kind := .workflow }
  activities : RegistrationTable := { kind := .activity }

instance : Inhabited Registry := ⟨{}⟩

namespace Registry

def table (r : Registry) : RegistrationKind → RegistrationTable
  | .workflow => r.workflows
  | .activity => r.activities

def setTable (r : Registry) (t : RegistrationTable) : Registry :=
  match t.kind with
  | .workflow => { r with workflows := t }
  | .activity => { r with activities := t }

def checkShape (kind : RegistrationKind) (c : Callable) : Except Fault Unit :=
  match kind with
  | .workflow => discard c.workflowParameters
  | .activity => c.checkActivity

/-- The table with a function, after a check of its shape. -/
def enter (r : Registry) (kind : RegistrationKind) (c : Callable) (o : RegisterOptions) : Except Fault (RegistrationTable × Registration) := do
  checkShape kind c
  (r.table kind).add c o

/-- Registers a function. -/
def register (r : Registry) (kind : RegistrationKind) (c : Callable) (o : RegisterOptions) : Except Fault Registry := do
  let (t, _) ← r.enter kind c o
  return r.setTable t

/-- The name of a target: a name stands for itself; a function has the name it is registered under with the first of the workers that knows it, or else
the name it would get. -/
def nameAmong (rs : List Registry) (kind : RegistrationKind) (target : Target) : Except Fault String :=
  match target with
  | .name n => .ok n
  | .function c =>
    match c.text? with
    | some n => .ok n
    | none =>
      match rs.findSome? fun r => (r.table kind).lookup? target with
      | some entry => .ok entry.name
      | none => registrationName c {}

end Registry

end ScriptFlow
