import ScriptFlow.Flow.Scope

/-!
# Traces of cancellation

A trace performs steps on named scopes and tells after each which scopes are cancelled and which callbacks ran. A callback has a name, belongs to the scope
it was made for, and performs steps of its own when it runs.

A scope that has lost its name stays in the forest as long as the unregister function of some callback still refers to it.
-/

namespace ScriptFlow

/-- A step of a trace. -/
inductive ScopeStep where
  | new (scope : String)
  | child (parent scope : String)
  /-- registers a callback; only a new name takes the reaction -/
  | on (scope callback : String) (reaction : List ScopeStep)
  /-- calls the latest unregister function of a callback -/
  | remove (callback : String)
  | cancel (scope : String)
  | check (scope : String)
  | drop (scope : String)
  | raise (e : Fault)
  deriving Inhabited

/-- A callback: the scope it was made for and what it does. -/
structure ScopeCallback where
  home : String
  reaction : List ScopeStep
  /-- the scope where it can be unregistered; none when it ran at once -/
  registered : Option ScopeId := none

structure ScopeTrace where
  forest : Forest String := {}
  /-- in the order of creation -/
  scopes : List (String × ScopeId) := []
  callbacks : List (String × ScopeCallback) := []
  /-- the callbacks that ran in this step, by home -/
  fired : List (String × String) := []

/-- What a step of a trace shows. -/
structure ScopeReport where
  failure : Option Fault
  /-- every scope with the callbacks that ran, in order -/
  fired : List (String × List String)
  cancelled : List String

namespace ScopeTrace

/-- Work that is left. -/
inductive Work where
  | step (s : ScopeStep)
  | errand (e : Errand String)

def scope? (t : ScopeTrace) (name : String) : Except Fault ScopeId :=
  match t.scopes.lookup name with
  | some s => .ok s
  | none => .error (.missingKey (.str name))

/-- Replaces or adds an entry. -/
def put {α : Type} (entries : List (String × α)) (name : String) (a : α) : List (String × α) :=
  if entries.any (·.1 == name) then entries.map fun e => if e.1 == name then (name, a) else e else entries ++ [(name, a)]

/-- Scopes without a name and without a way to unregister are gone. -/
def collect (t : ScopeTrace) : ScopeTrace :=
  let known (s : ScopeId) : Bool := t.scopes.any (·.2 == s) || t.callbacks.any (·.2.registered == some s)
  { t with forest := (List.range t.forest.scopes.size).foldl (fun f s => if known s then f else f.release s) t.forest }

/-- A step: what it changes and what is to be done next. -/
def perform (t : ScopeTrace) : ScopeStep → Except Fault (ScopeTrace × List Work)
  | .new name =>
    let (forest, s) := t.forest.new
    .ok ({ t with forest := forest, scopes := put t.scopes name s }, [])
  | .child parent name => do
    let (forest, s) := t.forest.child (← t.scope? parent)
    return ({ t with forest := forest, scopes := put t.scopes name s }, [])
  | .on scope name reaction => do
    let s ← t.scope? scope
    let c := (t.callbacks.lookup name).getD { home := scope, reaction := reaction }
    let registered := if t.forest.isCancelled s then none else some s
    let (forest, due) := t.forest.on s name
    return ({ t with forest := forest, callbacks := put t.callbacks name { c with registered := registered } }, due.map .errand)
  | .remove name =>
    match t.callbacks.lookup name with
    | some { registered := some s, .. } => .ok ({ t with forest := t.forest.remove s name }, [])
    | some _ => .ok (t, [])
    | none => .error (.missingKey (.str name))
  | .cancel scope => do return (t, [.errand (.cancel (← t.scope? scope))])
  | .check scope => do
    t.forest.check (← t.scope? scope)
    return (t, [])
  | .drop scope => do
    let _ ← t.scope? scope
    return (collect { t with scopes := t.scopes.filter (·.1 != scope) }, [])
  | .raise e => .error e

/-- One piece of work: what it changes and what is to be done next. A callback that is due performs its reaction. -/
def advance (t : ScopeTrace) : Work → Except Fault (ScopeTrace × List Work)
  | .step s => t.perform s
  | .errand e =>
    let (forest, more, due) := t.forest.next e
    let t := { t with forest := forest }
    match due with
    | none => .ok (t, more.map .errand)
    | some name =>
      let c := (t.callbacks.lookup name).getD { home := "", reaction := [] }
      .ok ({ t with fired := t.fired ++ [(c.home, name)] }, c.reaction.map .step)

/-- The error of callbacks that go on calling each other. -/
def tooDeep : Fault := .error .recursion "maximum recursion depth exceeded"

/-- Works off what is to be done; an error drops what is left. -/
def workOff : Nat → ScopeTrace → List Work → ScopeTrace × Option Fault
  | _, t, [] => (t, none)
  | 0, t, _ => (t, some tooDeep)
  | fuel + 1, t, w :: rest =>
    match t.advance w with
    | .ok (t, more) => workOff fuel t (more ++ rest)
    | .error e => (t, some e)

/-- Entries that belong together, in the order of their first. -/
def grouped : List (String × String) → List (String × List String)
  | [] => []
  | (home, name) :: rest =>
    let others := grouped rest
    match others.lookup home with
    | some names => (home, name :: names) :: others.filter (·.1 != home)
    | none => (home, [name]) :: others

/-- How many pieces of work a step may take. -/
def workLimit : Nat := Nat.pow 2 20

/-- Performs a step and tells what it did. -/
def run (t : ScopeTrace) (s : ScopeStep) : ScopeTrace × ScopeReport :=
  let (t, failure) := workOff workLimit { t with fired := [] } [.step s]
  (t, { failure := failure, fired := grouped t.fired
        cancelled := (t.scopes.filter fun e => t.forest.isCancelled e.2).map Prod.fst })

/-- Performs steps one after the other. -/
def runAll (t : ScopeTrace) : List ScopeStep → List ScopeReport
  | [] => []
  | s :: rest =>
    let (t, r) := t.run s
    r :: runAll t rest

end ScopeTrace

end ScriptFlow
