import ScriptFlow.Plugin.Basic

/-!
# Calls of activities and workflows from scripts

`cad.execute_activity` and `cad.execute_workflow` take a name, positional values and options. Every option derives a context for this one call; the script's
own context stays as it is. A call with a bad name or a bad option is refused before anything is asked from the engine.
-/

namespace ScriptFlow

namespace Cad

/-- The reason of errors about arguments. -/
def invalidArgument : String := "invalid-argument"

/-- The reason of errors about options that are planned. -/
def unimplemented : String := "unimplemented"

variable {ε : Type}

/-- Logs and raises the error of a function. -/
def refuse {α : Type} (w : Primitives ε) (ctx : Context) (builtin : String) (e : Fault) : Play ε α := do
  w.log ctx .error ("builtin-error: " ++ builtin ++ ": " ++ e.logText)
  Flow.fail e

def optionError (key expected : String) (d : Data) : Fault :=
  .custom invalidArgument [.str (key ++ " must be " ++ expected ++ ", got " ++ d.typeName)]

/-- One option applied to the context and the wish for bytes so far. -/
def applyOption (derivations : List (String × (Context → String → Context))) (ctx : Context) (asBytes : Bool)
    (key : String) (d : Data) : Except Fault (Context × Bool) :=
  match derivations.lookup key with
  | some f =>
    match d with
    | .str s => .ok (f ctx s, asBytes)
    | .looseText _ => .ok (ctx, asBytes)
    | d => .error (optionError key "str" d)
  | none =>
    if key == "as_bytes" then
      match d with
      | .bool b => .ok (ctx, b)
      | d => .error (optionError key "bool" d)
    else if key == "headers" then .error (.custom unimplemented [])
    else .error (.custom invalidArgument [.str ("unsupported key: " ++ key)])

/-- All options applied in order. -/
def applyOptions (derivations : List (String × (Context → String → Context))) (ctx : Context) (asBytes : Bool) :
    List (String × Data) → Except Fault (Context × Bool)
  | [] => .ok (ctx, asBytes)
  | (key, d) :: rest => do
    let (ctx, asBytes) ← applyOption derivations ctx asBytes key d
    applyOptions derivations ctx asBytes rest

def flagText (b : Bool) : String := if b then "True" else "False"

/-- Waits for the result of a call; a failure is logged. -/
def result (w : Primitives ε) (ctx : Context) (p : Promise) (asBytes : Bool) : Play ε Data := do
  match ← Flow.attempt (w.get ctx p (if asBytes then some .bytes else none)) with
  | .ok d => return d
  | .error e =>
    if e.isOrdinary then w.log ctx .error ("builtin-error: as_bytes=" ++ flagText asBytes ++ ": " ++ e.logText)
    Flow.fail e

/-- A function that calls something by name. -/
def execute (w : Primitives ε) (builtin : String) (derivations : List (String × (Context → String → Context)))
    (start : Context → Target → List Data → Play ε Promise) : Builtin ε := fun thread args options => do
  match args with
  | .str name :: rest =>
    match applyOptions derivations thread.context false options with
    | .error e => refuse w thread.context builtin e
    | .ok (ctx, asBytes) => do
      let p ← start ctx (.name name) rest
      return .later (result w ctx p asBytes)
  | _ => refuse w thread.context builtin (.custom invalidArgument [.str (builtin ++ ": first argument must be a name string")])

def builtins (w : Primitives ε) : List (String × Builtin ε) :=
  [("execute_activity", execute w "execute_activity" [("task_list", Context.withTaskList)] w.startActivity),
   ("execute_workflow", execute w "execute_workflow"
      [("domain", Context.withWorkflowDomain), ("task_list", Context.withWorkflowTaskList)] w.startChild)]

def plugin : Plugin ε :=
  { id := "cad"
    create := fun w info =>
      { name := "cad"
        attributes :=
          { builtins := builtins w
            properties := [("execution_id", return .str info.identity.id), ("execution_run_id", return .str info.identity.runId)] } } }

end Cad

end ScriptFlow
