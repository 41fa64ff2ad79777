import ScriptFlow.Program.Step
import ScriptFlow.Workflow.Primitives

/-!
# Running programs

The steps of a path are performed in order. The answer of a step is what it gives, or its error; a failure ends the path only if the step says so. A path
gives what its last step returns, if anything.

A path that a program starts shares the program's names and has answers of its own. A program run as a child workflow has names of its own.
-/

namespace ScriptFlow

/-- What programs need from an engine besides the primitives. -/
structure ProgramHost (ε : Type) where
  primitives : Primitives ε
  calls : Play ε Data
  query : Context → String → List Data → Play ε Data
  signalExternal : Context → String → Option String → String → Data → Play ε Unit

namespace Program

variable {ε : Type}

/-- How many turns a path waits that lets everything else settle. -/
def settleTurns : Nat := 50

/-- The context of a program that belongs to no engine. -/
def plainContext : Play ε Context := do return { scope := ← Flow.ofKernel (·.newScope) }

/-- A look-up among the names of a program. -/
def named {α : Type} (entries : List (String × α)) (name : String) : Play ε α :=
  match entries.lookup name with
  | some a => return a
  | none => Flow.fail (.missingKey (.str name))

def setName {α : Type} (entries : List (String × α)) (name : String) (a : α) : List (String × α) :=
  (name, a) :: entries.filter (·.1 != name)

/-- Gives a context a name. -/
def keepContext (n : Nat) (name : String) (c : Context) : Play ε Unit :=
  Play.modifyProgram n fun p => { p with contexts := setName p.contexts name c }

def keepPromise (n : Nat) (name : String) (x : Promise) : Play ε Unit :=
  Play.modifyProgram n fun p => { p with promises := setName p.promises name x }

/-- The entries of a dictionary, or of a list of pairs. -/
def entriesOf (d : Data) : Except Fault (List (Data × Data)) :=
  let bad : Fault := .error .misuse "not a mapping"
  match d with
  | .dict es => .ok es
  | .list xs | .tuple xs => xs.mapM fun x => match x.items? with
    | some [k, v] => .ok (k, v)
    | _ => .error bad
  | _ => .error bad

/-- A context with some fields replaced. -/
def changed (c : Context) : List (Data × Data) → Except Fault Context
  | [] => .ok c
  | (.str "values", v) :: rest => do changed { c with values := ← entriesOf v } rest
  | (.str "headers", v) :: rest => do changed { c with headers := ← entriesOf v } rest
  | _ => .error (.error .misuse "unknown field")

def contextData (c : Context) (cancelled : Bool) : Data := .object
  [("values", .list (c.values.map fun e => .list [e.1, e.2])), ("headers", .dict c.headers),
   ("activity_options", c.activityOptions.toData), ("child_options", c.childOptions.toData), ("cancelled", .bool cancelled)]

def identityData (i : Identity) : Data := .object
  [("execution_id", .str i.id), ("run_id", .str i.runId), ("workflow_type", .str i.workflowType), ("domain", .str i.domain),
   ("task_list", .str i.taskList)]

/-- A step that derives a context and names it. -/
def deriveStep (n : Nat) (name : String) (c : Context) : Play ε Data := do
  keepContext n name c
  return .null

/-- A step that gives a promise a name. -/
def promiseStep (n : Nat) (name : String) (m : Play ε Promise) : Play ε Data := do
  keepPromise n name (← m)
  return .null

/-- Everything but paths and their ends. -/
def perform (host : ProgramHost ε) (n : Nat) (ctx : Context) (action : ProgramAction) : Play ε Data := do
  let w := host.primitives
  match action with
  | .withValue name key value =>
    if key.isHashable then deriveStep n name (ctx.withValue key value) else Flow.fail (.error .misuse "unhashable key")
  | .withHeaders name headers =>
    match headers with
    | .dict es => deriveStep n name (ctx.withHeaders es)
    | _ => Flow.fail (.error .misuse "not a mapping")
  | .derive name changes => do deriveStep n name (← Flow.ofExcept (do changed ctx (← entriesOf changes)))
  | .withCancel name => do deriveStep n name (← ctx.withCancel)
  | .disconnect name => do deriveStep n name (← ctx.disconnected)
  | .withTaskList name x => deriveStep n name (ctx.withTaskList x)
  | .withWorkflowDomain name x => deriveStep n name (ctx.withWorkflowDomain x)
  | .withWorkflowTaskList name x => deriveStep n name (ctx.withWorkflowTaskList x)
  | .withActivityOptions name options => do
    deriveStep n name (ctx.withActivityOptions (← Flow.ofExcept (Model.read ActivityOptions.reader options)))
  | .withChildOptions name options => do
    deriveStep n name (ctx.withChildOptions (← Flow.ofExcept (Model.read ChildOptions.reader options)))
  | .showContext brief => do
    let cancelled ← ctx.isCancelled
    return if brief then .bool cancelled else contextData ctx cancelled
  | .value key default =>
    if key.isHashable then return ctx.value key default else Flow.fail (.error .misuse "unhashable key")
  | .cancel => do
    ctx.cancel
    return .null
  | .activity name target args => promiseStep n name (w.startActivity ctx target args)
  | .child name target args => promiseStep n name (w.startChild ctx target args)
  | .execution future name => do
    let p ← named (← Play.program n).promises future
    promiseStep n name (w.childExecution p)
  | .signal future name signal d => do
    let p ← named (← Play.program n).promises future
    promiseStep n name (w.signalChild ctx p signal d)
  | .signalExternal id runId signal d => do
    host.signalExternal ctx id runId signal d
    return .null
  | .future name => do
    let f ← Flow.ofKernel (·.newFuture)
    keepPromise n name { source := f }
    Play.modifyProgram n fun p => { p with settables := setName p.settables name f }
    return .null
  | .settle future s => do
    let f ← named (← Play.program n).settables future
    Flow.tryKernel (·.settleBy f s)
    return .null
  | .chain future source => do
    let p ← Play.program n
    let f ← named p.settables future
    let source : ChainSource := match p.promises.lookup source with
      | some promise => .future promise.source
      | none => .other "NoneType"
    Flow.tryKernel (·.settleBy f (.chain source))
    return .null
  | .get future type => do
    let p ← named (← Play.program n).promises future
    w.get ctx p type
  | .ready future => do
    let p ← named (← Play.program n).promises future
    return .bool ((← Flow.kernel).isDone p.source)
  | .pause turns => do
    Flow.turns (turns.getD settleTurns)
    return .null
  | .sideEffect r => w.sideEffect ctx r
  | .now => w.now ctx
  | .sleep duration => do
    w.sleep ctx duration
    return .null
  | .later seconds => do
    match ← w.now ctx with
    | .instant us => Flow.ofExcept (do return .instant (← Instant.after us (← Span.ofNumber seconds)))
    | other => return other
  | .setQuery name value => do
    w.setQueryHandler ctx name (.fixed value)
    return .null
  | .query name args => host.query ctx name args
  | .setSignal name list => do
    w.setSignalHandler ctx name (.collect n list)
    return .null
  | .received list => return .list (((← Play.program n).received.lookup list).getD [])
  | .info => do return identityData (← w.identity ctx)
  | .customError reason details => return .fault (.custom reason details)
  | .calls => host.calls
  | .raise e => Flow.fail e
  | .unknown name => Flow.fail (.missingKey (.str name))
  | .go .. | .return _ => return .null

/-- The answer of a step that fails; a cancellation of the task itself says no more than that. -/
def failureAnswer (e : Fault) : Data :=
  match e with
  | .taskCancelled _ => .object [("error", .str e.name)]
  | e => e.report

/-- What the steps of a path share. -/
structure PathRun (ε : Type) where
  host : ProgramHost ε
  /-- the program whose names are used -/
  program : Nat
  context : Context
  /-- where the answers go -/
  path : Nat

/-- Performs the steps that are left and tells what the last one returns; `last` is the value of the latest step, and `go` runs a path of its own. -/
def performSteps (go : PathRun ε → List Data → Play ε (Option Data)) (r : PathRun ε) (last : Data) :
    List Data → Play ε (Option Data)
  | [] => return none
  | d :: rest => do
    let step := ProgramStep.read d
    match step.action with
    | .return value => do
      Play.addAnswer r.path (.str "returned")
      return some (value.getD last)
    | action => do
      let outcome ← Flow.attempt do
        let ctx ← match step.context with
          | none => pure r.context
          | some name => do named (← Play.program r.program).contexts name
        match action with
        | .go name steps => do
          let path ← Play.newPath
          Play.modifyProgram r.program fun p => { p with paths := setName p.paths name path }
          let t ← Flow.spawnUnder ctx.scope do return (← go { r with context := ctx, path := path } steps).getD .null
          keepPromise r.program name { source := t }
          return .null
        | action => perform r.host r.program ctx action
      match outcome with
      | .ok d => do
        Play.addAnswer r.path d.toNotation
        performSteps go r d rest
      | .error e => do
        Play.addAnswer r.path (failureAnswer e)
        if step.propagates || !e.isOrdinary || action.isRaise then Flow.fail e
        else performSteps go r last rest

/-- Runs a path; paths nest at most as deep as the number says. -/
def runPath : Nat → PathRun ε → List Data → Play ε (Option Data)
  | 0, _, _ => Flow.fail (.error .recursion "paths nest too deep")
  | depth + 1, r, steps => performSteps (runPath depth) r .null steps

/-- How deep paths and child programs nest. -/
def maxDepth : Nat := 10000

/-- Runs a program with names of its own. Its result is what its last step returns, or the list of its answers. -/
def run (host : ProgramHost ε) (ctx : Context) (steps : List Data) : Play ε Data := do
  let plain ← plainContext
  let n ← Play.newProgram { contexts := [("root", ctx), ("plain", plain)] }
  let path ← Play.newPath
  match ← runPath maxDepth { host := host, program := n, context := ctx, path := path } steps with
  | some d => return d
  | none => return .list ((← Flow.world).answers path)

end Program

end ScriptFlow
