import ScriptFlow.Flow.Basic

/-!
# The cooperative loop

One task runs at a time, until it waits or ends; then the next job of the queue is taken. `Loop.step` is one node of the program under way or one job. A loop
is over when no task runs and the queue is empty, or — with `Loop.runUntil` — when a given future is decided.
-/

namespace ScriptFlow

/-- A loop between two steps. -/
structure Loop (σ : Type) where
  state : LoopState σ
  /-- what the tasks that wait do next, by task -/
  parked : Array (Option (Except Fault Data → Proc σ)) := #[]
  /-- the task under way -/
  focus : Option (FutureId × Proc σ) := none

namespace Loop

variable {σ : Type}

def withKernel (l : Loop σ) (f : Kernel → Kernel) : Loop σ :=
  { l with state := { l.state with kernel := f l.state.kernel } }

/-- Keeps what a task does next. -/
def park (l : Loop σ) (t : FutureId) (next : Except Fault Data → Proc σ) : Loop σ :=
  let missing := t + 1 - l.parked.size
  { l with parked := (l.parked ++ Array.replicate missing none).modify t fun _ => some next }

/-- Adds a task; one that is cancelled before it starts never runs. -/
def start (l : Loop σ) (watched : Bool) (body : FutureId → Proc σ) : Loop σ × FutureId :=
  let (k, t) := l.state.kernel.newTask watched
  ({ l with state := { l.state with kernel := k } }.park t fun
    | .ok _ => body t
    | .error e => .finish (.error e), t)

/-- A task goes on. -/
def resume (l : Loop σ) (t : FutureId) (input : Except Fault Data) : Loop σ :=
  match l.parked[t]? with
  | some (some next) =>
    let (k, input) := l.state.kernel.enterTask t input
    { state := { l.state with kernel := k }, parked := l.parked.modify t fun _ => none, focus := some (t, next input) }
  | _ => l

/-- A step of the task under way. -/
def advance (l : Loop σ) (t : FutureId) : Proc σ → Loop σ
  | .finish r => { l.withKernel (·.finishTask t r) with focus := none }
  | .access f =>
    let { state, parked, focus := _ } := l
    let (state, p) := f state
    { state := state, parked := parked, focus := some (t, p) }
  | .spawn watched body next =>
    let (l, child) := l.start watched body
    { l with focus := some (t, next child) }
  | .await f next =>
    match (l.state.kernel.future f).outcome with
    | some o => { l with focus := some (t, next o.result) }
    | none => { (l.park t next).withKernel (·.waitFor t f) with focus := none }
  | .turn next => { (l.park t next).withKernel (·.queue [.resume t (.ok .null)]) with focus := none }

/-- A job from the queue. -/
def takeJob (l : Loop σ) : Job → Loop σ
  | .resume t input => l.resume t input
  | .callback source (.wake t) =>
    match (l.state.kernel.future source).outcome with
    | some o => l.resume t o.result
    | none => l
  | .callback source c => l.withKernel (·.runCallback source c)

/-- One step; nothing when there is nothing to do. -/
def step (l : Loop σ) : Option (Loop σ) :=
  match l.focus with
  | some (t, p) => some (({ l with focus := none } : Loop σ).advance t p)
  | none =>
    match l.state.kernel.ready with
    | [] => none
    | j :: rest => some ((l.withKernel fun k => { k with ready := rest }).takeJob j)

/-- Runs until `stop` holds between two steps, or nothing is left to do. -/
def runWhile (continues : Loop σ → Bool) : Nat → Loop σ → Loop σ
  | 0, l => l
  | fuel + 1, l =>
    if continues l then
      match l.step with
      | some l => runWhile continues fuel l
      | none => l
    else l

/-- More steps than any program takes. -/
def steps : Nat := Nat.pow 2 62

/-- Runs until nothing is left to do. -/
def settle (l : Loop σ) : Loop σ := runWhile (fun _ => true) steps l

/-- Runs until a task has ended. -/
def runUntil (l : Loop σ) (t : FutureId) : Loop σ :=
  runWhile (fun l => l.focus.isSome || !l.state.kernel.isDone t) steps l

/-- Runs a program in a world. -/
def runMain (world : σ) (body : Flow σ Data) : Except Fault Data × σ :=
  let (l, t) := ({ state := { world := world } } : Loop σ).start false fun _ => body .finish
  let l := l.runUntil t
  match (l.state.kernel.future t).outcome with
  | some o => (o.result, l.state.world)
  | none => (.error (.error .runtime "nothing left to run"), l.state.world)

end Loop

end ScriptFlow
