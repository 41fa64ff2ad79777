import ScriptFlow.Data.Notation
import ScriptFlow.Flow.Kernel

/-!
# Cooperative programs

A `Proc` is the program of a task: it reads and changes the state of the loop, starts other tasks, waits, and ends with a result. `Flow` is the monad that
builds such programs; its errors are faults, and an act that fails passes its fault to the nearest `Flow.attempt`.

Only `Flow.await` on an open future and `Flow.turn` let other tasks run.
-/

namespace ScriptFlow

/-- The state of a loop: its kernel and what the tasks share besides. -/
structure LoopState (σ : Type) where
  kernel : Kernel := {}
  world : σ

inductive Proc (σ : Type) where
  | finish (r : Except Fault Data)
  | access (f : LoopState σ → LoopState σ × Proc σ)
  /-- a new task, which may be watched for a cancellation before its start -/
  | spawn (watched : Bool) (body : FutureId → Proc σ) (next : FutureId → Proc σ)
  | await (f : FutureId) (next : Except Fault Data → Proc σ)
  /-- all tasks that are ready run before this one goes on -/
  | turn (next : Except Fault Data → Proc σ)

instance {σ : Type} : Inhabited (Proc σ) := ⟨.finish (.ok .null)⟩

/-- A part of a cooperative program. -/
def Flow (σ α : Type) : Type := (Except Fault α → Proc σ) → Proc σ

namespace Flow

variable {σ α β : Type}

instance : Monad (Flow σ) where
  pure a := fun k => k (.ok a)
  bind m f := fun k => m fun
    | .ok a => f a k
    | .error e => k (.error e)

instance : Inhabited (Flow σ α) := ⟨fun _ => default⟩

/-- Fails. -/
def fail (e : Fault) : Flow σ α := fun k => k (.error e)

/-- What an act gives or how it fails. -/
def attempt (m : Flow σ α) : Flow σ (Except Fault α) := fun k => m fun r => k (.ok r)

def ofExcept (r : Except Fault α) : Flow σ α := fun k => k r

instance : MonadExcept Fault (Flow σ) where
  throw := fail
  tryCatch m h := fun k => m fun
    | .ok a => k (.ok a)
    | .error e => h e k

def modifyGet (f : LoopState σ → α × LoopState σ) : Flow σ α := fun k => .access fun s =>
  let (a, s) := f s
  (s, k (.ok a))

/-- Changes the state, or fails and leaves it. -/
def tryModify (f : LoopState σ → Except Fault (α × LoopState σ)) : Flow σ α := fun k => .access fun s =>
  match f s with
  | .ok (a, s) => (s, k (.ok a))
  | .error e => (s, k (.error e))

/-- The state of the kernel. -/
def kernel : Flow σ Kernel := modifyGet fun s => (s.kernel, s)

def modifyKernel (f : Kernel → Kernel) : Flow σ Unit := modifyGet fun s => ((), { s with kernel := f s.kernel })

/-- Changes the kernel and gives a result. -/
def ofKernel (f : Kernel → Kernel × α) : Flow σ α := modifyGet fun s =>
  let (k, a) := f s.kernel
  (a, { s with kernel := k })

/-- Changes the kernel, or fails. -/
def tryKernel (f : Kernel → Except Fault Kernel) : Flow σ Unit := tryModify fun s => do
  let k ← f s.kernel
  pure ((), { s with kernel := k })

def world : Flow σ σ := modifyGet fun s => (s.world, s)

def modifyWorld (f : σ → σ) : Flow σ Unit := modifyGet fun s => ((), { s with world := f s.world })

/-- Changes the world and gives a result. -/
def ofWorld (f : σ → σ × α) : Flow σ α := modifyGet fun s =>
  let (w, a) := f s.world
  (a, { s with world := w })

/-- A new task. -/
def spawn (body : Flow σ Data) : Flow σ FutureId := fun k => .spawn false (fun _ => body .finish) fun t => k (.ok t)

/-- A new task that is watched for a cancellation before its start; it knows itself. -/
def spawnWatched (body : FutureId → Flow σ Data) : Flow σ FutureId :=
  fun k => .spawn true (fun t => body t .finish) fun t => k (.ok t)

/-- Waits for a future. -/
def await (f : FutureId) : Flow σ Data := fun k => .await f k

/-- Lets all tasks that are ready run. -/
def turn : Flow σ Unit := fun k => .turn fun
  | .ok _ => k (.ok ())
  | .error e => k (.error e)

def turns : Nat → Flow σ Unit
  | 0 => pure ()
  | n + 1 => do
    turn
    turns n

/-- Ends a wait under a scope: its stand-in need not be cancelled with the scope any more. -/
def leave (scope : ScopeId) (f waiter : FutureId) (r : Except Fault Data) : Flow σ Data := do
  let k ← kernel
  modifyKernel (·.offCancel scope waiter)
  ofExcept (k.endOfWait scope f r)

/-- Waits for a future under a scope: a cancelled scope ends the wait, not the future. -/
def awaitUnder (scope : ScopeId) (f : FutureId) : Flow σ Data := do
  ofExcept ((← kernel).scopes.check scope)
  let waiter ← ofKernel (·.shield f)
  modifyKernel (·.onCancel scope waiter)
  leave scope f waiter (← attempt (await waiter))

/-- Starts a task that is cancelled with a scope. -/
def spawnUnder (scope : ScopeId) (body : Flow σ Data) : Flow σ FutureId := do
  let t ← spawn body
  modifyKernel (·.link scope t)
  return t

end Flow

/-! ### What a call gives

A call of a function gives a value at once, or an awaitable: work that is still to be done and that nobody does unless it is waited for.
-/

inductive Returned (σ : Type) where
  | value (d : Data)
  | awaitable (work : Flow σ Data)

/-- What a function does when it is called. -/
abbrev Body (σ : Type) := List Data → Flow σ (Returned σ)

namespace Returned

variable {σ : Type}

/-- Waits; a value cannot be waited for. -/
def await : Returned σ → Flow σ Data
  | value d => Flow.fail (.error .misuse ("object " ++ d.typeName ++ " can't be used in 'await' expression"))
  | awaitable work => work

/-- Waits if there is something to wait for. -/
def settle : Returned σ → Flow σ Data
  | value d => pure d
  | awaitable work => work

end Returned

end ScriptFlow
