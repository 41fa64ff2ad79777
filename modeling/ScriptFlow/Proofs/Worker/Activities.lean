import Mathlib
import ScriptFlow.Proofs.Simulation.Ledger
import ScriptFlow.Proofs.Worker.Registration

/-!
# Activities on both workers

The durable worker goes by what a function is declared to be: it waits for one that is declared asynchronous. The simulated worker goes by what a call
gives: it waits if there is something to wait for. A function that is declared asynchronous gives something to wait for, but so may another.

* `Body.IsAsynchronous`, `Body.IsPlain` — functions of which every call gives an awaitable, and of which none does.
* `ActivityAdapter.execute_settled`, `ActivityAdapter.execute_value_iff` — a definition comes to what the simulated worker gives once everything is waited
  for, and gives that itself exactly when no awaitable is left over.
* `DurableWorker.activities_agree_when_waited_for` — **the same for every activity of both workers**, with the run of the simulated one.
  `DurableWorker.awaitable_is_left_over` is an activity that gives an awaitable.
-/

namespace ScriptFlow

/-! ## Programs as a monad -/

instance {σ : Type} : LawfulMonad (Flow σ) := .mk' (Flow σ)
  (fun m => funext fun k => congrArg m (funext fun r => by cases r <;> rfl))
  (fun _ _ => rfl)
  (fun m f g => funext fun k => congrArg m (funext fun r => by cases r <;> rfl))

/-! ## What calls give -/

section Bodies

variable {σ : Type} {body : Body σ} {a : ActivityAdapter}

/-- Every call gives an awaitable unless it fails before that. -/
def Body.IsAsynchronous (body : Body σ) : Prop :=
  ∃ work : List Data → Flow σ (Flow σ Data), ∀ args, body args = do return .awaitable (← work args)

/-- No call gives an awaitable. -/
def Body.IsPlain (body : Body σ) : Prop :=
  ∃ plain : List Data → Flow σ Data, ∀ args, body args = do return .value (← plain args)

namespace ActivityAdapter

/-- A definition that is not asynchronous gives what its function gives. -/
theorem execute_of_not_async (ha : a.isAsync = false) (args : List Data) : a.execute body args = body args := by
  simp [execute, call, ha]

/-- An asynchronous definition waits for its function. -/
theorem execute_of_async (ha : a.isAsync = true) (args : List Data) :
    a.execute body args = do return .value (← (← body args).await) := by
  simp [execute, call, ha, Returned.await]

/-- Of an asynchronous function the definition gives what there is after the wait. -/
theorem execute_async (ha : a.isAsync = true) (hbody : body.IsAsynchronous) (args : List Data) :
    a.execute body args = do return .value (← (← body args).settle) := by
  obtain ⟨work, hwork⟩ := hbody
  rw [execute_of_async ha, hwork args]
  simp [Returned.await, Returned.settle]

/-- When everything is waited for, the definition comes to what a call of the function comes to. -/
theorem execute_settled (hbody : a.isAsync = true → body.IsAsynchronous) (args : List Data) :
    a.execute body args >>= Returned.settle = body args >>= Returned.settle := by
  cases ha : a.isAsync with
  | false => rw [execute_of_not_async ha]
  | true =>
    rw [execute_async ha (hbody ha), bind_assoc]
    exact bind_congr fun r => (bind_assoc _ _ _).trans (bind_pure _)

/-- The definition gives that itself exactly when it is asynchronous or no call of the function gives an awaitable. -/
theorem execute_value_iff (hbody : a.isAsync = true → body.IsAsynchronous) :
    (∀ args, a.execute body args = do return .value (← (← body args).settle)) ↔ a.isAsync = true ∨ body.IsPlain := by
  cases ha : a.isAsync with
  | true => exact ⟨fun _ => .inl rfl, fun _ => execute_async ha (hbody ha)⟩
  | false =>
    simp only [execute_of_not_async ha, Bool.false_eq_true, false_or]
    constructor
    · exact fun h => ⟨fun args => do (← body args).settle, h⟩
    · rintro ⟨plain, hplain⟩ args
      rw [hplain args]
      simp [Returned.settle]

end ActivityAdapter

end Bodies

/-! ## The definitions of a worker -/

namespace DurableWorker

variable {w : DurableWorker} {e : Registration}

theorem activityAdapter_eq (h : w.rules.activity e.function = .ok ()) :
    w.activityAdapter e.name e.function = .ok { name := e.name, isAsync := e.function.isAsync, function := e.function } := by
  rw [activityAdapter, ActivityAdapter.build, h]
  rfl

/-- The definition of a function that is registered and that the engine takes. -/
theorem Regular.activity?_eq (h : w.Regular) (he : e ∈ w.registry.activities.entries) (htaken : w.rules.activity e.function = .ok ()) :
    w.activity? e.name = .ok { name := e.name, isAsync := e.function.isAsync, function := e.function } := by
  have hmem := h.activities.built e he _ (activityAdapter_eq htaken)
  rw [activity?]
  cases hlookup : w.definitions.lookup e.name with
  | none => exact absurd (List.lookup_eq_none_iff.mp hlookup _ hmem) (by simp)
  | some a =>
    obtain ⟨front, back, hfound, -⟩ := List.lookup_eq_some_iff.mp hlookup
    have hfirst : (e.name, a) ∈ w.definitions := by
      rw [hfound]
      exact List.mem_append_right _ (.head _)
    cases List.inj_on_of_nodup_map h.activities.keys hmem hfirst rfl
    rfl

/-- The entry of a function that is registered. -/
theorem Regular.get?_eq (h : w.Regular) (he : e ∈ w.registry.activities.entries) : w.registry.activities.get? e.name = some e := by
  rw [RegistrationTable.get?]
  cases hfind : w.registry.activities.entries.find? (·.name == e.name) with
  | none => exact absurd (List.find?_eq_none.mp hfind e he) (by simp)
  | some e' =>
    have hname : e'.name = e.name := by simpa using List.find?_some hfind
    exact congrArg some (List.inj_on_of_nodup_map h.activities.names (List.mem_of_find?_eq_some hfind) he hname)

end DurableWorker

/-! ## Runs of the simulated worker -/

namespace Simulator

variable {l : Loop (World Simulator)} {t : FutureId} {name : String} {args payload : List Data} {e : Registration}
  {lib : Library Simulator} {cont : Except Fault Data → Proc (World Simulator)}

/-- How an activity of which nothing is expected goes on with the registered functions. -/
def lookedUp (lib : Library Simulator) (name : String) (payload : List Data) (r : Registry) : Play Data :=
  match r.activities.get? name with
  | none => Flow.fail (notRegistered .activity name)
  | some e => do Flow.ofExcept (← callActivity lib e.function payload).toPayload

theorem performed_free (lib : Library Simulator) (name : String) (payload : List Data) (cont : Except Fault Data → Proc (World Simulator)) :
    performed .activity name payload (fun r args => callActivity lib r.function args) (.ok none) cont =
      .access fun st => (st, lookedUp lib name payload st.world.engine.registry cont) := rfl

/-- An activity of which nothing is expected comes to a call of its function with the payload of the arguments, and goes on with the payload of what
the call comes to. -/
theorem runActivity_calls (hmocked : ¬ l.state.world.engine.IsMocked .activity name) (hpayload : Data.toPayloads args = .ok payload)
    (hget : l.state.world.engine.registry.activities.get? name = some e) (hf : l.focus = some (t, runActivity lib name args cont)) :
    ∃ l', (l.step >>= Loop.step) = some l' ∧ l'.state.kernel = l.state.kernel ∧ l'.state.world.engine = l.state.world.engine ∧
      l'.focus = some (t, callActivity lib e.function payload fun r => cont (r.bind (·.toPayload))) := by
  obtain ⟨hengine, hfocus⟩ := executed_eq l t .activity name payload (fun r args => callActivity lib r.function args) cont
  rw [fate_of_not_mocked hmocked] at hengine hfocus
  have hcalls : lookedUp lib name payload l.state.world.engine.registry cont =
      callActivity lib e.function payload fun r => cont (r.bind (·.toPayload)) := by
    rw [lookedUp, hget]
    exact congrArg (callActivity lib e.function payload) (funext fun r => by cases r <;> rfl)
  rw [step_perform hpayload hf, Option.bind_eq_bind, Option.bind_some]
  refine ⟨_, Loop.step_of_access (hfocus.trans (congrArg (fun p => some (t, p)) (performed_free ..))), rfl, hengine, ?_⟩
  rw [Loop.accessed, hengine]
  exact congrArg (fun p => some (t, p)) hcalls

end Simulator

/-! ## Both workers -/

namespace DurableWorker

/-- **An activity of both workers gives the same when it is waited for.** However the registrations went, a function that is in the tables and that the
engine takes has a definition, and what the engine makes of it comes, once everything is waited for, to what the simulated worker gives; on the simulated worker
that is all that happens between the payload of the arguments and the payload of the result. The definition gives that itself, for all
arguments, exactly when the function is declared asynchronous or never gives an awaitable. -/
theorem activities_agree_when_waited_for (config : WorkerConfig) (rules : EngineRules) (requests : List RegistrationRequest)
    (lib : Library Simulator) {e : Registration} (hentry : e ∈ (Registry.afterAll {} requests).activities.entries)
    (htaken : rules.activity e.function = .ok ()) (hasync : e.function.isAsync = true → (lib.activity e.function).IsAsynchronous) :
    ∃ a, (afterAll { config := config, rules := rules } requests).activity? e.name = .ok a ∧ a.function = e.function ∧
      (∀ args, a.execute (lib.activity e.function) args >>= Returned.settle = Simulator.callActivity lib e.function args) ∧
      ((∀ args, a.execute (lib.activity e.function) args = do return .value (← Simulator.callActivity lib e.function args)) ↔
        e.function.isAsync = true ∨ (lib.activity e.function).IsPlain) ∧
      ∀ (l : Loop (World Simulator)) t args payload cont, l.state.world.engine.registry = Registry.afterAll {} requests →
        ¬ l.state.world.engine.IsMocked .activity e.name → Data.toPayloads args = .ok payload →
        l.focus = some (t, Simulator.runActivity lib e.name args cont) →
        ∃ l', (l.step >>= Loop.step) = some l' ∧ l'.state.kernel = l.state.kernel ∧ l'.state.world.engine = l.state.world.engine ∧
          l'.focus = some (t, Simulator.callActivity lib e.function payload fun r => cont (r.bind (·.toPayload))) := by
  obtain ⟨hregular, hregistry, -, hrules⟩ := (Regular.blank config rules).afterAll requests
  have he : e ∈ (afterAll { config := config, rules := rules } requests).registry.activities.entries := by
    rw [hregistry]
    exact hentry
  refine ⟨_, hregular.activity?_eq he (by rw [hrules]; exact htaken), rfl, ActivityAdapter.execute_settled hasync,
    ActivityAdapter.execute_value_iff hasync, fun l t args payload cont htables hmocked hpayload hf => ?_⟩
  refine Simulator.runActivity_calls hmocked hpayload ?_ hf
  rw [htables]
  exact hregistry ▸ hregular.get?_eq he

/-- The registration of a sample that is declared asynchronous. -/
def registersAdd : RegistrationRequest :=
  { kind := .activity, function := Sample.function "add" [.required "a" .absent .positional, .required "b" .absent .positional]
    options := { name := some "sum" } }

theorem isAsynchronous_add : Body.IsAsynchronous (Sample.body "add" : Body (World Simulator)) := by
  refine ⟨fun args => do
    let work ← Sample.body "add" args
    return work.settle, fun args => ?_⟩
  rcases args with _ | ⟨a, _ | ⟨b, _ | ⟨c, rest⟩⟩⟩ <;> rfl

theorem activities_agree_when_waited_for_of_add :
    ⟨"sum", registersAdd.function⟩ ∈ (Registry.afterAll {} [registersAdd]).activities.entries ∧
      ∃ a, (afterAll { config := {} } [registersAdd]).activity? "sum" = .ok a ∧
        ∀ args, a.execute (Sample.body "add") args = do
          return .value (← Simulator.callActivity (Simulator.library {} 0) registersAdd.function args) := by
  have hentry : ⟨"sum", registersAdd.function⟩ ∈ (Registry.afterAll {} [registersAdd]).activities.entries := .head _
  have hasync : Body.IsAsynchronous (Sample.body "add" : Body (World Simulator)) := isAsynchronous_add
  obtain ⟨a, ha, -, -, hvalue, -⟩ :=
    activities_agree_when_waited_for {} {} [registersAdd] (Simulator.library {} 0) hentry rfl fun _ => hasync
  exact ⟨hentry, a, ha, hvalue.mpr (.inl rfl)⟩

/-- A registration of an object that can be called and whose calls are asynchronous; it is not declared to be. -/
def registersObject : RegistrationRequest :=
  { kind := .activity, function := { key := "callable", shown := "<AsyncCallable object>", typeName := "AsyncCallable", isAsync := false }
    options := { name := some "object" } }

/-- Functions of which every call gives an awaitable. -/
def awaitableLibrary : Library Simulator where
  activity _ args := return .awaitable (pure (.list args))
  workflow _ _ _ := pure .null

/-- Fails for an awaitable. -/
def tellsApart {σ : Type} : Returned σ → Except Fault Data
  | .value d => .ok d
  | .awaitable _ => .error Sample.badArguments

/-- Both workers take an object whose calls are asynchronous. The durable one gives an awaitable that nobody waited for, the simulated one a value. -/
theorem awaitable_is_left_over :
    (register { config := {} } registersObject).2 = .ok () ∧
      (Registry.register {} .activity registersObject.function registersObject.options).isOk ∧
      ∃ a, (register { config := {} } registersObject).1.activity? "object" = .ok a ∧
        a.execute (awaitableLibrary.activity registersObject.function) [] = pure (.awaitable (pure (.list []))) ∧
        Simulator.callActivity awaitableLibrary registersObject.function [] = pure (.list []) ∧
        a.execute (awaitableLibrary.activity registersObject.function) [] ≠ do
          return .value (← Simulator.callActivity awaitableLibrary registersObject.function []) := by
  refine ⟨rfl, rfl, _, rfl, rfl, rfl, fun heq => ?_⟩
  -- a program that looks at what it is given tells them apart
  have hends := congrFun heq fun r => .finish (r.bind tellsApart)
  cases hends

end DurableWorker

end ScriptFlow
