import Mathlib
import ScriptFlow.Proofs.Durable.Crossing
import ScriptFlow.Proofs.Worker.Activities

/-!
# Errors of activities on both workers

A workflow reads the promise of an activity that has failed. The simulated worker hands the error of the function to the reader as it is. The durable worker hands it to
the engine as it is, and the engine knows a failure of the application only: of any other error it keeps the name of its kind. So an error with a reason and details
loses both, although the boundary of a workflow function would have kept them.

* `Flow.Relays` — a program that goes on with the errors of a function that it calls; `ActivityAdapter.relays_execute` and `Simulator.relays_callActivity`.
* `Fault.Surfaces` — the way of an error from the engine to the reader, through the programs of the durable worker; `Fault.surfaces` says what comes of every error.
* `DurableWorker.errors_of_activities` — **what a workflow reads of an error on both workers**, for all activities.
-/

namespace ScriptFlow

/-! ## Calls that fail -/

section Relays

variable {σ α : Type}

/-- A program calls a function and goes on with the error that the function ends with, also while it waits for what the function gives. -/
def Flow.Relays (m : Flow σ α) (call : Flow σ (Returned σ)) (waits : Bool) : Prop :=
  ∀ k, ∃ next, m k = call next ∧ (∀ x, next (.error x) = k (.error x)) ∧
    (waits = true → ∀ work, ∃ next', next (.ok (.awaitable work)) = work next' ∧ ∀ x, next' (.error x) = k (.error x))

/-- A definition goes on with the errors of its function, and waits for it if that is declared asynchronous. -/
theorem ActivityAdapter.relays_execute (a : ActivityAdapter) (body : Body σ) (args : List Data) : (a.execute body args).Relays (body args) a.isAsync := by
  cases ha : a.isAsync with
  | false =>
    rw [execute_of_not_async ha]
    exact fun _ => ⟨_, rfl, fun _ => rfl, nofun⟩
  | true =>
    rw [execute_of_async ha]
    exact fun _ => ⟨_, rfl, fun _ => rfl, fun _ _ => ⟨_, rfl, fun _ => rfl⟩⟩

/-- The simulated worker waits whenever there is something to wait for. -/
theorem Simulator.relays_callActivity (lib : Library Simulator) (c : Callable) (args : List Data) :
    (callActivity lib c args).Relays (lib.activity c args) true :=
  fun _ => ⟨_, rfl, fun _ => rfl, fun _ _ => ⟨_, rfl, fun _ => rfl⟩⟩

end Relays

/-! ## Errors at the durable engine -/

namespace Activation

/-- The outcome of an activity under way decides its call with an error. -/
def DecidesCall (o : CallOutcome) (x : Fault) : Prop :=
  ∀ (l : Activation.Stage) (seq : Nat) (call : PendingCall), (Activation.engine l).pendingCalls.lookup seq = some call →
    (∀ task, (l.state.kernel.future call.task).task = some task → task.started = true) →
    ∃ l', Activation.deliverCall l seq o = .ok l' ∧ l'.state.kernel = l.state.kernel.resolve call.outcome (.error x)

theorem decidesCall_failure (e : Fault) : DecidesCall (.failure e) (activityFailure (some e.arrived)) := by
  intro l seq call hcall hstarted
  simp only [deliverCall, hcall, CallOutcome.decide, bind, Except.bind, pure, Except.pure]
  refine ⟨_, congrArg Except.ok (if_pos ?_), rfl⟩
  split
  · next task htask => exact hstarted task htask
  · rfl

/-- A stage with a call that is pending. -/
def waiting : Activation.Stage :=
  { state := { kernel := { futures := #[{}] }, world := { engine := { identity := {}, pendingCalls := [(1, { task := 1, outcome := 0 })] } } } }

/-- Only one error decides a call. -/
theorem DecidesCall.eq {o : CallOutcome} {x y : Fault} (hx : DecidesCall o x) (hy : DecidesCall o y) : x = y := by
  obtain ⟨l₁, hl₁, hk₁⟩ := hx waiting 1 _ rfl nofun
  obtain ⟨l₂, hl₂, hk₂⟩ := hy waiting 1 _ rfl nofun
  obtain rfl : l₁ = l₂ := Except.ok.inj (hl₁.symm.trans hl₂)
  have houtcome : some (Outcome.error x) = some (Outcome.error y) := congrArg (fun k : Kernel => (k.future 0).outcome) (hk₁.symm.trans hk₂)
  cases houtcome
  rfl

end Activation

/-! ## What becomes of an error -/

namespace Fault

/-- The way of an error that an activity ends with to a reader of its promise, as the programs of the durable worker go it: the engine decides the call, the task of
the call goes on, and the reader translates. -/
inductive Surfaces (e : Fault) : Fault → Prop where
  | intro {x : Fault} (decides : Activation.DecidesCall (.failure e) x) (passes : Execution.Passes x) (reads : Execution.Reads x x.translated) :
      Surfaces e x.translated

theorem surfaces_iff (e e' : Fault) : Surfaces e e' ↔ e' = (activityFailure (some e.arrived)).translated := by
  constructor
  · rintro ⟨decides, -, -⟩
    rw [decides.eq (Activation.decidesCall_failure e)]
  · rintro rfl
    exact .intro (Activation.decidesCall_failure e) (Execution.passes_of_ne nofun) (Execution.reads_translated _)

/-- Of an error with a reason the reader gets the name of its kind. -/
theorem surfaces_custom (reason : String) (details : List Data) (e' : Fault) : Surfaces (.custom reason details) e' ↔ e' = .custom "CustomError" [] :=
  surfaces_iff _ _

/-- A failure of the application keeps its type and its details. -/
theorem surfaces_application {m type : String} {details : List Data} (ht : type ≠ "") (hd : ∀ d ∈ details, d.IsClean) (retry : Bool) (e' : Fault) :
    Surfaces (.application m (some type) details retry) e' ↔ e' = .custom type (details.map Data.arrange) := by
  have harrived : arrived (.application m (some type) details retry) = .application m (some type) (details.map Data.arrange) retry := by
    simp [arrived, nonEmpty, ht, mapM_carry hd, Except.toOption]
  rw [surfaces_iff, harrived]
  simp [translated, translated?, translatedCause?, activityFailure, ht]

end Fault

namespace Simulator

/-- The way of an error that an activity ends with to a reader of its promise on the simulated worker: the task of the activity ends with the error, and a read gives
it as it is. -/
structure HandsOver (lib : Library Simulator) (e : Fault) : Prop where
  finishes (k : Kernel) (t : FutureId) : k.finishTask t (.error e) = k.resolve t (.error e)
  reads (ctx : Context) (p : Promise) (type : Option ResultType) (cont : Except Fault Data → Proc (World Simulator)) :
    ∃ next, (primitives lib).get ctx p type cont = Flow.awaitUnder ctx.scope p.source next ∧ next (.error e) = cont (.error e)

/-- Every error but the cancellation of the task is handed over. -/
theorem handsOver_of_ne {e : Fault} (h : ∀ m, e ≠ .taskCancelled m) (lib : Library Simulator) : HandsOver lib e where
  finishes k t := by
    cases e with
    | taskCancelled m => exact absurd rfl (h m)
    | _ => rfl
  reads ctx p type cont := ⟨_, Promise.await_eq ctx p type cont, rfl⟩

end Simulator

/-! ## Both workers -/

namespace DurableWorker

/-- **The error of an activity on both workers.** However the registrations went, take an activity that is in the tables and that the engine takes. Both workers go on
with the error that its function ends with: the durable one as its definition does, the simulated one as its task does, between the payload of the arguments and the end
of the task. A reader on the simulated worker gets an error with a reason as it is. On the durable worker it gets the name of the kind in the place of the reason, and no
details; so both agree only on the error that has this name for a reason and no details. A failure of the application keeps its type and its
details on the durable worker, so the reason and the details would arrive if they were reported as the boundary of a workflow function reports them. -/
theorem errors_of_activities (config : WorkerConfig) (rules : EngineRules) (requests : List RegistrationRequest) (lib : Library Simulator)
    {e : Registration} (hentry : e ∈ (Registry.afterAll {} requests).activities.entries) (htaken : rules.activity e.function = .ok ()) :
    (∃ a, (afterAll { config := config, rules := rules } requests).activity? e.name = .ok a ∧ a.function = e.function ∧
      ∀ {σ : Type} (body : Body σ) args, (a.execute body args).Relays (body args) e.function.isAsync) ∧
    (∀ (l : Loop (World Simulator)) t args payload cont, l.state.world.engine.registry = Registry.afterAll {} requests →
      ¬ l.state.world.engine.IsMocked .activity e.name → Data.toPayloads args = .ok payload →
      l.focus = some (t, Simulator.runActivity lib e.name args cont) →
      ∃ l' next, (l.step >>= Loop.step) = some l' ∧ l'.focus = some (t, Simulator.callActivity lib e.function payload next) ∧
        (Simulator.callActivity lib e.function payload).Relays (lib.activity e.function payload) true ∧ ∀ x, next (.error x) = cont (.error x)) ∧
    ∀ (reason : String) (details : List Data),
      Simulator.HandsOver lib (.custom reason details) ∧
      (∀ x, Fault.Surfaces (.custom reason details) x ↔ x = .custom "CustomError" []) ∧
      (Fault.Surfaces (.custom reason details) (.custom reason details) ↔ reason = "CustomError" ∧ details = []) ∧
      (reason ≠ "" → (∀ d ∈ details, d.IsClean) →
        ∀ x, Fault.Surfaces (Fault.failure (.custom reason details)) x ↔ x = .custom reason (details.map Data.arrange)) := by
  obtain ⟨hregular, hregistry, -, hrules⟩ := (Regular.blank config rules).afterAll requests
  have he : e ∈ (afterAll { config := config, rules := rules } requests).registry.activities.entries := by
    rw [hregistry]
    exact hentry
  refine ⟨⟨_, hregular.activity?_eq he (by rw [hrules]; exact htaken), rfl, fun body args => ActivityAdapter.relays_execute _ body args⟩, ?_, ?_⟩
  · intro l t args payload cont htables hmocked hpayload hf
    have hget : l.state.world.engine.registry.activities.get? e.name = some e := by
      rw [htables]
      exact hregistry ▸ hregular.get?_eq he
    obtain ⟨l', hsteps, -, -, hfocus⟩ := Simulator.runActivity_calls hmocked hpayload hget hf
    exact ⟨l', _, hsteps, hfocus, Simulator.relays_callActivity lib e.function payload, fun _ => rfl⟩
  · intro reason details
    refine ⟨Simulator.handsOver_of_ne (by simp) lib, Fault.surfaces_custom reason details, ?_, fun hr hd x => Fault.surfaces_application hr hd true x⟩
    rw [Fault.surfaces_custom, Fault.custom.injEq]

/-- The registration of a sample that fails as it is told. -/
def registersFail : RegistrationRequest :=
  { kind := .activity, function := Sample.function "fail" [.required "args" .absent .variadic] false, options := { name := some "fail" } }

theorem errors_of_activities_of_fail :
    ⟨"fail", registersFail.function⟩ ∈ (Registry.afterAll {} [registersFail]).activities.entries ∧
      (Sample.body "fail" [.str "CustomError", .str "boom", .str "d"] : Flow Unit (Returned Unit)) = Flow.fail (.custom "boom" [.str "d"]) ∧
      (∃ a, (afterAll { config := {} } [registersFail]).activity? "fail" = .ok a ∧
        ∀ {σ : Type} (body : Body σ) args, (a.execute body args).Relays (body args) false) ∧
      Simulator.HandsOver (Simulator.library {} 0) (.custom "boom" [.str "d"]) ∧
      ∀ x, Fault.Surfaces (Fault.failure (.custom "boom" [.str "d"])) x ↔ x = .custom "boom" [.str "d"] := by
  have hentry : ⟨"fail", registersFail.function⟩ ∈ (Registry.afterAll {} [registersFail]).activities.entries := .head _
  obtain ⟨⟨a, ha, -, hrelays⟩, -, herrors⟩ := errors_of_activities {} {} [registersFail] (Simulator.library {} 0) hentry rfl
  obtain ⟨hover, -, -, hreported⟩ := herrors "boom" [.str "d"]
  have hclean : ∀ d ∈ [Data.str "d"], d.IsClean := by simpa using .str "d"
  exact ⟨hentry, by simp [Sample.body, Sample.faultOf, Data.text], ⟨a, ha, hrelays⟩, hover, hreported (by decide) hclean⟩

/-- The reason and the details of an error are lost on the way to a reader on the durable worker. -/
theorem reason_is_lost :
    (∀ d ∈ [Data.str "d", .bool true], d.IsClean) ∧ Fault.Surfaces (.custom "boom" [.str "d", .bool true]) (.custom "CustomError" []) ∧
      ¬ Fault.Surfaces (.custom "boom" [.str "d", .bool true]) (.custom "boom" [.str "d", .bool true]) := by
  have hclean : ∀ d ∈ [Data.str "d", .bool true], d.IsClean := by simpa using ⟨.str "d", .bool true⟩
  rw [Fault.surfaces_custom, Fault.surfaces_custom]
  exact ⟨hclean, rfl, by simp⟩

end DurableWorker

end ScriptFlow
