import Mathlib
import ScriptFlow.Proofs.Simulation.Acts
import ScriptFlow.Proofs.Workflow.Cancellation

/-!
# Programs and the clock of the simulated engine

A pause looks at the clock once, where it computes its wake-up time, and moves it once, at its end. In between it waits. Everything else that the engine
offers leaves the clock alone.

* `Simulator.Timely` — a program that leaves the clock to pauses; `Simulator.IsTimely` — a part of a program that does.
* `Simulator.Timely.nextOf` — **a node of such a program sets out on a pause, or goes on with such a program**.
* `Simulator.timely_primitives` — **what the engine offers leaves the clock to pauses**, if the registered functions do.
-/

namespace ScriptFlow

namespace Simulator

open Kernel Loop

/-! ## Programs that leave the clock to pauses -/

/-- The clock after the first node of a program. -/
def clockPast (st : LoopState (World Simulator)) : Proc (World Simulator) → Int
  | .access f => (f st).1.world.engine.clock
  | _ => st.world.engine.clock

/-- The first node leaves the clock alone. -/
def KeepsClock (p : Proc (World Simulator)) : Prop := ∀ st, clockPast st p = st.world.engine.clock

/-- A program that leaves the clock to pauses. -/
inductive Timely : Proc (World Simulator) → Prop where
  | finish (r : Except Fault Data) : Timely (.finish r)
  | access {f : LoopState (World Simulator) → LoopState (World Simulator) × Proc (World Simulator)} (here : KeepsClock (.access f))
      (next : ∀ st, Timely (f st).2) : Timely (.access f)
  | spawn {watched : Bool} {body next : FutureId → Proc (World Simulator)} (started : ∀ t, Timely (body t)) (goesOn : ∀ t, Timely (next t)) :
      Timely (.spawn watched body next)
  | await {f : FutureId} {next : Except Fault Data → Proc (World Simulator)} (goesOn : ∀ r, Timely (next r)) : Timely (.await f next)
  | turn {next : Except Fault Data → Proc (World Simulator)} (goesOn : ∀ r, Timely (next r)) : Timely (.turn next)
  /-- a pause, where it looks at the clock -/
  | pause {p : Proc (World Simulator)} {ctx : Context} {seconds : Float} {cont : Except Fault Unit → Proc (World Simulator)}
      (hp : p = settingOut ctx seconds cont) (goesOn : ∀ r, Timely (cont r)) : Timely p

variable {p : Proc (World Simulator)} {ctx ctx' : Context} {seconds seconds' : Float} {wake wake' : Int}
  {cont cont' : Except Fault Unit → Proc (World Simulator)} {st : LoopState (World Simulator)} {d : Data}

/-- A state whose clock shows a time, and in which no scope is cancelled. -/
def showing (clock : Int) : LoopState (World Simulator) := { world := { engine := { clock := clock } } }

theorem keepsClock_settingOut (ctx : Context) (seconds : Float) (cont : Except Fault Unit → Proc (World Simulator)) :
    KeepsClock (settingOut ctx seconds cont) := fun _ => rfl

theorem keepsClock_waking (ctx : Context) (wake : Int) (cont : Except Fault Unit → Proc (World Simulator)) (d : Data) :
    KeepsClock (waking ctx wake cont (.ok d)) := fun _ => rfl

theorem not_keepsClock_advancing : ¬ KeepsClock (advancing wake cont) := fun h => by
  have hclock : max (wake - 1) wake = wake - 1 := h (showing (wake - 1))
  omega

theorem Timely.keepsClock (h : Timely p) : KeepsClock p := by
  cases h with
  | access here => exact here
  | pause hp =>
    rw [hp]
    exact keepsClock_settingOut _ _ _
  | _ => exact fun _ => rfl

theorem not_timely_advancing : ¬ Timely (advancing wake cont) := fun h => not_keepsClock_advancing h.keepsClock

theorem advancing_inj (h : advancing wake cont = advancing wake' cont') : wake = wake' := by
  have hclock : max (min wake wake') wake = max (min wake wake') wake' := congrArg (clockPast (showing (min wake wake'))) h
  omega

/-- What a program does next if its first node is an access. -/
def nextOf (st : LoopState (World Simulator)) : Proc (World Simulator) → Proc (World Simulator)
  | .access f => (f st).2
  | p => p

theorem nextOf_settingOut (h : wakeTime st.world.engine.clock seconds = .ok wake) :
    nextOf st (settingOut ctx seconds cont) = .turn (waking ctx wake cont) := by
  simp only [nextOf, settingOut, h]

theorem waking_inj (h : waking ctx wake cont (.ok d) = waking ctx' wake' cont' (.ok d)) : wake = wake' :=
  advancing_inj (congrArg (nextOf (showing 0)) h)

theorem Timely.nextOf (h : Timely p) (st : LoopState (World Simulator)) : Timely (nextOf st p) ∨
    ∃ ctx seconds cont wake, p = settingOut ctx seconds cont ∧ wakeTime st.world.engine.clock seconds = .ok wake ∧ (∀ r, Timely (cont r)) := by
  cases h with
  | access here next => exact .inl (next st)
  | @pause _ ctx seconds cont hp goesOn =>
    cases hw : wakeTime st.world.engine.clock seconds with
    | ok wake => exact .inr ⟨ctx, seconds, cont, wake, hp, hw, goesOn⟩
    | error e =>
      refine .inl ?_
      rw [hp]
      simp only [Simulator.nextOf, settingOut, hw]
      exact goesOn _
  | finish r => exact .inl (.finish r)
  | spawn started goesOn => exact .inl (.spawn started goesOn)
  | await goesOn => exact .inl (.await goesOn)
  | turn goesOn => exact .inl (.turn goesOn)

theorem not_timely_waking : ¬ Timely (waking ctx wake cont (.ok d)) := fun h => by
  obtain hnext | ⟨ctx', seconds, cont', wake', hp, hw, -⟩ := h.nextOf (showing 0)
  · exact not_timely_advancing hnext
  · have hnext := congrArg (Simulator.nextOf (showing 0)) hp
    rw [nextOf_settingOut hw] at hnext
    cases hnext

theorem not_timely_turn_waking : ¬ Timely (.turn (waking ctx wake cont)) := fun h => by
  cases h with
  | turn goesOn => exact not_timely_waking (goesOn (.ok .null))
  | pause hp => cases hp

/-! ## What the engine offers -/

/-- A part of a program that leaves the clock to pauses, whatever comes after it. -/
def IsTimely {α : Type} (m : Play α) : Prop := ∀ cont : Except Fault α → Proc (World Simulator), (∀ r, Timely (cont r)) → Timely (m cont)

namespace IsTimely

variable {α β : Type}

theorem result (r : Except Fault α) : IsTimely (Flow.ofExcept r : Play α) := fun _ hcont => hcont _

theorem pure (a : α) : IsTimely (Pure.pure a : Play α) := result (.ok a)

theorem fail (e : Fault) : IsTimely (Flow.fail e : Play α) := result (.error e)

theorem bind {m : Play α} {f : α → Play β} (hm : IsTimely m) (hf : ∀ a, IsTimely (f a)) : IsTimely (m >>= f) := fun _ hcont => hm _ fun
  | .ok a => hf a _ hcont
  | .error _ => hcont _

theorem discard {m : Play α} (hm : IsTimely m) : IsTimely (discard m) := hm.bind fun _ => pure _

theorem turn : IsTimely (Flow.turn : Play Unit) := fun _ hcont => .turn fun
  | .ok _ => hcont _
  | .error _ => hcont _

theorem attempt {m : Play α} (hm : IsTimely m) : IsTimely (Flow.attempt m) := fun _ hcont => hm _ fun r => hcont (.ok r)

theorem keeping {f : LoopState (World Simulator) → α × LoopState (World Simulator)}
    (h : ∀ st, (f st).2.world.engine.clock = st.world.engine.clock) : IsTimely (Flow.modifyGet f) := fun _ hcont => .access h fun _ => hcont _

theorem kernel : IsTimely (Flow.kernel : Play Kernel) := keeping fun _ => rfl

theorem modifyKernel (f : Kernel → Kernel) : IsTimely (Flow.modifyKernel f : Play Unit) := keeping fun _ => rfl

theorem ofKernel (f : Kernel → Kernel × α) : IsTimely (Flow.ofKernel f : Play α) := keeping fun _ => rfl

theorem engine : IsTimely (Play.engine : Play Simulator) := bind (keeping fun _ => rfl) fun _ => pure _

theorem log (level : LogLevel) (text : String) : IsTimely (Play.log level text : Play Unit) := fun _ hcont => .access (fun _ => rfl) fun _ => hcont _

theorem ofEngine {f : Simulator → Simulator × α} (h : ∀ s, (f s).1.clock = s.clock) : IsTimely (Play.ofEngine f : Play α) :=
  fun _ hcont => .access (fun st => h st.world.engine) fun _ => hcont _

theorem modifyEngine {f : Simulator → Simulator} (h : ∀ s, (f s).clock = s.clock) : IsTimely (Play.modifyEngine f : Play Unit) :=
  ofEngine (f := fun s => (f s, ())) h

theorem check (ctx : Context) : IsTimely (ctx.check : Play Unit) := bind kernel fun _ => result _

theorem decided (o : Outcome) : IsTimely (Promise.decided o : Play Promise) := bind (ofKernel _) fun _ => pure _

theorem await (f : FutureId) : IsTimely (Flow.await f : Play Data) := fun _ hcont => .await hcont

theorem awaitUnder (s : ScopeId) (f : FutureId) : IsTimely (Flow.awaitUnder s f : Play Data) :=
  bind kernel fun _ => bind (result _) fun _ => bind (ofKernel _) fun waiter => bind (modifyKernel _) fun _ => bind (attempt (await waiter)) fun _ =>
    bind kernel fun _ => bind (modifyKernel _) fun _ => result _

theorem spawnUnder (s : ScopeId) {body : Play Data} (h : IsTimely body) : IsTimely (Flow.spawnUnder s body) :=
  bind (fun _ hcont => .spawn (fun _ => h _ .finish) fun _ => hcont _) fun _ => bind (modifyKernel _) fun _ => pure _

theorem own (ctx : Context) : IsTimely (own ctx) := by
  unfold Simulator.own
  split
  · exact pure _
  · exact fail _

theorem nameOf (kind : RegistrationKind) (target : Target) : IsTimely (nameOf kind target) := by
  unfold Simulator.nameOf
  split
  · exact pure _
  · split
    · exact pure _
    · refine bind engine fun _ => ?_
      split
      · exact pure _
      · exact fail _

theorem clock_expect (s : Simulator) (kind : CallKind) (name : String) (args : List Data) : (s.expect kind name args).1.clock = s.clock := by
  unfold expect
  split
  · rfl
  · split <;> rfl

theorem perform (kind : CallKind) (name : String) (args : List Data) {registered : Registration → List Data → Play Data}
    (h : ∀ r args, IsTimely (registered r args)) : IsTimely (perform kind name args registered) := by
  rw [perform_eq]
  refine bind (result _) fun args => bind (ofEngine fun s => clock_expect s kind name args) fun r => bind (result _) fun expected => ?_
  split
  · exact result _
  · refine bind engine fun e => ?_
    dsimp only
    split
    · exact fail _
    · exact bind (h _ _) fun _ => result _

theorem fulfil (x : Duty) : IsTimely x.fulfil := fun cont hcont => by
  rw [x.fulfil_eq]
  exact .access (fun st => by cases x <;> rfl) fun _ => hcont _

theorem deliverSignal (run name : String) (d : Data) : IsTimely (deliverSignal run name d) := fun cont hcont => by
  rw [deliverSignal_eq]
  exact .access (fun _ => rfl) fun _ => fulfil _ _ hcont

theorem setSignalHandler (ctx : Context) (name : String) (h : SignalHandler) : IsTimely (setSignalHandler ctx name h) := fun cont hcont => by
  cases hi : ctx.identity with
  | none =>
    unfold Simulator.setSignalHandler Simulator.setSignalHandlerBy Simulator.own
    rw [hi]
    exact hcont _
  | some i =>
    rw [setSignalHandler_eq hi]
    refine .access (fun _ => rfl) fun st => ?_
    induction st.world.engine.waiting i.runId name with
    | nil => exact hcont _
    | cons d ds ih => exact fulfil (.hand i.runId name h d) (fun _ => _) fun _ => ih

theorem sleep (ctx : Context) (duration : Data) : IsTimely (sleep ctx duration) := fun cont hcont => by
  cases hd : checkedSeconds duration with
  | error e =>
    rw [sleep_of_error ctx hd]
    exact hcont _
  | ok seconds =>
    rw [sleep_eq ctx hd]
    refine .access (fun _ => rfl) fun st => ?_
    dsimp only
    split
    · exact hcont _
    · exact .pause rfl hcont

end IsTimely

/-- The registered functions leave the clock to pauses. -/
structure Library.Timely (lib : Library Simulator) : Prop where
  activity (c : Callable) (args : List Data) : IsTimely (callActivity lib c args)
  workflow (c : Callable) (ctx : Context) (args : List Data) : IsTimely (lib.workflow c ctx args)

/-- The primitives leave the clock to pauses. -/
structure TimelyPrimitives (w : Primitives Simulator) : Prop where
  log (ctx : Context) (level : LogLevel) (text : String) : IsTimely (w.log ctx level text)
  identity (ctx : Context) : IsTimely (w.identity ctx)
  startActivity (ctx : Context) (target : Target) (args : List Data) : IsTimely (w.startActivity ctx target args)
  startChild (ctx : Context) (target : Target) (args : List Data) : IsTimely (w.startChild ctx target args)
  get (ctx : Context) (p : Promise) (type : Option ResultType) : IsTimely (w.get ctx p type)
  childExecution (p : Promise) : IsTimely (w.childExecution p)
  signalChild (ctx : Context) (p : Promise) (name : String) (d : Data) : IsTimely (w.signalChild ctx p name d)
  setQueryHandler (ctx : Context) (name : String) (h : QueryHandler) : IsTimely (w.setQueryHandler ctx name h)
  setSignalHandler (ctx : Context) (name : String) (h : SignalHandler) : IsTimely (w.setSignalHandler ctx name h)
  sideEffect (ctx : Context) (r : Except Fault Data) : IsTimely (w.sideEffect ctx r)
  now (ctx : Context) : IsTimely (w.now ctx)
  sleep (ctx : Context) (duration : Data) : IsTimely (w.sleep ctx duration)

/-- **What the engine offers leaves the clock to pauses.** -/
theorem timely_primitives {lib : Library Simulator} (h : Library.Timely lib) : TimelyPrimitives (primitives lib) where
  log ctx level text := .bind (.discard (.own ctx)) fun _ => .log level text
  identity := .own
  startActivity ctx target args := by
    refine .bind (.discard (.own ctx)) fun _ => .bind (.nameOf .activity target) fun name => .bind (.modifyEngine fun _ => rfl) fun _ => ?_
    exact .bind (.spawnUnder _ (.perform .activity name args fun r args => h.activity r.function args)) fun _ => .pure _
  startChild ctx target args := by
    refine .bind (.own ctx) fun parent => .bind (.nameOf .workflow target) fun name => .bind (.ofEngine fun _ => rfl) fun ids => ?_
    refine .bind (.ofKernel _) fun scope => .bind (.modifyEngine fun _ => rfl) fun _ => ?_
    exact .bind (.spawnUnder _ (.perform .workflow name args fun r args => h.workflow r.function _ args)) fun _ => .pure _
  get ctx p type := .bind (.awaitUnder ctx.scope p.source) fun _ => .result _
  childExecution p := by
    change IsTimely (childExecution p)
    unfold childExecution
    split
    · exact .decided _
    · exact .fail _
  signalChild ctx p name d := by
    change IsTimely (signalChild ctx p name d)
    unfold signalChild
    split
    · split
      · exact .decided _
      · exact .bind (.deliverSignal _ _ _) fun _ => .decided _
    · exact .fail _
  setQueryHandler ctx name h := .bind (.own ctx) fun _ => .modifyEngine fun _ => rfl
  setSignalHandler := .setSignalHandler
  sideEffect _ _ := .result _
  now _ := .bind .engine fun _ => .pure _
  sleep := .sleep

/-- A worker without plugins has such functions. -/
theorem timely_oneLibrary : Library.Timely oneLibrary where
  activity c args := by
    change IsTimely (do (← Sample.body c.key args).settle)
    unfold Sample.body
    split
    all_goals first | exact fun _ hcont => hcont _ | skip
    · exact (IsTimely.bind .turn fun _ => .result _ : IsTimely (Flow.turn >>= fun _ => Flow.ofExcept (Sample.add _ _)))
    · generalize Sample.bytesOfHex _ _ _ = r
      cases r <;> exact fun _ hcont => hcont _
  workflow _ _ _ := .fail _

end Simulator

end ScriptFlow
