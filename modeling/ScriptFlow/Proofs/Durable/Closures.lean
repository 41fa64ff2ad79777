import Mathlib
import ScriptFlow.Durable.Entry
import ScriptFlow.Proofs.Durable.Waits
import ScriptFlow.Proofs.Service.Conduct

/-!
# The closures of side effects

A side effect takes a number as its key, keeps its closure under it, asks for a call of the worker, waits, and forgets the closure. Nothing else
touches the closures that an execution keeps.

* `Execution.Duty` — how far a task has come with a side effect; `Execution.protocol` — the protocol of tasks that touch closures in no other way.
* `Execution.obeys_sideEffect` — **a side effect keeps to it**, however it ends.
* `Execution.obeys_programHost`, `Execution.obeys_main` — so does everything else that an execution runs.
-/

namespace ScriptFlow

/-! ## Boundaries -/

namespace Boundary

variable {ε S : Type} {C : Protocol (World ε) S}

theorem obeys_waitFor (hC : C.Tolerant) (scope : ScopeId) (function : FutureId) (n : Nat) :
    Flow.Obeys C (waitFor scope function n : Play ε Data) := by
  induction n with
  | zero => exact .fail _
  | succ n ih =>
    refine .bind (.ofKernel hC fun k => k.neutral_shield function) fun waiter _ => .bind (.attempt (.await waiter)) fun r _ => ?_
    split
    · refine .bind (.kernel hC) fun k _ => ?_
      split
      · exact .fail _
      · exact .bind (.modifyKernel hC fun k => k.neutral_cancelScope scope) fun _ _ => ih
    · exact .result _

/-- A function keeps to a protocol behind its boundary if it does so in front of it. -/
theorem obeys_run (hC : C.Tolerant) (scope : ScopeId) {function : Play ε Data} (h : Flow.Obeys C function) : Flow.Obeys C (run scope function) := by
  refine .bind (.spawn h) fun task _ => .bind (.attempt (obeys_waitFor hC scope task _)) fun r _ => ?_
  split
  · exact .pure trivial
  · exact .fail _

end Boundary

namespace Execution

/-- A call of a side effect: its closure, and what its caller does with the end. -/
structure SideCall where
  closure : Except Fault Data
  next : Except Fault Data → Proc (World Execution)

/-- How far a task has come with a side effect. -/
inductive Duty where
  | idle
  | called (c : SideCall)
  /-- it has a key -/
  | keyed (key : Nat) (c : SideCall)
  /-- its closure is kept -/
  | pending (key : Nat) (c : SideCall)

/-- The key that a task has taken. -/
def Duty.key? : Duty → Option Nat
  | .keyed k _ | .pending k _ => some k
  | .idle | .called _ => none

/-- The closures are as they were; keys are used up at most. -/
structure Still (st st' : State) : Prop where
  futures : st.kernel.futures.size ≤ st'.kernel.futures.size
  sideEffects : st'.world.engine.sideEffects = st.world.engine.sideEffects
  calls : st.world.engine.calls ≤ st'.world.engine.calls

theorem Still.refl (st : State) : Still st st := ⟨le_rfl, rfl, le_rfl⟩

/-- The key of a call, which no call has had. -/
def takeKey (st : State) : State := modifyState st fun e => { e with calls := e.calls + 1 }

/-- Keeps a closure. -/
def register (st : State) (key : Nat) (closure : Except Fault Data) : State :=
  modifyState st fun e => { e with sideEffects := (key, closure) :: e.sideEffects }

/-- Forgets a closure. -/
def release (st : State) (key : Nat) : State := modifyState st fun e => { e with sideEffects := without e.sideEffects key }

/-- The accesses of a task, with how far it has come before and after. -/
inductive Allows : Duty → (State → State × Proc (World Execution)) → (State → Duty) → Prop where
  | still (d : Duty) {f : State → State × Proc (World Execution)} (h : ∀ st, Still st (f st).1) : Allows d f fun _ => d
  | calls (ctx : Context) (c : SideCall) {f : State → State × Proc (World Execution)} (h : sideEffect ctx c.closure c.next = .access f) :
      Allows .idle f fun st => if (Message.carry [] st.world.engine.inbound).isOk then .called c else .idle
  | takes (c : SideCall) (p : State → Proc (World Execution)) :
      Allows (.called c) (fun st => (takeKey st, p st)) fun st => .keyed (st.world.engine.calls + 1) c
  | registers (k : Nat) (c : SideCall) (p : State → Proc (World Execution)) :
      Allows (.keyed k c) (fun st => (register st k c.closure, p st)) fun _ => .pending k c
  | releases (k : Nat) (c : SideCall) (r : Except Fault Data) : Allows (.pending k c) (fun st => (release st k, c.next r)) fun _ => .idle

/-- A task may wait at any point of a side effect. -/
def protocol : Protocol (World Execution) Duty where
  idle := .idle
  allows := Allows
  rests _ := True
  rests_idle := trivial
  grows h st := by
    cases h with
    | still _ h => exact (h st).futures
    | calls ctx c h =>
      rw [sideEffect_eq] at h
      cases h
      exact le_rfl
    | takes | registers | releases => exact le_rfl

theorem tolerant : protocol.Tolerant := Protocol.Lenient.tolerant fun _ h => .still _ fun st => by
  obtain ⟨hsize, hengine, -, -⟩ := h st
  exact ⟨hsize, by rw [hengine], by rw [hengine]⟩

variable {α β : Type} {P : α → Prop}

/-! ## Accesses that leave the closures alone -/

theorem obeys_modifyEngine {f : Execution → Execution} (hclosures : ∀ x, (f x).sideEffects = x.sideEffects) (hcalls : ∀ x, x.calls ≤ (f x).calls) :
    Flow.Obeys protocol (Play.modifyEngine f : Play Unit) := by
  unfold Play.modifyEngine Flow.modifyWorld
  exact .modifyGet (fun _ => .still _ fun _ => ⟨le_rfl, hclosures _, hcalls _⟩) fun _ => trivial

theorem obeys_ofEngine {f : Execution → Execution × α} (hclosures : ∀ x, (f x).1.sideEffects = x.sideEffects)
    (hcalls : ∀ x, x.calls ≤ (f x).1.calls) : Flow.Obeys protocol (Play.ofEngine f : Play α) := by
  unfold Play.ofEngine Flow.ofWorld
  exact .modifyGet (fun _ => .still _ fun _ => ⟨le_rfl, hclosures _, hcalls _⟩) fun _ => trivial

theorem still_addCommand (st : State) (c : Command) : Still st (addCommand st c) := ⟨le_rfl, rfl, le_rfl⟩

theorem obeys_emit (c : Command) : Flow.Obeys protocol (emit c) := .modifyGet (fun _ => .still _ fun st => still_addCommand st c) fun _ => trivial

theorem obeys_hold (outcome : FutureId) {onCancel : Play Unit} (h : Flow.Obeys protocol onCancel) (n : Nat) :
    Flow.Obeys protocol (hold outcome onCancel n) := by
  induction n with
  | zero => exact .fail _
  | succ n ih =>
    refine .bind (.ofKernel tolerant fun k => k.neutral_shield outcome) fun waiter _ => .bind (.attempt (.await waiter)) fun r _ => ?_
    split
    · exact .bind h fun _ _ => ih
    · exact .result _

/-- Lists are gone through element by element. -/
theorem obeys_mapM {f : α → Play β} (h : ∀ a, Flow.Obeys protocol (f a)) (as : List α) : Flow.Obeys protocol (as.mapM f) := by
  unfold List.mapM
  generalize ([] : List β) = done
  induction as generalizing done with
  | nil => exact .pure trivial
  | cons a as ih => exact .bind (h a) fun _ _ => ih _

/-! ## Calls -/

theorem obeys_checkPolicy (p : Option RetryPolicy) : Flow.Obeys protocol (checkPolicy p) := by
  unfold checkPolicy
  split
  · exact .fail _
  · exact .pure trivial

theorem obeys_newCall : Flow.Obeys protocol (newCall false) :=
  .bind (obeys_ofEngine (fun _ => rfl) fun _ => Nat.le_succ _) fun _ _ => .bind (.newFuture tolerant) fun _ _ =>
    .bind (.spawnWatched fun _ => obeys_hold _ (obeys_emit _) _) fun _ _ => .bind (obeys_modifyEngine (fun _ => rfl) fun _ => le_rfl) fun _ _ =>
    .pure trivial

theorem obeys_expectOutcome (seq : Nat) (call : PendingCall) : Flow.Obeys protocol (expectOutcome seq call) :=
  obeys_modifyEngine (fun _ => rfl) fun _ => le_rfl

theorem obeys_schedule (ctx : Context) (name : String) (args : List Data) : Flow.Obeys protocol (schedule ctx name args) := by
  unfold schedule
  refine .bind (.result _) fun headers _ => ?_
  dsimp only
  split
  · exact .bind (P := fun _ => False) (.fail _) fun _ h => h.elim
  · refine .bind obeys_newCall fun call _ => .bind (.result _) fun args _ => .bind (.engine tolerant) fun e _ => ?_
    refine .bind (.attempt (obeys_checkPolicy _)) fun r _ => ?_
    split
    · exact .bind (obeys_emit _) fun _ _ => .fail _
    · exact .bind (obeys_emit _) fun _ _ => .bind (obeys_expectOutcome _ _) fun _ _ => .pure trivial

theorem obeys_nameOf (kind : RegistrationKind) (target : Target) : Flow.Obeys protocol (nameOf kind target) :=
  .bind (.engine tolerant) fun _ _ => .result _

theorem obeys_startActivity (ctx : Context) (target : Target) (args : List Data) : Flow.Obeys protocol (startActivity ctx target args) := by
  refine .bind (obeys_nameOf .activity target) fun name _ => .bind (.attempt (obeys_schedule ctx name args)) fun r _ => ?_
  split
  · exact .decided tolerant _ _
  · exact .bind (tolerant.link _ _) fun _ _ => .pure trivial

/-! ## Child workflows and signals -/

theorem obeys_startRun (ctx : Context) (name : String) (args : List Data) : Flow.Obeys protocol (startRun ctx name args) := by
  unfold startRun
  refine .bind (.result _) fun headers _ => .bind (obeys_ofEngine (fun _ => rfl) fun _ => le_rfl) fun seq _ => ?_
  refine .bind (.newFuture tolerant) fun start _ => .bind (.newFuture tolerant) fun outcome _ => ?_
  refine .bind (.spawn (obeys_hold _ (obeys_emit _) _)) fun task _ => .bind (.result _) fun args _ => .bind (.engine tolerant) fun e _ => ?_
  refine .bind (.attempt (obeys_checkPolicy _)) fun r _ => ?_
  split
  · exact .bind (obeys_emit _) fun _ _ => .fail _
  · have hnamed (es : List (String × Data)) : Flow.Obeys protocol
        (es.mapM fun f => do return (f.1, ← Flow.ofExcept (WirePayload.carry f.2)) : Play (List (String × Data))) :=
      obeys_mapM (fun _ => .bind (.result _) fun _ _ => .pure trivial) es
    refine .bind (hnamed _) fun memo _ => .bind (hnamed _) fun attributes _ => .bind (obeys_emit _) fun _ _ => ?_
    refine .bind (obeys_modifyEngine (fun _ => rfl) fun _ => le_rfl) fun _ _ => ?_
    exact .bind (.discard (obeys_hold _ (obeys_emit _) _)) fun _ _ => .pure trivial

theorem obeys_runOf (d : Data) : Flow.Obeys protocol (runOf d) := by
  unfold runOf
  split
  · exact .bind (.engine tolerant) fun _ _ => .pure trivial
  · exact .pure trivial

/-- What is done with a child once it has been started. -/
theorem obeys_ofRun (started : FutureId) {f : ChildRun → Play α} (h : ∀ run, Flow.Obeys protocol (f run)) :
    Flow.Obeys protocol (do f (← runOf (← Flow.await started))) := .bind (.await _) fun d _ => .bind (obeys_runOf d) fun run _ => h run

theorem obeys_startChild (ctx : Context) (target : Target) (args : List Data) : Flow.Obeys protocol (startChild ctx target args) := by
  unfold startChild
  refine .bind (obeys_nameOf .workflow target) fun name _ => .bind (.engine tolerant) fun e _ => ?_
  split
  · exact .bind (.decided tolerant _ _) fun _ _ => .pure trivial
  · refine .bind (.spawn (obeys_startRun ctx name args)) fun started _ => ?_
    exact .bind (.spawnUnder tolerant _ (obeys_ofRun started fun run => .await _)) fun _ _ => .pure trivial

theorem obeys_starting (p : Promise) (operation : String) : Flow.Obeys protocol (starting p operation) := by
  unfold starting
  split
  · exact .pure trivial
  · exact .fail _

theorem obeys_childExecution (p : Promise) : Flow.Obeys protocol (childExecution p) :=
  .bind (obeys_starting p _) fun started _ => .bind (.spawn (obeys_ofRun started fun _ => .pure trivial)) fun _ _ => .pure trivial

theorem obeys_send (headers : List (Data × Data)) (target : SignalTarget) (name : String) (d : Data) :
    Flow.Obeys protocol (send headers target name d) :=
  .bind (.result _) fun _ _ => .bind (.result _) fun _ _ => .bind (obeys_ofEngine (fun _ => rfl) fun _ => le_rfl) fun _ _ =>
    .bind (.newFuture tolerant) fun _ _ => .bind (obeys_emit _) fun _ _ => .bind (obeys_modifyEngine (fun _ => rfl) fun _ => le_rfl) fun _ _ =>
    .discard (obeys_hold _ (obeys_emit _) _)

theorem obeys_signalChild (ctx : Context) (p : Promise) (name : String) (d : Data) : Flow.Obeys protocol (signalChild ctx p name d) :=
  .bind (obeys_starting p _) fun started _ =>
    .bind (.spawn (obeys_ofRun started fun _ => .bind (obeys_send _ _ _ _) fun _ _ => .pure trivial)) fun _ _ => .pure trivial

/-- A handler adds to what its program has received. -/
theorem obeys_signalTask (h : SignalHandler) (args : List Data) : Flow.Obeys protocol (signalTask h args) := by
  unfold signalTask
  split
  · rename_i d
    have hdeliver : Flow.Obeys protocol (Play.deliver h d) := by
      cases h
      unfold Play.deliver Play.modifyProgram Flow.modifyWorld
      exact .modifyGet (fun _ => .still _ fun _ => ⟨le_rfl, rfl, le_rfl⟩) fun _ => trivial
    exact .bind hdeliver fun _ _ => .pure trivial
  · exact .bind (obeys_modifyEngine (fun _ => rfl) fun _ => le_rfl) fun _ _ => .pure trivial

theorem obeys_setSignalHandler (ctx : Context) (name : String) (h : SignalHandler) : Flow.Obeys protocol (setSignalHandler ctx name h) := by
  refine .bind (obeys_ofEngine (fun _ => rfl) fun _ => le_rfl) fun waiting _ => .bind (P := fun _ => True) ?_ fun _ _ => .pure trivial
  induction waiting with
  | nil => exact .pure trivial
  | cons args waiting ih =>
    rw [List.forIn_cons]
    refine .bind (P := (· = .yield PUnit.unit)) (.bind (.discard (.spawn (obeys_signalTask h args))) fun _ _ => .pure rfl) fun r hr => ?_
    rw [hr]
    exact ih

theorem obeys_setQueryHandler (ctx : Context) (name : String) (h : QueryHandler) : Flow.Obeys protocol (setQueryHandler ctx name h) :=
  obeys_modifyEngine (fun _ => rfl) fun _ => le_rfl

/-! ## Promises and time -/

theorem obeys_get (ctx : Context) (p : Promise) (type : Option ResultType) : Flow.Obeys protocol (get ctx p type) := by
  refine .bind (.attempt (.promise tolerant ctx p type)) fun r _ => ?_
  split
  · exact .pure trivial
  · exact .fail _

theorem obeys_pause (seconds : Float) : Flow.Obeys protocol (pause seconds) := by
  unfold pause
  dsimp only
  split
  · exact .bind .turn fun _ _ => .pure trivial
  · refine .bind (.newFuture tolerant) fun fired _ => .bind (obeys_ofEngine (fun _ => rfl) fun _ => le_rfl) fun seq _ => ?_
    split
    · exact .bind (obeys_emit _) fun _ _ => .fail _
    · refine .bind (obeys_emit _) fun _ _ => .bind (obeys_modifyEngine (fun _ => rfl) fun _ => le_rfl) fun _ _ => ?_
      refine .bind (.attempt (.await _)) fun r _ => .bind (.engine tolerant) fun e _ => ?_
      split
      · exact .bind (obeys_modifyEngine (fun _ => rfl) fun _ => le_rfl) fun _ _ => .bind (obeys_emit _) fun _ _ => .result _
      · exact .result _

theorem obeys_sleep (ctx : Context) (duration : Data) : Flow.Obeys protocol (sleep ctx duration) :=
  .bind (.result _) fun _ _ => .bind (.spawnUnder tolerant _ (obeys_pause _)) fun _ _ => .discard (obeys_get _ _ _)

/-! ## Side effects -/

/-- A read, at whatever point of a side effect it is done. -/
theorem obeys_awaitUnder {d : Duty} (s : ScopeId) (f : FutureId) {q : Except Fault Data → Proc (World Execution)} (h : ∀ r, (q r).Obeys protocol d) :
    (Flow.awaitUnder s f q).Obeys protocol d := by
  have hkernel {g : State → State × Proc (World Execution)} (hg : ∀ st, st.kernel.futures.size ≤ (g st).1.kernel.futures.size)
      (hworld : ∀ st, (g st).1.world = st.world) : protocol.allows d g fun _ => d := .still d fun st => ⟨hg st, by rw [hworld], by rw [hworld]⟩
  rw [Loop.awaitUnder_eq]
  refine .access (hkernel (fun _ => le_rfl) fun _ => rfl) fun st => ?_
  dsimp only
  split
  · exact h _
  · rw [Loop.shielding_eq]
    refine .access (hkernel (fun st => (st.kernel.neutral_shield f).size) fun _ => rfl) fun st => ?_
    refine .access (hkernel (fun st => st.kernel.size_onCancel_le s _) fun _ => rfl) fun st => .await trivial fun r => ?_
    refine .access (hkernel (fun _ => le_rfl) fun _ => rfl) fun st => ?_
    exact .access (hkernel (fun st => (st.kernel.calm_offCancel s _).size) fun _ => rfl) fun _ => h _

/-- **A side effect keeps to the protocol.** However its read ends, its closure is forgotten before its caller goes on. -/
theorem obeys_sideEffect (ctx : Context) (closure : Except Fault Data) : Flow.Obeys protocol (sideEffect ctx closure) := fun cont hcont => by
  have hobeys (r : Except Fault Data) : (cont r).Obeys protocol .idle := hcont r fun _ _ => trivial
  have hend (k : Nat) (r : Except Fault Data) : (forgetting k cont r).Obeys protocol (.pending k ⟨closure, cont⟩) :=
    .access (.releases k ⟨closure, cont⟩ r) fun _ => hobeys r
  have hrequest (headers : Message) : (requesting ctx closure headers cont).Obeys protocol (.called ⟨closure, cont⟩) := by
    rw [requesting_eq]
    refine .access (.takes ⟨closure, cont⟩ _) fun st => .access (.still _ fun st => ⟨?_, rfl, le_rfl⟩) fun st₁ => ?_
    · exact (Nat.le_succ _).trans (Kernel.size_newFuture ..).ge
    refine .spawn trivial (fun _ => obeys_hold _ (obeys_emit _) _ _ fun r _ => .finish r) fun task => ?_
    refine .access (.still _ fun st => ⟨le_rfl, rfl, le_rfl⟩) fun st₂ => .access (.registers _ ⟨closure, cont⟩ _) fun st₃ => ?_
    refine .access (.still _ fun st => still_addCommand st _) fun st₄ => .access (.still _ fun st => ⟨le_rfl, rfl, le_rfl⟩) fun st₅ => ?_
    refine .access (.still _ fun st => ⟨st.kernel.size_link_le _ _, rfl, le_rfl⟩) fun st₆ => ?_
    rw [get_eq]
    exact obeys_awaitUnder _ _ fun a => hend _ _
  rw [sideEffect_eq]
  refine .access (.calls ctx ⟨closure, cont⟩ (sideEffect_eq closure)) fun st => ?_
  cases Message.carry [] st.world.engine.inbound with
  | ok headers => exact hrequest headers
  | error e => exact hobeys _

/-! ## Everything that an execution runs -/

theorem obey_primitives : primitives.Obey protocol where
  log _ := .log tolerant
  identity _ := .bind (.engine tolerant) fun _ _ => .pure trivial
  startActivity := obeys_startActivity
  startChild := obeys_startChild
  get := obeys_get
  childExecution := obeys_childExecution
  signalChild := obeys_signalChild
  setQueryHandler := obeys_setQueryHandler
  setSignalHandler := obeys_setSignalHandler
  sideEffect := obeys_sideEffect
  now _ := .bind (.engine tolerant) fun _ _ => .pure trivial
  sleep := obeys_sleep

theorem obeys_programHost : programHost.Obeys protocol where
  primitives := obey_primitives
  calls := .fail _
  query _ _ _ := .fail _
  signalExternal _ _ _ _ _ := obeys_send _ _ _ _

/-- **The task of an execution keeps to the protocol.** -/
theorem obeys_main {function : Play Data} (h : Flow.Obeys protocol function) : Flow.Obeys protocol (Entry.main function) := by
  refine .bind (.attempt (.bind h fun _ _ => .result _)) fun r _ => ?_
  split
  · exact .bind (obeys_emit _) fun _ _ => .pure trivial
  · refine .bind (.engine tolerant) fun e _ => ?_
    dsimp only
    split
    · exact .bind (obeys_emit _) fun _ _ => .pure trivial
    · exact .bind (obeys_modifyEngine (fun _ => rfl) fun _ => le_rfl) fun _ _ => .pure trivial

end Execution

end ScriptFlow
