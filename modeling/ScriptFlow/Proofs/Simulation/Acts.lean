import Mathlib
import ScriptFlow.Proofs.Service.Conduct
import ScriptFlow.Simulation.Harness

/-!
# What tasks do to the simulated engine

Of all that tasks do to the engine, expectations and signals see little. An execution hands its call to the expectations in one access to the state. A
signal takes two, one that looks for the handler and one that hands over the datum or keeps it; a new handler takes one, and one more for every signal
that waited for it. In between the task has signals in hand, and does nothing else.

* `Simulator.Does` — the acts, with what the task has in hand before and after; `Simulator.History` — acts one after the other.
* `Simulator.protocol` — the protocol of tasks that do nothing but these; `Simulator.obeys_library` — **everything that a simulated worker runs
  keeps to it.**
* `Simulator.History.step`, `Simulator.History.runMain` — so whatever a loop of such tasks does is a history.
-/

namespace ScriptFlow

open Loop

namespace World

variable {ε : Type}

/-- A datum is added to the list of a handler. -/
def deliver (w : World ε) : SignalHandler → Data → World ε
  | .collect n list, d =>
    { w with
      programs := w.programs.modify n fun p =>
        { p with received := (list, (p.received.lookup list).getD [] ++ [d]) :: p.received.filter (·.1 != list) } }

/-- An access to the engine alone. -/
def onEngine (w : World ε) (f : ε → ε) : World ε := { w with engine := f w.engine }

@[simp] theorem engine_deliver (w : World ε) (h : SignalHandler) (d : Data) : (w.deliver h d).engine = w.engine := rfl

@[simp] theorem engine_onEngine (w : World ε) (f : ε → ε) : (w.onEngine f).engine = f w.engine := rfl

@[simp] theorem received_onEngine (w : World ε) (f : ε → ε) (n : Nat) : (w.onEngine f).received n = w.received n := rfl

end World

namespace Simulator

/-! ## Acts -/

/-- The signals that wait for a handler. -/
def waiting (s : Simulator) (run name : String) : List Data := (s.pendingSignals.get? run name).getD []

/-- Sets a handler; no signal waits for it any more. -/
def setHandler (s : Simulator) (run name : String) (h : SignalHandler) : Simulator :=
  { s with signalHandlers := s.signalHandlers.set run name h, pendingSignals := s.pendingSignals.erase run name }

/-- Keeps a signal for a handler. -/
def keep (s : Simulator) (run name : String) (d : Data) : Simulator :=
  { s with pendingSignals := s.pendingSignals.set run name (s.waiting run name ++ [d]) }

/-- A signal in the hand of a task. -/
inductive Duty where
  /-- a handler was there -/
  | hand (run name : String) (h : SignalHandler) (d : Data)
  /-- there was none -/
  | keep (run name : String) (d : Data)

/-- What becomes of a signal. -/
def dutyOf (s : Simulator) (run name : String) (d : Data) : Duty :=
  match s.signalHandlers.get? run name with
  | some h => .hand run name h d
  | none => .keep run name d

/-- What a task does to the engine. -/
inductive Act where
  | executes (kind : CallKind) (name : String) (args : List Data)
  | sends (run name : String) (d : Data)
  | sets (run name : String) (h : SignalHandler)
  | hands (run name : String) (h : SignalHandler) (d : Data)
  | keeps (run name : String) (d : Data)
  /-- something that expectations and signals do not see -/
  | other

/-- Neither expectations nor signals see a change, and no program is forgotten. -/
structure Still (w w' : World Simulator) : Prop where
  expectations : w'.engine.expectations = w.engine.expectations
  unexpected : w'.engine.unexpected = w.engine.unexpected
  signalHandlers : w'.engine.signalHandlers = w.engine.signalHandlers
  pendingSignals : w'.engine.pendingSignals = w.engine.pendingSignals
  programs : w.programs.size ≤ w'.programs.size
  received (n : Nat) : w'.received n = w.received n

theorem Still.of_kept {w w' : World Simulator} (h : w.Kept w') : Still w w' := by
  constructor
  case received => exact h.received
  case programs => exact h.programs
  all_goals rw [h.engine]

/-- Acts, with the signals that the task has in hand before and after. Only a task with empty hands does anything but to empty them. -/
inductive Does : List Duty → World Simulator → Act → List Duty → World Simulator → Prop where
  | executes (w : World Simulator) (kind : CallKind) (name : String) (args : List Data) :
      Does [] w (.executes kind name args) [] (w.onEngine fun e => (e.expect kind name args).1)
  | sends (w : World Simulator) (run name : String) (d : Data) : Does [] w (.sends run name d) [w.engine.dutyOf run name d] w
  | sets (w : World Simulator) (run name : String) (h : SignalHandler) :
      Does [] w (.sets run name h) ((w.engine.waiting run name).map (.hand run name h)) (w.onEngine (·.setHandler run name h))
  | hands (w : World Simulator) (run name : String) (h : SignalHandler) (d : Data) (rest : List Duty) :
      Does (.hand run name h d :: rest) w (.hands run name h d) rest (w.deliver h d)
  | keeps (w : World Simulator) (run name : String) (d : Data) (rest : List Duty) :
      Does (.keep run name d :: rest) w (.keeps run name d) rest (w.onEngine (·.keep run name d))
  | other {w w' : World Simulator} (h : Still w w') : Does [] w .other [] w'

/-- Acts one after the other. -/
inductive History (hand : List Duty) (w : World Simulator) : List Act → List Duty → World Simulator → Prop where
  | refl : History hand w [] hand w
  | tail {acts : List Act} {hand' hand'' : List Duty} {w' w'' : World Simulator} {a : Act} (h : History hand w acts hand' w')
      (ha : Does hand' w' a hand'' w'') : History hand w (acts ++ [a]) hand'' w''

theorem History.single {hand hand' : List Duty} {w w' : World Simulator} {a : Act} (h : Does hand w a hand' w') : History hand w [a] hand' w' :=
  History.refl.tail h

theorem History.trans {hand hand' hand'' : List Duty} {w w' w'' : World Simulator} {acts acts' : List Act} (h : History hand w acts hand' w')
    (h' : History hand' w' acts' hand'' w'') : History hand w (acts ++ acts') hand'' w'' := by
  induction h' with
  | refl => simpa using h
  | tail _ ha ih =>
    rw [← List.append_assoc]
    exact ih.tail ha

/-! ## The protocol -/

/-- Every access is an act, and only with empty hands a task waits. -/
def protocol : Protocol (World Simulator) (List Duty) where
  idle := []
  allows hand f after := ∀ st, st.kernel.futures.size ≤ (f st).1.kernel.futures.size ∧ ∃ a, Does hand st.world a (after st) (f st).1.world
  rests hand := hand = []
  rests_idle := rfl
  grows h st := (h st).1

theorem tolerant : protocol.Tolerant := Protocol.Lenient.tolerant fun _ h st => ⟨(h st).1, .other, .other (.of_kept (h st).2)⟩

variable {α : Type}

theorem obeys_ofEngine {f : Simulator → Simulator × α}
    (h : ∀ w : World Simulator, ∃ a, Does [] w a [] (w.onEngine fun e => (f e).1)) : Flow.Obeys protocol (Play.ofEngine f : Play α) :=
  fun _ hcont => @Proc.Obeys.access _ _ _ _ _ (fun _ => []) (fun st => ⟨le_rfl, h st.world⟩) fun _ => hcont _ fun _ _ => trivial

/-! ## Executions -/

/-- How an execution goes on when its call has come to the expectations. -/
def performed (kind : CallKind) (name : String) (args : List Data) (registered : Registration → List Data → Play Data)
    (expected : Except Fault (Option (Except Fault Data))) : Play Data := do
  match ← Flow.ofExcept expected with
  | some outcome => Flow.ofExcept (do (← outcome).toPayload)
  | none =>
    let registry := (← Play.engine).registry
    let table := match kind with
      | .activity => registry.activities
      | .workflow => registry.workflows
    match table.get? name with
    | none => Flow.fail (notRegistered kind name)
    | some r => do
      let result ← registered r args
      Flow.ofExcept result.toPayload

theorem perform_eq (kind : CallKind) (name : String) (args : List Data) (registered : Registration → List Data → Play Data) :
    perform kind name args registered = (do
      let args ← Flow.ofExcept (Data.toPayloads args)
      performed kind name args registered (← Play.ofEngine (·.expect kind name args))) := rfl

/-! ## Signals -/

/-- What a task does with a signal in hand. -/
def Duty.fulfil : Duty → Play Unit
  | .hand _ _ h d => Play.deliver h d
  | .keep run name d => Play.modifyEngine (·.keep run name d)

/-- The act that this is. -/
def Duty.act : Duty → Act
  | .hand run name h d => .hands run name h d
  | .keep run name d => .keeps run name d

/-- The world afterwards. -/
def Duty.after (w : World Simulator) : Duty → World Simulator
  | .hand _ _ h d => w.deliver h d
  | .keep run name d => w.onEngine (·.keep run name d)

theorem Duty.does (w : World Simulator) (x : Duty) (rest : List Duty) : Does (x :: rest) w x.act rest (x.after w) := by
  cases x with
  | hand run name h d => exact .hands w run name h d rest
  | keep run name d => exact .keeps w run name d rest

theorem Duty.fulfil_eq (x : Duty) (cont : Except Fault Unit → Proc (World Simulator)) :
    x.fulfil cont = .access fun st => ({ st with world := x.after st.world }, cont (.ok ())) := by
  cases x <;> rfl

theorem deliverSignal_eq (run name : String) (d : Data) (cont : Except Fault Unit → Proc (World Simulator)) :
    deliverSignal run name d cont = .access fun st => (st, (st.world.engine.dutyOf run name d).fulfil cont) :=
  congrArg Proc.access (funext fun st => congrArg (Prod.mk st) (by
    change (match st.world.engine.signalHandlers.get? run name with
      | some h => Play.deliver h d
      | none => Play.modifyEngine (·.keep run name d) : Play Unit) cont = _
    rw [dutyOf]
    cases st.world.engine.signalHandlers.get? run name <;> rfl))

theorem obeys_fulfil (x : Duty) (rest : List Duty) (cont : Except Fault Unit → Proc (World Simulator))
    (h : (cont (.ok ())).Obeys protocol rest) : (x.fulfil cont).Obeys protocol (x :: rest) := by
  rw [x.fulfil_eq]
  have here : protocol.allows (x :: rest) (fun st => ({ st with world := x.after st.world }, cont (.ok ()))) fun _ => rest :=
    fun st => ⟨le_rfl, _, x.does st.world rest⟩
  exact .access here fun _ => h

/-- The signals that waited are handed over one after the other. -/
theorem forIn_deliver (h : SignalHandler) (ds : List Data) (cont : Except Fault PUnit → Proc (World Simulator)) :
    (forIn ds PUnit.unit fun d _ => do
      Play.deliver h d
      pure (ForInStep.yield PUnit.unit) : Play PUnit) cont = ds.foldr (fun d next => Play.deliver h d fun _ => next) (cont (.ok PUnit.unit)) := by
  induction ds with
  | nil => rfl
  | cons d ds ih =>
    rw [List.forIn_cons]
    exact congrArg (fun p => Play.deliver h d fun _ => p) ih

theorem setSignalHandler_eq {ctx : Context} {i : Identity} (hi : ctx.identity = some i) (name : String) (h : SignalHandler)
    (cont : Except Fault Unit → Proc (World Simulator)) : setSignalHandler ctx name h cont = .access fun st =>
      ({ st with world := st.world.onEngine (·.setHandler i.runId name h) },
        (st.world.engine.waiting i.runId name).foldr (fun d next => Play.deliver h d fun _ => next) (cont (.ok ()))) := by
  unfold setSignalHandler setSignalHandlerBy own
  rw [hi]
  refine congrArg Proc.access (funext fun st => congrArg (Prod.mk _) ?_)
  dsimp only
  rw [bind_apply]
  exact forIn_deliver h (st.world.engine.waiting i.runId name) _

theorem obeys_setSignalHandler (ctx : Context) (name : String) (h : SignalHandler) : Flow.Obeys protocol (setSignalHandler ctx name h) :=
  fun cont hcont => by
    cases hi : ctx.identity with
    | none =>
      unfold setSignalHandler setSignalHandlerBy own
      rw [hi]
      exact hcont _ fun _ ha => nomatch ha
    | some i =>
      rw [setSignalHandler_eq hi]
      refine .access (fun st => ⟨le_rfl, _, .sets st.world i.runId name h⟩) fun st => ?_
      induction st.world.engine.waiting i.runId name with
      | nil => exact hcont _ fun _ _ => trivial
      | cons d ds ih => exact obeys_fulfil (.hand i.runId name h d) _ (fun _ => _) ih

/-! ## Primitives and functions -/

/-- A protocol under which tasks may do to the simulated engine what its primitives do. -/
structure Admits {S : Type} (C : Protocol (World Simulator) S) : Prop where
  tolerant : C.Tolerant
  still {α : Type} {f : Simulator → Simulator × α} (h : ∀ w : World Simulator, Still w (w.onEngine fun e => (f e).1)) :
    Flow.Obeys C (Play.ofEngine f : Play α)
  executes (kind : CallKind) (name : String) (args : List Data) : Flow.Obeys C (Play.ofEngine (·.expect kind name args))
  signals (run name : String) (d : Data) : Flow.Obeys C (deliverSignal run name d)
  handles (ctx : Context) (name : String) (h : SignalHandler) : Flow.Obeys C (setSignalHandler ctx name h)

/-- The registered functions keep to a protocol. -/
structure Library.Obeys {S : Type} (C : Protocol (World Simulator) S) (lib : Library Simulator) : Prop where
  activity (c : Callable) (args : List Data) : Flow.Obeys C (callActivity lib c args)
  workflow (c : Callable) (ctx : Context) (args : List Data) : Flow.Obeys C (lib.workflow c ctx args)

section Admits

variable {S : Type} {C : Protocol (World Simulator) S} {lib : Library Simulator}

theorem obeys_own (ctx : Context) : Flow.Obeys C (own ctx) := by
  unfold own
  split
  · exact .pure trivial
  · exact .fail _

theorem obeys_nameOf (hC : Admits C) (kind : RegistrationKind) (target : Target) : Flow.Obeys C (nameOf kind target) := by
  unfold nameOf
  split
  · exact .pure trivial
  · split
    · exact .pure trivial
    · refine .bind (.engine hC.tolerant) fun _ _ => ?_
      split
      · exact .pure trivial
      · exact .fail _

/-- A change of the engine that is not seen. -/
theorem obeys_modifyEngine (hC : Admits C) {f : Simulator → Simulator} (h : ∀ w : World Simulator, Still w (w.onEngine f)) :
    Flow.Obeys C (Play.modifyEngine f : Play Unit) := hC.still (f := fun e => (f e, ())) h

theorem obeys_perform (hC : Admits C) (kind : CallKind) (name : String) (args : List Data) {registered : Registration → List Data → Play Data}
    (h : ∀ r args, Flow.Obeys C (registered r args)) : Flow.Obeys C (perform kind name args registered) := by
  rw [perform_eq]
  refine .bind (.result _) fun args _ => .bind (hC.executes kind name args) fun r _ => ?_
  refine .bind (.result _) fun expected _ => ?_
  split
  · exact .result _
  · refine .bind (.engine hC.tolerant) fun e _ => ?_
    dsimp only
    split
    · exact .fail _
    · exact .bind (h _ _) fun _ _ => .result _

theorem obeys_runWorkflow (hC : Admits C) (h : Library.Obeys C lib) (ctx : Context) (name : String) (args : List Data) :
    Flow.Obeys C (runWorkflow lib ctx name args) := obeys_perform hC .workflow name args fun r args => h.workflow r.function ctx args

theorem obeys_startActivity (hC : Admits C) (h : Library.Obeys C lib) (ctx : Context) (target : Target) (args : List Data) :
    Flow.Obeys C (startActivity lib ctx target args) := by
  refine .bind (.discard (obeys_own ctx)) fun _ _ => .bind (obeys_nameOf hC .activity target) fun name _ => ?_
  refine .bind (obeys_modifyEngine hC fun w => ⟨rfl, rfl, rfl, rfl, le_rfl, fun _ => rfl⟩) fun _ _ => ?_
  exact .bind (.spawnUnder hC.tolerant _ (obeys_perform hC .activity name args fun r args => h.activity r.function args)) fun _ _ => .pure trivial

theorem obeys_startChild (hC : Admits C) (h : Library.Obeys C lib) (ctx : Context) (target : Target) (args : List Data) :
    Flow.Obeys C (startChild lib ctx target args) := by
  refine .bind (obeys_own ctx) fun parent _ => .bind (obeys_nameOf hC .workflow target) fun name _ => ?_
  refine .bind (hC.still fun w => ⟨rfl, rfl, rfl, rfl, le_rfl, fun _ => rfl⟩) fun ids _ => ?_
  refine .bind (.childScope hC.tolerant _) fun scope _ => ?_
  refine .bind (obeys_modifyEngine hC fun w => ⟨rfl, rfl, rfl, rfl, le_rfl, fun _ => rfl⟩) fun _ _ => ?_
  exact .bind (.spawnUnder hC.tolerant _ (obeys_runWorkflow hC h _ _ _)) fun _ _ => .pure trivial

theorem obeys_signalChild (hC : Admits C) (ctx : Context) (p : Promise) (name : String) (d : Data) : Flow.Obeys C (signalChild ctx p name d) := by
  unfold signalChild
  split
  · split
    · exact .decided hC.tolerant _ _
    · exact .bind (hC.signals _ _ _) fun _ _ => .decided hC.tolerant _ _
  · exact .fail _

theorem obeys_sleep (hC : Admits C) (ctx : Context) (duration : Data) : Flow.Obeys C (sleep ctx duration) :=
  .bind (.result _) fun _ _ => .bind (.check hC.tolerant ctx) fun _ _ => .bind (.engine hC.tolerant) fun _ _ => .bind (.result _) fun _ _ =>
    .bind .turn fun _ _ => .bind (.check hC.tolerant ctx) fun _ _ => obeys_modifyEngine hC fun _ => ⟨rfl, rfl, rfl, rfl, le_rfl, fun _ => rfl⟩

theorem obey_primitives (hC : Admits C) (h : Library.Obeys C lib) : (primitives lib).Obey C where
  log ctx level text := .bind (.discard (obeys_own ctx)) fun _ _ => .log hC.tolerant level text
  identity := obeys_own
  startActivity := obeys_startActivity hC h
  startChild := obeys_startChild hC h
  get := .promise hC.tolerant
  childExecution p := by
    change Flow.Obeys C (childExecution p)
    unfold childExecution
    split
    · exact .decided hC.tolerant _ _
    · exact .fail _
  signalChild := obeys_signalChild hC
  setQueryHandler ctx _ _ := .bind (obeys_own ctx) fun _ _ => obeys_modifyEngine hC fun _ => ⟨rfl, rfl, rfl, rfl, le_rfl, fun _ => rfl⟩
  setSignalHandler := hC.handles
  sideEffect _ _ := .result _
  now _ := .bind (.engine hC.tolerant) fun _ _ => .pure trivial
  sleep := obeys_sleep hC

theorem obeys_query (hC : Admits C) (ctx : Context) (name : String) (args : List Data) : Flow.Obeys C (query ctx name args) := by
  refine .bind (obeys_own ctx) fun _ _ => .bind (.world hC.tolerant) fun _ _ => ?_
  split
  · exact .fail _
  · split
    · exact .result _
    · exact .fail _

theorem obeys_programHost (hC : Admits C) {w : Primitives Simulator} (h : w.Obey C) : (programHost w).Obeys C where
  primitives := h
  calls := .bind (.engine hC.tolerant) fun _ _ => .pure trivial
  query := obeys_query hC
  signalExternal _ _ _ _ _ := .fail _

end Admits

/-! ## Loops -/

section Loops

variable {duty : FutureId → List Duty} {l l' : Loop (World Simulator)}

/-- What the task under way has in hand. -/
def inHand (duty : FutureId → List Duty) (l : Loop (World Simulator)) : List Duty :=
  match l.focus with
  | some (t, _) => duty t
  | none => []

theorem inHand_of_focus {t : FutureId} {p : Proc (World Simulator)} (h : l.focus = some (t, p)) : inHand duty l = duty t := by
  rw [inHand, h]

theorem inHand_of_rests (h : l.Rests protocol duty) : inHand duty l = [] := by
  rw [inHand]
  split
  · exact h _ _ ‹_›
  · rfl

/-- **A step is an act**, or the world is not touched. -/
theorem History.step (hl : l.Conforms protocol duty) (hs : l.step = some l') :
    ∃ duty' acts, l'.Conforms protocol duty' ∧ History (inHand duty l) l.state.world acts (inHand duty' l') l'.state.world := by
  rcases hl.step hs with ⟨t, f, after, hf, hallows, rfl, hl'⟩ | ⟨-, hworld, hl', hrests, hrests'⟩
  · obtain ⟨-, a, ha⟩ := hallows l.state
    refine ⟨_, [a], hl', .single ?_⟩
    rw [inHand_of_focus hf, inHand_of_focus (l := l.accessed t f) rfl, Function.update_self]
    exact ha
  · refine ⟨duty, [], hl', ?_⟩
    rw [inHand_of_rests hrests, inHand_of_rests hrests', hworld]
    exact .refl

theorem History.steps (hl : l.Conforms protocol duty) (hs : Steps l l') :
    ∃ duty' acts, l'.Conforms protocol duty' ∧ History (inHand duty l) l.state.world acts (inHand duty' l') l'.state.world := by
  induction hs with
  | refl => exact ⟨duty, [], hl, .refl⟩
  | tail _ hs ih =>
    obtain ⟨duty₁, acts, hl₁, h⟩ := ih
    obtain ⟨duty₂, acts', hl₂, h'⟩ := History.step hl₁ hs
    exact ⟨duty₂, acts ++ acts', hl₂, h.trans h'⟩

/-- **What becomes of the world when a program runs is a history.** -/
theorem History.runMain {body : Play Data} (h : Flow.Obeys protocol body) (w : World Simulator) :
    ∃ acts hand, History [] w acts hand (Loop.runMain w body).2 := by
  obtain ⟨l, hs, hworld⟩ := steps_runMain w body
  obtain ⟨duty, acts, -, hhistory⟩ := History.steps (conforms_ofProgram w h) hs
  exact ⟨acts, _, hworld ▸ hhistory⟩

end Loops

end Simulator

end ScriptFlow
