import Mathlib
import ScriptFlow.Plugin.Catalogue
import ScriptFlow.Proofs.Loop.Links
import ScriptFlow.Proofs.Loop.Protocol
import ScriptFlow.Proofs.Plugin.Isolation
import ScriptFlow.Service.ScriptService

/-!
# The conduct of scripts and programs

Scripts and programs reach the engine through their primitives only. Besides, they keep names, logs and storages, none of which an engine looks at. So
whatever protocol the primitives keep to, scripts and programs keep to it, if only the protocol tolerates this.

* `World.Kept` — neither the engine nor the signals that programs have received have changed; `Protocol.Tolerant` — accesses of this kind are
  allowed if they are neutral, and so are links and waits under scopes; `Protocol.Lenient` — even if they are not.
* `ProgramHost.Obeys`, `PluginSet.Obey` — the primitives keep to a protocol, and with such primitives the plugins do.
* `Session.Within.drive` — **a script stays within what its modules stay within**, be it a protocol or anything else.
* `Program.obeys_run`, `ScriptService.obeys_run`, `ScriptService.obeys_runFunction` — **then so do programs, scripts and all that workers know**;
  `Catalogue.obeys_plugin` — with the plugins of the catalogue.
-/

namespace ScriptFlow

variable {ε S α : Type}

/-! ## Entries -/

namespace Entries

variable {κ : Type}

theorem mem_of_lookup [BEq κ] [LawfulBEq κ] {entries : List (κ × α)} {key : κ} {a : α} (h : entries.lookup key = some a) : (key, a) ∈ entries := by
  obtain ⟨before, after, rfl, -⟩ := List.lookup_eq_some_iff.mp h
  simp

theorem lookup_filter [DecidableEq κ] (entries : List (κ × α)) (k k' : κ) :
    (entries.filter (·.1 != k)).lookup k' = if k' = k then none else entries.lookup k' := by
  induction entries with
  | nil => simp
  | cons e entries ih =>
    obtain ⟨key, b⟩ := e
    by_cases hkey : key = k
    · subst hkey
      rw [List.filter_cons_of_neg (by simp), ih, List.lookup_cons]
      split
      · rfl
      · rename_i hk
        rw [beq_false_of_ne hk]
    · rw [List.filter_cons_of_pos (by simpa using hkey), List.lookup_cons, List.lookup_cons, ih]
      by_cases hk : k' = key
      · simp [hk, hkey]
      · rw [beq_false_of_ne hk]

end Entries

/-! ## What is kept -/

namespace World

variable {w w' : World ε}

/-- The signals that a program has received, by list. -/
def received (w : World ε) (n : Nat) : List (String × List Data) := ((w.programs[n]?).getD {}).received

/-- The engine is as it was, and so are the signals that programs have received; no program is forgotten. -/
structure Kept (w w' : World ε) : Prop where
  engine : w'.engine = w.engine
  programs : w.programs.size ≤ w'.programs.size
  received (n : Nat) : w'.received n = w.received n

theorem Kept.of_eq (hengine : w'.engine = w.engine) (hprograms : w'.programs = w.programs) : w.Kept w' :=
  ⟨hengine, by rw [hprograms], fun n => by rw [World.received, hprograms, World.received]⟩

/-- A new program has not received anything. -/
theorem kept_newProgram (w : World ε) {p : ProgramState} (hp : p.received = []) : w.Kept { w with programs := w.programs.push p } where
  engine := rfl
  programs := by simp
  received n := by
    simp only [World.received, Array.getElem?_push]
    split
    · rename_i hn
      simp [hn, hp]
    · rfl

theorem kept_modifyProgram (w : World ε) (n : Nat) {f : ProgramState → ProgramState} (hf : ∀ p, (f p).received = p.received) :
    w.Kept { w with programs := w.programs.modify n f } where
  engine := rfl
  programs := by simp
  received m := by
    simp only [World.received, Array.getElem?_modify]
    split
    · cases w.programs[m]? <;> simp [hf]
    · rfl

end World

/-- Without a duty a task may do what all tasks do: neutral accesses that keep the engine and the received signals, links, and waits under scopes. -/
structure Protocol.Tolerant (C : Protocol (World ε) S) : Prop where
  neutral {f : LoopState (World ε) → LoopState (World ε) × Proc (World ε)}
    (h : ∀ st : LoopState (World ε), st.kernel.Neutral (f st).1.kernel ∧ st.world.Kept (f st).1.world) : C.allows C.idle f fun _ => C.idle
  link (s : ScopeId) (t : FutureId) : Flow.Obeys C (Flow.modifyKernel (·.link s t) : Play ε Unit)
  awaitUnder (s : ScopeId) (f : FutureId) : Flow.Obeys C (Flow.awaitUnder s f : Play ε Data)

/-- All accesses that keep the engine, the received signals and all futures are allowed without a duty. -/
def Protocol.Lenient (C : Protocol (World ε) S) : Prop :=
  ∀ f : LoopState (World ε) → LoopState (World ε) × Proc (World ε),
    (∀ st, st.kernel.futures.size ≤ (f st).1.kernel.futures.size ∧ st.world.Kept (f st).1.world) → C.allows C.idle f fun _ => C.idle

variable {C : Protocol (World ε) S}

/-! ## Accesses -/

namespace Flow.Obeys

theorem keeping (hC : C.Tolerant) {f : LoopState (World ε) → α × LoopState (World ε)}
    (h : ∀ st : LoopState (World ε), st.kernel.Neutral (f st).2.kernel ∧ st.world.Kept (f st).2.world) : Obeys C (Flow.modifyGet f) :=
  modifyGet (fun _ => hC.neutral h) fun _ => trivial

theorem kernel (hC : C.Tolerant) : Obeys C (Flow.kernel : Play ε Kernel) := keeping hC fun st => ⟨st.kernel.neutral_refl, .of_eq rfl rfl⟩

theorem world (hC : C.Tolerant) : Obeys C (Flow.world : Play ε (World ε)) := keeping hC fun st => ⟨st.kernel.neutral_refl, .of_eq rfl rfl⟩

theorem ofKernel (hC : C.Tolerant) {f : Kernel → Kernel × α} (h : ∀ k : Kernel, k.Neutral (f k).1) :
    Obeys C (Flow.ofKernel f : Play ε α) := keeping hC fun st => ⟨h st.kernel, .of_eq rfl rfl⟩

theorem modifyKernel (hC : C.Tolerant) {f : Kernel → Kernel} (h : ∀ k : Kernel, k.Neutral (f k)) :
    Obeys C (Flow.modifyKernel f : Play ε Unit) := keeping hC fun st => ⟨h st.kernel, .of_eq rfl rfl⟩

theorem modifyWorld (hC : C.Tolerant) {f : World ε → World ε} (h : ∀ w : World ε, w.Kept (f w)) :
    Obeys C (Flow.modifyWorld f : Play ε Unit) := keeping hC fun st => ⟨st.kernel.neutral_refl, h st.world⟩

theorem ofWorld (hC : C.Tolerant) {f : World ε → World ε × α} (h : ∀ w : World ε, w.Kept (f w).1) : Obeys C (Flow.ofWorld f : Play ε α) :=
  keeping hC fun st => ⟨st.kernel.neutral_refl, h st.world⟩

theorem tryKernel (hC : C.Tolerant) {f : Kernel → Except Fault Kernel} (h : ∀ k k', f k = .ok k' → k.Neutral k') :
    Obeys C (Flow.tryKernel f : Play ε Unit) := fun cont hcont => by
  refine .access (hC.neutral fun st => ?_) fun st => ?_
  · cases hk : f st.kernel with
    | ok k =>
      simp only [hk]
      exact ⟨h _ _ hk, .of_eq rfl rfl⟩
    | error e =>
      simp only [hk]
      exact ⟨st.kernel.neutral_refl, .of_eq rfl rfl⟩
  · cases hk : f st.kernel <;> simp only [hk] <;> exact hcont _ fun _ _ => trivial

theorem result (r : Except Fault α) : Obeys C (Flow.ofExcept r : Play ε α) := ofExcept fun _ _ => trivial

theorem discard {m : Play ε α} (h : Obeys C m) : Obeys C (discard m) := .bind h fun _ _ => .pure trivial

theorem turns (n : Nat) : Obeys C (Flow.turns n : Play ε Unit) := by
  induction n with
  | zero => exact pure trivial
  | succ n ih => exact .bind turn fun _ _ => ih

end Flow.Obeys

namespace Kernel

variable (k : Kernel)

theorem size_onCancel_le (s : ScopeId) (f : FutureId) : k.futures.size ≤ (k.onCancel s f).futures.size :=
  have h : Grows (fun _ => True) (fun _ _ => False) k (k.onCancel s f) := k.grows_onCancel trivial
  h.size

theorem size_link_le (s : ScopeId) (f : FutureId) : k.futures.size ≤ (k.link s f).futures.size := by
  unfold link
  dsimp only
  split
  · rw [size_addCallback]
    exact k.size_onCancel_le s f
  · exact k.size_onCancel_le s f

theorem neutral_settleBy {k k' : Kernel} {f : FutureId} {a : Settling} (h : k.settleBy f a = .ok k') : k.Neutral k' := by
  have hcall := k.neutral_afterCall f a
  rwa [afterCall, h] at hcall

end Kernel

theorem Protocol.Lenient.tolerant (hC : C.Lenient) : C.Tolerant := by
  have hkeeps {α : Type} {f : LoopState (World ε) → α × LoopState (World ε)}
      (h : ∀ st, st.kernel.futures.size ≤ (f st).2.kernel.futures.size ∧ st.world.Kept (f st).2.world) : Flow.Obeys C (Flow.modifyGet f) :=
    .modifyGet (fun _ => hC _ h) fun _ => trivial
  have hkernel {f : Kernel → Kernel} (h : ∀ k, k.futures.size ≤ (f k).futures.size) : Flow.Obeys C (Flow.modifyKernel f : Play ε Unit) :=
    hkeeps fun st => ⟨h st.kernel, .of_eq rfl rfl⟩
  have hlook : Flow.Obeys C (Flow.kernel : Play ε Kernel) := hkeeps fun _ => ⟨le_rfl, .of_eq rfl rfl⟩
  refine ⟨fun h => hC _ fun st => ⟨(h st).1.size, (h st).2⟩, fun s t => hkernel fun k => k.size_link_le s t, fun s f => ?_⟩
  refine .bind hlook fun _ _ => .bind (.result _) fun _ _ => ?_
  refine .bind (hkeeps fun st => ⟨(st.kernel.neutral_shield f).size, .of_eq rfl rfl⟩) fun waiter _ => ?_
  refine .bind (hkernel fun k => k.size_onCancel_le s waiter) fun _ _ => .bind (.attempt (.await waiter)) fun _ _ => ?_
  exact .bind hlook fun _ _ => .bind (hkernel fun k => (k.calm_offCancel s waiter).size) fun _ _ => .result _

namespace Flow.Obeys

theorem spawnUnder (hC : C.Tolerant) (s : ScopeId) {body : Play ε Data} (h : Obeys C body) : Obeys C (Flow.spawnUnder s body) :=
  .bind (.spawn h) fun t _ => .bind (hC.link s t) fun _ _ => .pure trivial

theorem newScope (hC : C.Tolerant) : Obeys C (Flow.ofKernel (·.newScope) : Play ε ScopeId) := .ofKernel hC fun k => k.neutral_newScope

theorem childScope (hC : C.Tolerant) (s : ScopeId) : Obeys C (Flow.ofKernel (·.childScope s) : Play ε ScopeId) :=
  .ofKernel hC fun k => k.neutral_childScope s

theorem newFuture (hC : C.Tolerant) : Obeys C (Flow.ofKernel (·.newFuture) : Play ε FutureId) :=
  .ofKernel hC fun k => k.neutral_newFuture rfl

theorem check (hC : C.Tolerant) (ctx : Context) : Obeys C (ctx.check : Play ε Unit) := .bind (.kernel hC) fun _ _ => .result _

theorem withCancel (hC : C.Tolerant) (ctx : Context) : Obeys C (ctx.withCancel : Play ε Context) := .bind (.childScope hC _) fun _ _ => .pure trivial

theorem disconnected (hC : C.Tolerant) (ctx : Context) : Obeys C (ctx.disconnected : Play ε Context) := .bind (.newScope hC) fun _ _ => .pure trivial

theorem isCancelled (hC : C.Tolerant) (ctx : Context) : Obeys C (ctx.isCancelled : Play ε Bool) := .bind (.kernel hC) fun _ _ => .pure trivial

theorem promise (hC : C.Tolerant) (ctx : Context) (p : Promise) (type : Option ResultType) : Obeys C (p.await ctx type : Play ε Data) :=
  .bind (hC.awaitUnder ctx.scope p.source) fun _ _ => .result _

theorem decided (hC : C.Tolerant) (o : Outcome) (translates : Bool) : Obeys C (Promise.decided o translates : Play ε Promise) :=
  .bind (.ofKernel hC fun k => k.neutral_newFuture rfl) fun _ _ => .pure trivial

theorem log (hC : C.Tolerant) (level : LogLevel) (text : String) : Obeys C (Play.log level text : Play ε Unit) :=
  .modifyWorld hC fun _ => .of_eq rfl rfl

theorem engine (hC : C.Tolerant) : Obeys C (Play.engine : Play ε ε) := .bind (.world hC) fun _ _ => .pure trivial

theorem run (hC : C.Tolerant) (r : Nat) : Obeys C (Play.run r : Play ε RunState) := .bind (.world hC) fun _ _ => .pure trivial

theorem modifyRun (hC : C.Tolerant) (r : Nat) (f : RunState → RunState) : Obeys C (Play.modifyRun r f : Play ε Unit) :=
  .modifyWorld hC fun _ => .of_eq rfl rfl

theorem program (hC : C.Tolerant) (n : Nat) : Obeys C (Play.program n : Play ε ProgramState) := .bind (.world hC) fun _ _ => .pure trivial

theorem modifyProgram (hC : C.Tolerant) (n : Nat) {f : ProgramState → ProgramState} (hf : ∀ p, (f p).received = p.received) :
    Obeys C (Play.modifyProgram n f : Play ε Unit) := .modifyWorld hC fun w => w.kept_modifyProgram n hf

theorem newPath (hC : C.Tolerant) : Obeys C (Play.newPath : Play ε Nat) := .ofWorld hC fun _ => .of_eq rfl rfl

theorem addAnswer (hC : C.Tolerant) (path : Nat) (answer : Data) : Obeys C (Play.addAnswer path answer : Play ε Unit) :=
  .modifyWorld hC fun _ => .of_eq rfl rfl

end Flow.Obeys

/-! ## Programs -/

/-- The primitives of an engine keep to a protocol. -/
structure Primitives.Obey (C : Protocol (World ε) S) (w : Primitives ε) : Prop where
  log (ctx : Context) (level : LogLevel) (text : String) : Flow.Obeys C (w.log ctx level text)
  identity (ctx : Context) : Flow.Obeys C (w.identity ctx)
  startActivity (ctx : Context) (target : Target) (args : List Data) : Flow.Obeys C (w.startActivity ctx target args)
  startChild (ctx : Context) (target : Target) (args : List Data) : Flow.Obeys C (w.startChild ctx target args)
  get (ctx : Context) (p : Promise) (type : Option ResultType) : Flow.Obeys C (w.get ctx p type)
  childExecution (p : Promise) : Flow.Obeys C (w.childExecution p)
  signalChild (ctx : Context) (p : Promise) (name : String) (d : Data) : Flow.Obeys C (w.signalChild ctx p name d)
  setQueryHandler (ctx : Context) (name : String) (h : QueryHandler) : Flow.Obeys C (w.setQueryHandler ctx name h)
  setSignalHandler (ctx : Context) (name : String) (h : SignalHandler) : Flow.Obeys C (w.setSignalHandler ctx name h)
  sideEffect (ctx : Context) (r : Except Fault Data) : Flow.Obeys C (w.sideEffect ctx r)
  now (ctx : Context) : Flow.Obeys C (w.now ctx)
  sleep (ctx : Context) (duration : Data) : Flow.Obeys C (w.sleep ctx duration)

structure ProgramHost.Obeys (C : Protocol (World ε) S) (host : ProgramHost ε) : Prop where
  primitives : host.primitives.Obey C
  calls : Flow.Obeys C host.calls
  query (ctx : Context) (name : String) (args : List Data) : Flow.Obeys C (host.query ctx name args)
  signalExternal (ctx : Context) (id : String) (runId : Option String) (name : String) (d : Data) :
    Flow.Obeys C (host.signalExternal ctx id runId name d)

namespace Program

theorem obeys_named (entries : List (String × α)) (name : String) : Flow.Obeys C (named entries name : Play ε α) := by
  unfold named
  split
  · exact .pure trivial
  · exact .fail _

theorem obeys_deriveStep (hC : C.Tolerant) (n : Nat) (name : String) (c : Context) : Flow.Obeys C (deriveStep n name c : Play ε Data) :=
  .bind (.modifyProgram hC n fun _ => rfl) fun _ _ => .pure trivial

theorem obeys_promiseStep (hC : C.Tolerant) (n : Nat) (name : String) {m : Play ε Promise} (hm : Flow.Obeys C m) :
    Flow.Obeys C (promiseStep n name m) :=
  .bind hm fun _ _ => .bind (.modifyProgram hC n fun _ => rfl) fun _ _ => .pure trivial

theorem obeys_withPromise (hC : C.Tolerant) (n : Nat) (name : String) {f : Promise → Play ε α} (hf : ∀ p, Flow.Obeys C (f p)) :
    Flow.Obeys C (do f (← named (← Play.program n).promises name)) :=
  .bind (.program hC n) fun _ _ => .bind (obeys_named _ _) fun p _ => hf p

/-- An owner's call on a future. -/
theorem obeys_settleBy (hC : C.Tolerant) (f : FutureId) (a : Settling) : Flow.Obeys C (Flow.tryKernel (·.settleBy f a) : Play ε Unit) :=
  .tryKernel hC fun _ _ hk => Kernel.neutral_settleBy hk

/-- **A step of a program keeps to the protocol of its host.** -/
theorem obeys_perform (hC : C.Tolerant) {host : ProgramHost ε} (h : host.Obeys C) (n : Nat) (ctx : Context) (action : ProgramAction) :
    Flow.Obeys C (perform host n ctx action) := by
  have hderive := obeys_deriveStep hC n
  have hw := h.primitives
  have hnull : Flow.Obeys C (pure .null : Play ε Data) := .pure trivial
  cases action with
  | withValue name key value =>
    unfold perform
    dsimp only
    split
    · exact hderive _ _
    · exact .fail _
  | withHeaders name headers =>
    unfold perform
    dsimp only
    split
    · exact hderive _ _
    · exact .fail _
  | derive name changes => exact .bind (.result _) fun _ _ => hderive _ _
  | withCancel name => exact .bind (.withCancel hC ctx) fun _ _ => hderive _ _
  | disconnect name => exact .bind (.disconnected hC ctx) fun _ _ => hderive _ _
  | withTaskList name x => exact hderive _ _
  | withWorkflowDomain name x => exact hderive _ _
  | withWorkflowTaskList name x => exact hderive _ _
  | withActivityOptions name options => exact .bind (.result _) fun _ _ => hderive _ _
  | withChildOptions name options => exact .bind (.result _) fun _ _ => hderive _ _
  | showContext brief => exact .bind (.isCancelled hC ctx) fun _ _ => .pure trivial
  | value key default =>
    unfold perform
    dsimp only
    split
    · exact .pure trivial
    · exact .fail _
  | cancel => exact .bind (.modifyKernel hC fun k => k.neutral_cancelScope ctx.scope) fun _ _ => hnull
  | activity name target args => exact obeys_promiseStep hC n name (hw.startActivity ctx target args)
  | child name target args => exact obeys_promiseStep hC n name (hw.startChild ctx target args)
  | execution future name => exact obeys_withPromise hC n future fun p => obeys_promiseStep hC n name (hw.childExecution p)
  | signal future name signal d => exact obeys_withPromise hC n future fun p => obeys_promiseStep hC n name (hw.signalChild ctx p signal d)
  | signalExternal id runId signal d => exact .bind (h.signalExternal ctx id runId signal d) fun _ _ => hnull
  | future name =>
    exact .bind (.newFuture hC) fun _ _ => .bind (.modifyProgram hC n fun _ => rfl) fun _ _ =>
      .bind (.modifyProgram hC n fun _ => rfl) fun _ _ => hnull
  | settle future s =>
    exact .bind (.program hC n) fun _ _ => .bind (obeys_named _ _) fun f _ => .bind (obeys_settleBy hC f _) fun _ _ => hnull
  | chain future source =>
    exact .bind (.program hC n) fun _ _ => .bind (obeys_named _ _) fun f _ => .bind (obeys_settleBy hC f _) fun _ _ => hnull
  | get future type => exact obeys_withPromise hC n future fun p => hw.get ctx p type
  | ready future => exact obeys_withPromise hC n future fun p => .bind (.kernel hC) fun _ _ => .pure trivial
  | pause turns => exact .bind (.turns _) fun _ _ => hnull
  | sideEffect r => exact hw.sideEffect ctx r
  | now => exact hw.now ctx
  | sleep duration => exact .bind (hw.sleep ctx duration) fun _ _ => hnull
  | later seconds =>
    refine .bind (hw.now ctx) fun d _ => ?_
    split
    · exact .result _
    · exact .pure trivial
  | setQuery name value => exact .bind (hw.setQueryHandler ctx name _) fun _ _ => hnull
  | query name args => exact h.query ctx name args
  | setSignal name list => exact .bind (hw.setSignalHandler ctx name _) fun _ _ => hnull
  | received list => exact .bind (.program hC n) fun _ _ => .pure trivial
  | info => exact .bind (hw.identity ctx) fun _ _ => .pure trivial
  | customError reason details => exact .pure trivial
  | calls => exact h.calls
  | raise e => exact .fail e
  | unknown name => exact .fail _
  | go name steps => exact hnull
  | «return» value => exact hnull

theorem obeys_performSteps (hC : C.Tolerant) {go : PathRun ε → List Data → Play ε (Option Data)}
    (hgo : ∀ r, r.host.Obeys C → ∀ steps, Flow.Obeys C (go r steps)) {r : PathRun ε} (h : r.host.Obeys C) (last : Data)
    (steps : List Data) : Flow.Obeys C (performSteps go r last steps) := by
  induction steps generalizing last with
  | nil => exact .pure trivial
  | cons d rest ih =>
    have hstarts (ctx : Context) (name : String) (steps : List Data) : Flow.Obeys C (do
          let path ← Play.newPath
          Play.modifyProgram r.program fun p => { p with paths := setName p.paths name path }
          let t ← Flow.spawnUnder ctx.scope do return (← go { r with context := ctx, path := path } steps).getD .null
          keepPromise r.program name { source := t }
          return Data.null) := by
      refine .bind (.newPath hC) fun path _ => .bind (.modifyProgram hC _ fun _ => rfl) fun _ _ => ?_
      have hspawned := hgo { r with context := ctx, path := path } h
      refine .bind (.spawnUnder hC _ (.bind (hspawned _) fun _ _ => .pure trivial)) fun t _ => ?_
      exact .bind (.modifyProgram hC _ fun _ => rfl) fun _ _ => .pure trivial
    unfold performSteps
    dsimp only
    split
    · exact .bind (.addAnswer hC _ _) fun _ _ => .pure trivial
    · refine .bind (.attempt (P := fun _ => True) ?_) fun r' _ => ?_
      · split
        · split
          · exact hstarts _ _ _
          · exact obeys_perform hC h _ _ _
        · refine .bind (.program hC _) fun _ _ => .bind (obeys_named _ _) fun ctx _ => ?_
          split
          · exact hstarts _ _ _
          · exact obeys_perform hC h _ _ _
      · split
        · exact .bind (.addAnswer hC _ _) fun _ _ => ih _
        · refine .bind (.addAnswer hC _ _) fun _ _ => ?_
          split
          · exact .fail _
          · exact ih _

theorem obeys_runPath (hC : C.Tolerant) (depth : Nat) {r : PathRun ε} (h : r.host.Obeys C) (steps : List Data) :
    Flow.Obeys C (runPath depth r steps) := by
  induction depth generalizing r steps with
  | zero => exact .fail _
  | succ depth ih => exact obeys_performSteps hC (fun _ hr steps => ih hr steps) h _ _

/-- **A program keeps to the protocol of its host.** -/
theorem obeys_run (hC : C.Tolerant) {host : ProgramHost ε} (h : host.Obeys C) (ctx : Context) (steps : List Data) :
    Flow.Obeys C (run host ctx steps) := by
  refine .bind (P := fun _ => True) (.bind (.newScope hC) fun _ _ => .pure trivial) fun plain _ => ?_
  refine .bind (.ofWorld hC fun w => w.kept_newProgram rfl) fun n _ => .bind (.newPath hC) fun path _ => ?_
  refine .bind (obeys_runPath hC maxDepth (r := { host := host, program := n, context := ctx, path := path }) h steps) fun r _ => ?_
  split
  · exact .pure trivial
  · exact .bind (.world hC) fun _ _ => .pure trivial

end Program

/-! ## Scripts -/

section Within

variable {K : Proc (World ε) → Prop} {thread : Thread}

/-- What a script waits for stays within a kind of programs. -/
def Reply.Within (K : Proc (World ε) → Prop) : Reply ε → Prop
  | .now _ => True
  | .later m => Flow.Within K m

/-- Called from a thread, a function of a module stays within a kind of programs. -/
def Builtin.Within (K : Proc (World ε) → Prop) (thread : Thread) (f : Builtin ε) : Prop :=
  ∀ args options, Flow.Within K (f thread args options) (Reply.Within K)

/-- The functions of a module stay within a kind of programs when they are called from a thread, and its properties do. -/
structure Module.Within (K : Proc (World ε) → Prop) (thread : Thread) (m : Module ε) : Prop where
  builtins : ∀ b ∈ m.attributes.builtins, Builtin.Within K thread b.2
  properties : ∀ p ∈ m.attributes.properties, Flow.Within K p.2

theorem Module.within_empty : ({} : Module ε).Within K thread :=
  ⟨fun _ hb => (List.not_mem_nil hb).elim, fun _ hp => (List.not_mem_nil hp).elim⟩

namespace Session

/-- The modules of a session and its log stay within a kind of programs. -/
structure Within (K : Proc (World ε) → Prop) (s : Session ε) : Prop where
  log (level : LogLevel) (text : String) : Flow.Within K (Play.log level text : Play ε Unit)
  modules : ∀ m ∈ s.modules, m.2.Within K s.thread

variable {s : Session ε}

theorem of_create {sources : Sources} {modules : List (String × Module ε)} (h : Session.create sources modules thread = .ok s) :
    s.modules = modules ∧ s.thread = thread := by
  simp only [Session.create, bind, Except.bind] at h
  split at h
  · cases h
  · exact (Except.ok.inj h) ▸ ⟨rfl, rfl⟩

namespace Within

theorem module (h : s.Within K) (number : Nat) : (s.module number).Within K s.thread := by
  rw [Session.module]
  cases hm : s.modules[number]? with
  | none => exact Module.within_empty
  | some m => exact h.modules m (List.mem_of_getElem? hm)

theorem readAttribute (h : s.Within K) (number : Nat) (name : Option String) (shown : String) :
    Flow.Within K (s.readAttribute number name shown) := by
  unfold Session.readAttribute
  dsimp only
  split
  · exact .pure trivial
  · rename_i name
    split
    · exact .pure trivial
    · rename_i p hp
      have hproperty : Flow.Within K p := by
        unfold Attributes.resolve at hp
        split at hp
        · cases hp
        · rename_i hp'
          cases hp
          exact (h.module number).properties _ (Entries.mem_of_lookup hp')
        · cases hp
      refine .bind (.attempt hproperty) fun r _ => ?_
      split <;> exact .pure trivial
    · exact .pure trivial

theorem invoke (h : s.Within K) (number : Nat) (function : String) (args : List Data) (options : List (String × Data)) :
    Flow.Within K (s.invoke number function args options) (Reply.Within K) := by
  unfold Session.invoke
  dsimp only
  split
  · rename_i f hf
    unfold Builtin.call
    split
    · exact .fail _
    · exact (h.module number).builtins _ (Entries.mem_of_lookup hf) _ _
  · exact .fail _

/-- A turn of a session. -/
theorem turn (h : s.Within K) {again : Script.Machine → Play ε Ending} (hagain : ∀ m, Flow.Within K (again m)) (m : Script.Machine) :
    Flow.Within K (s.turn again m) := by
  unfold Session.turn
  split
  · exact .pure trivial
  · exact .pure trivial
  · exact hagain _
  · split
    · split
      · exact .bind (h.log _ _) fun _ _ => hagain _
      · exact .bind (P := fun _ => True) (.pure trivial) fun _ _ => hagain _
    · exact .bind (h.readAttribute _ _ _) fun _ _ => hagain _
    · exact hagain _
    · exact .bind (h.log _ _) fun _ _ => hagain _
    · refine .bind (.attempt (h.invoke _ _ _ _)) fun r hr => ?_
      split
      · exact hagain _
      · exact hagain _
      · split
        · refine .bind (.attempt (hr _ rfl)) fun r' _ => ?_
          split
          · split
            · exact hagain _
            · exact .pure trivial
          · split
            · exact hagain _
            · exact .pure trivial
        · exact hagain _

/-- **A script stays within what its modules stay within.** -/
theorem drive (h : s.Within K) (fuel : Nat) (m : Script.Machine) : Flow.Within K (s.drive fuel m) := by
  induction fuel generalizing m with
  | zero =>
    rw [Session.drive]
    exact .pure trivial
  | succ fuel ih =>
    rw [drive_succ]
    exact h.turn ih m

theorem runMachine (h : s.Within K) (m : Script.Machine) : Flow.Within K (s.runMachine m) fun a => a.1.Within K :=
  .bind (h.drive _ m) fun _ _ => .pure ⟨h.log, h.modules⟩

theorem load (h : s.Within K) (path : Data) : Flow.Within K (s.load path) fun a => a.1.Within K := by
  unfold Session.load
  split
  · exact .pure h
  · exact .bind (h.runMachine _) fun _ ha => .pure ha

theorem call (h : s.Within K) (path function : Data) (args : List Data) (options : List (Data × Data)) :
    Flow.Within K (s.call path function args options) := by
  unfold Session.call
  split
  · exact .pure trivial
  · exact .bind (h.runMachine _) fun _ _ => .pure trivial

end Within

end Session

namespace ScriptService

theorem within_runSession {s : Session ε} (h : s.Within K) (r : ScriptRequest) : Flow.Within K (runSession s r) :=
  .bind (h.load r.path) fun _ ha => .bind (.discard (.result _)) fun _ _ => .bind (.result _) fun _ _ => .bind (.result _) fun _ _ =>
    .bind (ha.call _ _ _ _) fun _ _ => .result _

/-- The thread of a run. -/
def threadOf (ctx : Context) (identity : Identity) (number : Nat) : Thread :=
  { name := identity.id ++ "/" ++ identity.runId, context := ctx, run := number }

/-- What the script workflow does when it has a run of its own. -/
def inRun (plugins : PluginSet ε) (w : Primitives ε) (ctx : Context) (r : ScriptRequest) (identity : Identity) (environ : List (Data × Data))
    (number : Nat) : Play ε Data := do
  let sources ← Flow.ofExcept r.sourceTexts
  let session ← Flow.ofExcept (Session.create sources (plugins.createModules w identity environ number) (threadOf ctx identity number))
  w.log ctx .info ("Running " ++ r.place)
  match ← Flow.attempt (runSession session r) with
  | .ok d => do
    w.log ctx .info ("Finished " ++ r.place)
    return d
  | .error e => do
    if e.isOrdinary then w.log ctx .error ("Script " ++ r.place ++ " failed: " ++ e.logText)
    Flow.fail e

theorem run_eq_inRun (plugins : PluginSet ε) (w : Primitives ε) (ctx : Context) (request : Data) : run plugins w ctx request = (do
    let r ← Flow.ofExcept (ScriptRequest.ofData request)
    let identity ← w.identity ctx
    let environ ← Flow.ofExcept (ScriptRequest.entriesOf r.environ)
    let number ← Play.newRun
    inRun plugins w ctx r identity environ number) := rfl

/-- **A run stays within what the plugins stay within** when their functions are called from it. -/
theorem within_inRun {plugins : PluginSet ε} {w : Primitives ε} {ctx : Context} {r : ScriptRequest} {identity : Identity} {environ : List (Data × Data)}
    {number : Nat} (hlog : ∀ level text, Flow.Within K (Play.log level text : Play ε Unit)) (hw : ∀ level text, Flow.Within K (w.log ctx level text))
    (hp : ∀ p ∈ plugins.plugins, ∀ i,
      (p.create w { identity := identity, environ := environ, run := number, number := i }).Within K (threadOf ctx identity number)) :
    Flow.Within K (inRun plugins w ctx r identity environ number) := by
  refine .bind (.result _) fun sources _ => .bind (.ofExcept (P := fun s : Session ε => s.Within K) fun s hs => ?_) fun s hs =>
    .bind (hw _ _) fun _ _ => .bind (.attempt (within_runSession hs _)) fun r _ => ?_
  · obtain ⟨hmodules, hthread⟩ := Session.of_create hs
    refine ⟨hlog, fun m hm => ?_⟩
    rw [hmodules] at hm
    obtain ⟨⟨p, i⟩, hpi, rfl⟩ := List.mem_map.mp hm
    exact hthread ▸ hp p (List.fst_mem_of_mem_zipIdx hpi) i
  · split
    · exact .bind (hw _ _) fun _ _ => .pure trivial
    · split
      · exact .bind (hw _ _) fun _ _ => .fail _
      · exact .fail _

end ScriptService

theorem Sample.within_workflow (hcancelled : ∀ ctx : Context, Flow.Within K (ctx.isCancelled : Play ε Bool)) (key : String) (ctx : Context)
    (args : List Data) : Flow.Within K (workflow key ctx args : Play ε Data) := by
  unfold workflow
  split <;> first | exact .result _ | exact .pure trivial | exact .fail _ | skip
  split
  · exact .bind (hcancelled _) fun _ _ => .pure trivial
  · exact .fail _

theorem Sample.within_body (hturn : Flow.Within K (Flow.turn : Play ε Unit)) (key : String) (args : List Data) :
    Flow.Within K (body key args : Play ε (Returned (World ε))) fun r => Flow.Within K r.settle := by
  unfold body
  split <;> first | exact .pure (.pure trivial) | exact .fail _ | skip
  · exact .pure (.bind hturn fun _ _ => .result _)
  · exact .bind (.result _) fun _ _ => .pure (.pure trivial)

end Within

/-- Asked from contexts with an identity, the primitives of an engine stay within a kind of programs; handlers of queries are left aside. -/
structure Primitives.Within (K : Proc (World ε) → Prop) (i : Option Identity) (w : Primitives ε) : Prop where
  log {ctx : Context} (h : ctx.identity = i) (level : LogLevel) (text : String) : Flow.Within K (w.log ctx level text)
  identity {ctx : Context} (h : ctx.identity = i) : Flow.Within K (w.identity ctx)
  startActivity {ctx : Context} (h : ctx.identity = i) (target : Target) (args : List Data) : Flow.Within K (w.startActivity ctx target args)
  startChild {ctx : Context} (h : ctx.identity = i) (target : Target) (args : List Data) : Flow.Within K (w.startChild ctx target args)
  get {ctx : Context} (h : ctx.identity = i) (p : Promise) (type : Option ResultType) : Flow.Within K (w.get ctx p type)
  childExecution (p : Promise) : Flow.Within K (w.childExecution p)
  signalChild {ctx : Context} (h : ctx.identity = i) (p : Promise) (name : String) (d : Data) : Flow.Within K (w.signalChild ctx p name d)
  setSignalHandler {ctx : Context} (h : ctx.identity = i) (name : String) (x : SignalHandler) : Flow.Within K (w.setSignalHandler ctx name x)
  sideEffect {ctx : Context} (h : ctx.identity = i) (r : Except Fault Data) : Flow.Within K (w.sideEffect ctx r)
  now {ctx : Context} (h : ctx.identity = i) : Flow.Within K (w.now ctx)
  sleep {ctx : Context} (h : ctx.identity = i) (duration : Data) : Flow.Within K (w.sleep ctx duration)

/-! ### Protocols of scripts -/

theorem Primitives.Obey.within {w : Primitives ε} (h : w.Obey C) (i : Option Identity) : w.Within (Proc.Obeys C C.idle) i :=
  ⟨fun _ => h.log _, fun _ => h.identity _, fun _ => h.startActivity _, fun _ => h.startChild _, fun _ => h.get _, h.childExecution,
    fun _ => h.signalChild _, fun _ => h.setSignalHandler _, fun _ => h.sideEffect _, fun _ => h.now _, fun _ => h.sleep _⟩

/-- What a script waits for keeps to a protocol. -/
def Reply.Obeys (C : Protocol (World ε) S) : Reply ε → Prop
  | .now _ => True
  | .later m => Flow.Obeys C m

theorem Reply.obeys_eq_within : Reply.Obeys C = Reply.Within (Proc.Obeys C C.idle) := funext fun
  | .now _ => rfl
  | .later _ => rfl

/-- The functions and the properties of a module keep to a protocol. -/
structure Module.Obeys (C : Protocol (World ε) S) (m : Module ε) : Prop where
  builtins : ∀ b ∈ m.attributes.builtins, ∀ thread args options, Flow.Obeys C (b.2 thread args options) (Reply.Obeys C)
  properties : ∀ p ∈ m.attributes.properties, Flow.Obeys C p.2

theorem Module.obeys_iff_within {m : Module ε} : m.Obeys C ↔ ∀ thread, m.Within (Proc.Obeys C C.idle) thread :=
  ⟨fun h thread => ⟨fun b hb args options => Reply.obeys_eq_within (C := C) ▸ h.builtins b hb thread args options, h.properties⟩,
    fun h => ⟨fun b hb thread args options => Reply.obeys_eq_within (C := C) ▸ (h thread).builtins b hb args options,
      (h { name := "", context := { scope := 0 }, run := 0 }).properties⟩⟩

/-- With primitives that keep to a protocol, so do the modules of the plugins. -/
def Plugin.Obeys (C : Protocol (World ε) S) (p : Plugin ε) : Prop := ∀ w info, w.Obey C → (p.create w info).Obeys C

def PluginSet.Obey (C : Protocol (World ε) S) (s : PluginSet ε) : Prop := ∀ p ∈ s.plugins, p.Obeys C

namespace ScriptService

/-- **The script workflow keeps to the protocol of its engine.** -/
theorem obeys_run (hC : C.Tolerant) {plugins : PluginSet ε} (hp : plugins.Obey C) {w : Primitives ε} (hw : w.Obey C) (ctx : Context)
    (request : Data) : Flow.Obeys C (run plugins w ctx request) := by
  rw [run_eq_inRun]
  refine .bind (.result _) fun r _ => .bind (hw.identity ctx) fun identity _ => .bind (.result _) fun environ _ => ?_
  refine .bind (.ofWorld hC fun _ => .of_eq rfl rfl) fun number _ => Flow.Obeys.iff_within.mpr ?_
  exact within_inRun (Flow.Obeys.log hC) (hw.log ctx) fun p hmem _ => Module.obeys_iff_within.mp (hp p hmem w _ hw) _

/-- **What a worker knows keeps to the protocol of its host.** -/
theorem obeys_runFunction (hC : C.Tolerant) {plugins : PluginSet ε} (hp : plugins.Obey C) {host : ProgramHost ε} (h : host.Obeys C) (c : Callable)
    (ctx : Context) (args : List Data) : Flow.Obeys C (runFunction plugins host c ctx args) := by
  unfold runFunction
  split
  · split
    · exact obeys_run hC hp h.primitives _ _
    · exact .fail _
  · split
    · split
      · split
        · exact Program.obeys_run hC h _ _
        · exact .fail _
      · exact .fail _
    · exact Sample.within_workflow (Flow.Obeys.isCancelled hC) _ _ _

end ScriptService

section Within

variable {K : Proc (World ε) → Prop}

theorem Builtin.within_fixed {params : List Parameter} {f : Thread → List Data → Play ε (Reply ε)}
    {thread : Thread} (hf : ∀ args, Flow.Within K (f thread args) (Reply.Within K)) : Within K thread (Builtin.fixed params f) :=
  fun _ _ => .bind (.result _) fun _ _ => hf _

namespace Cad

variable {w : Primitives ε} {i : Option Identity} {ctx : Context}

theorem identity_applyOptions {derivations : List (String × (Context → String → Context))} (hd : ∀ d ∈ derivations, ∀ c s, (d.2 c s).identity = c.identity)
    {options : List (String × Data)} {asBytes : Bool} {r : Context × Bool} (h : applyOptions derivations ctx asBytes options = .ok r) :
    r.1.identity = ctx.identity := by
  induction options generalizing ctx asBytes with
  | nil => exact Except.ok.inj h ▸ rfl
  | cons o options ih =>
    rw [applyOptions] at h
    cases ho : applyOption derivations ctx asBytes o.1 o.2 with
    | error e =>
      rw [ho] at h
      cases h
    | ok r' =>
      rw [ho] at h
      refine (ih h).trans ?_
      unfold applyOption at ho
      split at ho
      · rename_i f hf
        split at ho <;> cases ho
        · exact hd _ (Entries.mem_of_lookup hf) _ _
        · rfl
      · split at ho
        · split at ho <;> cases ho
          rfl
        · split at ho <;> cases ho

theorem within_refuse {α : Type} {P : α → Prop} (hw : w.Within K i) (hi : ctx.identity = i) (builtin : String) (e : Fault) :
    Flow.Within K (refuse w ctx builtin e : Play ε α) P := .bind (hw.log hi _ _) fun _ _ => .fail _

theorem within_result (hw : w.Within K i) (hi : ctx.identity = i) (p : Promise) (asBytes : Bool) : Flow.Within K (result w ctx p asBytes) := by
  refine .bind (.attempt (hw.get hi p _)) fun r _ => ?_
  split
  · exact .pure trivial
  · split
    · exact .bind (hw.log hi _ _) fun _ _ => .fail _
    · exact .fail _

theorem within_execute {thread : Thread} (hw : w.Within K thread.context.identity) (builtin : String)
    {derivations : List (String × (Context → String → Context))} (hd : ∀ d ∈ derivations, ∀ c s, (d.2 c s).identity = c.identity)
    {start : Context → Target → List Data → Play ε Promise}
    (hstart : ∀ ctx, ctx.identity = thread.context.identity → ∀ target args, Flow.Within K (start ctx target args)) :
    Builtin.Within K thread (execute w builtin derivations start) := fun args options => by
  unfold execute
  split
  · split
    · exact within_refuse hw rfl _ _
    · rename_i ctx asBytes hoptions
      have hi : ctx.identity = thread.context.identity := identity_applyOptions hd hoptions
      exact .bind (hstart ctx hi _ _) fun p _ => .pure (within_result hw hi p _)
  · exact within_refuse hw rfl _ _

theorem within_module {thread : Thread} (hw : w.Within K thread.context.identity) (info : RunInfo) : (plugin.create w info).Within K thread := by
  refine ⟨fun b hb => ?_, fun p hp => ?_⟩
  · simp only [plugin, builtins, List.mem_cons, List.not_mem_nil, or_false] at hb
    rcases hb with rfl | rfl
    · refine within_execute hw _ (fun d hd => ?_) fun _ => hw.startActivity
      simp only [List.mem_cons, List.not_mem_nil, or_false] at hd
      rcases hd with rfl
      exact fun _ _ => rfl
    · refine within_execute hw _ (fun d hd => ?_) fun _ => hw.startChild
      simp only [List.mem_cons, List.not_mem_nil, or_false] at hd
      rcases hd with rfl | rfl <;> exact fun _ _ => rfl
  · simp only [plugin, List.mem_cons, List.not_mem_nil, or_false] at hp
    rcases hp with rfl | rfl <;> exact .pure trivial

end Cad

theorem Hashes.within_module (w : Primitives ε) (info : RunInfo) (thread : Thread) : (plugin.create w info).Within K thread := by
  refine ⟨fun b hb => ?_, fun p hp => (List.not_mem_nil hp).elim⟩
  obtain ⟨a, -, rfl⟩ := List.mem_map.mp hb
  exact Builtin.within_fixed fun _ => .bind (.result _) fun _ _ => .pure trivial

theorem JsonText.within_module (w : Primitives ε) (info : RunInfo) (thread : Thread) : (plugin.create w info).Within K thread := by
  refine ⟨fun b hb => ?_, fun p hp => (List.not_mem_nil hp).elim⟩
  simp only [plugin, builtins, List.mem_cons, List.not_mem_nil, or_false] at hb
  rcases hb with rfl | rfl <;> exact Builtin.within_fixed fun _ => .bind (.result _) fun _ _ => .pure trivial

end Within

/-- What a function answers at once. -/
theorem Reply.obeys_now {m : Play ε Data} (h : Flow.Obeys C m) : Flow.Obeys C (do return Reply.now (← m)) (Reply.Obeys C) :=
  .bind h fun _ _ => .pure trivial

theorem Builtin.obeys_fixed {params : List Parameter} {f : Thread → List Data → Play ε (Reply ε)}
    (hf : ∀ thread args, Flow.Obeys C (f thread args) (Reply.Obeys C)) (thread : Thread) (args : List Data) (options : List (String × Data)) :
    Flow.Obeys C (Builtin.fixed params f thread args options) (Reply.Obeys C) := .bind (.result _) fun _ _ => hf _ _

theorem Builtin.obeys_positional {f : Thread → List Data → Play ε (Reply ε)}
    (hf : ∀ thread args, Flow.Obeys C (f thread args) (Reply.Obeys C)) (thread : Thread) (args : List Data) (options : List (String × Data)) :
    Flow.Obeys C (Builtin.positional f thread args options) (Reply.Obeys C) := by
  unfold Builtin.positional
  split
  · exact hf _ _
  · exact .fail _

theorem Cad.obeys_plugin : (plugin (ε := ε)).Obeys C := fun _ info hw => Module.obeys_iff_within.mpr fun _ => within_module (hw.within _) info

theorem Hashes.obeys_plugin : (plugin (ε := ε)).Obeys C := fun w info _ => Module.obeys_iff_within.mpr (within_module w info)

theorem JsonText.obeys_plugin : (plugin (ε := ε)).Obeys C := fun w info _ => Module.obeys_iff_within.mpr (within_module w info)

namespace Progress

theorem obeys_stored (hC : C.Tolerant) (run : Nat) (key : Data) : Flow.Obeys C (stored run key : Play ε Data) :=
  .bind (.run hC run) fun _ _ => .pure trivial

theorem obeys_plugin (hC : C.Tolerant) : (plugin (ε := ε)).Obeys C := fun w info hw => by
  refine ⟨fun b hb => ?_, fun p hp => ?_⟩
  · obtain rfl := List.mem_singleton.mp hb
    refine Builtin.obeys_fixed fun thread args => .bind (.modifyRun hC _ _) fun _ _ => .bind (obeys_stored hC _ _) fun known _ => ?_
    split
    · exact .pure trivial
    · exact .bind (hw.setQueryHandler _ _ _) fun _ _ => .bind (.modifyRun hC _ _) fun _ _ => .pure trivial
  · obtain rfl := List.mem_singleton.mp hp
    exact obeys_stored hC _ _

end Progress

namespace Tools

theorem obeys_fails (args : List Data) : Flow.Obeys C (fails args : Play ε Data) := by
  unfold fails
  split <;> exact .fail _

theorem obeys_afterTurn {m : Play ε Data} (hm : Flow.Obeys C m) : (afterTurn m).Obeys C := .bind .turn fun _ _ => hm

theorem obeys_countUp (hC : C.Tolerant) (run number : Nat) : Flow.Obeys C (countUp run number : Play ε Data) :=
  .bind (.run hC run) fun _ _ => .bind (.modifyRun hC _ _) fun _ _ => .pure trivial

theorem obeys_module (hC : C.Tolerant) (run number : Nat) (environ : List (Data × Data)) : (Tools.module (ε := ε) run number environ).Obeys C := by
  refine ⟨fun b hb => ?_, fun p hp => ?_⟩
  · simp only [Tools.module, builtins, List.mem_cons, List.not_mem_nil, or_false] at hb
    rcases hb with rfl | rfl | rfl | rfl | rfl | rfl | rfl | rfl | rfl | rfl | rfl
    · exact fun _ _ _ => .pure trivial
    · exact fun _ _ _ => .pure trivial
    · exact Builtin.obeys_fixed fun _ _ => .pure (obeys_afterTurn (.pure trivial))
    · exact Builtin.obeys_positional fun _ _ => Reply.obeys_now (obeys_fails _)
    · exact Builtin.obeys_positional fun _ _ => .pure (obeys_afterTurn (obeys_fails _))
    · exact Builtin.obeys_fixed fun _ _ => Reply.obeys_now (.result _)
    · exact Builtin.obeys_fixed fun _ _ => .pure (obeys_afterTurn (.result _))
    · exact Builtin.obeys_fixed fun _ _ => .pure trivial
    · refine Builtin.obeys_fixed fun thread args => ?_
      split
      · split
        · exact .bind (.modifyRun hC _ _) fun _ _ => .pure trivial
        · exact .bind (P := fun _ => True) (.fail _) fun _ _ => .bind (.modifyRun hC _ _) fun _ _ => .pure trivial
      · exact .fail _
    · refine Builtin.obeys_fixed fun thread args => ?_
      split
      · exact .bind (.run hC _) fun _ _ => .pure trivial
      · exact .bind (P := fun _ => True) (.fail _) fun _ _ => .bind (.run hC _) fun _ _ => .pure trivial
    · exact Builtin.obeys_fixed fun _ _ => .pure trivial
  · simp only [Tools.module, properties, List.mem_cons, List.not_mem_nil, or_false] at hp
    rcases hp with rfl | rfl | rfl | rfl | rfl | rfl | rfl
    · exact .pure trivial
    · exact .pure trivial
    · exact .pure trivial
    · exact .fail _
    · exact obeys_countUp hC run number
    · exact .pure trivial
    · exact .pure trivial

end Tools

namespace Catalogue

/-- **The plugins of the catalogue keep to every protocol that their engine keeps to.** -/
theorem obeys_plugin (hC : C.Tolerant) (id : String) : (plugin (ε := ε) id).Obeys C := by
  unfold plugin
  cases hp : (bundled ++ [tools] : List (Plugin ε)).find? fun p => p.id == id with
  | none => exact fun w info _ => ⟨fun b hb => (List.not_mem_nil hb).elim, fun p hp => (List.not_mem_nil hp).elim⟩
  | some p =>
    have hmem := List.mem_of_find?_eq_some hp
    simp only [bundled, List.cons_append, List.nil_append, List.mem_cons, List.not_mem_nil, or_false] at hmem
    rcases hmem with rfl | rfl | rfl | rfl | rfl
    · exact Cad.obeys_plugin
    · exact Hashes.obeys_plugin
    · exact JsonText.obeys_plugin
    · exact Progress.obeys_plugin hC
    · exact fun _ info _ => Tools.obeys_module hC _ _ _

end Catalogue

end ScriptFlow
