import Mathlib
import ScriptFlow.Proofs.Simulation.Families
import ScriptFlow.Proofs.Simulation.Ledger
import ScriptFlow.Proofs.Worker.Addressing

/-!
# What the runs of a family know

A program makes calls under the contexts that it was given, and under those that it derives from them; it signals the children that it has started. Contexts and promises
that it names are kept in the world. So no run ever acts but for itself and its children: whatever is executed from a root is a saga of the root's family.

* `Simulator.Loyal` — a program that acts for a family, whatever members the family has got by then; `Simulator.Keeps` — a part of such a program.
* `Simulator.keeps_library` — **all that a simulated worker runs is loyal to the family of its context.**
* `Simulator.Saga.step`, `Simulator.Saga.steps` — so loops go on with the saga; `Simulator.Saga.execute` — and so do harnesses.
* `Simulator.runs_of_a_family_stand_apart` — **no two runs of a family share a run id or what is kept under it.**
-/

namespace ScriptFlow

open Loop

namespace Simulator

variable {F F' : List Identity} {α β : Type}

/-! ## What a program knows -/

/-- The context is of a run of the family, or of no run. -/
def Belongs (F : List Identity) (ctx : Context) : Prop := ∀ i, ctx.identity = some i → i ∈ F

/-- The promise is not of a child, or of one of the family. -/
def Knows (F : List Identity) (p : Promise) : Prop := ∀ id runId, p.child = some (.known id runId) → ∃ i ∈ F, i.runId = runId

/-- What a program has named is of the family. -/
structure Lists (F : List Identity) (p : ProgramState) : Prop where
  contexts : ∀ e ∈ p.contexts, Belongs F e.2
  promises : ∀ e ∈ p.promises, Knows F e.2

/-- What all programs have named is of the family. -/
def Houses (F : List Identity) (w : World Simulator) : Prop := ∀ (n : Nat) (p : ProgramState), w.programs[n]? = some p → Lists F p

theorem Belongs.mono {ctx : Context} (h : Belongs F ctx) (hF : F <+: F') : Belongs F' ctx := fun i hi => hF.subset (h i hi)

theorem Belongs.of_identity {ctx ctx' : Context} (h : Belongs F ctx) (hi : ctx'.identity = ctx.identity) : Belongs F ctx' := fun i hi' => h i (hi ▸ hi')

theorem Knows.mono {p : Promise} (h : Knows F p) (hF : F <+: F') : Knows F' p := fun id runId hp => by
  obtain ⟨i, hi, hrunId⟩ := h id runId hp
  exact ⟨i, hF.subset hi, hrunId⟩

theorem knows_of_none {p : Promise} (h : p.child = none) : Knows F p := fun _ _ hp => nomatch h.symm.trans hp

theorem Lists.mono {p : ProgramState} (h : Lists F p) (hF : F <+: F') : Lists F' p :=
  ⟨fun e he => (h.contexts e he).mono hF, fun e he => (h.promises e he).mono hF⟩

theorem Houses.mono {w : World Simulator} (h : Houses F w) (hF : F <+: F') : Houses F' w := fun n p hp => (h n p hp).mono hF

theorem lists_empty : Lists F {} := ⟨fun _ he => (List.not_mem_nil he).elim, fun _ he => (List.not_mem_nil he).elim⟩

theorem Houses.program {w : World Simulator} (h : Houses F w) (n : Nat) : Lists F ((w.programs[n]?).getD {}) := by
  cases hp : w.programs[n]? with
  | none => exact lists_empty
  | some p => exact h n p hp

theorem Houses.modify {w : World Simulator} (h : Houses F w) (n : Nat) {f : ProgramState → ProgramState} (hf : ∀ p, Lists F p → Lists F (f p)) :
    Houses F { w with programs := w.programs.modify n f } := fun m p hp => by
  simp only [Array.getElem?_modify] at hp
  split at hp
  · obtain ⟨q, hq, rfl⟩ := Option.map_eq_some_iff.mp hp
    exact hf q (h m q hq)
  · exact h m p hp

theorem Houses.push {w : World Simulator} (h : Houses F w) {q : ProgramState} (hq : Lists F q) : Houses F { w with programs := w.programs.push q } :=
  fun m p hp => by
    simp only [Array.getElem?_push] at hp
    split at hp
    · exact Option.some.inj hp ▸ hq
    · exact h m p hp

/-! ## Loyal programs -/

/-- What an access does: a deed of the family, after which programs know nobody else. -/
structure Acts (F : List Identity) (a : Deed) (st st' : LoopState (World Simulator)) : Prop where
  futures : st.kernel.futures.size ≤ st'.kernel.futures.size
  performs : Performs F st.world.engine a st'.world.engine
  houses : Houses (a.extend F) st'.world

/-- A program that acts for a family. By the time of an access the family may have got more members, and the access may add one. -/
inductive Loyal : List Identity → Proc (World Simulator) → Prop where
  | finish (F : List Identity) (r : Except Fault Data) : Loyal F (.finish r)
  | access {F : List Identity} {f : LoopState (World Simulator) → LoopState (World Simulator) × Proc (World Simulator)}
      (deed : List Identity → LoopState (World Simulator) → Deed)
      (here : ∀ F' st, F <+: F' → Houses F' st.world → Acts F' (deed F' st) st (f st).1)
      (next : ∀ F' st, F <+: F' → Houses F' st.world → Loyal ((deed F' st).extend F') (f st).2) : Loyal F (.access f)
  | spawn {F : List Identity} {watched : Bool} {body next : FutureId → Proc (World Simulator)} (started : ∀ t, Loyal F (body t))
      (goesOn : ∀ t, Loyal F (next t)) : Loyal F (.spawn watched body next)
  | await {F : List Identity} {f : FutureId} {next : Except Fault Data → Proc (World Simulator)} (goesOn : ∀ r, Loyal F (next r)) :
      Loyal F (.await f next)
  | turn {F : List Identity} {next : Except Fault Data → Proc (World Simulator)} (goesOn : ∀ r, Loyal F (next r)) : Loyal F (.turn next)

theorem Loyal.mono {p : Proc (World Simulator)} (h : Loyal F p) (hF : F <+: F') : Loyal F' p := by
  induction h with
  | finish F r => exact .finish F' r
  | access deed here next => exact .access deed (fun _ st hF' => here _ st (hF.trans hF')) fun _ st hF' => next _ st (hF.trans hF')
  | spawn _ _ hstarted hgoesOn => exact .spawn (fun t => hstarted t hF) fun t => hgoesOn t hF
  | await _ hgoesOn => exact .await fun r => hgoesOn r hF
  | turn _ hgoesOn => exact .turn fun r => hgoesOn r hF

/-- A part of a program that acts for a family and gives values of a kind, as the family is then: other tasks may start children before it begins and before it
ends. -/
def Keeps (F : List Identity) (m : Play α) (P : List Identity → α → Prop := fun _ _ => True) : Prop :=
  ∀ F', F <+: F' → ∀ cont : Except Fault α → Proc (World Simulator),
    (∀ F'' r, F' <+: F'' → (∀ a, r = .ok a → P F'' a) → Loyal F'' (cont r)) → Loyal F' (m cont)

namespace Keeps

variable {P : List Identity → α → Prop} {Q : List Identity → β → Prop} {m : Play α}

theorem mono (h : Keeps F m P) (hF : F <+: F') : Keeps F' m P := fun _ hF' => h _ (hF.trans hF')

theorem ofExcept {r : Except Fault α} (h : ∀ F' a, F <+: F' → r = .ok a → P F' a) : Keeps F (Flow.ofExcept r : Play α) P := fun F' hF _ hcont =>
  hcont F' r List.prefix_rfl fun a ha => h F' a hF ha

theorem result (r : Except Fault α) : Keeps F (Flow.ofExcept r : Play α) := ofExcept fun _ _ _ _ => trivial

theorem pure {a : α} (h : ∀ F', F <+: F' → P F' a) : Keeps F (Pure.pure a : Play α) P :=
  ofExcept fun F' _ hF ha => Except.ok.inj ha ▸ h F' hF

theorem value (a : α) : Keeps F (Pure.pure a : Play α) := pure fun _ _ => trivial

theorem fail (e : Fault) : Keeps F (Flow.fail e : Play α) P := ofExcept (r := .error e) fun _ _ _ ha => nomatch ha

theorem bind {f : α → Play β} (hm : Keeps F m P) (hf : ∀ F' a, F <+: F' → P F' a → Keeps F' (f a) Q) : Keeps F (m >>= f) Q :=
  fun F' hF cont hcont => hm F' hF _ fun
    | F'', .ok a, hF', ha => hf F'' a (hF.trans hF') (ha a rfl) F'' List.prefix_rfl cont fun F₃ r hF'' => hcont F₃ r (hF'.trans hF'')
    | F'', .error _, hF', _ => hcont F'' _ hF' fun _ ha => nomatch ha

theorem attempt (hm : Keeps F m P) : Keeps F (Flow.attempt m) fun F' r => ∀ a, r = .ok a → P F' a := fun F' hF _ hcont =>
  hm F' hF _ fun F'' _ hF' hr => hcont F'' _ hF' fun _ ha => Except.ok.inj ha ▸ hr

/-- A part whose value is used in what is given. -/
theorem gives {g : α → β} (hm : Keeps F m P) : Keeps F (m >>= fun a => Pure.pure (g a)) := bind hm fun _ _ _ _ => value _

theorem discard (hm : Keeps F m P) : Keeps F (discard m) := gives hm

/-- Loyal programs are a kind of programs, for the family as it is. -/
theorem within (hm : Keeps F m P) : Flow.Within (Loyal F) m := fun cont hcont =>
  hm F List.prefix_rfl cont fun _ r hF _ => (hcont r fun _ _ => trivial).mono hF

theorem of_within {P : α → Prop} (h : ∀ F', F <+: F' → Flow.Within (Loyal F') m P) : Keeps F m fun _ => P := fun F' hF cont hcont =>
  h F' hF cont fun r hr => hcont F' r List.prefix_rfl hr

theorem await (f : FutureId) : Keeps F (Flow.await f : Play Data) := fun _ _ _ hcont => .await fun r => hcont _ r List.prefix_rfl fun _ _ => trivial

theorem turn : Keeps F (Flow.turn : Play Unit) := fun _ _ _ hcont => .turn fun
  | .ok _ => hcont _ _ List.prefix_rfl fun _ _ => trivial
  | .error _ => hcont _ _ List.prefix_rfl fun _ _ => trivial

theorem turns (n : Nat) : Keeps F (Flow.turns n : Play Unit) := by
  induction n with
  | zero => exact value _
  | succ n ih => exact bind turn fun _ _ hF _ => ih.mono hF

theorem spawn {body : Play Data} (h : Keeps F body) : Keeps F (Flow.spawn body) := fun F' hF _ hcont =>
  .spawn (fun _ => h F' hF _ fun F'' r _ _ => .finish F'' r) fun _ => hcont _ _ List.prefix_rfl fun _ _ => trivial

/-! ### Accesses -/

/-- An access that is a deed of the family. -/
theorem acts {f : LoopState (World Simulator) → α × LoopState (World Simulator)} (deed : List Identity → LoopState (World Simulator) → Deed)
    (here : ∀ F' st, F <+: F' → Houses F' st.world → Acts F' (deed F' st) st (f st).2)
    (hP : ∀ F' st, F <+: F' → Houses F' st.world → P ((deed F' st).extend F') (f st).1) : Keeps F (Flow.modifyGet f) P := fun _ hF _ hcont =>
  .access deed (fun F' st hF' => here F' st (hF.trans hF')) fun F' st hF' hst =>
    hcont _ _ (hF'.trans (prefix_extend ..)) fun _ ha => Except.ok.inj ha ▸ hP F' st (hF.trans hF') hst

/-- An access that the family does not notice. -/
theorem quietly {f : LoopState (World Simulator) → α × LoopState (World Simulator)} (hfutures : ∀ st, st.kernel.futures.size ≤ (f st).2.kernel.futures.size)
    (hengine : ∀ st, Untouched st.world.engine (f st).2.world.engine)
    (hhouses : ∀ F' st, F <+: F' → Houses F' st.world → Houses F' (f st).2.world ∧ P F' (f st).1) : Keeps F (Flow.modifyGet f) P :=
  acts (fun _ _ => .other) (fun F' st hF hst => ⟨hfutures st, .other (hengine st), (hhouses F' st hF hst).1⟩) fun F' st hF hst => (hhouses F' st hF hst).2

theorem ofKernel {f : Kernel → Kernel × α} (h : ∀ k, k.futures.size ≤ (f k).1.futures.size) : Keeps F (Flow.ofKernel f : Play α) :=
  quietly (fun st => h st.kernel) (fun _ => .refl _) fun _ _ _ hst => ⟨hst, trivial⟩

theorem modifyKernel {f : Kernel → Kernel} (h : ∀ k, k.futures.size ≤ (f k).futures.size) : Keeps F (Flow.modifyKernel f : Play Unit) :=
  quietly (fun st => h st.kernel) (fun _ => .refl _) fun _ _ _ hst => ⟨hst, trivial⟩

theorem tryKernel {f : Kernel → Except Fault Kernel} (h : ∀ k k', f k = .ok k' → k.futures.size ≤ k'.futures.size) :
    Keeps F (Flow.tryKernel f : Play Unit) := fun F' _ cont hcont => by
  refine .access (fun _ _ => .other) (fun F'' st hF' hst => ?_) fun F'' st hF' _ => ?_
  · cases hk : f st.kernel with
    | ok k =>
      simp only [hk]
      exact ⟨h _ _ hk, .other (.refl _), hst⟩
    | error e =>
      simp only [hk]
      exact ⟨le_rfl, .other (.refl _), hst⟩
  · cases hk : f st.kernel <;> simp only [hk] <;> exact hcont _ _ hF' fun _ _ => trivial

theorem kernel : Keeps F (Flow.kernel : Play Kernel) := quietly (fun _ => le_rfl) (fun _ => .refl _) fun _ _ _ hst => ⟨hst, trivial⟩

theorem world : Keeps F (Flow.world : Play (World Simulator)) Houses := quietly (fun _ => le_rfl) (fun _ => .refl _) fun _ _ _ hst => ⟨hst, hst⟩

theorem modifyWorld {f : World Simulator → World Simulator} (hengine : ∀ w, Untouched w.engine (f w).engine)
    (hhouses : ∀ F' w, F <+: F' → Houses F' w → Houses F' (f w)) : Keeps F (Flow.modifyWorld f : Play Unit) :=
  quietly (fun _ => le_rfl) (fun st => hengine st.world) fun F' st hF hst => ⟨hhouses F' st.world hF hst, trivial⟩

theorem ofWorld {f : World Simulator → World Simulator × α} (hengine : ∀ w, Untouched w.engine (f w).1.engine)
    (hhouses : ∀ F' w, F <+: F' → Houses F' w → Houses F' (f w).1) : Keeps F (Flow.ofWorld f : Play α) :=
  quietly (fun _ => le_rfl) (fun st => hengine st.world) fun F' st hF hst => ⟨hhouses F' st.world hF hst, trivial⟩

/-- An access to the engine alone. -/
theorem actsOnEngine {f : Simulator → Simulator × α} (deed : List Identity → Simulator → Deed)
    (performs : ∀ F' s, F <+: F' → Performs F' s (deed F' s) (f s).1) (hP : ∀ F' s, F <+: F' → P ((deed F' s).extend F') (f s).2) :
    Keeps F (Play.ofEngine f : Play α) P :=
  acts (f := fun st => ((f st.world.engine).2, { st with world := st.world.onEngine fun e => (f e).1 })) (fun F' st => deed F' st.world.engine)
    (fun F' st hF hst => ⟨le_rfl, performs F' st.world.engine hF, hst.mono (prefix_extend ..)⟩)
    fun F' st hF _ => hP F' st.world.engine hF

theorem ofEngine {f : Simulator → Simulator × α} (h : ∀ s, Untouched s (f s).1) : Keeps F (Play.ofEngine f : Play α) :=
  ofWorld (fun w => h w.engine) fun _ _ _ hw => hw

theorem modifyEngine {f : Simulator → Simulator} (h : ∀ s, Untouched s (f s)) : Keeps F (Play.modifyEngine f : Play Unit) :=
  modifyWorld (fun w => h w.engine) fun _ _ _ hw => hw

theorem engine : Keeps F (Play.engine : Play Simulator) := gives world

theorem log (level : LogLevel) (text : String) : Keeps F (Play.log level text : Play Unit) := modifyWorld (fun _ => .refl _) fun _ _ _ hw => hw

theorem modifyRun (run : Nat) (f : RunState → RunState) : Keeps F (Play.modifyRun run f : Play Unit) := modifyWorld (fun _ => .refl _) fun _ _ _ hw => hw

theorem program (n : Nat) : Keeps F (Play.program n : Play ProgramState) Lists := bind world fun _ _ _ hw => pure fun _ hF => (hw.program n).mono hF

/-- What a program names is of the family. -/
theorem modifyProgram (n : Nat) {f : ProgramState → ProgramState} (hf : ∀ F' p, F <+: F' → Lists F' p → Lists F' (f p)) :
    Keeps F (Play.modifyProgram n f : Play Unit) := modifyWorld (fun _ => .refl _) fun F' _ hF hw => hw.modify n fun p => hf F' p hF

theorem newPath : Keeps F (Play.newPath : Play Nat) := ofWorld (fun _ => .refl _) fun _ _ _ hw => hw

theorem addAnswer (path : Nat) (answer : Data) : Keeps F (Play.addAnswer path answer : Play Unit) := modifyWorld (fun _ => .refl _) fun _ _ _ hw => hw

theorem check (ctx : Context) : Keeps F (ctx.check : Play Unit) := bind kernel fun _ _ _ _ => result _

theorem isCancelled (ctx : Context) : Keeps F (ctx.isCancelled : Play Bool) := gives kernel

theorem newScope : Keeps F (Flow.ofKernel (·.newScope) : Play ScopeId) := ofKernel fun k => k.neutral_newScope.size

theorem childScope (s : ScopeId) : Keeps F (Flow.ofKernel (·.childScope s) : Play ScopeId) := ofKernel fun k => (k.neutral_childScope s).size

theorem decided (o : Outcome) (translates : Bool) : Keeps F (Promise.decided o translates : Play Promise) Knows :=
  bind (ofKernel fun k => (k.neutral_newFuture rfl).size) fun _ _ _ _ => pure fun _ _ => knows_of_none rfl

theorem awaitUnder (s : ScopeId) (f : FutureId) : Keeps F (Flow.awaitUnder s f : Play Data) := by
  refine .bind kernel fun _ _ _ _ => .bind (.result _) fun _ _ _ _ => .bind (ofKernel fun k => (k.neutral_shield f).size) fun _ waiter _ _ => ?_
  refine .bind (modifyKernel fun k => k.size_onCancel_le s waiter) fun _ _ _ _ => .bind (.attempt (.await waiter)) fun _ _ _ _ => ?_
  exact .bind kernel fun _ _ _ _ => .bind (modifyKernel fun k => (k.calm_offCancel s waiter).size) fun _ _ _ _ => .result _

theorem promise (ctx : Context) (p : Promise) (type : Option ResultType) : Keeps F (p.await ctx type : Play Data) :=
  .bind (awaitUnder ctx.scope p.source) fun _ _ _ _ => .result _

theorem spawnUnder (s : ScopeId) {body : Play Data} (h : Keeps F body) : Keeps F (Flow.spawnUnder s body) :=
  .bind (.spawn h) fun _ t _ _ => .gives (modifyKernel fun k => k.size_link_le s t)

theorem deliver (h : SignalHandler) (d : Data) : Keeps F (Play.deliver h d : Play Unit) := by
  cases h with
  | collect n list => exact modifyProgram n fun _ _ _ hp => ⟨hp.contexts, hp.promises⟩

end Keeps

/-! ## Primitives -/

theorem untouched_expect (s : Simulator) (kind : CallKind) (name : String) (args : List Data) : Untouched s (s.expect kind name args).1 := by
  rw [expect_eq]
  cases s.fate kind name args with
  | free | broken _ => exact .refl s
  | taken _ | refused => exact ⟨rfl, rfl, rfl, rfl⟩

/-- The registered functions are loyal to the families of their contexts. -/
structure Library.Loyal (lib : Library Simulator) : Prop where
  activity (F : List Identity) (c : Callable) (args : List Data) : Keeps F (callActivity lib c args)
  workflow {F : List Identity} {ctx : Context} (h : Belongs F ctx) (c : Callable) (args : List Data) : Keeps F (lib.workflow c ctx args)

section Primitives

variable {ctx : Context} {lib : Library Simulator}

theorem keeps_own (h : Belongs F ctx) : Keeps F (own ctx) fun F' i => i ∈ F' := by
  unfold own
  split
  · rename_i i hi
    exact .pure fun _ hF => hF.subset (h i hi)
  · exact .fail _

theorem keeps_nameOf (kind : RegistrationKind) (target : Target) : Keeps F (nameOf kind target) := by
  unfold nameOf
  split
  · exact .value _
  · split
    · exact .value _
    · refine .bind .engine fun _ _ _ _ => ?_
      split
      · exact .value _
      · exact .fail _

theorem keeps_perform (kind : CallKind) (name : String) (args : List Data) {registered : Registration → List Data → Play Data}
    (h : ∀ r args, Keeps F (registered r args)) : Keeps F (perform kind name args registered) := by
  rw [perform_eq]
  refine .bind (.result _) fun _ args hF _ => .bind (.ofEngine fun s => untouched_expect s kind name args) fun _ r hF' _ => ?_
  refine .bind (.result _) fun _ expected hF₃ _ => ?_
  split
  · exact .result _
  · refine .bind .engine fun _ e hF₄ _ => ?_
    dsimp only
    split
    · exact .fail _
    · exact .bind ((h _ _).mono (hF.trans (hF'.trans (hF₃.trans hF₄)))) fun _ _ _ _ => .result _

theorem keeps_runWorkflow (h : Library.Loyal lib) (hctx : Belongs F ctx) (name : String) (args : List Data) : Keeps F (runWorkflow lib ctx name args) :=
  keeps_perform .workflow name args fun r args => h.workflow hctx r.function args

theorem keeps_startActivity (h : Library.Loyal lib) (hctx : Belongs F ctx) (target : Target) (args : List Data) :
    Keeps F (startActivity lib ctx target args) Knows := by
  refine .bind (.discard (keeps_own hctx)) fun _ _ _ _ => .bind (keeps_nameOf .activity target) fun _ name _ _ => ?_
  refine .bind (.modifyEngine fun _ => ⟨rfl, rfl, rfl, rfl⟩) fun _ _ _ _ => ?_
  refine .bind (.spawnUnder _ (keeps_perform .activity name args fun r args => h.activity _ r.function args)) fun _ _ _ _ => ?_
  exact .pure fun _ _ => knows_of_none rfl

/-- Members of a family have a place in it. -/
theorem getElem?_idxOf_mono {i : Identity} (hi : i ∈ F) (hF : F <+: F') : F'[F'.idxOf i]? = some i := List.getElem?_idxOf (hF.subset hi)

/-- The next child of a run of the family is of the family. -/
theorem keeps_nextChild {parent : Identity} (hparent : parent ∈ F) (name : String) (options : ChildOptions) :
    Keeps F (Play.ofEngine (·.nextChild parent)) fun F' ids => childOf parent name options ids.1 ids.2 ∈ F' :=
  .actsOnEngine (fun F' s => .starts (s.nextBirth (F'.idxOf parent) parent name options))
    (fun _ _ hF => .starts (getElem?_idxOf_mono hparent hF) name options) fun _ _ _ => List.mem_append_right _ (List.mem_singleton_self _)

/-- How the call of a child goes on when it has its name. -/
def startNamed (lib : Library Simulator) (ctx : Context) (parent : Identity) (args : List Data) (name : String) : Play Promise := do
  let (id, runId) ← Play.ofEngine (·.nextChild parent)
  let scope ← Flow.ofKernel (·.childScope ctx.scope)
  let child : Context := { headers := ctx.headers, scope := scope, identity := some (childOf parent name ctx.childOptions id runId) }
  Play.modifyEngine fun e => { e with workflowCalls := e.workflowCalls ++ [⟨name, args, ctx⟩] }
  return { source := ← Flow.spawnUnder ctx.scope (runWorkflow lib child name args), child := some (.known (childOf parent name ctx.childOptions id runId).id runId) }

theorem startChild_eq_startNamed {parent : Identity} (hi : ctx.identity = some parent) (target : Target) (args : List Data) :
    startChild lib ctx target args = nameOf .workflow target >>= startNamed lib ctx parent args := by
  unfold startChild own
  rw [hi]
  rfl

theorem keeps_startNamed (h : Library.Loyal lib) {parent : Identity} (hparent : parent ∈ F) (args : List Data) (name : String) :
    Keeps F (startNamed lib ctx parent args name) Knows := by
  refine .bind (keeps_nextChild hparent name ctx.childOptions) fun F₁ ⟨id, runId⟩ _ hchild => ?_
  refine .bind (.childScope _) fun F₂ scope hF₂ _ => .bind (.modifyEngine fun _ => ⟨rfl, rfl, rfl, rfl⟩) fun F₃ _ hF₃ _ => ?_
  refine .bind (.spawnUnder _ (keeps_runWorkflow h (fun i hi => ?_) name args)) fun F₄ _ hF₄ _ => .pure fun F₅ hF₅ _ _ hp => ?_
  · exact Option.some.inj hi ▸ (hF₂.trans hF₃).subset hchild
  · cases hp
    exact ⟨_, (hF₂.trans (hF₃.trans (hF₄.trans hF₅))).subset hchild, rfl⟩

theorem keeps_startChild (h : Library.Loyal lib) (hctx : Belongs F ctx) (target : Target) (args : List Data) :
    Keeps F (startChild lib ctx target args) Knows := by
  cases hi : ctx.identity with
  | none =>
    unfold startChild own
    rw [hi]
    exact .bind (P := fun _ _ => False) (.fail _) fun _ _ _ h => h.elim
  | some parent =>
    rw [startChild_eq_startNamed hi]
    exact .bind (keeps_nameOf .workflow target) fun F' name hF _ => keeps_startNamed h (hF.subset (hctx parent hi)) args name

theorem keeps_childExecution (p : Promise) : Keeps F (childExecution p) Knows := by
  unfold childExecution
  split
  · exact .decided _ _
  · exact .fail _

/-- A signal for a run of the family. -/
theorem keeps_deliverSignal {i : Identity} (hi : i ∈ F) (name : String) (d : Data) : Keeps F (deliverSignal i.runId name d) := by
  refine .bind .engine fun F₁ e hF₁ _ => ?_
  split
  · exact .deliver _ d
  · exact .actsOnEngine (f := fun e => (e.keep i.runId name d, ())) (fun F' _ => .keeps (F'.idxOf i) name d)
      (fun _ _ hF => .keeps (getElem?_idxOf_mono (hF₁.subset hi) hF) name d) fun _ _ _ => trivial

theorem keeps_signalChild (ctx : Context) {p : Promise} (hp : Knows F p) (name : String) (d : Data) : Keeps F (signalChild ctx p name d) Knows := by
  unfold signalChild
  split
  · rename_i id runId hchild
    split
    · exact .decided _ _
    · obtain ⟨i, hi, rfl⟩ := hp id runId hchild
      exact .bind (keeps_deliverSignal hi name _) fun _ _ _ _ => .decided _ _
  · exact .fail _

theorem keeps_setQueryHandler (hctx : Belongs F ctx) (name : String) (h : QueryHandler) : Keeps F (setQueryHandler ctx name h) :=
  .bind (keeps_own hctx) fun _ i _ hi => .actsOnEngine (f := fun e => (e.setQuery i.runId name h, ())) (fun F' _ => .setsQuery (F'.idxOf i) name h)
    (fun _ _ hF => .setsQuery (getElem?_idxOf_mono hi hF) name h) fun _ _ _ => trivial

theorem keeps_handed (h : SignalHandler) (ds : List Data) : Keeps F (forIn ds PUnit.unit fun d _ => do
    Play.deliver h d
    pure (ForInStep.yield PUnit.unit) : Play PUnit) := by
  induction ds generalizing F with
  | nil => exact .value _
  | cons d ds ih =>
    rw [List.forIn_cons]
    refine .bind (.gives (.deliver h d)) fun _ r _ _ => ?_
    cases r with
    | done _ => exact .value _
    | yield _ => exact ih

theorem keeps_setSignalHandler (hctx : Belongs F ctx) (name : String) (h : SignalHandler) : Keeps F (setSignalHandler ctx name h) := by
  refine .bind (keeps_own hctx) fun _ i _ hi => .bind (P := fun _ _ => True) ?_ fun _ waiting _ _ =>
    .gives (keeps_handed h waiting)
  exact .actsOnEngine (f := fun e => (e.setHandler i.runId name h, e.waiting i.runId name)) (fun F' _ => .setsSignal (F'.idxOf i) name h)
    (fun _ _ hF => .setsSignal (getElem?_idxOf_mono hi hF) name h) fun _ _ _ => trivial

theorem keeps_sleep (duration : Data) : Keeps F (sleep ctx duration) :=
  .bind (.result _) fun _ _ _ _ => .bind (.check ctx) fun _ _ _ _ => .bind .engine fun _ _ _ _ => .bind (.result _) fun _ _ _ _ =>
    .bind .turn fun _ _ _ _ => .bind (.check ctx) fun _ _ _ _ => .modifyEngine fun _ => ⟨rfl, rfl, rfl, rfl⟩

theorem keeps_query (hctx : Belongs F ctx) (name : String) (args : List Data) : Keeps F (query ctx name args) := by
  refine .bind (keeps_own hctx) fun _ _ _ _ => .bind .world fun _ _ _ _ => ?_
  split
  · exact .fail _
  · split
    · exact .result _
    · exact .fail _

end Primitives

/-! ## Programs -/

section Programs

variable {ctx : Context} {lib : Library Simulator}

/-- What is found under a name is as what was named. -/
theorem keeps_named {P : List Identity → α → Prop} {entries : List (String × α)} (h : ∀ F', F <+: F' → ∀ e ∈ entries, P F' e.2) (name : String) :
    Keeps F (Program.named entries name) P := by
  unfold Program.named
  split
  · rename_i a ha
    exact .pure fun F' hF => h F' hF _ (Entries.mem_of_lookup ha)
  · exact .fail _

theorem mem_setName {entries : List (String × α)} {name : String} {a : α} {e : String × α} (h : e ∈ Program.setName entries name a) :
    e = (name, a) ∨ e ∈ entries := (List.mem_cons.mp h).imp_right fun h => (List.mem_filter.mp h).1

/-- A context that is derived is of the same run. -/
theorem keeps_deriveStep (hctx : Belongs F ctx) (n : Nat) (name : String) {c : Context} (hc : c.identity = ctx.identity) :
    Keeps F (Program.deriveStep n name c) := by
  refine .gives (.modifyProgram n fun F' p hF hp => ⟨fun e he => ?_, hp.promises⟩)
  rcases mem_setName he with rfl | he
  · exact (hctx.of_identity hc).mono hF
  · exact hp.contexts e he

theorem keeps_keepPromise (n : Nat) (name : String) {x : Promise} (hx : Knows F x) : Keeps F (Program.keepPromise n name x : Play Unit) :=
  .modifyProgram n fun F' p hF hp => ⟨hp.contexts, fun e he => by
    rcases mem_setName he with rfl | he
    · exact hx.mono hF
    · exact hp.promises e he⟩

theorem keeps_promiseStep (n : Nat) (name : String) {m : Play Promise} (hm : Keeps F m Knows) : Keeps F (Program.promiseStep n name m) :=
  .bind hm fun _ _ _ hx => .gives (keeps_keepPromise n name hx)

/-- A step about a promise of the program. -/
theorem keeps_withPromise (n : Nat) (name : String) {f : Promise → Play α} (hf : ∀ F' p, F <+: F' → Knows F' p → Keeps F' (f p)) :
    Keeps F (do f (← Program.named (← Play.program n).promises name)) :=
  .bind (.program n) fun _ _ hF₁ hp => .bind (keeps_named (fun _ hF e he => (hp.promises e he).mono hF) name) fun F₂ p hF₂ hknows =>
    hf F₂ p (hF₁.trans hF₂) hknows

theorem identity_changed {c c' : Context} {changes : List (Data × Data)} (h : Program.changed c changes = .ok c') : c'.identity = c.identity := by
  fun_induction Program.changed c changes with
  | case1 c => exact Except.ok.inj h ▸ rfl
  | case2 c v rest ih | case3 c v rest ih =>
    obtain ⟨es, -, h⟩ := Script.Store.bind_ok_iff.mp h
    exact ih es h
  | case4 => cases h

theorem keeps_settleBy (f : FutureId) (a : Settling) : Keeps F (Flow.tryKernel (·.settleBy f a) : Play Unit) :=
  .tryKernel fun _ _ h => (Kernel.neutral_settleBy h).size

/-- **A step of a program** is loyal to the family of its context. -/
theorem keeps_step (h : Library.Loyal lib) (hctx : Belongs F ctx) (n : Nat) (action : ProgramAction) :
    Keeps F (Program.perform (programHost (primitives lib)) n ctx action) := by
  cases action with
  | withValue name key value =>
    unfold Program.perform
    dsimp only
    split
    · exact keeps_deriveStep hctx n name (by rfl)
    · exact .fail _
  | withHeaders name headers =>
    unfold Program.perform
    dsimp only
    split
    · exact keeps_deriveStep hctx n name (by rfl)
    · exact .fail _
  | derive name changes =>
    refine .bind (P := fun _ c => c.identity = ctx.identity) (.ofExcept fun _ c _ hc => ?_) fun _ c hF hc => keeps_deriveStep (hctx.mono hF) n name hc
    obtain ⟨es, -, hc⟩ := Script.Store.bind_ok_iff.mp hc
    exact identity_changed hc
  | withCancel name =>
    refine .bind (P := fun _ c => c.identity = ctx.identity) (.bind (.childScope _) fun _ _ _ _ => .pure fun _ _ => rfl) fun _ c hF hc => ?_
    exact keeps_deriveStep (hctx.mono hF) n name hc
  | disconnect name =>
    refine .bind (P := fun _ c => c.identity = ctx.identity) (.bind .newScope fun _ _ _ _ => .pure fun _ _ => rfl) fun _ c hF hc => ?_
    exact keeps_deriveStep (hctx.mono hF) n name hc
  | withTaskList name x => exact keeps_deriveStep hctx n name (by rfl)
  | withWorkflowDomain name x => exact keeps_deriveStep hctx n name (by rfl)
  | withWorkflowTaskList name x => exact keeps_deriveStep hctx n name (by rfl)
  | withActivityOptions name options => exact .bind (.result _) fun _ _ hF _ => keeps_deriveStep (hctx.mono hF) n name (by rfl)
  | withChildOptions name options => exact .bind (.result _) fun _ _ hF _ => keeps_deriveStep (hctx.mono hF) n name (by rfl)
  | showContext brief => exact .gives (.isCancelled ctx)
  | value key default =>
    unfold Program.perform
    dsimp only
    split
    · exact .value _
    · exact .fail _
  | cancel => exact .gives (.modifyKernel fun k => (k.neutral_cancelScope ctx.scope).size)
  | activity name target args => exact keeps_promiseStep n name (keeps_startActivity h hctx target args)
  | child name target args => exact keeps_promiseStep n name (keeps_startChild h hctx target args)
  | execution future name => exact keeps_withPromise n future fun _ p _ _ => keeps_promiseStep n name (keeps_childExecution p)
  | signal future name signal d => exact keeps_withPromise n future fun _ _ _ hp => keeps_promiseStep n name (keeps_signalChild ctx hp signal d)
  | signalExternal id runId signal d => exact .gives (P := fun _ _ => True) (.fail _)
  | future name =>
    refine .bind (.ofKernel fun k => (k.neutral_newFuture rfl).size) fun _ f _ _ => .bind (keeps_keepPromise n name (knows_of_none rfl)) fun _ _ _ _ => ?_
    exact .gives (.modifyProgram n fun _ _ _ hp => ⟨hp.contexts, hp.promises⟩)
  | settle future s =>
    exact .bind (.program n) fun _ _ _ _ => .bind (keeps_named (P := fun _ _ => True) (fun _ _ _ _ => trivial) _) fun _ f _ _ =>
      .gives (keeps_settleBy f _)
  | chain future source =>
    exact .bind (.program n) fun _ _ _ _ => .bind (keeps_named (P := fun _ _ => True) (fun _ _ _ _ => trivial) _) fun _ f _ _ =>
      .gives (keeps_settleBy f _)
  | get future type => exact keeps_withPromise n future fun _ p _ _ => .promise ctx p type
  | ready future => exact keeps_withPromise n future fun _ _ _ _ => .gives .kernel
  | pause turns => exact .gives (.turns _)
  | sideEffect r => exact .result _
  | now => exact .gives .engine
  | sleep duration => exact .gives (keeps_sleep duration)
  | later seconds =>
    refine .bind (P := fun _ _ => True) (.gives .engine) fun _ d _ _ => ?_
    split
    · exact .result _
    · exact .value _
  | setQuery name value => exact .gives (keeps_setQueryHandler hctx name _)
  | query name args => exact keeps_query hctx name args
  | setSignal name list => exact .gives (keeps_setSignalHandler hctx name _)
  | received list => exact .gives (.program n)
  | info => exact .gives (keeps_own hctx)
  | customError reason details => exact .value _
  | calls => exact .gives .engine
  | raise e => exact .fail e
  | unknown name => exact .fail _
  | go name steps => exact .value _
  | «return» value => exact .value _

/-- What holds of the runs of paths that steps start holds of the steps. -/
theorem keeps_performSteps (h : Library.Loyal lib) {go : Program.PathRun Simulator → List Data → Play (Option Data)}
    (hgo : ∀ F r, r.host = programHost (primitives lib) → Belongs F r.context → ∀ steps, Keeps F (go r steps)) {r : Program.PathRun Simulator}
    (hhost : r.host = programHost (primitives lib)) (hctx : Belongs F r.context) (last : Data) (steps : List Data) :
    Keeps F (Program.performSteps go r last steps) := by
  induction steps generalizing F last with
  | nil => exact .value _
  | cons d rest ih =>
    have hstarts {F : List Identity} {ctx : Context} (hctx : Belongs F ctx) (name : String) (steps : List Data) : Keeps F (do
          let path ← Play.newPath
          Play.modifyProgram r.program fun p => { p with paths := Program.setName p.paths name path }
          let t ← Flow.spawnUnder ctx.scope do return (← go { r with context := ctx, path := path } steps).getD .null
          Program.keepPromise r.program name { source := t }
          return Data.null) := by
      refine .bind .newPath fun _ path hF _ => .bind (.modifyProgram _ fun _ _ _ hp => ⟨hp.contexts, hp.promises⟩) fun _ _ hF' _ => ?_
      have hspawned := hgo _ { r with context := ctx, path := path } hhost ((hctx.mono hF).mono hF')
      refine .bind (.spawnUnder _ (.gives (hspawned _))) fun _ t _ _ => ?_
      exact .gives (keeps_keepPromise _ _ (knows_of_none rfl))
    unfold Program.performSteps
    dsimp only
    split
    · exact .gives (.addAnswer _ _)
    · refine .bind (.attempt (P := fun _ _ => True) ?_) fun _ r' hF _ => ?_
      · split
        · split
          · exact hstarts hctx _ _
          · exact hhost ▸ keeps_step h hctx _ _
        · refine .bind (.program _) fun _ p _ hp => .bind (keeps_named (fun _ hF e he => (hp.contexts e he).mono hF) _) fun _ ctx _ hctx' => ?_
          split
          · exact hstarts hctx' _ _
          · exact hhost ▸ keeps_step h hctx' _ _
      · split
        · exact .bind (.addAnswer _ _) fun _ _ hF' _ => ih ((hctx.mono hF).mono hF') _
        · refine .bind (.addAnswer _ _) fun _ _ hF' _ => ?_
          split
          · exact .fail _
          · exact ih ((hctx.mono hF).mono hF') _

theorem keeps_runPath (h : Library.Loyal lib) (depth : Nat) {r : Program.PathRun Simulator} (hhost : r.host = programHost (primitives lib))
    (hctx : Belongs F r.context) (steps : List Data) : Keeps F (Program.runPath depth r steps) := by
  induction depth generalizing F r steps with
  | zero => exact .fail _
  | succ depth ih => exact keeps_performSteps h (fun _ _ hhost hctx steps => ih hhost hctx steps) hhost hctx _ _

/-- **A program is loyal to the family of its context.** -/
theorem keeps_run (h : Library.Loyal lib) (hctx : Belongs F ctx) (steps : List Data) : Keeps F (Program.run (programHost (primitives lib)) ctx steps) := by
  refine .bind (P := Belongs) (.bind .newScope fun _ _ _ _ => .pure fun _ _ _ hi => nomatch hi) fun F₁ plain hF₁ hplain => ?_
  refine .bind (P := fun _ _ => True) (.ofWorld (fun _ => .refl _) fun F₂ w hF₂ hw => hw.push ⟨fun e he => ?_, fun _ he => (List.not_mem_nil he).elim⟩)
    fun F₂ n hF₂ _ => ?_
  · simp only [List.mem_cons, List.not_mem_nil, or_false] at he
    rcases he with rfl | rfl
    · exact hctx.mono (hF₁.trans hF₂)
    · exact hplain.mono hF₂
  · refine .bind .newPath fun F₃ path hF₃ _ => ?_
    refine .bind (keeps_runPath h Program.maxDepth rfl (hctx.mono (hF₁.trans (hF₂.trans hF₃))) steps) fun _ r _ _ => ?_
    split
    · exact .value _
    · exact .gives .world

end Programs

/-! ## Scripts -/

/-- A plugin whose modules are loyal to the family of the context that a script runs under. -/
def IsDutiful (p : Plugin Simulator) : Prop := ∀ lib, Library.Loyal lib → ∀ (F : List Identity) (thread : Thread) (info : RunInfo),
  Belongs F thread.context → (p.create (primitives lib) info).Within (Loyal F) thread

section Scripts

variable {ctx : Context} {lib : Library Simulator} {plugins : PluginSet Simulator}

theorem keeps_log (lib : Library Simulator) (hctx : Belongs F ctx) (level : LogLevel) (text : String) : Keeps F ((primitives lib).log ctx level text) :=
  .bind (.discard (keeps_own hctx)) fun _ _ _ _ => .log level text

theorem keeps_service (h : Library.Loyal lib) (hp : ∀ p ∈ plugins.plugins, IsDutiful p) (hctx : Belongs F ctx) (request : Data) :
    Keeps F (ScriptService.run plugins (primitives lib) ctx request) := by
  rw [ScriptService.run_eq_inRun]
  refine .bind (.result _) fun F₁ r hF₁ _ => .bind (keeps_own (hctx.mono hF₁)) fun F₂ identity hF₂ _ => .bind (.result _) fun F₃ environ hF₃ _ => ?_
  refine .bind (.ofWorld (fun _ => .refl _) fun _ _ _ hw => hw) fun F₄ number hF₄ _ => .of_within (P := fun _ => True) fun F₅ hF₅ => ?_
  have hctx' : Belongs F₅ ctx := hctx.mono (hF₁.trans (hF₂.trans (hF₃.trans (hF₄.trans hF₅))))
  exact ScriptService.within_inRun (fun level text => (Keeps.log level text).within) (fun level text => (keeps_log lib hctx' level text).within)
    fun p hmem i => hp p hmem lib h F₅ _ _ hctx'

theorem keeps_runFunction (h : Library.Loyal lib) (hp : ∀ p ∈ plugins.plugins, IsDutiful p) (hctx : Belongs F ctx) (c : Callable) (args : List Data) :
    Keeps F (ScriptService.runFunction plugins (programHost (primitives lib)) c ctx args) := by
  unfold ScriptService.runFunction
  split
  · split
    · exact keeps_service h hp hctx _
    · exact .fail _
  · split
    · split
      · split
        · exact keeps_run h hctx _
        · exact .fail _
      · exact .fail _
    · exact .of_within (P := fun _ => True) fun _ _ => Sample.within_workflow (fun ctx => (Keeps.isCancelled ctx).within) _ _ _

/-- **All that a simulated worker runs is loyal to the family of its context.** -/
theorem keeps_library (hp : ∀ p ∈ plugins.plugins, IsDutiful p) (depth : Nat) : Library.Loyal (library plugins depth) := by
  have hactivity (F : List Identity) (c : Callable) (args : List Data) : Keeps F (Sample.body c.key args >>= fun r => r.settle : Play Data) :=
    .of_within (P := fun _ => True) fun _ _ => .bind (Sample.within_body Keeps.turn.within _ _) fun _ hr => hr
  induction depth with
  | zero => exact ⟨hactivity, fun _ _ _ => .fail _⟩
  | succ depth ih => exact ⟨hactivity, fun hctx c args => keeps_runFunction ih hp hctx c args⟩

/-! ### Plugins -/

/-- The primitives, but that no signals are sent. -/
def mute (lib : Library Simulator) : Primitives Simulator := { primitives lib with signalChild := fun _ _ _ _ => Flow.fail default }

theorem within_mute (h : Library.Loyal lib) (hctx : Belongs F ctx) : (mute lib).Within (Loyal F) ctx.identity := by
  have hself {c : Context} (hc : c.identity = ctx.identity) : Belongs F c := hctx.of_identity hc
  refine ⟨fun hc level text => (keeps_log lib (hself hc) level text).within, fun hc => (keeps_own (hself hc)).within,
    fun hc target args => (keeps_startActivity h (hself hc) target args).within, fun hc target args => (keeps_startChild h (hself hc) target args).within,
    fun {c} _ p type => (Keeps.promise c p type).within, fun p => (keeps_childExecution p).within, fun _ _ _ _ => .fail _,
    fun hc name x => (keeps_setSignalHandler (hself hc) name x).within, fun _ _ => .result _, fun _ => ?_, fun _ duration => (keeps_sleep duration).within⟩
  exact (Keeps.gives .engine).within

theorem keeps_stored (run : Nat) (key : Data) : Keeps F (Progress.stored run key : Play Data) :=
  .gives (.gives .world)

theorem isDutiful_progress : IsDutiful Progress.plugin := fun lib _ F thread info hctx => by
  refine ⟨fun b hb => ?_, fun p hp => ?_⟩
  · obtain rfl := List.mem_singleton.mp hb
    refine Builtin.within_fixed fun args => .bind (Keeps.modifyRun _ _).within fun _ _ => .bind (keeps_stored _ _).within fun known _ => ?_
    split
    · exact .pure trivial
    · exact .bind (keeps_setQueryHandler hctx _ _).within fun _ _ => .bind (Keeps.modifyRun _ _).within fun _ _ => .pure trivial
  · obtain rfl := List.mem_singleton.mp hp
    exact (keeps_stored _ _).within

/-- **The bundled plugins are dutiful.** None of them sends signals. -/
theorem isDutiful_bundled {p : Plugin Simulator} (hp : p ∈ (Catalogue.bundled : List (Plugin Simulator))) : IsDutiful p := by
  simp only [Catalogue.bundled, List.mem_cons, List.not_mem_nil, or_false] at hp
  rcases hp with rfl | rfl | rfl | rfl
  · exact fun _ h _ _ info hctx => Cad.within_module (within_mute h hctx) info
  · exact fun _ _ _ thread info _ => Hashes.within_module _ info thread
  · exact fun _ _ _ thread info _ => JsonText.within_module _ info thread
  · exact isDutiful_progress

end Scripts

/-! ## Loops -/

/-- All tasks of a loop act for a family. -/
structure Kin (F : List Identity) (l : Loop (World Simulator)) : Prop where
  tasked : l.Tasked (fun _ p => Loyal F p) fun _ p => Loyal F p
  houses : Houses F l.state.world

section Loops

variable {root : Identity} {s s₀ : Simulator} {deeds : List Deed} {l l' : Loop (World Simulator)}

theorem lasting_loyal (n : Nat) : Lasting n (fun _ p => Loyal F p) fun _ p => Loyal F p where
  goesOn h := h
  starts h _ _ := by
    cases h with
    | spawn started _ => exact ⟨started, fun e => .finish F _⟩
  spawn h x := by
    cases h with
    | spawn _ goesOn => exact goesOn x
  await h r := by
    cases h with
    | await goesOn => exact goesOn r
  turn h r := by
    cases h with
    | turn goesOn => exact goesOn r

/-- **A step is a deed of the family**, or no deed at all. -/
theorem Saga.step (h : Saga root s₀ deeds l.state.world.engine) (hl : Kin (family root deeds) l) (hs : l.step = some l') :
    ∃ deeds', Saga root s₀ (deeds ++ deeds') l'.state.world.engine ∧ Kin (family root (deeds ++ deeds')) l' := by
  by_cases haccess : ∃ t f, l.focus = some (t, .access f)
  · obtain ⟨t, f, hf⟩ := haccess
    rw [step_of_access hf, Option.some.injEq] at hs
    subst hs
    obtain ⟨-, -, hloyal⟩ := hl.tasked.running hf
    cases hloyal with
    | access deed here next =>
      have hacts := here _ l.state List.prefix_rfl hl.houses
      refine ⟨[deed (family root deeds) l.state], h.goesOn hacts.performs, ?_⟩
      rw [family_append]
      exact ⟨hl.tasked.accessed hf hacts.futures (next _ l.state List.prefix_rfl hl.houses) fun _ _ _ hp => hp.mono (prefix_extend ..), hacts.houses⟩
  · have hquiet := hl.tasked.step (lasting_loyal _) (fun t f hf => haccess ⟨t, f, hf⟩) hs
    refine ⟨[], ?_⟩
    rw [List.append_nil, hquiet.world]
    exact ⟨h, hquiet.tasked, hquiet.world ▸ hl.houses⟩

/-- **Loops go on with the saga.** -/
theorem Saga.steps (h : Saga root s₀ deeds l.state.world.engine) (hl : Kin (family root deeds) l) (hs : Steps l l') :
    ∃ deeds', Saga root s₀ (deeds ++ deeds') l'.state.world.engine ∧ Kin (family root (deeds ++ deeds')) l' := by
  induction hs with
  | refl =>
    refine ⟨[], ?_⟩
    rw [List.append_nil]
    exact ⟨h, hl⟩
  | tail _ hs ih =>
    obtain ⟨deeds₁, h₁, hl₁⟩ := ih
    obtain ⟨deeds₂, h₂, hl₂⟩ := h₁.step hl₁ hs
    exact ⟨deeds₁ ++ deeds₂, by rwa [← List.append_assoc], by rwa [← List.append_assoc]⟩

theorem kin_ofProgram {body : Play Data} (h : Keeps F body) {w : World Simulator} (hw : Houses F w) : Kin F (ofProgram w body) :=
  ⟨(Tasked.empty { world := w }).start false (fun _ => h F List.prefix_rfl .finish fun F' r _ _ => .finish F' r) fun _ => .finish F _, hw⟩

/-- **What becomes of the world when a program runs goes on with the saga.** -/
theorem Saga.runMain {w : World Simulator} (h : Saga root s₀ deeds w.engine) (hw : Houses (family root deeds) w) {body : Play Data}
    (hbody : Keeps (family root deeds) body) :
    ∃ deeds', Saga root s₀ (deeds ++ deeds') (Loop.runMain w body).2.engine ∧ Houses (family root (deeds ++ deeds')) (Loop.runMain w body).2 := by
  obtain ⟨l, hs, hworld⟩ := steps_runMain w body
  obtain ⟨deeds', hsaga, hkin⟩ := Saga.steps (l := ofProgram w body) h (kin_ofProgram hbody hw) hs
  exact ⟨deeds', hworld ▸ hsaga, hworld ▸ hkin.houses⟩

/-- **Executions of a harness go on with the saga** of its script workflow. -/
theorem Saga.execute {x : Harness} (hp : ∀ p ∈ x.plugins.plugins, IsDutiful p) (h : Saga x.identity s₀ deeds x.engine)
    (hw : Houses (family x.identity deeds) x.world) (request : ScriptRequest) (headers : List (Data × Data)) :
    ∃ deeds', Saga x.identity s₀ (deeds ++ deeds') (x.execute request headers).1.engine ∧
      Houses (family x.identity (deeds ++ deeds')) (x.execute request headers).1.world := by
  cases hs : Sources.load x.files x.root with
  | error e =>
    rw [Harness.execute, hs]
    refine ⟨[], ?_⟩
    rw [List.append_nil]
    exact ⟨h, hw⟩
  | ok sources =>
    have hbody : Keeps (family x.identity deeds)
        (x.runScript { request with sources := .object (sources.map fun s => (s.1, .str s.2)) } headers) := by
      refine .bind .newScope fun F scope hF _ => keeps_runWorkflow (keeps_library hp _) (fun i hi => ?_) _ _
      exact Option.some.inj hi ▸ hF.subset (List.mem_cons_self ..)
    obtain ⟨deeds', hrun⟩ := h.runMain (w := { x.world with log := [] }) hw hbody
    refine ⟨deeds', ?_⟩
    rw [Harness.engine, Harness.world_execute hs]
    -- Otherwise the unifier would run the loop.
    generalize Loop.runMain _ _ = ended at hrun ⊢
    exact hrun

end Loops

/-! ## Calls -/

section Calls

variable {l : Loop (World Simulator)} {t : FutureId} {ctx : Context} {lib : Library Simulator} {parent : Identity} {target : Target} {args : List Data}
  {cont : Except Fault Promise → Proc (World Simulator)}

/-- The name that a call of a child goes by. -/
def childName (s : Simulator) (target : Target) : Except Fault String :=
  match target with
  | .name n => .ok n
  | .function c =>
    match c.text? with
    | some n => .ok n
    | none => s.registry.nameIn .workflow c

/-- A call gets its name first, and may look for it. -/
theorem proceeds_named {α : Type} {next : String → Play α} {cont : Except Fault α → Proc (World Simulator)}
    (hf : l.focus = some (t, (nameOf .workflow target >>= next) cont)) : ∃ n l', Proceeds l n l' ∧ l'.state = l.state ∧
      l'.focus = some (t, (Flow.ofExcept (l.state.world.engine.childName target) >>= next) cont) := by
  cases target with
  | name n => exact ⟨0, l, .refl l, rfl, hf⟩
  | function c =>
    cases hc : c.text? with
    | some n =>
      rw [nameOf, hc] at hf
      refine ⟨0, l, .refl l, rfl, hf.trans ?_⟩
      rw [childName, hc]
      rfl
    | none =>
      rw [nameOf_function hc] at hf
      refine ⟨1, _, .access hf (.refl _), rfl, ?_⟩
      rw [childName, hc]
      rfl

/-- A call that has its name starts the child with the next ids. -/
theorem proceeds_startNamed {name : String} (hf : l.focus = some (t, startNamed lib ctx parent args name cont)) (i : Nat) :
    ∃ n l' source, Proceeds l n l' ∧ l'.state.world = l.state.world.onEngine (fun e =>
        { (e.nextChild parent).1 with workflowCalls := e.workflowCalls ++ [⟨name, args, ctx⟩] }) ∧
      l'.focus = some (t, cont (.ok
        { source := source
          child := some (.known (l.state.world.engine.nextBirth i parent name ctx.childOptions).child.id
            (l.state.world.engine.nextBirth i parent name ctx.childOptions).child.runId) })) :=
  ⟨_, _, _, .access hf (.access rfl (.access rfl (.step rfl (.access rfl (.refl _))))), rfl, rfl⟩

theorem proceeds_setQueryHandler {m : Identity} (hi : ctx.identity = some m) {name : String} {h : QueryHandler}
    {cont : Except Fault Unit → Proc (World Simulator)} (hf : l.focus = some (t, setQueryHandler ctx name h cont)) :
    ∃ n l', Proceeds l n l' ∧ l'.state.world.engine = l.state.world.engine.setQuery m.runId name h ∧ l'.focus = some (t, cont (.ok ())) := by
  unfold setQueryHandler own at hf
  rw [hi] at hf
  exact ⟨_, _, .access hf (.refl _), rfl, rfl⟩

/-- Handing signals over leaves the engine alone. -/
theorem engine_of_hands {hand hand' : List Duty} {w w' : World Simulator} {acts : List Act} (h : History hand w acts hand' w')
    (hacts : ∀ a ∈ acts, ∃ run name h d, a = .hands run name h d) : w'.engine = w.engine := by
  induction h with
  | refl => rfl
  | tail _ ha ih =>
    rw [← ih fun a ha' => hacts a (List.mem_append_left _ ha')]
    obtain ⟨run, name, h, d, rfl⟩ := hacts _ (List.mem_append_right _ (List.mem_singleton_self _))
    cases ha
    rfl

theorem proceeds_setSignalHandler_engine {m : Identity} (hi : ctx.identity = some m) {name : String} {h : SignalHandler}
    {cont : Except Fault Unit → Proc (World Simulator)} (hf : l.focus = some (t, setSignalHandler ctx name h cont)) :
    ∃ n l', Proceeds l n l' ∧ l'.state.world.engine = l.state.world.engine.setHandler m.runId name h ∧ l'.focus = some (t, cont (.ok ())) := by
  rw [setSignalHandler_eq hi] at hf
  obtain ⟨l', hp, hfocus, hhistory⟩ := proceeds_handed m.runId name h (l.state.world.engine.waiting m.runId name) (cont (.ok ()))
    (l := l.accessed t fun st => ({ st with world := st.world.onEngine (·.setHandler m.runId name h) }, _)) rfl
  refine ⟨_, l', .access hf hp, engine_of_hands hhistory fun a ha => ?_, hfocus⟩
  obtain ⟨d, -, rfl⟩ := List.mem_map.mp ha
  exact ⟨_, _, _, _, rfl⟩

/-- What it is to send a signal to a run. -/
def signalDeed (s : Simulator) (i : Nat) (m : Identity) (name : String) (d : Data) : Deed :=
  match s.signalHandlers.get? m.runId name with
  | some _ => .other
  | none => .keeps i name d

theorem performs_signal {F : List Identity} {i : Nat} {m : Identity} (hi : F[i]? = some m) (w : World Simulator) (name : String) (d : Data) :
    Performs F w.engine (w.engine.signalDeed i m name d) ((w.engine.dutyOf m.runId name d).after w).engine := by
  rw [signalDeed, dutyOf]
  cases w.engine.signalHandlers.get? m.runId name with
  | some h => exact .other (.refl _)
  | none => exact .keeps hi name d

end Calls

/-- **The runs of a family stand apart.** Whatever the ids of the root and the overrides of children look like, the runs of a family, which is a root with all that
descends from it, have different run ids, and the ids that are generated for children are different: each is that of the parent, which was there before, with a
number behind it that no other child of the engine has. What is kept under the run id of a member, its handlers and the signals that wait, comes of what the member
itself did and of the signals that were sent to it; what has changed is of a single run. The call of a child under a context of a member, if its name is known, hands
out the ids of the next child, and calls that set handlers or send signals do so for the member alone. Loops whose tasks act for the family go on in this way, and so
do the executions of a harness. -/
theorem runs_of_a_family_stand_apart {root : Identity} {s₀ s : Simulator} {deeds : List Deed} (h : Saga root s₀ deeds s) :
    -- ids
    ((family root deeds).map (·.runId)).Nodup ∧ ((births deeds).map (·.generatedId)).Nodup ∧
    (∀ (k : Nat) b, (births deeds)[k]? = some b → b.parent ≤ k ∧ ∃ parent, (family root deeds)[b.parent]? = some parent ∧
      b.generatedId = parent.id ++ childSuffix (s₀.children + k + 1) ∧ b.child.runId = parent.runId ++ childSuffix (s₀.children + k + 1)) ∧
    -- what is kept under them
    (∀ (i : Nat) (m : Identity) name, (family root deeds)[i]? = some m → s.keptUnder m.runId name = keptBy i name deeds (s₀.keptUnder m.runId name)) ∧
    (∀ runId name, s.keptUnder runId name ≠ s₀.keptUnder runId name → ∃! i : Nat, ∃ m, (family root deeds)[i]? = some m ∧ m.runId = runId) ∧
    -- calls under a context of a member
    (∀ (l : Loop (World Simulator)) t ctx (i : Nat) (m : Identity), l.state.world.engine = s → (family root deeds)[i]? = some m → ctx.identity = some m →
      (∀ lib target args cont, l.focus = some (t, startChild lib ctx target args cont) →
        (∀ e, s.childName target = .error e → ∃ n l', Proceeds l n l' ∧ l'.state = l.state ∧ l'.focus = some (t, cont (.error e))) ∧
        ∀ name, s.childName target = .ok name → ∃ n l' source child, Proceeds l n l' ∧ child = (s.nextBirth i m name ctx.childOptions).child ∧
          l'.focus = some (t, cont (.ok { source := source, child := some (.known child.id child.runId) })) ∧
          Saga root s₀ (deeds ++ [.starts (s.nextBirth i m name ctx.childOptions)] ++ [.other]) l'.state.world.engine) ∧
      (∀ name x cont, l.focus = some (t, setQueryHandler ctx name x cont) → ∃ n l', Proceeds l n l' ∧ l'.focus = some (t, cont (.ok ())) ∧
        Saga root s₀ (deeds ++ [.setsQuery i name x]) l'.state.world.engine) ∧
      ∀ name x cont, l.focus = some (t, setSignalHandler ctx name x cont) → ∃ n l', Proceeds l n l' ∧ l'.focus = some (t, cont (.ok ())) ∧
        Saga root s₀ (deeds ++ [.setsSignal i name x]) l'.state.world.engine) ∧
    -- signals to a member
    (∀ (l : Loop (World Simulator)) t ctx p id (i : Nat) (m : Identity) name d payload cont, l.state.world.engine = s → (family root deeds)[i]? = some m →
      p.child = some (.known id m.runId) → d.toPayload = .ok payload → l.focus = some (t, signalChild ctx p name d cont) →
      ∃ n l' source, Proceeds l n l' ∧ l'.focus = some (t, cont (.ok { source := source })) ∧
        Saga root s₀ (deeds ++ [s.signalDeed i m name payload]) l'.state.world.engine) ∧
    -- loops and harnesses
    (∀ l l' : Loop (World Simulator), l.state.world.engine = s → Kin (family root deeds) l → Steps l l' →
      ∃ deeds', Saga root s₀ (deeds ++ deeds') l'.state.world.engine ∧ Kin (family root (deeds ++ deeds')) l') ∧
    (∀ x : Harness, x.identity = root → x.engine = s → (∀ p ∈ x.plugins.plugins, IsDutiful p) → Houses (family root deeds) x.world →
      ∀ request headers, ∃ deeds', Saga root s₀ (deeds ++ deeds') (x.execute request headers).1.engine ∧
        Houses (family root (deeds ++ deeds')) (x.execute request headers).1.world) := by
  have hisOf {i : Nat} {m : Identity} (hi : (family root deeds)[i]? = some m) : IsOf (family root deeds) m.runId i := fun _ _ hj => h.runId_eq_iff hi hj
  refine ⟨h.nodup_runIds, h.nodup_generatedIds, fun k b hb => h.births hb, fun i m name hi => h.kept_eq (hisOf hi) name, fun runId name hne => ?_,
    fun l t ctx i m hs hi hctx => ⟨fun lib target args cont hf => ?_, fun name x cont hf => ?_, fun name x cont hf => ?_⟩,
    fun l t ctx p id i m name d payload cont hs hi hchild hd hf => ?_, fun l l' hs hl hsteps => ?_, fun x hroot hs hp hw request headers => ?_⟩
  · by_cases hmember : ∃ m ∈ family root deeds, m.runId = runId
    · obtain ⟨m, hm, rfl⟩ := hmember
      obtain ⟨i, hi⟩ := List.mem_iff_getElem?.mp hm
      exact ⟨i, ⟨m, hi, rfl⟩, fun j ⟨m', hj, hrunId⟩ => (h.runId_eq_iff hi hj).mp hrunId⟩
    · exact absurd (h.kept_of_stranger (fun m hm hrunId => hmember ⟨m, hm, hrunId⟩) name) hne
  · subst hs
    rw [startChild_eq_startNamed hctx] at hf
    obtain ⟨n, l₁, hp, hstate, hfocus⟩ := proceeds_named hf
    refine ⟨fun e he => ⟨n, l₁, hp, hstate, ?_⟩, fun name hname => ?_⟩
    · rw [hfocus, he]
      rfl
    · rw [hname] at hfocus
      obtain ⟨n', l₂, source, hp', hworld, hfocus'⟩ := proceeds_startNamed hfocus i
      rw [hstate] at hworld hfocus'
      refine ⟨_, l₂, source, _, hp.trans hp', rfl, hfocus', ?_⟩
      rw [hworld]
      exact (h.goesOn (.starts hi name ctx.childOptions)).goesOn (.other ⟨rfl, rfl, rfl, rfl⟩)
  · subst hs
    obtain ⟨n, l', hp, hengine, hfocus⟩ := proceeds_setQueryHandler hctx hf
    exact ⟨n, l', hp, hfocus, hengine ▸ h.goesOn (.setsQuery hi name x)⟩
  · subst hs
    obtain ⟨n, l', hp, hengine, hfocus⟩ := proceeds_setSignalHandler_engine hctx hf
    exact ⟨n, l', hp, hfocus, hengine ▸ h.goesOn (.setsSignal hi name x)⟩
  · subst hs
    obtain ⟨l', source, hp, hworld, hfocus, -⟩ := proceeds_signalled hchild hd hf
    exact ⟨3, l', source, hp, hfocus, hworld ▸ h.goesOn (performs_signal hi _ name payload)⟩
  · subst hs
    exact h.steps hl hsteps
  · subst hroot hs
    exact h.execute hp hw request headers

/-! ## Ids that look alike -/

/-- A root whose ids look like those of children. -/
def lookalike : Identity := { id := "w-child-2", runId := "r-child-1" }

/-- The first child gets the id that is generated for the third one. -/
def lookalikes : List Deed :=
  [.starts ⟨0, "w-child-2-child-1", { id := "w-child-2-child-3", runId := "r-child-1-child-1", workflowType := "resize" }⟩,
   .setsQuery 1 "progress" (.fixed .null),
   .starts ⟨1, "w-child-2-child-3-child-2", { id := "w-child-2-child-3-child-2", runId := "r-child-1-child-1-child-2", workflowType := "resize" }⟩,
   .starts ⟨0, "w-child-2-child-3", { id := "w-child-2-child-3", runId := "r-child-1-child-3", workflowType := "resize" }⟩,
   .keeps 3 "news" (.int 1)]

theorem saga_lookalikes : ∃ s, Saga lookalike {} lookalikes s := by
  have hfirst := (@Saga.begins lookalike {}).goesOn
    (.starts (i := 0) rfl "resize" { workflowId := some "w-child-2-child-3" })
  have hquery := hfirst.goesOn (.setsQuery (i := 1) rfl "progress" (.fixed .null))
  have hgrandchild := hquery.goesOn (.starts (i := 1) rfl "resize" {})
  have hthird := hgrandchild.goesOn (.starts (i := 0) rfl "resize" {})
  exact ⟨_, hthird.goesOn (.keeps (i := 3) rfl "news" (.int 1))⟩

/-- They are told apart by their run ids, and so is what is kept for them. -/
theorem runs_of_a_family_stand_apart_of_lookalikes : ∃ s, Saga lookalike {} lookalikes s ∧
    ["r-child-1", "r-child-1-child-1", "r-child-1-child-1-child-2", "r-child-1-child-3"].Nodup ∧
    (s.keptUnder "r-child-1-child-1" "progress").query = some (.fixed .null) ∧ (s.keptUnder "r-child-1-child-3" "progress").query = none ∧
    (s.keptUnder "r-child-1-child-3" "news").pending = [.int 1] ∧ (s.keptUnder "r-child-1" "news").pending = [] := by
  obtain ⟨s, h⟩ := saga_lookalikes
  obtain ⟨hrunIds, -, -, hkept, -⟩ := runs_of_a_family_stand_apart h
  exact ⟨s, h, hrunIds, congrArg Kept.query (hkept 1 _ "progress" rfl), congrArg Kept.query (hkept 3 _ "progress" rfl),
    congrArg Kept.pending (hkept 3 _ "news" rfl), congrArg Kept.pending (hkept 0 _ "news" rfl)⟩

end Simulator

end ScriptFlow
