import Mathlib
import ScriptFlow.Durable.Activation
import ScriptFlow.Proofs.Durable.Reporting
import ScriptFlow.Proofs.Durable.Waits
import ScriptFlow.Proofs.Durable.Wire

/-!
# Errors across workflow boundaries

An error that ends the function of a child workflow becomes the last command of the child, the engine delivers the command to the parent as the outcome of a call, and
the parent reads that outcome as an error of its own. The engine keeps the type and the details of a failure, and of a cancellation the fact.

* `Entry.Ends`, `Activation.Decides`, `Execution.Passes`, `Execution.Reads` — what the programs on both sides do with an error.
* `Fault.Crosses` — an error and what comes of it at the parent; `Fault.Reaches` — at an ancestor, any number of boundaries above.
* `Fault.Crosses.inPrograms` — what crosses a boundary is what the programs make of it.
* `Fault.errors_across_boundaries` — **an error with a reason and details arrives at every ancestor as it was**, any other error of the library as the
  name of its kind, and a cancellation that was asked for as a cancellation.
-/

namespace ScriptFlow

open Kernel Loop

/-! ## The child -/

namespace Entry

/-- The end of an execution whose function has failed. -/
def failing (e : Fault) : Execution.Play Data := do
  match ending (← Play.engine).cancelRequested e with
  | .ok c => Execution.emit c
  | .error e => Play.modifyEngine fun x => { x with failure := some e }
  return .null

theorem main_eq (function : Execution.Play Data) (cont : Except Fault Data → Proc (World Execution)) :
    ∃ next, main function cont = function next ∧ ∀ e, next (.error e) = failing e cont :=
  ⟨_, rfl, fun _ => rfl⟩

/-- A function that fails with an error ends its execution with a command. -/
structure Ends (requested : Bool) (e : Fault) (c : Command) : Prop where
  /-- the boundary, once it has heard of the error, goes on with the failure that stands for it -/
  reported (scope : ScopeId) (function : Execution.Play Data) (cont : Except Fault Data → Proc (World Execution)) :
    ∃ next, main (Boundary.run scope function) cont = .spawn false (fun _ => function .finish) (fun f => Boundary.waitFor scope f Boundary.patience next) ∧
      next (.error e) = failing e.failure cont
  /-- this failure becomes the command -/
  emitted {l : Loop (World Execution)} {t : FutureId} {cont : Except Fault Data → Proc (World Execution)}
    (hr : l.state.world.engine.cancelRequested = requested) (hf : l.focus = some (t, failing e.failure cont)) :
    ∃ l', Proceeds l 2 l' ∧ l'.focus = some (t, cont (.ok .null)) ∧ l'.state = Execution.addCommand l.state c

theorem ends_of_ending {requested : Bool} {e : Fault} {c : Command} (h : ending requested e.failure = .ok c) : Ends requested e c where
  reported scope function cont := by
    obtain ⟨next, hmain, hnext⟩ := main_eq (Boundary.run scope function) cont
    exact ⟨_, by rw [hmain, Boundary.run_eq], hnext _⟩
  emitted {l t cont} hr hf := by
    rw [failing, engine_bind] at hf
    refine ⟨_, .access hf (.step (p := Execution.emit c fun r => match r with
      | .ok _ => cont (.ok .null)
      | .error e => cont (.error e)) ?_ (.refl _)), rfl, rfl⟩
    simp only [accessed, hr, h]
    rfl

end Entry

/-! ## The engine -/

/-- What the engine makes of the last command of a child for its parent. -/
inductive Command.Delivers : Command → CallOutcome → Prop where
  | value (d : Data) : Delivers (.complete d) (.value d)
  | failure (e : Fault) : Delivers (.failExecution e) (.failure e)
  | cancelled (m : String) : Delivers .cancelExecution (.cancelled m)

/-! ## The parent -/

/-- The outcome of a child that runs decides the child's call with an error. -/
def Activation.Decides (o : CallOutcome) (x : Fault) : Prop :=
  ∀ (l : Activation.Stage) (seq : Nat) (run : ChildRun), (Activation.engine l).childRuns.lookup seq = some run → run.isPending = true →
    l.state.kernel.isDone run.start = true → ∃ l', Activation.deliverChild l seq o = .ok l' ∧
      l'.state.kernel = l.state.kernel.resolve run.outcome (.error x)

theorem Activation.decides_of_decide {o : CallOutcome} {x : Fault} (h : o.decide childFailure = .ok (.error x)) : Activation.Decides o x := by
  intro l seq run hrun hpending hstart
  simp only [Activation.deliverChild, hrun, Option.filter_some, hpending, if_true, h, bind, Except.bind, pure, Except.pure]
  refine ⟨_, rfl, ?_⟩
  change l.state.kernel.resolve (if l.state.kernel.isDone run.start then run.outcome else run.start) (.error x) = _
  rw [if_pos hstart]

namespace Execution

/-- The task behind the promise of a child. -/
def following (started : FutureId) : Play Data := do
  let run ← runOf (← Flow.await started)
  Flow.await run.task

/-- The tasks between a child's call and its promise end with an error as they get it. -/
structure Passes (x : Fault) : Prop where
  held (outcome : FutureId) (onCancel : Play Unit) (n : Nat) (cont : Except Fault Data → Proc (World Execution)) :
    ∃ next, hold outcome onCancel (n + 1) cont = .access (fun st => ({ st with kernel := (st.kernel.shield outcome).1 },
      .await (st.kernel.shield outcome).2 next)) ∧ next (.error x) = cont (.error x)
  followed (started : FutureId) (cont : Except Fault Data → Proc (World Execution)) :
    ∃ next, following started cont = .await started next ∧ ∀ seq : Int, next (.ok (.int seq)) = .access fun st =>
      (st, .await ((st.world.engine.childRuns.lookup seq.toNat).getD default).task cont)

theorem passes_of_ne {x : Fault} (h : ∀ m, x ≠ .taskCancelled m) : Passes x where
  held outcome onCancel n cont := by
    refine ⟨_, rfl, ?_⟩
    cases x with
    | taskCancelled m => exact absurd rfl (h m)
    | _ => rfl
  followed started cont := ⟨_, rfl, fun _ => rfl⟩

/-- A read of a child's promise gives an error. -/
def Reads (x e : Fault) : Prop :=
  ∀ (ctx : Context) (p : Promise) (type : Option ResultType) (cont : Except Fault Data → Proc (World Execution)), p.translates = true →
    ∃ next, get ctx p type cont = Flow.awaitUnder ctx.scope p.source next ∧ next (.error x) = cont (.error e)

theorem reads_translated (x : Fault) : Reads x x.translated := fun ctx p type cont hp =>
  ⟨_, get_eq ctx p type cont, by rw [show (Except.error x >>= fun d => Data.decodeAs d type) = .error x from rfl, translating, hp, if_pos rfl]⟩

end Execution

/-! ## Boundaries -/

namespace Fault

/-- An error that ends the function of a child, and what a read of the child gives the parent. -/
inductive Crosses (requested : Bool) (e : Fault) : Fault → Prop where
  | intro {c : Command} {o : CallOutcome} {x : Fault} (ends : Entry.ending requested e.failure = .ok c) (delivers : c.Delivers o)
      (decides : o.decide childFailure = .ok (.error x)) : Crosses requested e x.translated

/-- What comes of an error so many boundaries above the function that it ends, every function between letting it through. -/
inductive Reaches (e : Fault) : Nat → Fault → Prop where
  | own : Reaches e 0 e
  | above {n : Nat} {e' e'' : Fault} {requested : Bool} (h : Reaches e n e') (crosses : Crosses requested e' e'') : Reaches e (n + 1) e''

/-- The outcome of a child decides its call with a failed call or not with an error. -/
theorem eq_childFailure {o : CallOutcome} {x : Fault} (h : o.decide childFailure = .ok (.error x)) : ∃ cause, x = childFailure cause := by
  cases o with
  | value d =>
    have hvalue : (do return .value (← WirePayload.carry d) : Except Fault Outcome) = .ok (.error x) := h
    cases hc : WirePayload.carry d with
    | ok w =>
      rw [hc] at hvalue
      cases hvalue
    | error e =>
      rw [hc] at hvalue
      cases hvalue
  | failure e => exact ⟨_, (Outcome.error.inj (Except.ok.inj h)).symm⟩
  | cancelled m => exact ⟨_, (Outcome.error.inj (Except.ok.inj h)).symm⟩
  | timedOut m => exact ⟨_, (Outcome.error.inj (Except.ok.inj h)).symm⟩

/-- **What crosses a boundary is what the programs make of it.** -/
theorem Crosses.inPrograms {requested : Bool} {e e' : Fault} (h : Crosses requested e e') : ∃ c o x, Entry.Ends requested e c ∧ c.Delivers o ∧
    Activation.Decides o x ∧ Execution.Passes x ∧ Execution.Reads x e' := by
  cases h with
  | @intro c o x ends delivers decides =>
    obtain ⟨cause, rfl⟩ := eq_childFailure decides
    exact ⟨c, o, _, Entry.ends_of_ending ends, delivers, Activation.decides_of_decide decides, Execution.passes_of_ne (by simp [childFailure]),
      Execution.reads_translated _⟩

/-- Clean details arrive, each as it was sent. -/
theorem mapM_carry {details : List Data} (h : ∀ d ∈ details, d.IsClean) : details.mapM WirePayload.carry = .ok (details.map Data.arrange) := by
  induction details with
  | nil => rfl
  | cons d details ih =>
    rw [List.mapM_cons, WirePayload.carry_eq (h d (.head _)), ih fun d hd => h d (.tail _ hd)]
    rfl

/-- **A failure of the application arrives with its reason and its details.** -/
theorem crosses_application {requested : Bool} {e : Fault} {m reason : String} {details : List Data} (hr : reason ≠ "")
    (hd : ∀ d ∈ details, d.IsClean) (hf : e.failure = .application m (some reason) details true) (e' : Fault) :
    Crosses requested e e' ↔ e' = .custom reason (details.map Data.arrange) := by
  have hends : Entry.ending requested e.failure = .ok (.failExecution (.application m (some reason) (details.map Data.arrange) true)) := by
    simp [hf, Entry.ending, Entry.isCancellation, isEngineFailure, mapM_carry hd, Except.toOption]
  have hagain : (details.map Data.arrange).mapM WirePayload.carry = .ok (details.map Data.arrange) := by
    rw [mapM_carry fun w hw => ?_]
    · rw [List.map_map]
      exact congrArg _ (List.map_congr_left fun d hd' => (hd d hd').arrange_arrange)
    · obtain ⟨d, hd', rfl⟩ := List.mem_map.mp hw
      exact (hd d hd').arrange
  have harrived : arrived (.application m (some reason) (details.map Data.arrange) true) =
      .application m (some reason) (details.map Data.arrange) true := by
    simp [arrived, nonEmpty, hr, hagain, Except.toOption]
  have hread : (childFailure (some (.application m (some reason) (details.map Data.arrange) true))).translated =
      .custom reason (details.map Data.arrange) := by
    simp [translated, translated?, translatedCause?, childFailure, hr]
  have hdecide : (CallOutcome.failure (.application m (some reason) (details.map Data.arrange) true)).decide childFailure =
      .ok (.error (childFailure (some (.application m (some reason) (details.map Data.arrange) true)))) := by
    rw [CallOutcome.decide, harrived]
  constructor
  · rintro ⟨ends, delivers, decides⟩
    rw [hends] at ends
    cases ends
    cases delivers
    rw [hdecide] at decides
    cases decides
    exact hread
  · rintro rfl
    rw [← hread]
    exact .intro hends (.failure _) hdecide

/-- A cancellation that was asked for arrives as a cancellation, with a text of the engine. -/
theorem crosses_canceled (m : String) (e' : Fault) : Crosses true (.error .canceled m) e' ↔ ∃ text, e' = canceledWith text := by
  have hends : Entry.ending true (failure (.error .canceled m)) = .ok .cancelExecution := rfl
  constructor
  · rintro ⟨ends, delivers, decides⟩
    rw [hends] at ends
    cases ends
    cases delivers with
    | cancelled text =>
      cases decides
      exact ⟨text, rfl⟩
  · rintro ⟨text, rfl⟩
    exact .intro hends (.cancelled text) rfl

/-- What arrives with a reason and details in order arrives in the same way everywhere above. -/
theorem reaches_above {e : Fault} {reason : String} {details : List Data} (hr : reason ≠ "") (hd : ∀ d ∈ details, d.IsClean)
    (hs : details.map Data.arrange = details) (h : ∀ requested e', Crosses requested e e' ↔ e' = .custom reason details) (n : Nat) (e' : Fault) :
    Reaches e (n + 1) e' ↔ e' = .custom reason details := by
  have hstays (requested : Bool) (e' : Fault) : Crosses requested (.custom reason details) e' ↔ e' = .custom reason details := by
    rw [crosses_application hr hd rfl, hs]
  induction n generalizing e' with
  | zero =>
    constructor
    · rintro (_ | ⟨hown, hcross⟩)
      cases hown
      exact (h _ _).mp hcross
    · exact fun he => .above .own ((h false e').mpr he)
  | succ n ih =>
    constructor
    · rintro (_ | ⟨hbelow, hcross⟩)
      obtain rfl := (ih _).mp hbelow
      exact (hstays _ _).mp hcross
    · exact fun he => .above ((ih _).mpr rfl) ((hstays false e').mpr he)

/-- **Errors across boundaries.** An error with a reason and clean details is read at every ancestor as the error with that reason and those
details, in their order; what may change is the order of the entries of a dictionary, and only at the first boundary. Any other error of the library
but a cancellation is read at every ancestor as an error without details whose reason is the name of its kind. A cancellation that ends a child
whose cancellation was asked for is read as a cancellation. All this is what the programs of the child and of the parent do. -/
theorem errors_across_boundaries :
    (∀ (reason : String) (details : List Data), reason ≠ "" → (∀ d ∈ details, d.IsClean) → ∃ details', List.Forall₂ Data.Reordered details details' ∧
      ∀ n e', Reaches (.custom reason details) (n + 1) e' ↔ e' = .custom reason details') ∧
    (∀ e : Fault, e.isLibrary = true → e.isCanceled = false → (∀ reason details, e ≠ .custom reason details) →
      ∀ n e', Reaches e (n + 1) e' ↔ e' = .custom e.name []) ∧
    (∀ m e', Crosses true (.error .canceled m) e' ↔ ∃ text, e' = canceledWith text) ∧
    ∀ requested e e', Crosses requested e e' → ∃ c o x, Entry.Ends requested e c ∧ c.Delivers o ∧ Activation.Decides o x ∧ Execution.Passes x ∧
      Execution.Reads x e' := by
  refine ⟨fun reason details hr hd => ⟨details.map Data.arrange, ?_, fun n e' => ?_⟩, fun e hlib hcan hcustom n e' => ?_, crosses_canceled,
    fun _ _ _ h => h.inPrograms⟩
  · rw [List.forall₂_map_right_iff]
    exact List.forall₂_same.mpr fun d _ => d.reordered_arrange
  · refine reaches_above hr (fun w hw => ?_) ?_ (fun requested e' => crosses_application hr hd rfl e') n e'
    · obtain ⟨d, hd', rfl⟩ := List.mem_map.mp hw
      exact (hd d hd').arrange
    · rw [List.map_map]
      exact List.map_congr_left fun d hd' => (hd d hd').arrange_arrange
  · obtain ⟨kind, m, rfl⟩ : ∃ kind m, e = .error kind m := by
      cases e with
      | error kind m => exact ⟨kind, m, rfl⟩
      | custom reason details => exact absurd rfl (hcustom reason details)
      | _ => cases hlib
    have hname : kind.name ≠ "" := by cases kind <;> decide
    have hkind : kind ≠ .canceled := by
      rintro rfl
      cases hcan
    have hfail : (Fault.error kind m).failure = .application (Fault.error kind m).message (some (Fault.error kind m).name) [] true := by
      unfold failure
      split
      · rename_i heq
        cases heq
      · rename_i heq
        exact absurd (Fault.error.inj heq).1 hkind
      · rename_i heq
        cases heq
      · rw [if_pos hlib]
    exact reaches_above hname (by simp) rfl (fun requested e' => crosses_application hname (by simp) hfail e') n e'

/-- A mapping with its entries out of order, and a truth value. -/
def quota : List Data := [.dict [(.str "used", .float 0.1), (.str "limit", .list [.str "none", .null])], .bool true]

/-- The error arrives at every ancestor, with the entries of the mapping in order. -/
theorem errors_across_boundaries_of_quota : "quota" ≠ "" ∧ (∀ d ∈ quota, d.IsClean) ∧
    (∃ details', List.Forall₂ Data.Reordered quota details' ∧ ∀ n e', Reaches (.custom "quota" quota) (n + 1) e' ↔ e' = .custom "quota" details') ∧
    ∀ n e', Reaches (.error .configuration "no host") (n + 1) e' ↔ e' = .custom "ConfigurationError" [] := by
  have hclean : ∀ d ∈ quota, d.IsClean := by
    have hlist : (Data.list [.str "none", .null]).IsClean := .list (by simpa using ⟨.str "none", .null⟩)
    have hdict : (Data.dict [(.str "used", .float 0.1), (.str "limit", .list [.str "none", .null])]).IsClean :=
      .dict (by simp) (by simp) (by simpa using ⟨.float rfl, hlist⟩)
    simpa [quota] using ⟨hdict, .bool true⟩
  exact ⟨by decide, hclean, errors_across_boundaries.1 "quota" quota (by decide) hclean,
    errors_across_boundaries.2.1 (.error .configuration "no host") rfl rfl (by simp)⟩

end Fault

end ScriptFlow
