import Mathlib
import ScriptFlow.Flow.Loop
import ScriptFlow.Proofs.Loop.Cancelling

/-!
# What can happen to a loop

Programs are arbitrary; what is known about them is what they do to the kernel. Ids stand for references, so an actor does nothing to a future that it was never
given: `Rules` say which futures are whose.

* `Kernel.Does` — one operation; `Kernel.Acts` — operations one after the other, with the calls that owners of futures make.
* `Loop.Move` — a job, a node of the program under way, or something from outside; `Loop.Run` — moves in any order.
* `Kernel.Acts.grows` — operations undo nothing.
-/

namespace ScriptFlow

/-- Who keeps away from which futures. -/
structure Rules where
  /-- an actor, a task or somebody outside, does nothing to a future -/
  bars : Option FutureId → FutureId → Prop
  /-- an owner decides the future by calls -/
  calls : FutureId → Prop

/-- A call of an owner: what was asked of a future, and the error if it was refused. -/
structure OwnerCall where
  future : FutureId
  settling : Settling
  answer : Option Fault

namespace Kernel

/-- A future that an actor keeps away from is safe from it, or past everything. -/
def Spares (bars : FutureId → Prop) (k : Kernel) (f : FutureId) : Prop := bars f → k.isDone f = true

/-- An operation of an actor. -/
inductive Does (bars : FutureId → Prop) (k : Kernel) : Kernel → Prop where
  | create (o : Option Outcome) (h : bars k.futures.size → o = none) : Does bars k (k.newFuture { outcome := o }).1
  | resolve {f} (o : Outcome) (hf : k.Spares bars f) : Does bars k (k.resolve f o)
  | promise {f} (hf : k.Spares bars f) : Does bars k (k.setChained f)
  | listen {g c} (hg : g < k.futures.size) (hw : ∀ t, c ≠ .wake t) (hc : ∀ f ∈ c.touches g, f < k.futures.size ∧ k.Spares bars f) :
      Does bars k (k.addCallback g c)
  | cancel {f} (hf : k.Spares bars f) : Does bars k (k.cancel f)
  | newScope : Does bars k k.newScope.1
  | childScope {p} (hp : p < k.scopes.scopes.size) : Does bars k (k.childScope p).1
  | cancelScope (s : ScopeId) : Does bars k (k.cancelScope s)
  | register {f} (s : ScopeId) (hlt : f < k.futures.size) (hf : k.Spares bars f) : Does bars k (k.onCancel s f)
  | unregister {f} (s : ScopeId) (hf : k.Spares bars f) : Does bars k (k.offCancel s f)
  | notices (ns : List FutureId) : Does bars k { k with notices := ns }

/-- The error of a call, if it is refused. -/
def answer (k : Kernel) (f : FutureId) (a : Settling) : Option Fault :=
  match k.settleBy f a with
  | .ok _ => none
  | .error e => some e

/-- What a call leaves; a call that is refused leaves everything as it was. -/
def afterCall (k : Kernel) (f : FutureId) (a : Settling) : Kernel :=
  match k.settleBy f a with
  | .ok k' => k'
  | .error _ => k

/-- Is the source of a chain a future that exists? -/
def Known (k : Kernel) : Settling → Prop
  | .chain (.future g) => g < k.futures.size
  | _ => True

/-- Operations of an actor, and the calls among them. -/
inductive Acts (bars calls : FutureId → Prop) (k : Kernel) : List OwnerCall → Kernel → Prop where
  | refl : Acts bars calls k [] k
  | act {log k' k''} (h : Acts bars calls k log k') (hd : Does bars k' k'') : Acts bars calls k log k''
  | call {log k' f a} (h : Acts bars calls k log k') (hf : calls f) (hlt : f < k'.futures.size) (ha : k'.Known a) :
      Acts bars calls k (log ++ [⟨f, a, k'.answer f a⟩]) (k'.afterCall f a)

end Kernel

namespace Loop

variable {σ : Type}

open Kernel

/-- May a task perform a node of its program? The calls are those that it makes. -/
inductive Allows (R : Rules) (t : FutureId) (st : LoopState σ) : Proc σ → List OwnerCall → Prop where
  | finish (r) : Allows R t st (.finish r) []
  | access {f log} (h : Acts (R.bars (some t)) R.calls st.kernel log (f st).1.kernel) : Allows R t st (.access f) log
  | spawn (watched body next) (h : ∀ a, ¬ R.bars a st.kernel.futures.size) : Allows R t st (.spawn watched body next) []
  | await {f} (next) (hf : f < st.kernel.futures.size) (hs : st.kernel.Spares (R.bars (some t)) f) : Allows R t st (.await f next) []
  | turn (next) : Allows R t st (.turn next) []

/-- A move of a loop. Outside acts between the turns, and changes the world as it likes. -/
inductive Move (R : Rules) (l : Loop σ) : List OwnerCall → Loop σ → Prop where
  | job {l'} (hf : l.focus = none) (h : l.step = some l') : Move R l [] l'
  | node {t p log l'} (hf : l.focus = some (t, p)) (hp : Allows R t l.state p log) (h : l.step = some l') : Move R l log l'
  | outside {log k} (world : σ) (hf : l.focus = none) (h : Acts (R.bars none) R.calls l.state.kernel log k) :
      Move R l log { l with state := { kernel := k, world := world } }
  | start (watched : Bool) (body : FutureId → Proc σ) (hf : l.focus = none) (h : ∀ a, ¬ R.bars a l.state.kernel.futures.size) :
      Move R l [] (l.start watched body).1

/-- Moves in any order, with all calls. -/
inductive Run (R : Rules) (l : Loop σ) : List OwnerCall → Loop σ → Prop where
  | refl : Run R l [] l
  | tail {log log' l' l''} (h : Run R l log l') (hm : Move R l' log' l'') : Run R l (log ++ log') l''

theorem Run.trans {R : Rules} {l l' l'' : Loop σ} {log log' : List OwnerCall} (h : Run R l log l') (h' : Run R l' log' l'') :
    Run R l (log ++ log') l'' := by
  induction h' with
  | refl => simpa using h
  | tail _ hm ih =>
    rw [← List.append_assoc]
    exact ih.tail hm

theorem Run.single {R : Rules} {l l' : Loop σ} {log : List OwnerCall} (h : Move R l log l') : Run R l log l' := by
  simpa using Run.refl.tail h

/-- Everything that can become of a loop without tasks and futures. -/
def Reachable (R : Rules) (log : List OwnerCall) (l : Loop σ) : Prop := ∃ world, Run R { state := { world := world } } log l

end Loop

namespace Kernel

/-! ## Operations undo nothing -/

/-- References as an actor makes them: to futures that exist and that it may touch, and to no task that is to be resumed. -/
def Fresh (bars : FutureId → Prop) (k : Kernel) (r : Ref) : Prop :=
  (∀ x ∈ r.touches, x < k.futures.size ∧ k.Spares bars x) ∧ ∀ x, ¬ r.Wakes x

section Grows

variable {bars calls : FutureId → Prop} {k k' : Kernel}

theorem Spares.grows {new : Ref → Prop} {spent : FutureId → Callback → Prop} {f : FutureId} (h : k.Spares bars f)
    (hg : Grows new spent k k') : k'.Spares bars f :=
  fun hb => hg.isDone (h hb)

/-- What an actor keeps away from and yet touches is past everything. -/
theorem Spares.decided {f g : FutureId} (h : k.Spares bars f) (hb : bars g) : f = g → k.outcome? f ≠ none := by
  rintro rfl
  have hd := h hb
  rwa [isDone_eq, Option.isSome_iff_ne_none] at hd

theorem Fresh.grows {new : Ref → Prop} {spent : FutureId → Callback → Prop} {r : Ref} (h : k.Fresh bars r)
    (hg : Grows new spent k k') : k'.Fresh bars r :=
  ⟨fun x hx => ⟨Nat.lt_of_lt_of_le (h.1 x hx).1 hg.size, (h.1 x hx).2.grows hg⟩, h.2⟩

theorem Fresh.mono {bars' : FutureId → Prop} {r : Ref} (h : k.Fresh bars r) (hb : ∀ f, bars' f → bars f) : k.Fresh bars' r :=
  ⟨fun x hx => ⟨(h.1 x hx).1, fun hf => (h.1 x hx).2 (hb x hf)⟩, h.2⟩

theorem calm_newScope (k : Kernel) : Calm k k.newScope.1 := by
  refine grows_scopes k (f := k.scopes.new.1) fun s x hx => Or.inl ?_
  rwa [Forest.scope_new] at hx

theorem calm_childScope (k : Kernel) (p : ScopeId) : Calm k (k.childScope p).1 := by
  refine grows_scopes k (f := (k.scopes.child p).1) fun s x hx => Or.inl ?_
  rwa [Forest.callbacks_child] at hx

theorem calm_offCancel (k : Kernel) (s : ScopeId) (f : FutureId) : Calm k (k.offCancel s f) := by
  refine grows_scopes k fun x y hy => Or.inl ?_
  rw [Forest.callbacks_remove] at hy
  split at hy
  · exact List.mem_of_mem_erase hy
  · exact hy

theorem calm_cancelScope (k : Kernel) (s : ScopeId) : Calm k (k.cancelScope s) := by
  obtain ⟨f, fired, hs, he⟩ := k.cancelScope_sweeps s
  rw [he]
  refine (k.calm_cancelAll fired).trans (grows_scopes _ fun x y hy => Or.inl ?_)
  rw [scopes_cancelAll]
  exact hs.mem_callbacks hy

theorem grows_onCancel {new : Ref → Prop} {spent : FutureId → Callback → Prop} (k : Kernel) {s : ScopeId} {f : FutureId}
    (hnew : new (.registered s f)) : Grows new spent k (k.onCancel s f) := by
  by_cases h : k.scopes.isCancelled s = true
  · rw [k.onCancel_of_cancelled h]
    exact Grows.of_calm (k.cancel_cancels f).calm
  · rw [k.onCancel_of_not_cancelled (by simpa using h)]
    refine grows_scopes k fun x y hy => ?_
    rw [Forest.callbacks_on] at hy
    split at hy
    · rename_i hx
      rcases List.mem_append.mp hy with hy | hy
      · exact Or.inl hy
      · rw [hx.1, List.mem_singleton.mp hy]
        exact Or.inr hnew
    · exact Or.inl hy

theorem Does.grows (h : Does bars k k') : Grows (k'.Fresh bars) (fun _ _ => False) k k' := by
  cases h with
  | create o => exact Grows.of_calm (calm_newFuture k rfl (by simp))
  | resolve o => exact Grows.of_calm (calm_resolve ..)
  | promise => exact Grows.of_calm (calm_setChained ..)
  | @listen g c hg hw hc =>
    refine grows_addCallback k g ⟨fun x hx => ⟨by simpa using (hc x hx).1, fun hb => ?_⟩, fun x hx => hw x hx⟩
    simpa [isDone_eq] using (hc x hx).2 hb
  | cancel => exact Grows.of_calm (k.cancel_cancels _).calm
  | newScope => exact Grows.of_calm k.calm_newScope
  | childScope => exact Grows.of_calm (k.calm_childScope _)
  | cancelScope s => exact Grows.of_calm (k.calm_cancelScope s)
  | @register f s hlt hf =>
    have hg : Grows (fun r => r = .registered s f) (fun _ _ => False) k (k.onCancel s f) := k.grows_onCancel rfl
    refine hg.mono ?_ fun _ _ h => h
    rintro r rfl
    refine ⟨fun x hx => ?_, fun x => id⟩
    rw [List.mem_singleton.mp hx]
    exact ⟨Nat.lt_of_lt_of_le hlt hg.size, hf.grows hg⟩
  | unregister s => exact Grows.of_calm (k.calm_offCancel s _)
  | notices ns => exact Grows.of_calm (k.calm_notices ns)

/-- A call that is not refused settles the future, or promises it to another. -/
theorem afterCall_cases (k : Kernel) (f : FutureId) (a : Settling) :
    (k.afterCall f a = k ∧ k.answer f a ≠ none) ∨
    (k.isSettable f = true ∧ k.answer f a = none ∧
      ((∃ o, k.afterCall f a = k.resolve f o) ∨
        ∃ g, a = .chain (.future g) ∧ k.afterCall f a = (k.setChained f).addCallback g (.forward f))) := by
  unfold afterCall answer
  cases hs : k.isSettable f with
  | false =>
    left
    cases a with
    | either d e => cases e <;> simp [settleBy, settle, hs]
    | chain source => cases source <;> simp [settleBy, chain, hs]
    | _ => simp [settleBy, settle, hs]
  | true =>
    cases a with
    | value d => exact Or.inr ⟨rfl, by simp [settleBy, settle, hs], Or.inl ⟨_, by simp [settleBy, settle, hs]; rfl⟩⟩
    | error e => exact Or.inr ⟨rfl, by simp [settleBy, settle, hs], Or.inl ⟨_, by simp [settleBy, settle, hs]; rfl⟩⟩
    | either d e => cases e <;> exact Or.inr ⟨rfl, by simp [settleBy, settle, hs], Or.inl ⟨_, by simp [settleBy, settle, hs]; rfl⟩⟩
    | chain source =>
      cases source with
      | future g => exact Or.inr ⟨rfl, by simp [settleBy, chain, hs], Or.inr ⟨g, rfl, by simp [settleBy, chain, hs]⟩⟩
      | other type => simp [settleBy]

theorem grows_afterCall {new : Ref → Prop} {spent : FutureId → Callback → Prop} (k : Kernel) (f : FutureId) (a : Settling)
    (hnew : ∀ g, a = .chain (.future g) → new (.pending g (.forward f))) : Grows new spent k (k.afterCall f a) := by
  rcases k.afterCall_cases f a with ⟨he, -⟩ | ⟨-, -, ⟨o, he⟩ | ⟨g, ha, he⟩⟩
  · rw [he]
    exact Grows.refl k
  · rw [he]
    exact Grows.of_calm (calm_resolve ..)
  · rw [he]
    exact (Grows.of_calm (k.calm_setChained f)).trans (grows_addCallback _ g (hnew g ha))

/-- **Operations undo nothing**, and whatever they leave to later turns touches only what they may touch. -/
theorem Acts.grows {log : List OwnerCall} (h : Acts bars calls k log k') :
    Grows (k'.Fresh fun f => bars f ∧ ¬ calls f) (fun _ _ => False) k k' := by
  induction h with
  | refl => exact Grows.refl k
  | act _ hd ih =>
    have hg := hd.grows
    refine (ih.mono (fun r hr => hr.grows hg) fun _ _ h => h).trans (hg.mono (fun r hr => ?_) fun _ _ h => h)
    exact hr.mono fun f hf => hf.1
  | @call log k' f a h hf hlt ha ih =>
    have hg : Grows (fun r => ∃ g, r = .pending g (.forward f)) (fun _ _ => False) k' (k'.afterCall f a) :=
      k'.grows_afterCall f a fun g _ => ⟨g, rfl⟩
    refine (ih.mono (fun r hr => hr.grows hg) fun _ _ h => h).trans (hg.mono ?_ fun _ _ h => h)
    rintro r ⟨g, rfl⟩
    refine ⟨fun x hx => ?_, fun x hx => by cases hx⟩
    rw [List.mem_singleton.mp hx]
    exact ⟨Nat.lt_of_lt_of_le hlt hg.size, fun hb => absurd hf hb.2⟩

end Grows

end Kernel

end ScriptFlow
