import Mathlib
import ScriptFlow.Proofs.Loop.Moves
import ScriptFlow.Proofs.Scope.Operations

/-!
# What a turn does to the kernel

* `Kernel.grows_runCallback`, `Kernel.calm_enterTask`, `Kernel.grows_waitFor` — running a callback, entering a task and waiting undo nothing.
* `Kernel.Acts.ops` — the forest changes by its own operations only.
-/

namespace ScriptFlow

namespace Kernel

variable (k : Kernel)

/-! ## Callbacks -/

/-- What running a callback ends: the relay of a waiter that is gone. -/
def Ends (c : Callback) (g : FutureId) (c' : Callback) : Prop := ∃ w, c = .unrelay g w ∧ c' = .relay w

theorem grows_runCallback (g : FutureId) (c : Callback) : Grows (fun _ => False) (Ends c) k (k.runCallback g c) := by
  cases c with
  | wake t => exact Grows.refl k
  | forward f =>
    simp only [runCallback, forward]
    split
    · exact Grows.refl k
    · exact Grows.of_calm (calm_resolve ..)
    · exact Grows.of_calm (calm_resolve ..)
  | unlink s => exact Grows.of_calm (k.calm_offCancel s g)
  | relay w =>
    simp only [runCallback]
    split
    · exact Grows.refl k
    · exact Grows.of_calm (k.cancel_cancels w).calm
    · exact Grows.of_calm (calm_resolve ..)
  | unrelay inner w =>
    simp only [runCallback]
    split
    · exact Grows.refl k
    · exact grows_removeCallback k inner ⟨w, rfl, rfl⟩

/-! ## Tasks -/

theorem enterTask_fst (t : FutureId) (input : Except Fault Data) : (k.enterTask t input).1 =
    k.updateTask t fun task => { task with waitsFor := none, cancelRequested := false, started := true } := rfl

/-- What a task is told: a cancellation that was asked for, or what it waited for. -/
theorem enterTask_snd (t : FutureId) (input : Except Fault Data) : (k.enterTask t input).2 =
    if ((k.task? t).map (·.cancelRequested)).getD false then
      match input with
      | .error (.taskCancelled m) => .error (.taskCancelled m)
      | _ => .error (.taskCancelled "")
    else input := by
  unfold enterTask task?
  cases h : (k.future t).task with
  | none => simp
  | some task =>
    obtain ⟨waits, requested, started, cancels⟩ := task
    cases requested with
    | false => simp
    | true =>
      cases input with
      | ok d => rfl
      | error e => cases e <;> rfl

theorem calm_enterTask (t : FutureId) (input : Except Fault Data) : Calm k (k.enterTask t input).1 := by
  rw [enterTask_fst]
  exact k.grows_updateTask t (fun _ _ h => by cases h) fun _ => Nat.le_refl _

theorem finishTask_eq (t : FutureId) (r : Except Fault Data) : ∃ o, k.finishTask t r = k.resolve t o := by
  cases r with
  | ok d => exact ⟨_, rfl⟩
  | error e => cases e <;> exact ⟨_, rfl⟩

theorem calm_finishTask (t : FutureId) (r : Except Fault Data) : Calm k (k.finishTask t r) := by
  obtain ⟨o, h⟩ := k.finishTask_eq t r
  rw [h]
  exact calm_resolve ..

theorem newTask_fst (watched : Bool) : (k.newTask watched).1 =
    (k.newFuture { task := some {}, watched := watched }).1.queue [.resume k.futures.size (.ok .null)] := rfl

theorem grows_newTask (watched : Bool) : Grows (fun r => r = .resume k.futures.size) (fun _ _ => False) k (k.newTask watched).1 := by
  rw [newTask_fst]
  refine (Grows.of_calm (calm_newFuture k rfl ?_)).trans (grows_queue_resume _ _ _ rfl)
  rintro a ⟨⟩
  rfl

theorem task?_awaiting (t f x : FutureId) : (k.awaiting t f).task? x =
    if x = t then (k.task? x).map (fun task => { task with waitsFor := some f }) else k.task? x := by
  rw [awaiting, task?_updateTask, task?_addCallback]

theorem waitFor_of_not_requested {t f : FutureId} (h : ∀ task, k.task? t = some task → task.cancelRequested = false) :
    k.waitFor t f = k.awaiting t f := by
  have ht : ((k.awaiting t f).future t).task = (k.task? t).map fun task => { task with waitsFor := some f } :=
    (k.task?_awaiting t f t).trans (if_pos rfl)
  unfold waitFor
  simp only [ht]
  cases hk : k.task? t with
  | none => rfl
  | some task =>
    have hc := h task hk
    obtain ⟨waits, requested, started, cancels⟩ := task
    simp only at hc
    subst hc
    rfl

theorem waitFor_of_requested {t f : FutureId} {task : Task} (h : k.task? t = some task) (hc : task.cancelRequested = true) :
    k.waitFor t f = if (cancelWithin ((k.awaiting t f).futures.size + 1) (k.awaiting t f) f).2 then
        (cancelWithin ((k.awaiting t f).futures.size + 1) (k.awaiting t f) f).1.updateTask t fun task =>
          { task with cancelRequested := false }
      else (cancelWithin ((k.awaiting t f).futures.size + 1) (k.awaiting t f) f).1 := by
  have ht : ((k.awaiting t f).future t).task = some { task with waitsFor := some f } := by
    rw [← task?, task?_awaiting, if_pos rfl, h]
    rfl
  unfold waitFor
  simp only [ht, hc]
  obtain ⟨k', taken⟩ := cancelWithin ((k.awaiting t f).futures.size + 1) (k.awaiting t f) f
  cases taken <;> rfl

/-- Waiting leaves two references, one to resume the task and one for whoever cancels it. -/
theorem grows_waitFor (t f : FutureId) :
    Grows (fun r => r = .waiting t f) (fun _ _ => False) (k.addCallback f (.wake t)) (k.waitFor t f) := by
  have hset : Grows (fun r => r = .waiting t f) (fun _ _ => False) (k.addCallback f (.wake t)) (k.awaiting t f) := by
    refine grows_updateTask _ t ?_ fun _ => Nat.le_refl _
    rintro a w ⟨⟩
    exact Or.inr rfl
  cases hk : k.task? t with
  | none =>
    rw [waitFor_of_not_requested k (by simp [hk])]
    exact hset
  | some task =>
    cases hc : task.cancelRequested with
    | false =>
      rw [waitFor_of_not_requested k (by simp [hk, hc])]
      exact hset
    | true =>
      have hcan := (cancel_cancels (k.awaiting t f) f).calm
      unfold cancel at hcan
      rw [waitFor_of_requested k hk hc]
      split
      · exact hset.trans (Grows.of_calm (hcan.trans (grows_updateTask _ t (fun _ _ h => Or.inl h) fun _ => Nat.le_refl _)))
      · exact hset.trans (Grows.of_calm hcan)

theorem wakeUps_waitFor_le (t f : FutureId) : (k.waitFor t f).wakeUps t ≤ k.wakeUps t + 1 := by
  have hw := (k.grows_waitFor t f).wakes t ?_
  · exact hw.trans (k.wakeUps_addCallback_le f t (.wake t))
  · rintro r rfl
    exact id

/-! ## The forest -/

@[simp] theorem scopes_afterCall (f : FutureId) (a : Settling) : (k.afterCall f a).scopes = k.scopes := by
  rcases k.afterCall_cases f a with ⟨he, -⟩ | ⟨-, -, ⟨o, he⟩ | ⟨g, -, he⟩⟩ <;> simp [he]

theorem scopes_waitFor (t f : FutureId) : (k.waitFor t f).scopes = k.scopes := by
  have hset : (k.awaiting t f).scopes = k.scopes := by simp [awaiting]
  cases hk : k.task? t with
  | none => rw [waitFor_of_not_requested k (by simp [hk]), hset]
  | some task =>
    cases hc : task.cancelRequested with
    | false => rw [waitFor_of_not_requested k (by simp [hk, hc]), hset]
    | true =>
      have hcan := (cancel_cancels (k.awaiting t f) f).scopes
      unfold cancel at hcan
      rw [waitFor_of_requested k hk hc]
      split <;> simp [hcan, hset]

theorem scopes_runCallback (g : FutureId) {c : Callback} (hc : ∀ s, c ≠ .unlink s) : (k.runCallback g c).scopes = k.scopes := by
  cases c with
  | wake t => rfl
  | forward f =>
    simp only [runCallback, forward]
    split <;> simp
  | unlink s => exact absurd rfl (hc s)
  | relay w =>
    simp only [runCallback]
    split
    · rfl
    · exact (k.cancel_cancels w).scopes
    · simp
  | unrelay inner w =>
    simp only [runCallback]
    split <;> simp

end Kernel

namespace Kernel

variable {bars calls : FutureId → Prop} {k k' : Kernel}

theorem ops_cancelScope (k : Kernel) (s : ScopeId) : k.scopes.Ops (k.cancelScope s).scopes := by
  obtain ⟨f, fired, hs, he⟩ := k.cancelScope_sweeps s
  rw [he]
  exact .single (.cancel hs)

theorem ops_onCancel (k : Kernel) (s : ScopeId) (f : FutureId) : k.scopes.Ops (k.onCancel s f).scopes := by
  by_cases hc : k.scopes.isCancelled s = true
  · rw [k.onCancel_of_cancelled hc, (k.cancel_cancels f).scopes]
  · rw [k.onCancel_of_not_cancelled (by simpa using hc)]
    exact .single (.on s f)

theorem ops_runCallback (k : Kernel) (g : FutureId) (c : Callback) : k.scopes.Ops (k.runCallback g c).scopes := by
  cases c with
  | unlink s => exact .single (.remove s g)
  | _ => rw [scopes_runCallback k g (by simp)]

theorem Does.ops (hd : Does bars k k') : k.scopes.Ops k'.scopes := by
  cases hd with
  | create o => exact .refl
  | resolve o => rw [scopes_resolve]
  | promise => exact .refl
  | listen => rw [scopes_addCallback]
  | cancel => rw [(k.cancel_cancels _).scopes]
  | newScope => exact .single .new
  | childScope hp => exact .single (.child hp)
  | cancelScope s => exact ops_cancelScope k s
  | register s => exact ops_onCancel k s _
  | unregister s => exact .single (.remove s _)
  | notices => exact .refl

theorem Acts.ops {log : List OwnerCall} (ha : Acts bars calls k log k') : k.scopes.Ops k'.scopes := by
  induction ha with
  | refl => exact .refl
  | act _ hd ih => exact ih.trans hd.ops
  | call _ _ _ _ ih => rwa [scopes_afterCall]

end Kernel

end ScriptFlow
