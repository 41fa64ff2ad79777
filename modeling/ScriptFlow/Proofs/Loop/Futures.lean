import Mathlib
import ScriptFlow.Flow.Kernel

/-!
# Looking into the kernel

What every elementary operation of the kernel leaves of its futures, queue and scopes.

* `Kernel.Due` — a callback is listed at an open future or queued for a decided one, so it will run. No operation but the removal of the callback ends that.
* `Kernel.future_resolve`, `Kernel.future_addCallback`, `Kernel.future_updateTask` — the cells after an operation.
-/

namespace ScriptFlow

namespace Kernel

variable (k : Kernel)

/-- What runs a future, if it is a task. -/
def task? (f : FutureId) : Option Task := (k.future f).task

def outcome? (f : FutureId) : Option Outcome := (k.future f).outcome

/-- The callbacks that wait for a future. -/
def listed (f : FutureId) : List Callback := (k.future f).callbacks

theorem isDone_eq (f : FutureId) : k.isDone f = (k.outcome? f).isSome := rfl

theorem isDone_eq_false {f : FutureId} : k.isDone f = false ↔ k.outcome? f = none := by
  simp [isDone_eq]

theorem wasCancelled_eq (f : FutureId) : k.wasCancelled f = true ↔ k.outcome? f = some .cancelled := by
  unfold wasCancelled outcome?
  split <;> simp_all

/-! ## Cells -/

theorem future_of_size_le {f : FutureId} (h : k.futures.size ≤ f) : k.future f = {} := by
  simp [future, Array.getElem?_eq_none h]

theorem lt_size_of_outcome {f : FutureId} {o : Outcome} (h : k.outcome? f = some o) : f < k.futures.size := by
  by_contra hf
  simp [outcome?, future_of_size_le k (Nat.le_of_not_lt hf)] at h

theorem lt_size_of_task {f : FutureId} {task : Task} (h : k.task? f = some task) : f < k.futures.size := by
  by_contra hf
  simp [task?, future_of_size_le k (Nat.le_of_not_lt hf)] at h

theorem lt_size_of_listed {f : FutureId} {c : Callback} (h : c ∈ k.listed f) : f < k.futures.size := by
  by_contra hf
  simp [listed, future_of_size_le k (Nat.le_of_not_lt hf)] at h

@[simp] theorem size_update (f : FutureId) (g : FutureCell → FutureCell) : (k.update f g).futures.size = k.futures.size := by
  simp [update]

@[simp] theorem ready_update (f : FutureId) (g : FutureCell → FutureCell) : (k.update f g).ready = k.ready := rfl

@[simp] theorem scopes_update (f : FutureId) (g : FutureCell → FutureCell) : (k.update f g).scopes = k.scopes := rfl

theorem future_update (f : FutureId) (g : FutureCell → FutureCell) (x : FutureId) :
    (k.update f g).future x = if x = f ∧ f < k.futures.size then g (k.future x) else k.future x := by
  unfold future update
  simp only [Array.getElem?_modify]
  by_cases h : f = x
  · by_cases hf : f < k.futures.size
    · subst h
      simp [hf]
    · subst h
      simp [hf]
  · simp [h, Ne.symm h]

@[simp] theorem future_queue (jobs : List Job) (x : FutureId) : (k.queue jobs).future x = k.future x := rfl

@[simp] theorem futures_queue (jobs : List Job) : (k.queue jobs).futures = k.futures := rfl

@[simp] theorem scopes_queue (jobs : List Job) : (k.queue jobs).scopes = k.scopes := rfl

@[simp] theorem ready_queue (jobs : List Job) : (k.queue jobs).ready = k.ready ++ jobs := rfl

/-- The futures alone matter for a look at one. -/
theorem future_congr {k k' : Kernel} (h : k'.futures = k.futures) (x : FutureId) : k'.future x = k.future x := by
  simp [future, h]

/-! ## New futures -/

@[simp] theorem size_newFuture (cell : FutureCell) : (k.newFuture cell).1.futures.size = k.futures.size + 1 := by
  simp [newFuture]

@[simp] theorem snd_newFuture (cell : FutureCell) : (k.newFuture cell).2 = k.futures.size := rfl

@[simp] theorem ready_newFuture (cell : FutureCell) : (k.newFuture cell).1.ready = k.ready := rfl

@[simp] theorem scopes_newFuture (cell : FutureCell) : (k.newFuture cell).1.scopes = k.scopes := rfl

theorem future_newFuture (cell : FutureCell) (x : FutureId) :
    (k.newFuture cell).1.future x = if x = k.futures.size then cell else k.future x := by
  unfold future newFuture
  simp only [Array.getElem?_push]
  split <;> rfl

theorem listed_newFuture {cell : FutureCell} (hc : cell.callbacks = []) (x : FutureId) : (k.newFuture cell).1.listed x = k.listed x := by
  unfold listed
  rw [future_newFuture]
  split
  · rename_i hx
    simp [hx, future_of_size_le k (Nat.le_refl _), hc]
  · rfl

/-! ## Outcomes -/

theorem resolve_of_isDone {f : FutureId} (h : k.isDone f = true) (o : Outcome) : k.resolve f o = k := by
  simp [resolve, h]

@[simp] theorem size_resolve (f : FutureId) (o : Outcome) : (k.resolve f o).futures.size = k.futures.size := by
  unfold resolve
  split <;> simp

@[simp] theorem scopes_resolve (f : FutureId) (o : Outcome) : (k.resolve f o).scopes = k.scopes := by
  unfold resolve
  split <;> simp

theorem ready_resolve (f : FutureId) (o : Outcome) :
    (k.resolve f o).ready = k.ready ++ if k.isDone f then [] else (k.listed f).map (.callback f) := by
  unfold resolve
  split <;> simp [listed]

theorem future_resolve (f : FutureId) (o : Outcome) (x : FutureId) : (k.resolve f o).future x =
    if x = f ∧ f < k.futures.size ∧ k.outcome? f = none then { k.future x with outcome := some o, callbacks := [] } else k.future x := by
  unfold resolve
  by_cases hd : k.isDone f = true
  · have hn : k.outcome? f ≠ none := by simpa [isDone_eq, Option.isSome_iff_ne_none] using hd
    simp [hd, hn]
  · have hn : k.outcome? f = none := by simpa [isDone_eq] using hd
    simp [hd, hn, future_update]

theorem outcome?_resolve (f : FutureId) (o : Outcome) (x : FutureId) : (k.resolve f o).outcome? x =
    if x = f ∧ f < k.futures.size ∧ k.outcome? f = none then some o else k.outcome? x := by
  rw [outcome?, future_resolve]
  split <;> rfl

theorem listed_resolve (f : FutureId) (o : Outcome) (x : FutureId) : (k.resolve f o).listed x =
    if x = f ∧ f < k.futures.size ∧ k.outcome? f = none then [] else k.listed x := by
  rw [listed, future_resolve]
  split <;> rfl

@[simp] theorem task?_resolve (f : FutureId) (o : Outcome) (x : FutureId) : (k.resolve f o).task? x = k.task? x := by
  rw [task?, future_resolve]
  split <;> rfl

/-! ## Callbacks -/

@[simp] theorem size_addCallback (f : FutureId) (c : Callback) : (k.addCallback f c).futures.size = k.futures.size := by
  unfold addCallback
  split <;> simp

@[simp] theorem scopes_addCallback (f : FutureId) (c : Callback) : (k.addCallback f c).scopes = k.scopes := by
  unfold addCallback
  split <;> simp

theorem ready_addCallback (f : FutureId) (c : Callback) :
    (k.addCallback f c).ready = k.ready ++ if k.isDone f then [.callback f c] else [] := by
  unfold addCallback
  split <;> simp

theorem future_addCallback (f : FutureId) (c : Callback) (x : FutureId) : (k.addCallback f c).future x =
    if x = f ∧ f < k.futures.size ∧ k.outcome? f = none then { k.future x with callbacks := (k.future x).callbacks ++ [c] }
    else k.future x := by
  unfold addCallback
  by_cases hd : k.isDone f = true
  · have hn : k.outcome? f ≠ none := by simpa [isDone_eq, Option.isSome_iff_ne_none] using hd
    simp [hd, hn]
  · have hn : k.outcome? f = none := by simpa [isDone_eq] using hd
    simp [hd, hn, future_update]

@[simp] theorem outcome?_addCallback (f : FutureId) (c : Callback) (x : FutureId) : (k.addCallback f c).outcome? x = k.outcome? x := by
  rw [outcome?, future_addCallback]
  split <;> rfl

theorem listed_addCallback (f : FutureId) (c : Callback) (x : FutureId) : (k.addCallback f c).listed x =
    if x = f ∧ f < k.futures.size ∧ k.outcome? f = none then k.listed x ++ [c] else k.listed x := by
  rw [listed, future_addCallback]
  split <;> rfl

@[simp] theorem task?_addCallback (f : FutureId) (c : Callback) (x : FutureId) : (k.addCallback f c).task? x = k.task? x := by
  rw [task?, future_addCallback]
  split <;> rfl

@[simp] theorem size_removeCallback (f : FutureId) (c : Callback) : (k.removeCallback f c).futures.size = k.futures.size := by
  simp [removeCallback]

@[simp] theorem ready_removeCallback (f : FutureId) (c : Callback) : (k.removeCallback f c).ready = k.ready := rfl

@[simp] theorem scopes_removeCallback (f : FutureId) (c : Callback) : (k.removeCallback f c).scopes = k.scopes := rfl

theorem future_removeCallback (f : FutureId) (c : Callback) (x : FutureId) : (k.removeCallback f c).future x =
    if x = f then { k.future x with callbacks := (k.future x).callbacks.filter (· != c) } else k.future x := by
  unfold removeCallback
  rw [future_update]
  by_cases hx : x = f
  · by_cases hf : f < k.futures.size
    · simp [hx, hf]
    · simp [hx, hf, future_of_size_le k (Nat.le_of_not_lt hf)]
  · simp [hx]

@[simp] theorem outcome?_removeCallback (f : FutureId) (c : Callback) (x : FutureId) :
    (k.removeCallback f c).outcome? x = k.outcome? x := by
  rw [outcome?, future_removeCallback]
  split <;> rfl

theorem listed_removeCallback (f : FutureId) (c : Callback) (x : FutureId) : (k.removeCallback f c).listed x =
    if x = f then (k.listed x).filter (· != c) else k.listed x := by
  rw [listed, future_removeCallback]
  split <;> rfl

@[simp] theorem task?_removeCallback (f : FutureId) (c : Callback) (x : FutureId) : (k.removeCallback f c).task? x = k.task? x := by
  rw [task?, future_removeCallback]
  split <;> rfl

/-! ## Promises to another future -/

theorem future_setChained (f x : FutureId) : (k.setChained f).future x =
    if x = f ∧ f < k.futures.size then { k.future x with chained := true } else k.future x :=
  future_update ..

@[simp] theorem size_setChained (f : FutureId) : (k.setChained f).futures.size = k.futures.size := by
  simp [setChained]

@[simp] theorem ready_setChained (f : FutureId) : (k.setChained f).ready = k.ready := rfl

@[simp] theorem scopes_setChained (f : FutureId) : (k.setChained f).scopes = k.scopes := rfl

@[simp] theorem outcome?_setChained (f x : FutureId) : (k.setChained f).outcome? x = k.outcome? x := by
  rw [outcome?, future_setChained]
  split <;> rfl

@[simp] theorem listed_setChained (f x : FutureId) : (k.setChained f).listed x = k.listed x := by
  rw [listed, future_setChained]
  split <;> rfl

@[simp] theorem task?_setChained (f x : FutureId) : (k.setChained f).task? x = k.task? x := by
  rw [task?, future_setChained]
  split <;> rfl

/-! ## Tasks -/

@[simp] theorem size_updateTask (t : FutureId) (g : Task → Task) : (k.updateTask t g).futures.size = k.futures.size := by
  simp [updateTask]

@[simp] theorem ready_updateTask (t : FutureId) (g : Task → Task) : (k.updateTask t g).ready = k.ready := rfl

@[simp] theorem scopes_updateTask (t : FutureId) (g : Task → Task) : (k.updateTask t g).scopes = k.scopes := rfl

theorem future_updateTask (t : FutureId) (g : Task → Task) (x : FutureId) : (k.updateTask t g).future x =
    if x = t then { k.future x with task := (k.future x).task.map g } else k.future x := by
  unfold updateTask
  rw [future_update]
  by_cases hx : x = t
  · by_cases ht : t < k.futures.size
    · simp [hx, ht]
    · simp [hx, ht, future_of_size_le k (Nat.le_of_not_lt ht)]
  · simp [hx]

@[simp] theorem outcome?_updateTask (t : FutureId) (g : Task → Task) (x : FutureId) :
    (k.updateTask t g).outcome? x = k.outcome? x := by
  rw [outcome?, future_updateTask]
  split <;> rfl

@[simp] theorem listed_updateTask (t : FutureId) (g : Task → Task) (x : FutureId) : (k.updateTask t g).listed x = k.listed x := by
  rw [listed, future_updateTask]
  split <;> rfl

theorem task?_updateTask (t : FutureId) (g : Task → Task) (x : FutureId) :
    (k.updateTask t g).task? x = if x = t then (k.task? x).map g else k.task? x := by
  rw [task?, future_updateTask]
  split <;> rfl

/-- The request to end counts, and leaves a notice at most. -/
theorem noteCancel_eq (t : FutureId) : ∃ ns,
    k.noteCancel t = { k.updateTask t (fun task => { task with cancels := task.cancels + 1 }) with notices := ns } := by
  unfold noteCancel
  split
  · split
    · exact ⟨_, rfl⟩
    · exact ⟨_, rfl⟩
  · exact ⟨_, rfl⟩

@[simp] theorem size_noteCancel (t : FutureId) : (k.noteCancel t).futures.size = k.futures.size := by
  obtain ⟨ns, h⟩ := k.noteCancel_eq t
  simp [h]

@[simp] theorem ready_noteCancel (t : FutureId) : (k.noteCancel t).ready = k.ready := by
  obtain ⟨ns, h⟩ := k.noteCancel_eq t
  simp [h]

@[simp] theorem scopes_noteCancel (t : FutureId) : (k.noteCancel t).scopes = k.scopes := by
  obtain ⟨ns, h⟩ := k.noteCancel_eq t
  simp [h]

@[simp] theorem outcome?_noteCancel (t x : FutureId) : (k.noteCancel t).outcome? x = k.outcome? x := by
  obtain ⟨ns, h⟩ := k.noteCancel_eq t
  rw [h]
  exact outcome?_updateTask k t _ x

@[simp] theorem listed_noteCancel (t x : FutureId) : (k.noteCancel t).listed x = k.listed x := by
  obtain ⟨ns, h⟩ := k.noteCancel_eq t
  rw [h]
  exact listed_updateTask k t _ x

theorem task?_noteCancel (t x : FutureId) : (k.noteCancel t).task? x =
    if x = t then (k.task? x).map (fun task => { task with cancels := task.cancels + 1 }) else k.task? x := by
  obtain ⟨ns, h⟩ := k.noteCancel_eq t
  rw [h]
  exact task?_updateTask k t _ x

end Kernel

end ScriptFlow
