import Mathlib
import ScriptFlow.Proofs.Loop.References
import ScriptFlow.Proofs.Scope.Sweep

/-!
# Cancelling futures and scopes

* `Kernel.Cancels` — everything that cancelling a future can do: nothing, deciding it, asking its task, or the same to what the task waits for.
* `Kernel.Leads` — the futures that a cancellation may come to.
* `Kernel.workOff_sweeps` — errands of the forest come to their end, and the callbacks that fire are cancelled one after the other.
-/

namespace ScriptFlow

namespace Kernel

/-- Everything that cancelling a future can do. -/
inductive Cancels : Kernel → FutureId → Kernel → Prop where
  | done {k x} (h : k.outcome? x ≠ none) : Cancels k x k
  | plain {k x} (h : k.outcome? x = none) (ht : k.task? x = none) : Cancels k x (k.resolve x .cancelled)
  /-- the task is told when it next runs -/
  | asked {k x task} (h : k.outcome? x = none) (ht : k.task? x = some task) : Cancels k x ((k.noteCancel x).requestCancel x)
  /-- what the task waits for is cancelled -/
  | through {k x task w k'} (h : k.outcome? x = none) (ht : k.task? x = some task) (hw : task.waitsFor = some w)
      (ho : k.outcome? w = none) (hc : Cancels (k.noteCancel x) w k') : Cancels k x k'

section Cases

variable {k : Kernel} {x : FutureId} (fuel : Nat)

theorem cancelWithin_of_done {o : Outcome} (h : k.outcome? x = some o) : cancelWithin (fuel + 1) k x = (k, false) := by
  simp only [outcome?] at h
  simp [cancelWithin, h]

theorem cancelWithin_of_plain (h : k.outcome? x = none) (ht : k.task? x = none) :
    cancelWithin (fuel + 1) k x = (k.resolve x .cancelled, true) := by
  simp only [outcome?, task?] at h ht
  simp [cancelWithin, h, ht]

theorem cancelWithin_of_idle {task : Task} (h : k.outcome? x = none) (ht : k.task? x = some task) (hw : task.waitsFor = none) :
    cancelWithin (fuel + 1) k x = ((k.noteCancel x).requestCancel x, true) := by
  simp only [outcome?, task?] at h ht
  simp [cancelWithin, h, ht, hw]

theorem cancelWithin_of_waiting {task : Task} {w : FutureId} (h : k.outcome? x = none) (ht : k.task? x = some task)
    (hw : task.waitsFor = some w) : cancelWithin (fuel + 1) k x =
      if (cancelWithin fuel (k.noteCancel x) w).2 then cancelWithin fuel (k.noteCancel x) w
      else ((cancelWithin fuel (k.noteCancel x) w).1.requestCancel x, true) := by
  simp only [outcome?, task?] at h ht
  simp only [cancelWithin, h, ht, hw]
  obtain ⟨k', taken⟩ := cancelWithin fuel (k.noteCancel x) w
  cases taken <;> rfl

end Cases

/-- A request that is not taken changes nothing. -/
theorem cancelWithin_of_not_taken {fuel : Nat} {k : Kernel} {x : FutureId} (h : (cancelWithin fuel k x).2 = false) :
    (cancelWithin fuel k x).1 = k := by
  cases fuel with
  | zero => rfl
  | succ fuel =>
    cases ho : k.outcome? x with
    | some o => rw [cancelWithin_of_done fuel ho]
    | none =>
      cases ht : k.task? x with
      | none => simp [cancelWithin_of_plain fuel ho ht] at h
      | some task =>
        cases hw : task.waitsFor with
        | none => simp [cancelWithin_of_idle fuel ho ht hw] at h
        | some w =>
          rw [cancelWithin_of_waiting fuel ho ht hw] at h
          split at h
          · rename_i htaken
            rw [htaken] at h
            cases h
          · cases h

theorem cancelWithin_cancels (fuel : Nat) (k : Kernel) (x : FutureId) :
    Cancels k x (cancelWithin fuel k x).1 ∨ fuel = 0 := by
  induction fuel generalizing k x with
  | zero => exact Or.inr rfl
  | succ fuel ih =>
    left
    cases ho : k.outcome? x with
    | some o =>
      rw [cancelWithin_of_done fuel ho]
      exact .done (by simp [ho])
    | none =>
      cases ht : k.task? x with
      | none =>
        rw [cancelWithin_of_plain fuel ho ht]
        exact .plain ho ht
      | some task =>
        cases hw : task.waitsFor with
        | none =>
          rw [cancelWithin_of_idle fuel ho ht hw]
          exact .asked ho ht
        | some w =>
          rw [cancelWithin_of_waiting fuel ho ht hw]
          split
          · -- somebody further on took the request, so the wait is for an open future
            rename_i htaken
            have hw' : k.outcome? w = none := by
              cases hwo : k.outcome? w with
              | none => rfl
              | some o =>
                cases fuel with
                | zero => simp [cancelWithin] at htaken
                | succ fuel =>
                  rw [cancelWithin_of_done (o := o) fuel (by simpa using hwo)] at htaken
                  cases htaken
            rcases ih (k.noteCancel x) w with hc | rfl
            · exact .through ho ht hw hw' hc
            · simp [cancelWithin] at htaken
          · rename_i htaken
            rw [cancelWithin_of_not_taken (by simpa using htaken)]
            exact .asked ho ht

theorem cancel_cancels (k : Kernel) (x : FutureId) : Cancels k x (k.cancel x) :=
  (cancelWithin_cancels _ k x).resolve_right (Nat.succ_ne_zero _)

namespace Cancels

variable {k k' : Kernel} {x : FutureId}

theorem calm (h : Cancels k x k') : Calm k k' := by
  induction h with
  | done => exact Grows.refl _
  | plain => exact calm_resolve ..
  | asked => exact (calm_noteCancel ..).trans (calm_requestCancel ..)
  | through _ _ _ _ _ ih => exact (calm_noteCancel ..).trans ih

theorem scopes (h : Cancels k x k') : k'.scopes = k.scopes := by
  induction h with
  | done => rfl
  | plain => simp
  | asked => simp [requestCancel]
  | through _ _ _ _ _ ih => rw [ih, scopes_noteCancel]

theorem size (h : Cancels k x k') : k'.futures.size = k.futures.size := by
  induction h with
  | done => rfl
  | plain => simp
  | asked => simp [requestCancel]
  | through _ _ _ _ _ ih => rw [ih, size_noteCancel]

/-- A future without a task is done after it was cancelled. -/
theorem isDone_of_plain (h : Cancels k x k') (hx : x < k.futures.size) (ht : k.task? x = none) : k'.outcome? x ≠ none := by
  cases h with
  | done ho => exact ho
  | plain ho _ => simp [outcome?_resolve, hx, ho]
  | asked _ ht' => rw [ht] at ht'; cases ht'
  | through _ ht' _ _ _ => rw [ht] at ht'; cases ht'

end Cancels

/-- A cancellation of the first future may come to the second: tasks wait for each other. -/
def Leads (k : Kernel) (x y : FutureId) : Prop := Relation.ReflTransGen (fun a b => k.Holds (.waiting a b)) x y

theorem leads_of_plain {k : Kernel} {x y : FutureId} (ht : k.task? x = none) (h : k.Leads x y) : y = x := by
  rcases Relation.ReflTransGen.cases_head h with h | ⟨z, ⟨task, hz, -⟩, -⟩
  · exact h.symm
  · rw [ht] at hz
    cases hz

/-- Changes that leave waits alone. -/
theorem leads_mono {k k' : Kernel} (h : Calm k k') {x y : FutureId} (hl : k'.Leads x y) : k.Leads x y :=
  Relation.ReflTransGen.mono (fun _ _ hr => (h.refs _ hr).resolve_right id) _ _ hl

/-- A cancellation leaves alone what it cannot come to. -/
theorem Cancels.future_of_not_leads {k k' : Kernel} {x y : FutureId} (h : Cancels k x k') (hy : ¬ k.Leads x y) :
    k'.future y = k.future y := by
  have hne : ∀ {k : Kernel} {x : FutureId}, ¬ k.Leads x y → y ≠ x := by
    rintro k x hl rfl
    exact hl .refl
  have hnote : ∀ {k : Kernel} {x : FutureId}, y ≠ x → (k.noteCancel x).future y = k.future y := by
    intro k x hyx
    obtain ⟨ns, hn⟩ := k.noteCancel_eq x
    have : (k.noteCancel x).future y = (k.updateTask x fun task => { task with cancels := task.cancels + 1 }).future y := by
      rw [hn]
      rfl
    rw [this, future_updateTask, if_neg hyx]
  induction h with
  | done => rfl
  | plain =>
    rw [future_resolve, if_neg]
    exact fun he => hne hy he.1
  | asked =>
    rw [requestCancel, future_updateTask, if_neg (hne hy), hnote (hne hy)]
  | @through k x task w k' ho ht hw hwo hc ih =>
    rw [ih fun hl => hy ?_, hnote (hne hy)]
    exact .head ⟨task, ht, hw⟩ (leads_mono (calm_noteCancel k x) hl)

/-! ## Scopes -/

section Scopes

variable (k : Kernel)

/-- The same kernel over another forest. -/
def withScopes (f : Forest FutureId) : Kernel := { k with scopes := f }

theorem resolve_withScopes (f : Forest FutureId) (x : FutureId) (o : Outcome) :
    (k.withScopes f).resolve x o = (k.resolve x o).withScopes f := by
  unfold resolve
  have hd : (k.withScopes f).isDone x = k.isDone x := rfl
  rw [hd]
  split <;> rfl

theorem noteCancel_withScopes (f : Forest FutureId) (x : FutureId) : (k.withScopes f).noteCancel x = (k.noteCancel x).withScopes f := by
  unfold noteCancel
  have hf : (k.withScopes f).future x = k.future x := rfl
  rw [hf]
  split
  · split <;> rfl
  · rfl

theorem cancelWithin_withScopes (fuel : Nat) (f : Forest FutureId) (x : FutureId) : cancelWithin fuel (k.withScopes f) x =
    ((cancelWithin fuel k x).1.withScopes f, (cancelWithin fuel k x).2) := by
  induction fuel generalizing k x with
  | zero => rfl
  | succ fuel ih =>
    have hof : (k.withScopes f).outcome? x = k.outcome? x := rfl
    have htf : (k.withScopes f).task? x = k.task? x := rfl
    cases ho : k.outcome? x with
    | some o => rw [cancelWithin_of_done fuel ho, cancelWithin_of_done fuel (hof.trans ho)]
    | none =>
      cases ht : k.task? x with
      | none => rw [cancelWithin_of_plain fuel ho ht, cancelWithin_of_plain fuel (hof.trans ho) (htf.trans ht), resolve_withScopes]
      | some task =>
        cases hw : task.waitsFor with
        | none =>
          rw [cancelWithin_of_idle fuel ho ht hw, cancelWithin_of_idle fuel (hof.trans ho) (htf.trans ht) hw, noteCancel_withScopes]
          rfl
        | some w =>
          rw [cancelWithin_of_waiting fuel ho ht hw, cancelWithin_of_waiting fuel (hof.trans ho) (htf.trans ht) hw,
            noteCancel_withScopes, ih]
          split <;> rfl

theorem cancel_withScopes (f : Forest FutureId) (x : FutureId) : (k.withScopes f).cancel x = (k.cancel x).withScopes f := by
  unfold cancel
  rw [show (k.withScopes f).futures = k.futures from rfl, cancelWithin_withScopes]

/-- Cancels futures one after the other. -/
def cancelAll (fs : List FutureId) : Kernel := fs.foldl cancel k

theorem cancelAll_withScopes (f : Forest FutureId) (fs : List FutureId) :
    (k.withScopes f).cancelAll fs = (k.cancelAll fs).withScopes f := by
  induction fs generalizing k with
  | nil => rfl
  | cons x rest ih =>
    unfold cancelAll at *
    rw [List.foldl_cons, List.foldl_cons, cancel_withScopes, ih]

@[simp] theorem scopes_cancelAll (fs : List FutureId) : (k.cancelAll fs).scopes = k.scopes := by
  induction fs generalizing k with
  | nil => rfl
  | cons x rest ih => exact (ih (k.cancel x)).trans (k.cancel_cancels x).scopes

theorem calm_cancelAll (fs : List FutureId) : Calm k (k.cancelAll fs) := by
  induction fs generalizing k with
  | nil => exact Grows.refl k
  | cons x rest ih => exact (k.cancel_cancels x).calm.trans (ih (k.cancel x))

/-- Futures without a task are done after they were cancelled. -/
theorem outcome?_cancelAll_of_mem {k : Kernel} {fs : List FutureId} {x : FutureId} (hx : x < k.futures.size) (ht : k.task? x = none)
    (hm : x ∈ fs) : (k.cancelAll fs).outcome? x ≠ none := by
  induction fs generalizing k with
  | nil => cases hm
  | cons y rest ih =>
    have hc := k.cancel_cancels y
    by_cases hxy : x = y
    · subst hxy
      exact ((k.cancel x).calm_cancelAll rest).done_of_done (hc.isDone_of_plain hx ht)
    · exact ih (Nat.lt_of_lt_of_le hx hc.calm.size) (hc.calm.plain x hx ht) ((List.mem_cons.mp hm).resolve_left hxy)

/-- Errands come to their end, and the callbacks that fire are cancelled in order. -/
theorem workOff_sweeps {fuel : Nat} (es : List (Errand FutureId)) (h : k.scopes.load es ≤ fuel) :
    ∃ f fired, k.scopes.Sweeps es f fired ∧ workOff fuel k es = (k.cancelAll fired).withScopes f := by
  induction fuel generalizing k es with
  | zero =>
    cases es with
    | nil => exact ⟨k.scopes, [], .nil, rfl⟩
    | cons e rest =>
      have hlt := k.scopes.load_next e rest
      omega
  | succ fuel ih =>
    cases es with
    | nil => exact ⟨k.scopes, [], .nil, rfl⟩
    | cons e rest =>
      have hlt := k.scopes.load_next e rest
      cases hd : (k.scopes.next e).2.2 with
      | none =>
        obtain ⟨f, fired, hs, he⟩ := ih (k.withScopes (k.scopes.next e).1) ((k.scopes.next e).2.1 ++ rest)
          (by simp only [withScopes]; omega)
        refine ⟨f, fired, ?_, ?_⟩
        · have := hs.cons
          rwa [hd] at this
        · rw [cancelAll_withScopes] at he
          simpa [workOff, hd, withScopes] using he
      | some x =>
        have hx : ((k.withScopes (k.scopes.next e).1).cancel x).scopes = (k.scopes.next e).1 := (cancel_cancels _ x).scopes
        obtain ⟨f, fired, hs, he⟩ := ih ((k.withScopes (k.scopes.next e).1).cancel x) ((k.scopes.next e).2.1 ++ rest)
          (by rw [hx]; omega)
        rw [hx] at hs
        refine ⟨f, x :: fired, ?_, ?_⟩
        · have := hs.cons
          rwa [hd] at this
        · have hstep : workOff (fuel + 1) k (e :: rest) =
              workOff fuel ((k.withScopes (k.scopes.next e).1).cancel x) ((k.scopes.next e).2.1 ++ rest) := by
            simp only [workOff, hd]
            rfl
          rw [hstep, he, cancel_withScopes, cancelAll_withScopes]
          rfl

theorem sum_getD {α : Type} (xs : List α) (d : α) (g : α → Nat) :
    ∑ i ∈ Finset.range xs.length, g (xs[i]?.getD d) = (xs.map g).sum := by
  induction xs with
  | nil => rfl
  | cons x xs ih =>
    rw [List.length_cons, Finset.sum_range_succ']
    simp [ih, Nat.add_comm]

/-- The limit of errands is enough for one that is due. -/
theorem load_le_errandLimit (e : Errand FutureId) (he : k.scopes.errandWeight e ≤ 2) : k.scopes.load [e] ≤ k.errandLimit := by
  have hfold : ∀ (xs : List (Scope FutureId)) (n : Nat),
      xs.foldl (fun n s => n + 2 + s.callbacks.length + 2 * s.children.length) n =
        n + (xs.map fun s => 2 + s.callbacks.length + 2 * s.children.length).sum := by
    intro xs
    induction xs with
    | nil => simp
    | cons x xs ih =>
      intro n
      rw [List.foldl_cons, ih, List.map_cons, List.sum_cons]
      omega
  have hsum : ∑ s ∈ Finset.range k.scopes.scopes.size, Forest.weight (k.scopes.scope s) ≤
      (k.scopes.scopes.toList.map fun s => 2 + s.callbacks.length + 2 * s.children.length).sum := by
    rw [← sum_getD _ {}, Array.length_toList]
    refine Finset.sum_le_sum fun s _ => ?_
    have hs : k.scopes.scopes.toList[s]?.getD {} = k.scopes.scope s := by simp [Forest.scope]
    rw [hs]
    unfold Forest.weight
    split <;> omega
  have hlimit : k.errandLimit = 4 + (k.scopes.scopes.toList.map fun s => 2 + s.callbacks.length + 2 * s.children.length).sum := by
    rw [errandLimit, ← Array.foldl_toList]
    exact hfold _ 4
  rw [hlimit]
  simp only [Forest.load, List.map_cons, List.map_nil, List.sum_cons, List.sum_nil]
  omega

/-- Cancelling a scope. -/
theorem cancelScope_sweeps (s : ScopeId) : ∃ f fired, k.scopes.Sweeps [.cancel s] f fired ∧
    k.cancelScope s = (k.cancelAll fired).withScopes f :=
  k.workOff_sweeps _ (k.load_le_errandLimit _ (Nat.le_refl _))

theorem isCancelled_cancelScope {s : ScopeId} (hs : s < k.scopes.scopes.size) : (k.cancelScope s).scopes.isCancelled s = true := by
  obtain ⟨f, fired, hsweeps, he⟩ := k.cancelScope_sweeps s
  rw [he]
  exact hsweeps.isCancelled_of_mem (by simp) hs

/-- Registering a future on a cancelled scope cancels it. -/
theorem onCancel_of_cancelled {s : ScopeId} (h : k.scopes.isCancelled s = true) (x : FutureId) : k.onCancel s x = k.cancel x := by
  have hpos : ∃ n, k.errandLimit = n + 2 := by
    have := k.load_le_errandLimit (.cancel s) (Nat.le_refl _)
    rw [Forest.load_cons] at this
    exact ⟨k.errandLimit - 2, by simp only [Forest.errandWeight] at this; omega⟩
  obtain ⟨n, hn⟩ := hpos
  simp [onCancel, Forest.on_of_cancelled k.scopes h, hn, workOff, Forest.next]

theorem onCancel_of_not_cancelled {s : ScopeId} (h : k.scopes.isCancelled s = false) (x : FutureId) :
    k.onCancel s x = k.withScopes (k.scopes.on s x).1 := by
  have hdue : (k.scopes.on s x).2 = [] := by simp [Forest.on_snd, h]
  simp only [onCancel, hdue]
  cases k.errandLimit <;> rfl

end Scopes

end Kernel

end ScriptFlow
