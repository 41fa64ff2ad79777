import Mathlib
import ScriptFlow.Proofs.Loop.Readers

/-!
# Yielding for a turn

A task that yields waits for nothing: a request to end is kept for it, and it is told when its turn comes, whatever its scope says.

* `Kernel.Alert` — a task that waits for nothing, with what has been asked of it since; operations of others keep it so.
* `Loop.Reachable.alert` — a task under way waits for nothing.
* `Loop.Napping` — a task sleeps for a turn; `Loop.Run.turn` — **it goes on once**, and is told of every request that came meanwhile.
-/

namespace ScriptFlow

namespace Kernel

/-- A task that waits for nothing will be told of every request since it had been asked so often; one may have been pending. -/
def Alert (k : Kernel) (t : FutureId) (n : Nat) (pending : Bool) : Prop :=
  ∃ a, k.task? t = some a ∧ a.waitsFor = none ∧ n ≤ a.cancels ∧ (a.cancelRequested = true ↔ pending = true ∨ n < a.cancels)

/-- Was a task asked to end between two kernels, or before and not told? -/
def AskedSince (k₀ k : Kernel) (t : FutureId) : Prop := k₀.requested t = true ∨ k₀.cancelsOf t < k.cancelsOf t

section Alert

variable {k k' : Kernel} {t x : FutureId} {n : Nat} {pending : Bool}

theorem alert_of_idle {a : Task} (ht : k.task? t = some a) (hw : a.waitsFor = none) : k.Alert t (k.cancelsOf t) (k.requested t) :=
  ⟨a, ht, hw, by simp [cancelsOf, ht], by simp [cancelsOf, Kernel.requested, ht]⟩

theorem Alert.lt (h : k.Alert t n pending) : t < k.futures.size := by
  obtain ⟨a, ht, -⟩ := h
  exact lt_size_of_task k ht

theorem Alert.requested_iff (h : k.Alert t n pending) : k.requested t = true ↔ pending = true ∨ n < k.cancelsOf t := by
  obtain ⟨a, ht, -, -, hr⟩ := h
  simpa [Kernel.requested, cancelsOf, ht] using hr

/-- A change that leaves the task alone. -/
theorem Alert.beside (h : k.Alert t n pending) (ht : k'.task? t = k.task? t) : k'.Alert t n pending := by
  obtain ⟨a, ha, hrest⟩ := h
  exact ⟨a, ht.trans ha, hrest⟩

theorem Alert.noteCancel (h : k.Alert t n pending) (hx : x ≠ t) : (k.noteCancel x).Alert t n pending :=
  h.beside (by rw [task?_noteCancel, if_neg hx.symm])

theorem Alert.updateTask (h : k.Alert t n pending) (hx : x ≠ t) (u : Task → Task) : (k.updateTask x u).Alert t n pending :=
  h.beside (by rw [task?_updateTask, if_neg hx.symm])

/-- A cancellation that comes to the task is kept for it. -/
theorem Cancels.alert (hc : Cancels k x k') (h : k.Alert t n pending) : k'.Alert t n pending := by
  induction hc with
  | done => exact h
  | plain => exact h.beside (by simp)
  | @asked k x task _ ht =>
    by_cases hx : x = t
    · subst hx
      obtain ⟨a, ha, hw, hn, -⟩ := h
      refine ⟨{ a with cancels := a.cancels + 1, cancelRequested := true }, ?_, hw, Nat.le_succ_of_le hn, ?_⟩
      · simp [requestCancel, task?_updateTask, task?_noteCancel, ha]
      · simp [Nat.lt_succ_of_le hn]
    · exact (h.noteCancel hx).updateTask hx _
  | @through k x task w k' _ ht hw _ _ ih =>
    refine ih (h.noteCancel ?_)
    rintro rfl
    obtain ⟨a, ha, hnone, -⟩ := h
    rw [ha] at ht
    cases ht
    rw [hnone] at hw
    cases hw

theorem Alert.cancel (h : k.Alert t n pending) (x : FutureId) : (k.cancel x).Alert t n pending := (k.cancel_cancels x).alert h

theorem Alert.cancelAll (h : k.Alert t n pending) (fs : List FutureId) : (k.cancelAll fs).Alert t n pending := by
  induction fs generalizing k with
  | nil => exact h
  | cons x rest ih => exact ih (h.cancel x)

theorem Alert.cancelScope (h : k.Alert t n pending) (s : ScopeId) : (k.cancelScope s).Alert t n pending := by
  obtain ⟨fired, he, -, -⟩ := k.cancelScope_fires s
  rw [he]
  exact (h.cancelAll fired).beside rfl

theorem Alert.onCancel (h : k.Alert t n pending) (s : ScopeId) (x : FutureId) : (k.onCancel s x).Alert t n pending := by
  by_cases hc : k.scopes.isCancelled s = true
  · rw [k.onCancel_of_cancelled hc]
    exact h.cancel x
  · rw [k.onCancel_of_not_cancelled (by simpa using hc)]
    exact h.beside rfl

theorem Alert.newFuture (h : k.Alert t n pending) (cell : FutureCell) : (k.newFuture cell).1.Alert t n pending := by
  refine h.beside ?_
  simp [task?, future_newFuture, h.lt.ne]

theorem Does.alert {bars : FutureId → Prop} (hd : Does bars k k') (h : k.Alert t n pending) : k'.Alert t n pending := by
  cases hd with
  | create o => exact h.newFuture _
  | resolve o => exact h.beside (by simp)
  | promise => exact h.beside (by simp)
  | listen => exact h.beside (by simp)
  | cancel => exact h.cancel _
  | newScope => exact h.beside rfl
  | childScope => exact h.beside rfl
  | cancelScope s => exact h.cancelScope s
  | register s => exact h.onCancel s _
  | unregister => exact h.beside rfl
  | notices => exact h.beside rfl

theorem Alert.afterCall (h : k.Alert t n pending) (f : FutureId) (a : Settling) : (k.afterCall f a).Alert t n pending := by
  rcases k.afterCall_cases f a with ⟨he, -⟩ | ⟨-, -, ⟨o, he⟩ | ⟨g, -, he⟩⟩
  · rw [he]
    exact h
  · rw [he]
    exact h.beside (by simp)
  · rw [he]
    exact h.beside (by simp)

theorem Acts.alert {bars calls : FutureId → Prop} {log : List OwnerCall} (ha : Acts bars calls k log k') (h : k.Alert t n pending) :
    k'.Alert t n pending := by
  induction ha with
  | refl => exact h
  | act _ hd ih => exact hd.alert ih
  | call _ _ _ _ ih => exact ih.afterCall _ _

theorem Alert.runCallback (h : k.Alert t n pending) (g : FutureId) (c : Callback) : (k.runCallback g c).Alert t n pending := by
  cases c with
  | wake => exact h
  | forward f =>
    simp only [Kernel.runCallback, Kernel.forward]
    split
    · exact h
    · exact h.beside (by simp)
    · exact h.beside (by simp)
  | unlink s => exact h.beside rfl
  | relay w =>
    simp only [Kernel.runCallback]
    split
    · exact h
    · exact h.cancel w
    · exact h.beside (by simp)
  | unrelay inner w =>
    simp only [Kernel.runCallback]
    split
    · exact h
    · exact h.beside (by simp)

theorem Alert.finishTask (h : k.Alert t n pending) (x : FutureId) (r : Except Fault Data) : (k.finishTask x r).Alert t n pending := by
  obtain ⟨o, ho⟩ := k.finishTask_eq x r
  rw [ho]
  exact h.beside (by simp)

theorem Alert.newTask (h : k.Alert t n pending) (watched : Bool) : (k.newTask watched).1.Alert t n pending := by
  rw [newTask_fst]
  exact (h.newFuture _).beside rfl

/-- Another task waits for something. -/
theorem Alert.waitFor (h : k.Alert t n pending) (hx : x ≠ t) (f : FutureId) : (k.waitFor x f).Alert t n pending := by
  have hset : (k.awaiting x f).Alert t n pending := h.beside (by rw [task?_awaiting, if_neg hx.symm])
  cases ht : k.task? x with
  | none =>
    rw [waitFor_of_not_requested k (by simp [ht])]
    exact hset
  | some task =>
    cases hc : task.cancelRequested with
    | false =>
      rw [waitFor_of_not_requested k (by simp [ht, hc])]
      exact hset
    | true =>
      rw [waitFor_of_requested k ht hc]
      split
      · exact (hset.cancel f).updateTask hx _
      · exact hset.cancel f

/-- **A task that yields is asked to end with every scope that it is linked to.** -/
theorem Alert.linked (h : k.Alert t n pending) {c e : ScopeId} (ho : k.outcome? t = none) (hm : t ∈ (k.scopes.scope e).callbacks)
    (hc : k.scopes.isCancelled e = false) (hc' : (k.cancelScope c).scopes.isCancelled e = true) :
    (k.cancelScope c).requested t = true ∧ n < (k.cancelScope c).cancelsOf t := by
  have hlt : n < (k.cancelScope c).cancelsOf t := by
    obtain ⟨a, ha, -, hn, -⟩ := h
    have hk : n ≤ k.cancelsOf t := by simpa [cancelsOf, ha] using hn
    exact hk.trans_lt (cancelsOf_cancelScope (by simp [ha]) ho hm hc hc')
  exact ⟨(h.cancelScope c).requested_iff.mpr (Or.inr hlt), hlt⟩

end Alert

end Kernel

namespace Loop

variable {σ : Type}

open Kernel

variable {R : Rules} {l l' : Loop σ} {log : List OwnerCall} {t : FutureId} {n : Nat} {pending : Bool} {next : Except Fault Data → Proc σ}

/-! ## The task under way -/

/-- The task under way waits for nothing. -/
def Unheld (l : Loop σ) : Prop := ∀ t p, l.focus = some (t, p) → ∃ n pending, l.state.kernel.Alert t n pending

theorem Effect.unheld (he : Effect R l log l') (hs : Sound l) (h : Unheld l) : Unheld l' := by
  intro x p hp
  cases he with
  | idle hf => cases hf.symm.trans hp
  | called hf => cases hf.symm.trans hp
  | outside world hf => cases hf.symm.trans hp
  | started watched body hf => cases hf.symm.trans hp
  | finished => cases hp
  | blocked => cases hp
  | yielded => cases hp
  | @resumed j rest t next input hf hr hn hj =>
    obtain ⟨rfl, -⟩ : t = x ∧ _ := by simpa [takenUp] using hp
    obtain ⟨a, ha⟩ := Option.isSome_iff_exists.mp (hs.tasks t (by simp [hn]))
    have ha' : (l.dequeued rest).task? t = some a := ha
    refine ⟨_, _, alert_of_idle (a := { a with waitsFor := none, cancelRequested := false, started := true }) ?_ rfl⟩
    change ((l.dequeued rest).enterTask t input).1.task? t = _
    rw [enterTask_fst, task?_updateTask, if_pos rfl, ha']
    rfl
  | @accessed t f log hf ha =>
    obtain ⟨rfl, -⟩ : t = x ∧ _ := by simpa using hp
    obtain ⟨n, pending, hal⟩ := h t _ hf
    exact ⟨n, pending, ha.alert hal⟩
  | @spawned t watched body next hf =>
    obtain ⟨rfl, -⟩ : t = x ∧ _ := by simpa using hp
    obtain ⟨n, pending, hal⟩ := h t _ hf
    exact ⟨n, pending, hal.newTask watched⟩
  | @passed t f next o hf =>
    obtain ⟨rfl, -⟩ : t = x ∧ _ := by simpa using hp
    exact h t _ hf

/-- **A task under way waits for nothing.** -/
theorem Reachable.alert (hl : Reachable R log l) {p : Proc σ} (hf : l.focus = some (t, p)) :
    l.state.kernel.Alert t (l.state.kernel.cancelsOf t) (l.state.kernel.requested t) := by
  obtain ⟨world, hr⟩ := hl
  have hunheld : Unheld l := by
    clear hf
    induction hr with
    | refl => exact fun _ _ hp => by cases hp
    | tail hr hm ih => exact hm.effect.unheld (hr.sound (Sound.empty world)) ih
  obtain ⟨n, pending, a, ha, hw, -⟩ := hunheld t p hf
  exact alert_of_idle ha hw

/-! ## A turn -/

/-- A task sleeps for a turn. -/
structure Napping (t : FutureId) (n : Nat) (pending : Bool) (next : Except Fault Data → Proc σ) (l : Loop σ) : Prop where
  alert : l.state.kernel.Alert t n pending
  parked : l.next? t = some next
  due : .resume t (.ok .null) ∈ l.state.kernel.ready

/-- The move that ends the turn. -/
structure Roused (t : FutureId) (next : Except Fault Data → Proc σ) (l l' : Loop σ) : Prop where
  idle : l.focus = none
  taken : ∃ rest, l.state.kernel.ready = .resume t (.ok .null) :: rest ∧
    l' = l.takenUp ((l.dequeued rest).enterTask t (.ok .null)).1 t (next ((l.dequeued rest).enterTask t (.ok .null)).2)

theorem Roused.not_napping (h : Roused t next l l') : ¬ Napping t n pending next l' := by
  obtain ⟨rest, -, rfl⟩ := h.taken
  intro hn
  have hnone := hn.parked
  rw [next?_takenUp, if_pos rfl] at hnone
  cases hnone

theorem roused_of_job {rest : List Job} (h : Napping t n pending next l) (hf : l.focus = none)
    (hr : l.state.kernel.ready = .resume t (.ok .null) :: rest) (hstep : l.step = some l') : Roused t next l l' := by
  simp only [step, hf, hr, takeJob, Option.some.injEq] at hstep
  rw [resume_of_some (l := l.withKernel fun k => { k with ready := rest }) h.parked] at hstep
  exact ⟨hf, rest, hr, hstep.symm⟩

/-- Nothing but the end of its turn takes the task up. -/
theorem Napping.eq_resume (h : Napping t n pending next l) (hs : Sound l) {j : Job} {rest : List Job}
    (hr : l.state.kernel.ready = j :: rest) (hj : j.wakes t = true) : j = .resume t (.ok .null) := by
  by_contra hne
  have hone := hs.once t
  rw [wakeUps_dequeue _ hr, hj, if_pos rfl] at hone
  have hzero : (l.dequeued rest).wakeUps t = 0 := Nat.le_zero.mp (Nat.le_of_succ_le_succ hone)
  have hm : .resume t (.ok .null) ∈ rest := by
    have hdue := h.due
    rw [hr] at hdue
    exact (List.mem_cons.mp hdue).resolve_left (Ne.symm hne)
  exact not_wakes_of_wakeUps (r := .resume t) hzero ⟨_, hm⟩ rfl

/-- Whatever happens beside it, the task is asked at most. -/
theorem Effect.napping (he : Effect R l log l') (hs : Sound l) (h : Napping t n pending next l) :
    (l'.state.kernel.Alert t n pending ∧ l'.next? t = some next) ∨ (Roused t next l l' ∧ log = []) := by
  have hfocus : ∀ {x p}, l.focus = some (x, p) → x ≠ t := by
    rintro x p hf rfl
    have hnone := (hs.focus x p hf).2
    rw [h.parked] at hnone
    cases hnone
  have hpark : ∀ {x} (next' : Except Fault Data → Proc σ), x ≠ t → (l.park x next').next? t = some next := fun next' hx =>
    (next?_park l _ next' t).trans (by rw [if_neg (Ne.symm hx)]; exact h.parked)
  have hstart : ∀ (watched : Bool) (body : FutureId → Proc σ), (l.start watched body).1.next? t = some next := fun watched body =>
    (next?_start_of_ne l watched body h.alert.lt.ne).trans h.parked
  cases he with
  | idle => exact Or.inl ⟨h.alert.beside rfl, h.parked⟩
  | @resumed j rest x next' input hf hr hn hj =>
    by_cases hx : x = t
    · subst hx
      have hjob := h.eq_resume hs hr hj.wakes
      have hnext : next' = next := Option.some.inj (hn.symm.trans h.parked)
      subst hjob hnext
      rcases hj with hj | ⟨g, o, hj, -⟩
      · obtain ⟨-, rfl⟩ := Job.resume.inj hj
        exact Or.inr ⟨⟨hf, rest, hr, rfl⟩, rfl⟩
      · cases hj
    · have hal : (l.dequeued rest).Alert t n pending := h.alert.beside rfl
      refine Or.inl ⟨hal.updateTask hx _, ?_⟩
      rw [next?_takenUp, if_neg (Ne.symm hx)]
      exact h.parked
  | @called g c rest hf hr hc =>
    have hal : (l.dequeued rest).Alert t n pending := h.alert.beside rfl
    exact Or.inl ⟨hal.runCallback g c, h.parked⟩
  | @finished x r hf => exact Or.inl ⟨h.alert.finishTask x r, h.parked⟩
  | accessed hf ha => exact Or.inl ⟨ha.alert h.alert, h.parked⟩
  | @spawned x watched body next' hf hb => exact Or.inl ⟨h.alert.newTask watched, hstart watched body⟩
  | passed => exact Or.inl ⟨h.alert, h.parked⟩
  | @blocked x f next' hf ho hlt hsp => exact Or.inl ⟨h.alert.waitFor (hfocus hf) f, hpark next' (hfocus hf)⟩
  | @yielded x next' hf => exact Or.inl ⟨h.alert.beside rfl, hpark next' (hfocus hf)⟩
  | outside world hf ha => exact Or.inl ⟨ha.alert h.alert, h.parked⟩
  | started watched body hf hb => exact Or.inl ⟨h.alert.newTask watched, hstart watched body⟩

theorem Move.napping (hm : Move R l log l') (hs : Sound l) (h : Napping t n pending next l) :
    Napping t n pending next l' ∨ (Roused t next l l' ∧ log = []) := by
  rcases hm.effect.napping hs h with ⟨hal, hparked⟩ | hroused
  · refine Or.inl ⟨hal, hparked, ?_⟩
    have hdue := h.due
    rcases hm.queue with ⟨hf, hstep⟩ | ⟨js, hjs⟩
    · obtain ⟨j, rest, js, hj, hrest⟩ := queue_of_job hf hstep
      rw [hj] at hdue
      rw [hrest]
      rcases List.mem_cons.mp hdue with rfl | hm
      · -- the turn would be over
        obtain ⟨rest', -, hl⟩ := (roused_of_job h hf hj hstep).taken
        rw [hl, next?_takenUp, if_pos rfl] at hparked
        cases hparked
      · exact List.mem_append_left js hm
    · rw [hjs]
      exact List.mem_append_left js hdue
  · exact Or.inr hroused

theorem sleeps_napping (R : Rules) (t : FutureId) (n : Nat) (pending : Bool) (next : Except Fault Data → Proc σ) :
    Sleeps R (.resume t (.ok .null)) (fun l => Sound l ∧ Napping t n pending next l) (Roused t next) where
  kept hm h := (hm.napping h.1 h.2).imp (⟨hm.effect.sound h.1, ·⟩) id
  taken h hf hr hstep := roused_of_job h.2 hf hr hstep
  ended h hn := h.not_napping hn.2

/-- What a task is told when its turn is over: every request to end that came meanwhile, and nothing else. -/
theorem Roused.told (h : Roused t next l l') (hn : Napping t n pending next l) :
    l'.state.kernel.scopes = l.state.kernel.scopes ∧ l'.state.kernel.cancelsOf t = l.state.kernel.cancelsOf t ∧
    ((l'.focus = some (t, next (.error (.taskCancelled ""))) ∧ (pending = true ∨ n < l.state.kernel.cancelsOf t)) ∨
      (l'.focus = some (t, next (.ok .null)) ∧ ¬ (pending = true ∨ n < l.state.kernel.cancelsOf t))) := by
  obtain ⟨rest, -, rfl⟩ := h.taken
  have hcancels : ((l.dequeued rest).enterTask t (.ok .null)).1.cancelsOf t = l.state.kernel.cancelsOf t := by
    have htask : ((l.dequeued rest).enterTask t (.ok .null)).1.task? t =
        (l.state.kernel.task? t).map fun task => { task with waitsFor := none, cancelRequested := false, started := true } := by
      rw [enterTask_fst, task?_updateTask, if_pos rfl]
      rfl
    rw [cancelsOf, htask, Option.map_map]
    rfl
  have hreq := hn.alert.requested_iff
  refine ⟨rfl, hcancels, ?_⟩
  by_cases hr : l.state.kernel.requested t = true
  · refine Or.inl ⟨?_, hreq.mp hr⟩
    have hsnd : ((l.dequeued rest).enterTask t (.ok .null)).2 = .error (.taskCancelled "") := by
      have hr' : (((l.dequeued rest).task? t).map (·.cancelRequested)).getD false = true := hr
      rw [enterTask_snd, if_pos hr']
    rw [takenUp, hsnd]
  · refine Or.inr ⟨?_, fun hc => hr (hreq.mpr hc)⟩
    have hsnd : ((l.dequeued rest).enterTask t (.ok .null)).2 = .ok .null :=
      enterTask_snd_of_not_requested (Bool.eq_false_iff.mpr hr) _
    rw [takenUp, hsnd]

/-- The loop after a task has yielded. -/
def yielded (l : Loop σ) (t : FutureId) (next : Except Fault Data → Proc σ) : Loop σ :=
  { (l.park t next).withKernel (·.queue [.resume t (.ok .null)]) with focus := none }

theorem napping_yielded (h : l.state.kernel.Alert t n pending) : Napping t n pending next (l.yielded t next) where
  alert := h.beside rfl
  parked := (next?_park l t next t).trans (if_pos rfl)
  due := List.mem_append_right _ (List.mem_singleton.mpr rfl)

/-- **A task that yields goes on once**, and is told of the requests that came meanwhile. -/
theorem Run.turn (hr : Run R l log l') (hs : Sound l) (hf : l.focus = some (t, .turn next)) (h : l.state.kernel.Alert t n pending) :
    l' = l ∨ Napping t n pending next l' ∨ ∃ log₁ log₂ l₁ r, Run R l log₁ l₁ ∧ l₁.focus = some (t, next r) ∧ Run R l₁ log₂ l' ∧
      ((r = .error (.taskCancelled "") ∧ (pending = true ∨ n < l₁.state.kernel.cancelsOf t)) ∨
        (r = .ok .null ∧ ¬ (pending = true ∨ n < l₁.state.kernel.cancelsOf t))) := by
  rcases hr.head with rfl | ⟨log₁, log₂, l₁, hm, hr₂⟩
  · exact Or.inl rfl
  · have hl : l₁ = l.yielded t next := hm.of_focus hf
    have hnap : Napping t n pending next l₁ := hl ▸ napping_yielded h
    rcases hr₂.woken (sleeps_napping R t n pending next).kept ⟨hm.effect.sound hs, hnap⟩ with
      ⟨-, hn⟩ | ⟨log₃, log₄, l₂, l₃, hr₃, ⟨-, hn⟩, hroused, hm', hr₄⟩
    · exact Or.inr (Or.inl hn)
    · obtain ⟨-, hcancels, htold⟩ := hroused.told hn
      have hrun : Run R l (log₁ ++ log₃ ++ []) l₃ := ((Run.single hm).trans hr₃).tail hm'
      rw [← hcancels] at htold
      rcases htold with ⟨hf₃, hc⟩ | ⟨hf₃, hc⟩
      · exact Or.inr (Or.inr ⟨_, _, l₃, _, hrun, hf₃, hr₄, Or.inl ⟨rfl, hc⟩⟩)
      · exact Or.inr (Or.inr ⟨_, _, l₃, _, hrun, hf₃, hr₄, Or.inr ⟨rfl, hc⟩⟩)

end Loop

end ScriptFlow
