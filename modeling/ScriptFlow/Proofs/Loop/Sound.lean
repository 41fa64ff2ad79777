import Mathlib
import ScriptFlow.Proofs.Loop.Turns

/-!
# Loops that hold together

* `Loop.Effect` — what a move does, case by case; `Loop.Move.effect` — there are no other cases.
* `Loop.Sound` — the invariant of a loop: references are to futures that exist, and a task is resumed at most once for each time it waits.
* `Loop.Reachable.sound` — every loop that can be reached holds together.
-/

namespace ScriptFlow

namespace Loop

variable {σ : Type}

open Kernel

/-- What a task that waits does next. -/
def next? (l : Loop σ) (x : FutureId) : Option (Except Fault Data → Proc σ) := (l.parked[x]?).join

@[simp] theorem next?_withKernel (l : Loop σ) (f : Kernel → Kernel) (x : FutureId) : (l.withKernel f).next? x = l.next? x := rfl

@[simp] theorem state_park (l : Loop σ) (t : FutureId) (next : Except Fault Data → Proc σ) : (l.park t next).state = l.state := rfl

theorem next?_park (l : Loop σ) (t : FutureId) (next : Except Fault Data → Proc σ) (x : FutureId) :
    (l.park t next).next? x = if x = t then some next else l.next? x := by
  unfold next? park
  simp only [Array.getElem?_modify, Array.getElem?_append, Array.getElem?_replicate]
  by_cases hx : x = t
  · subst hx
    by_cases hlt : x < l.parked.size
    · simp [hlt]
    · have hm : x - l.parked.size < x + 1 - l.parked.size := by grind
      simp [hlt, hm]
  · by_cases hlt : x < l.parked.size
    · simp [hx, Ne.symm hx, hlt]
    · have hnone : l.parked[x]? = none := Array.getElem?_eq_none (Nat.le_of_not_lt hlt)
      simp only [hx, Ne.symm hx, hlt, hnone, if_false]
      split <;> rfl

/-- The loop after a task was taken up again. -/
def takenUp (l : Loop σ) (k : Kernel) (t : FutureId) (p : Proc σ) : Loop σ :=
  { state := { l.state with kernel := k }, parked := l.parked.modify t fun _ => none, focus := some (t, p) }

theorem next?_takenUp (l : Loop σ) (k : Kernel) (t : FutureId) (p : Proc σ) (x : FutureId) :
    (l.takenUp k t p).next? x = if x = t then none else l.next? x := by
  unfold next? takenUp
  simp only [Array.getElem?_modify]
  by_cases hx : x = t
  · subst hx
    cases h : l.parked[x]? <;> simp
  · simp [hx, Ne.symm hx]

theorem resume_of_some {l : Loop σ} {t : FutureId} {next : Except Fault Data → Proc σ} (h : l.next? t = some next)
    (input : Except Fault Data) : l.resume t input =
      l.takenUp (l.state.kernel.enterTask t input).1 t (next (l.state.kernel.enterTask t input).2) := by
  have hp : l.parked[t]? = some (some next) := by simpa [next?, Option.join_eq_some_iff] using h
  simp only [resume, hp]
  rfl

theorem resume_of_none {l : Loop σ} {t : FutureId} (h : l.next? t = none) (input : Except Fault Data) : l.resume t input = l := by
  unfold resume
  split
  · rename_i next hp
    simp [next?, hp] at h
  · rfl

/-- The kernel without its first job. -/
abbrev dequeued (l : Loop σ) (rest : List Job) : Kernel := { l.state.kernel with ready := rest }

/-- Does a job take a task up again, and with what? -/
def Wakes (k : Kernel) (j : Job) (t : FutureId) (input : Except Fault Data) : Prop :=
  j = .resume t input ∨ ∃ g o, j = .callback g (.wake t) ∧ k.outcome? g = some o ∧ input = o.result

theorem Wakes.wakes {k : Kernel} {j : Job} {t : FutureId} {input : Except Fault Data} (h : Wakes k j t input) : j.wakes t = true := by
  rcases h with rfl | ⟨g, o, rfl, -, -⟩ <;> simp [Job.wakes]

/-- What a move does. -/
inductive Effect (R : Rules) (l : Loop σ) : List OwnerCall → Loop σ → Prop where
  /-- a task is called that does not wait -/
  | idle {j rest t} (hf : l.focus = none) (hr : l.state.kernel.ready = j :: rest) (hj : j.wakes t = true)
      (hn : l.next? t = none ∨ ∃ g, j = .callback g (.wake t) ∧ l.state.kernel.outcome? g = none) :
      Effect R l [] (l.withKernel fun _ => l.dequeued rest)
  | resumed {j rest t next input} (hf : l.focus = none) (hr : l.state.kernel.ready = j :: rest) (hn : l.next? t = some next)
      (hj : Wakes l.state.kernel j t input) : Effect R l [] (l.takenUp ((l.dequeued rest).enterTask t input).1 t
        (next ((l.dequeued rest).enterTask t input).2))
  | called {g c rest} (hf : l.focus = none) (hr : l.state.kernel.ready = .callback g c :: rest) (hc : ∀ t, c ≠ .wake t) :
      Effect R l [] (l.withKernel fun _ => (l.dequeued rest).runCallback g c)
  | finished {t r} (hf : l.focus = some (t, .finish r)) : Effect R l [] { l.withKernel (·.finishTask t r) with focus := none }
  | accessed {t f log} (hf : l.focus = some (t, .access f))
      (h : Acts (R.bars (some t)) R.calls l.state.kernel log (f l.state).1.kernel) :
      Effect R l log { l with state := (f l.state).1, focus := some (t, (f l.state).2) }
  | spawned {t watched body next} (hf : l.focus = some (t, .spawn watched body next))
      (h : ∀ a, ¬ R.bars a l.state.kernel.futures.size) :
      Effect R l [] { (l.start watched body).1 with focus := some (t, next l.state.kernel.futures.size) }
  /-- what the task waits for is decided already -/
  | passed {t f next o} (hf : l.focus = some (t, .await f next)) (ho : l.state.kernel.outcome? f = some o) :
      Effect R l [] { l with focus := some (t, next o.result) }
  | blocked {t f next} (hf : l.focus = some (t, .await f next)) (ho : l.state.kernel.outcome? f = none)
      (hlt : f < l.state.kernel.futures.size) (hs : l.state.kernel.Spares (R.bars (some t)) f) :
      Effect R l [] { (l.park t next).withKernel (·.waitFor t f) with focus := none }
  | yielded {t next} (hf : l.focus = some (t, .turn next)) :
      Effect R l [] { (l.park t next).withKernel (·.queue [.resume t (.ok .null)]) with focus := none }
  | outside {log k} (world : σ) (hf : l.focus = none) (h : Acts (R.bars none) R.calls l.state.kernel log k) :
      Effect R l log { l with state := { kernel := k, world := world } }
  | started (watched : Bool) (body : FutureId → Proc σ) (hf : l.focus = none) (h : ∀ a, ¬ R.bars a l.state.kernel.futures.size) :
      Effect R l [] (l.start watched body).1

theorem effect_resume {R : Rules} {l : Loop σ} {j : Job} {rest : List Job} {t : FutureId} {input : Except Fault Data}
    (hf : l.focus = none) (hr : l.state.kernel.ready = j :: rest) (hj : Wakes l.state.kernel j t input) :
    Effect R l [] ((l.withKernel fun k => { k with ready := rest }).resume t input) := by
  cases hn : l.next? t with
  | none =>
    rw [resume_of_none (by simpa using hn)]
    exact .idle hf hr hj.wakes (Or.inl hn)
  | some next =>
    rw [resume_of_some (by simpa using hn)]
    exact .resumed hf hr hn hj

/-- There is nothing else that a move does. -/
theorem Move.effect {R : Rules} {l l' : Loop σ} {log : List OwnerCall} (h : Move R l log l') : Effect R l log l' := by
  cases h with
  | outside world hf h => exact .outside world hf h
  | start watched body hf h => exact .started watched body hf h
  | job hf hs =>
    simp only [step, hf] at hs
    cases hr : l.state.kernel.ready with
    | nil => simp [hr] at hs
    | cons j rest =>
      simp only [hr, Option.some.injEq] at hs
      subst hs
      cases j with
      | resume t input => exact effect_resume hf hr (Or.inl rfl)
      | callback g c =>
        cases c with
        | wake t =>
          simp only [takeJob]
          cases ho : ((l.withKernel fun k => { k with ready := rest }).state.kernel.future g).outcome with
          | none => exact .idle hf hr (by simp [Job.wakes]) (Or.inr ⟨g, rfl, ho⟩)
          | some o => exact effect_resume hf hr (Or.inr ⟨g, o, rfl, ho, rfl⟩)
        | forward _ => exact .called hf hr (by simp)
        | unlink _ => exact .called hf hr (by simp)
        | relay _ => exact .called hf hr (by simp)
        | unrelay _ _ => exact .called hf hr (by simp)
  | @node t p _ _ hf hp hs =>
    simp only [step, hf, Option.some.injEq] at hs
    subst hs
    have hl : l = { l with focus := some (t, p) } := by rw [← hf]
    cases hp with
    | finish r => exact .finished hf
    | access h => exact .accessed hf h
    | spawn watched body next h => exact .spawned hf h
    | turn next => exact .yielded hf
    | await next hlt hsp =>
      rename_i f
      simp only [advance]
      cases ho : (l.state.kernel.future f).outcome with
      | some o => exact .passed hf ho
      | none => exact .blocked hf ho hlt hsp

/-! ## The invariant -/

/-- The invariant of a loop. -/
structure Sound (l : Loop σ) : Prop where
  refs : ∀ r, l.state.kernel.Holds r → ∀ x ∈ r.touches, x < l.state.kernel.futures.size
  once : ∀ x, l.state.kernel.wakeUps x ≤ 1
  asleep : ∀ x, l.next? x = none → l.state.kernel.wakeUps x = 0
  tasks : ∀ x, (l.next? x).isSome → (l.state.kernel.task? x).isSome
  focus : ∀ x p, l.focus = some (x, p) → (l.state.kernel.task? x).isSome ∧ l.next? x = none
  queued : ∀ g c, .callback g c ∈ l.state.kernel.ready → l.state.kernel.outcome? g ≠ none
  whole : l.state.kernel.scopes.Whole

theorem Sound.empty (world : σ) : Sound ({ state := { world := world } } : Loop σ) := by
  have hnone : ∀ x, ({ state := { world := world } } : Loop σ).next? x = none := fun x => rfl
  refine ⟨?_, ?_, ?_, ?_, ?_, ?_, ?_⟩
  · intro r hr
    cases r with
    | pending g c => simp [Holds, listed, future] at hr
    | resume t => simp [Holds] at hr
    | registered s f => simp [Holds] at hr
    | waiting x f => simp [Holds, task?, future] at hr
  · intro x
    simp [wakeUps, listedWakes, queuedWakes]
  · intro x _
    simp [wakeUps, listedWakes, queuedWakes]
  · intro x hx
    simp [hnone] at hx
  · simp
  · simp
  · refine ⟨?_, ?_⟩ <;> simp

section Steps

variable {l l' : Loop σ}

theorem isSome_task?_grows {new : Ref → Prop} {spent : FutureId → Callback → Prop} {k k' : Kernel} (h : Grows new spent k k')
    {x : FutureId} (hx : (k.task? x).isSome) : (k'.task? x).isSome := by
  obtain ⟨a, ha⟩ := Option.isSome_iff_exists.mp hx
  obtain ⟨a', ha', -⟩ := h.task x a ha
  simp [ha']

/-- References stay in range when the kernel grows. -/
theorem Sound.refs_grows {new : Ref → Prop} {spent : FutureId → Callback → Prop} {k' : Kernel} (h : Sound l)
    (hg : Grows new spent l.state.kernel k') (hnew : ∀ r, new r → ∀ x ∈ r.touches, x < k'.futures.size) :
    ∀ r, k'.Holds r → ∀ x ∈ r.touches, x < k'.futures.size := by
  intro r hr x hx
  rcases hg.refs r hr with hr | hr
  · exact Nat.lt_of_lt_of_le (h.refs r hr x hx) hg.size
  · exact hnew r hr x hx

theorem Sound.queued_grows {new : Ref → Prop} {spent : FutureId → Callback → Prop} {k' : Kernel} (h : Sound l)
    (hg : Grows new spent l.state.kernel k') : ∀ g c, .callback g c ∈ k'.ready → k'.outcome? g ≠ none := by
  intro g c hm
  obtain ⟨js, hjs, hd⟩ := hg.queue
  rw [hjs] at hm
  exact (List.mem_append.mp hm).elim (fun hm => hg.done_of_done (h.queued g c hm)) (hd g c)

/-- The kernel grows, and no task is put to sleep or taken up. -/
theorem Sound.grows {new : Ref → Prop} {spent : FutureId → Callback → Prop} (h : Sound l)
    (hg : Grows new spent l.state.kernel l'.state.kernel)
    (hnew : ∀ r, new r → (∀ x ∈ r.touches, x < l'.state.kernel.futures.size) ∧ ∀ x, ¬ r.Wakes x)
    (hnext : ∀ x, l'.next? x = l.next? x) (hfocus : ∀ x p, l'.focus = some (x, p) → ∃ p', l.focus = some (x, p'))
    (hwhole : l'.state.kernel.scopes.Whole) : Sound l' := by
  have hwakes : ∀ x, l'.state.kernel.wakeUps x ≤ l.state.kernel.wakeUps x := fun x => hg.wakes x fun r hr => (hnew r hr).2 x
  refine ⟨h.refs_grows hg fun r hr => (hnew r hr).1, fun x => (hwakes x).trans (h.once x), ?_, ?_, ?_, h.queued_grows hg, hwhole⟩
  · intro x hx
    rw [hnext] at hx
    exact Nat.le_zero.mp ((h.asleep x hx) ▸ hwakes x)
  · intro x hx
    rw [hnext] at hx
    exact isSome_task?_grows hg (h.tasks x hx)
  · intro x p hp
    obtain ⟨p', hp'⟩ := hfocus x p hp
    obtain ⟨ht, hn⟩ := h.focus x p' hp'
    exact ⟨isSome_task?_grows hg ht, by rwa [hnext]⟩

/-- A task that is taken up again is not going to be a second time. -/
theorem Sound.wakeUps_dequeued {j : Job} {rest : List Job} {t : FutureId} {input : Except Fault Data} (h : Sound l)
    (hr : l.state.kernel.ready = j :: rest) (hj : Wakes l.state.kernel j t input) : (l.dequeued rest).wakeUps t = 0 := by
  have hone := h.once t
  rw [wakeUps_dequeue _ hr, hj.wakes, if_pos rfl] at hone
  exact Nat.le_zero.mp (Nat.le_of_succ_le_succ hone)

/-- The first job is taken. -/
theorem Sound.dequeue {j : Job} {rest : List Job} (h : Sound l) (hr : l.state.kernel.ready = j :: rest) :
    Sound (l.withKernel fun _ => l.dequeued rest) := by
  have hwakes : ∀ x, (l.dequeued rest).wakeUps x ≤ l.state.kernel.wakeUps x := fun x => by
    rw [wakeUps_dequeue _ hr]
    exact Nat.le_add_right _ _
  refine ⟨fun r hh => h.refs r (holds_of_dequeued _ hr hh), fun x => (hwakes x).trans (h.once x), ?_, h.tasks, h.focus, ?_, h.whole⟩
  · exact fun x hx => Nat.le_zero.mp ((h.asleep x hx) ▸ hwakes x)
  · intro g c hm
    refine h.queued g c ?_
    rw [hr]
    exact List.mem_cons_of_mem _ hm

theorem next?_start (l : Loop σ) (watched : Bool) (body : FutureId → Proc σ) (x : FutureId) : ((l.start watched body).1.next? x).isSome =
    (decide (x = l.state.kernel.futures.size) || (l.next? x).isSome) := by
  have hstart : (l.start watched body).1.next? x = _ :=
    next?_park { l with state := { l.state with kernel := (l.state.kernel.newTask watched).1 } } l.state.kernel.futures.size _ x
  rw [hstart]
  split
  · rename_i hx
    simp [hx]
  · rename_i hx
    simp [hx]
    rfl

theorem Sound.start (h : Sound l) (watched : Bool) (body : FutureId → Proc σ) {l' : Loop σ}
    (hstate : l'.state.kernel = (l.state.kernel.newTask watched).1)
    (hnext : ∀ x, l'.next? x = (l.start watched body).1.next? x)
    (hfocus : ∀ x p, l'.focus = some (x, p) → ∃ p', l.focus = some (x, p')) : Sound l' := by
  have hg := l.state.kernel.grows_newTask watched
  rw [← hstate] at hg
  have hfresh : l.next? l.state.kernel.futures.size = none := by
    cases hn : l.next? l.state.kernel.futures.size with
    | none => rfl
    | some next =>
      obtain ⟨task, ht⟩ := Option.isSome_iff_exists.mp (h.tasks l.state.kernel.futures.size (by simp [hn]))
      exact absurd (lt_size_of_task _ ht) (Nat.lt_irrefl _)
  have hsize : l'.state.kernel.futures.size = l.state.kernel.futures.size + 1 := by
    rw [hstate, newTask_fst]
    simp
  have hother : ∀ x, x ≠ l.state.kernel.futures.size → l'.state.kernel.wakeUps x ≤ l.state.kernel.wakeUps x := by
    intro x hx
    refine hg.wakes x ?_
    rintro r rfl hw
    exact hx hw.symm
  have hself : l'.state.kernel.wakeUps l.state.kernel.futures.size ≤ 1 := by
    rw [hstate, newTask_fst, wakeUps_queue_resume, if_pos rfl]
    have hnew : Calm l.state.kernel (l.state.kernel.newFuture { task := some {}, watched := watched }).1 :=
      calm_newFuture _ rfl (by rintro a ⟨⟩; rfl)
    have hcalm := hnew.wakes l.state.kernel.futures.size fun _ => False.elim
    rw [h.asleep _ hfresh] at hcalm
    omega
  have hsome : ∀ x, (l'.next? x).isSome = (decide (x = l.state.kernel.futures.size) || (l.next? x).isSome) := fun x => by
    rw [hnext, next?_start]
  refine ⟨?_, ?_, ?_, ?_, ?_, h.queued_grows hg, ?_⟩
  · refine h.refs_grows hg ?_
    rintro r rfl x hx
    rw [List.mem_singleton.mp hx, hsize]
    exact Nat.lt_succ_self _
  · intro x
    by_cases hx : x = l.state.kernel.futures.size
    · exact hx ▸ hself
    · exact (hother x hx).trans (h.once x)
  · intro x hx
    have hnone := hsome x
    simp only [hx, Option.isSome_none, Bool.false_eq, Bool.or_eq_false_iff, decide_eq_false_iff_not, Option.isSome_eq_false_iff,
      Option.isNone_iff_eq_none] at hnone
    exact Nat.le_zero.mp ((h.asleep x hnone.2) ▸ hother x hnone.1)
  · intro x hx
    rw [hsome, Bool.or_eq_true, decide_eq_true_eq] at hx
    rcases hx with rfl | hx
    · rw [hstate, newTask_fst]
      simp [task?, future_newFuture]
    · exact isSome_task?_grows hg (h.tasks x hx)
  · intro x p hp
    obtain ⟨p', hp'⟩ := hfocus x p hp
    obtain ⟨ht, hn⟩ := h.focus x p' hp'
    obtain ⟨task, htask⟩ := Option.isSome_iff_exists.mp ht
    have hx : x ≠ l.state.kernel.futures.size := (lt_size_of_task _ htask).ne
    refine ⟨isSome_task?_grows hg ht, ?_⟩
    have hnone := hsome x
    simpa [hx, hn] using hnone
  · rw [hstate]
    exact h.whole

/-- A task is put to sleep: it has one reason to be resumed. -/
theorem Sound.sleep {new : Ref → Prop} (h : Sound l) {t : FutureId} {p : Proc σ} (hf : l.focus = some (t, p))
    (hg : Grows new (fun _ _ => False) l.state.kernel l'.state.kernel)
    (hnew : ∀ r, new r → (∀ x ∈ r.touches, x < l'.state.kernel.futures.size) ∧ ∀ x, r.Wakes x → x = t)
    (hself : l'.state.kernel.wakeUps t ≤ l.state.kernel.wakeUps t + 1) {next : Except Fault Data → Proc σ}
    (hnext : ∀ x, l'.next? x = if x = t then some next else l.next? x) (hfocus : l'.focus = none)
    (hwhole : l'.state.kernel.scopes.Whole) : Sound l' := by
  obtain ⟨ht, hn⟩ := h.focus t p hf
  have hother : ∀ x, x ≠ t → l'.state.kernel.wakeUps x ≤ l.state.kernel.wakeUps x :=
    fun x hx => hg.wakes x fun r hr hw => hx ((hnew r hr).2 x hw)
  refine ⟨h.refs_grows hg fun r hr => (hnew r hr).1, ?_, ?_, ?_, ?_, h.queued_grows hg, hwhole⟩
  · intro x
    by_cases hx : x = t
    · rw [h.asleep t hn] at hself
      exact hx ▸ hself
    · exact (hother x hx).trans (h.once x)
  · intro x hx
    rw [hnext] at hx
    split at hx
    · cases hx
    · rename_i hxt
      exact Nat.le_zero.mp ((h.asleep x hx) ▸ hother x hxt)
  · intro x hx
    rw [hnext] at hx
    split at hx
    · rename_i hxt
      exact hxt ▸ isSome_task?_grows hg ht
    · exact isSome_task?_grows hg (h.tasks x hx)
  · simp [hfocus]

/-- A move changes the forest by its operations only. -/
theorem Effect.ops {R : Rules} {log : List OwnerCall} (he : Effect R l log l') : l.state.kernel.scopes.Ops l'.state.kernel.scopes := by
  cases he with
  | idle => exact .refl
  | resumed => exact .refl
  | @called g c rest => exact ops_runCallback (l.dequeued rest) g c
  | @finished t r =>
    change l.state.kernel.scopes.Ops (l.state.kernel.finishTask t r).scopes
    obtain ⟨o, ho⟩ := l.state.kernel.finishTask_eq t r
    rw [ho, scopes_resolve]
  | accessed _ ha => exact ha.ops
  | spawned => exact .refl
  | passed => exact .refl
  | @blocked t f =>
    change l.state.kernel.scopes.Ops (l.state.kernel.waitFor t f).scopes
    rw [scopes_waitFor]
  | yielded => exact .refl
  | outside _ _ ha => exact ha.ops
  | started => exact .refl

/-- **A move keeps a loop sound.** -/
theorem Effect.sound {R : Rules} {log : List OwnerCall} (he : Effect R l log l') (h : Sound l) : Sound l' := by
  have hw := he.ops.whole h.whole
  cases he with
  | idle hf hr => exact h.dequeue hr
  | @called g c rest hf hr hc =>
    have hd := h.dequeue hr
    exact hd.grows (grows_runCallback (l.dequeued rest) g c) (fun _ => False.elim) (fun _ => rfl)
      (by simp [withKernel, hf]) hw
  | @resumed j rest t next input hf hr hn hj =>
    have hd := h.dequeue hr
    have hg := (l.dequeued rest).calm_enterTask t input
    have hwakes : ∀ x, ((l.dequeued rest).enterTask t input).1.wakeUps x ≤ (l.dequeued rest).wakeUps x :=
      fun x => hg.wakes x fun _ => False.elim
    refine ⟨hd.refs_grows hg fun _ => False.elim, fun x => (hwakes x).trans (hd.once x), ?_, ?_, ?_, hd.queued_grows hg, hw⟩
    · intro x hx
      rw [next?_takenUp] at hx
      split at hx
      · rename_i hxt
        have hzero := hwakes t
        rw [h.wakeUps_dequeued hr hj] at hzero
        exact Nat.le_zero.mp (hxt ▸ hzero)
      · exact Nat.le_zero.mp ((hd.asleep x hx) ▸ hwakes x)
    · intro x hx
      rw [next?_takenUp] at hx
      split at hx
      · cases hx
      · exact isSome_task?_grows hg (hd.tasks x hx)
    · intro x p hp
      obtain ⟨rfl, -⟩ : t = x ∧ _ := by simpa [takenUp] using hp
      exact ⟨isSome_task?_grows hg (hd.tasks t (by simp [hn])), by simp [next?_takenUp]⟩
  | @finished t r hf =>
    exact h.grows (l.state.kernel.calm_finishTask t r)
      (fun _ => False.elim) (fun _ => rfl) (by simp) hw
  | @accessed t f log hf ha =>
    refine h.grows ha.grows
      (fun r hr => ⟨fun x hx => (hr.1 x hx).1, hr.2⟩) (fun _ => rfl) ?_ hw
    intro x p hp
    obtain ⟨rfl, -⟩ : t = x ∧ _ := by simpa using hp
    exact ⟨_, hf⟩
  | @passed t f next o hf ho =>
    have hg : Calm l.state.kernel l.state.kernel := Grows.refl _
    refine h.grows hg (fun _ => False.elim) (fun _ => rfl) ?_ hw
    intro x p hp
    obtain ⟨rfl, -⟩ : t = x ∧ _ := by simpa using hp
    exact ⟨_, hf⟩
  | outside world hf ha =>
    exact h.grows ha.grows
      (fun r hr => ⟨fun x hx => (hr.1 x hx).1, hr.2⟩) (fun _ => rfl) (by simp [hf]) hw
  | started watched body hf hb => exact h.start watched body rfl (fun _ => rfl) fun x p hp => ⟨p, hp⟩
  | @spawned t watched body next hf hb =>
    refine h.start watched body rfl
      (fun _ => rfl) ?_
    intro x p hp
    obtain ⟨rfl, -⟩ : t = x ∧ _ := by simpa using hp
    exact ⟨_, hf⟩
  | @yielded t next hf =>
    have hg : Grows (fun r => r = .resume t) (fun _ _ => False) l.state.kernel (l.state.kernel.queue [.resume t (.ok .null)]) :=
      l.state.kernel.grows_queue_resume t _ rfl
    refine h.sleep hf hg ?_ ?_ (fun x => next?_park l t next x) rfl hw
    · rintro r rfl
      refine ⟨fun x hx => ?_, fun x hx => hx.symm⟩
      obtain ⟨task, ht⟩ := Option.isSome_iff_exists.mp (h.focus t _ hf).1
      rw [List.mem_singleton.mp hx]
      exact lt_size_of_task _ ht
    · have := l.state.kernel.wakeUps_queue_resume t t (.ok .null)
      rw [if_pos rfl] at this
      exact this.le
  | @blocked t f next hf ho hlt hs =>
    have hg : Grows (fun r => r = .pending f (.wake t) ∨ r = .waiting t f) (fun _ _ => False) l.state.kernel
        (l.state.kernel.waitFor t f) :=
      (grows_addCallback _ f (Or.inl rfl)).trans ((l.state.kernel.grows_waitFor t f).mono (fun r hr => Or.inr hr) fun _ _ h => h)
    refine h.sleep hf hg ?_
      (l.state.kernel.wakeUps_waitFor_le t f) (fun x => next?_park l t next x) rfl hw
    · have htlt : t < (l.state.kernel.waitFor t f).futures.size := by
        obtain ⟨task, ht⟩ := Option.isSome_iff_exists.mp (h.focus t _ hf).1
        exact Nat.lt_of_lt_of_le (lt_size_of_task _ ht) hg.size
      rintro r (rfl | rfl)
      · refine ⟨fun x hx => ?_, fun x hx => ?_⟩
        · rw [List.mem_singleton.mp hx]
          exact htlt
        · cases hx
          rfl
      · refine ⟨fun x hx => ?_, fun x => False.elim⟩
        rw [List.mem_singleton.mp hx]
        exact Nat.lt_of_lt_of_le hlt hg.size

end Steps

/-- **A move undoes nothing**, but for the job that it takes. -/
theorem Effect.grows {R : Rules} {log : List OwnerCall} {l l' : Loop σ} (he : Effect R l log l') :
    ∃ ready, Grows (fun _ => True) (fun _ _ => True) { l.state.kernel with ready := ready } l'.state.kernel := by
  have hall : ∀ {new : Ref → Prop} {spent : FutureId → Callback → Prop} {k k' : Kernel}, Grows new spent k k' →
      Grows (fun _ => True) (fun _ _ => True) k k' := fun h => h.mono (fun _ _ => trivial) fun _ _ _ => trivial
  have hlisten : ∀ {k : Kernel} (f : FutureId) (c : Callback), Grows (fun _ => True) (fun _ _ => True) k (k.addCallback f c) :=
    fun {k} f _ => grows_addCallback k f trivial
  have hqueue : ∀ {k : Kernel} (t : FutureId), Grows (fun _ => True) (fun _ _ => True) k (k.queue [.resume t (.ok .null)]) :=
    fun {k} t => k.grows_queue_resume t _ trivial
  cases he with
  | @idle j rest => exact ⟨rest, Grows.refl _⟩
  | @resumed j rest t next input => exact ⟨rest, hall ((l.dequeued rest).calm_enterTask t input)⟩
  | @called g c rest => exact ⟨rest, hall (grows_runCallback (l.dequeued rest) g c)⟩
  | @finished t r => exact ⟨_, hall (l.state.kernel.calm_finishTask t r)⟩
  | accessed _ ha => exact ⟨_, hall ha.grows⟩
  | @spawned t watched => exact ⟨_, hall (l.state.kernel.grows_newTask watched)⟩
  | passed => exact ⟨_, Grows.refl _⟩
  | @blocked t f => exact ⟨_, (hlisten f (.wake t)).trans (hall (l.state.kernel.grows_waitFor t f))⟩
  | @yielded t => exact ⟨_, hqueue t⟩
  | outside _ _ ha => exact ⟨_, hall ha.grows⟩
  | started watched => exact ⟨_, hall (l.state.kernel.grows_newTask watched)⟩

/-- Outcomes stay. -/
theorem Run.outcome? {R : Rules} {log : List OwnerCall} {l l' : Loop σ} (hr : Run R l log l') {f : FutureId} {o : Outcome}
    (ho : l.state.kernel.outcome? f = some o) : l'.state.kernel.outcome? f = some o := by
  induction hr with
  | refl => exact ho
  | tail _ hm ih =>
    obtain ⟨ready, hg⟩ := hm.effect.grows
    exact hg.outcome f o ih

theorem Run.size_le {R : Rules} {log : List OwnerCall} {l l' : Loop σ} (hr : Run R l log l') :
    l.state.kernel.futures.size ≤ l'.state.kernel.futures.size := by
  induction hr with
  | refl => exact Nat.le_refl _
  | tail _ hm ih =>
    obtain ⟨_, hg⟩ := hm.effect.grows
    exact ih.trans hg.size

theorem Run.ops {R : Rules} {log : List OwnerCall} {l l' : Loop σ} (hr : Run R l log l') :
    l.state.kernel.scopes.Ops l'.state.kernel.scopes := by
  induction hr with
  | refl => exact .refl
  | tail _ hm ih => exact ih.trans hm.effect.ops

theorem Run.sound {R : Rules} {l l' : Loop σ} {log : List OwnerCall} (hr : Run R l log l') (h : Sound l) : Sound l' := by
  induction hr with
  | refl => exact h
  | tail _ hm ih => exact hm.effect.sound ih

theorem Reachable.sound {R : Rules} {log : List OwnerCall} {l : Loop σ} (h : Reachable R log l) : Sound l := by
  obtain ⟨world, hr⟩ := h
  exact hr.sound (Sound.empty world)

/-- A loop in which a first task begins to run, beside a scope. -/
def entered (world : σ) (body : FutureId → Proc σ) : Loop σ :=
  ((({ state := { kernel := ({} : Kernel).newScope.1, world := world } } : Loop σ).start false body).1.withKernel
    fun k => { k with ready := [] }).resume 0 (.ok .null)

theorem reachable_entered {R : Rules} (hR : ∀ a, ¬ R.bars a 0) (world : σ) (body : FutureId → Proc σ) :
    Reachable R [] (entered world body) := by
  have hacts : Acts (R.bars none) R.calls ({} : Kernel) [] ({} : Kernel).newScope.1 := Acts.refl.act .newScope
  have hout : Move R ({ state := { world := world } } : Loop σ) [] { state := { kernel := ({} : Kernel).newScope.1, world := world } } :=
    .outside world rfl hacts
  have hstart := Move.start (R := R) (l := ({ state := { kernel := ({} : Kernel).newScope.1, world := world } } : Loop σ)) false body rfl hR
  exact ⟨world, ((Run.single hout).tail hstart).tail (.job rfl rfl)⟩

end Loop

end ScriptFlow
