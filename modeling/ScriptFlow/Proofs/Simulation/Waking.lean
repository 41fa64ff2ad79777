import Mathlib
import ScriptFlow.Proofs.Workflow.Cancellation

/-!
# The order in which pauses end

The simulated engine has no timers: a pause takes one turn of the loop, however long it is said to be. The queue of the loop decides which of several
pauses ends first.

* `Loop.Nap` — a task that sleeps for a turn; `Loop.Nap.Before` — of two such tasks one is due before the other; `Loop.Run.before` — **the first stays first**.
* `Simulator.Sleeper` — a task in a pause; `Simulator.pauses_end_in_order` — **pauses end in the order in which they began**, and at its end each sets the
  clock to its wake-up time unless the clock is past it.
* `Simulator.longer_pause_ends_first` — so a short pause can end late.
-/

namespace ScriptFlow

namespace Loop

open Kernel

variable {σ : Type}

/-! ## Two tasks that sleep for a turn -/

/-- A task that sleeps for a turn, with the requests to end that it has had, and what it does next. -/
structure Nap (σ : Type) where
  task : FutureId
  asked : Nat
  pending : Bool
  next : Except Fault Data → Proc σ

namespace Nap

variable {R : Rules} {l l' : Loop σ} {log : List OwnerCall} {a b : Nap σ} {t : FutureId} {next : Except Fault Data → Proc σ}

/-- The task sleeps. -/
abbrev Holds (a : Nap σ) (l : Loop σ) : Prop := Napping a.task a.asked a.pending a.next l

/-- The move ends the turn of the task. -/
abbrev Ends (a : Nap σ) (l l' : Loop σ) : Prop := Roused a.task a.next l l'

/-- The job that ends the turn. -/
abbrev job (a : Nap σ) : Job := .resume a.task (.ok .null)

/-- Both tasks sleep, and the turn of the first is due before that of the second. -/
structure Before (a b : Nap σ) (l : Loop σ) : Prop where
  first : a.Holds l
  second : b.Holds l
  order : ∃ pre mid post, l.state.kernel.ready = pre ++ a.job :: (mid ++ b.job :: post)

theorem Holds.congr (h : a.Holds l) (hkernel : l'.state.kernel = l.state.kernel) (hparked : l'.parked = l.parked) : a.Holds l' where
  alert := hkernel ▸ h.alert
  parked := by
    rw [next?, hparked]
    exact h.parked
  due := hkernel ▸ h.due

theorem Before.congr (h : a.Before b l) (hkernel : l'.state.kernel = l.state.kernel) (hparked : l'.parked = l.parked) : a.Before b l' :=
  ⟨h.first.congr hkernel hparked, h.second.congr hkernel hparked, hkernel ▸ h.order⟩

/-- A task that begins to sleep comes after all that sleep. -/
theorem Holds.before_yielded (h : a.Holds l) (hnone : l.next? t = none) {n : Nat} {pending : Bool} (halert : l.state.kernel.Alert t n pending) :
    a.Before ⟨t, n, pending, next⟩ (l.yielded t next) where
  first := by
    have hne : a.task ≠ t := by
      rintro rfl
      rw [h.parked] at hnone
      cases hnone
    exact ⟨h.alert.beside rfl, (next?_park l t next a.task).trans ((if_neg hne).trans h.parked), List.mem_append_left _ h.due⟩
  second := napping_yielded halert
  order := by
    obtain ⟨pre, mid, hready⟩ := List.append_of_mem h.due
    refine ⟨pre, mid, [], ?_⟩
    change l.state.kernel.ready ++ [.resume t (.ok .null)] = _
    rw [hready, List.append_assoc]
    rfl

/-- The second turn does not end before the first. -/
theorem Before.not_ends (h : a.Before b l) (hs : Sound l) : ¬ b.Ends l l' := by
  intro hends
  obtain ⟨rest, hready, -⟩ := hends.taken
  have hone := hs.once b.task
  rw [wakeUps_dequeue _ hready, if_pos (by simp [Job.wakes])] at hone
  have hzero : (l.dequeued rest).wakeUps b.task = 0 := Nat.le_zero.mp (Nat.le_of_succ_le_succ hone)
  obtain ⟨pre, mid, post, horder⟩ := h.order
  have hmem : b.job ∈ rest := by
    rw [hready] at horder
    cases pre with
    | nil =>
      rw [(List.cons.inj horder).2]
      simp
    | cons j pre =>
      rw [(List.cons.inj horder).2]
      simp
  exact not_wakes_of_wakeUps (r := .resume b.task) hzero ⟨_, hmem⟩ rfl

/-- **The first stays first.** -/
theorem Before.move (h : a.Before b l) (hs : Sound l) (hm : Move R l log l') :
    a.Before b l' ∨ ((a.Ends l l' ∧ b.Holds l') ∧ log = []) := by
  obtain hb | ⟨hends, -⟩ := hm.napping hs h.second
  · obtain ha | ⟨hends, hlog⟩ := hm.napping hs h.first
    · refine Or.inl ⟨ha, hb, ?_⟩
      obtain ⟨pre, mid, post, horder⟩ := h.order
      obtain ⟨hf, hstep⟩ | ⟨js, hjs⟩ := hm.queue
      · cases pre with
        | nil => exact absurd ha (roused_of_job h.first hf horder hstep).not_napping
        | cons j pre =>
          obtain ⟨j', rest, js, hj, hrest⟩ := queue_of_job hf hstep
          rw [horder] at hj
          obtain ⟨-, rfl⟩ := List.cons.inj hj
          exact ⟨pre, mid, post ++ js, by simp [hrest]⟩
      · exact ⟨pre, mid, post ++ js, by simp [hjs, horder]⟩
    · exact Or.inr ⟨⟨hends, hb⟩, hlog⟩
  · exact absurd hends (h.not_ends hs)

end Nap

/-- **Of two tasks that sleep the first goes on first.** -/
theorem Run.before {R : Rules} {l l' : Loop σ} {log : List OwnerCall} {a b : Nap σ} (hr : Run R l log l') (hs : Sound l) (h : a.Before b l) :
    a.Before b l' ∨ ∃ log₁ log₂ l₁ l₂, Run R l log₁ l₁ ∧ a.Before b l₁ ∧ a.Ends l₁ l₂ ∧ b.Holds l₂ ∧ Run R l₂ log₂ l' := by
  have hkept {l l' : Loop σ} {log : List OwnerCall} (hm : Move R l log l') (h : Sound l ∧ a.Before b l) :
      (Sound l' ∧ a.Before b l') ∨ ((a.Ends l l' ∧ b.Holds l') ∧ log = []) :=
    (h.2.move h.1 hm).imp_left fun h' => ⟨hm.effect.sound h.1, h'⟩
  obtain ⟨-, h'⟩ | ⟨log₁, log₂, l₁, l₂, hr₁, ⟨-, h₁⟩, ⟨hends, hb⟩, -, hr₂⟩ := hr.woken hkept ⟨hs, h⟩
  · exact Or.inl h'
  · exact Or.inr ⟨log₁, log₂, l₁, l₂, hr₁, h₁, hends, hb, hr₂⟩

end Loop

namespace Simulator

open Kernel Loop

/-! ## Pauses -/

/-- A task in a pause. -/
structure Sleeper where
  task : FutureId
  asked : Nat
  pending : Bool
  ctx : Context
  wake : Int
  cont : Except Fault Unit → Proc (World Simulator)

namespace Sleeper

variable {R : Rules} {l l' l₁ l₂ : Loop (World Simulator)} {x y : Sleeper}

def nap (x : Sleeper) : Nap (World Simulator) := ⟨x.task, x.asked, x.pending, waking x.ctx x.wake x.cont⟩

/-- Neither the scope nor the task of the pause has been asked to end. -/
structure Undisturbed (x : Sleeper) (l : Loop (World Simulator)) : Prop where
  scope : l.state.kernel.scopes.isCancelled x.ctx.scope = false
  task : ¬ (x.pending = true ∨ x.asked < l.state.kernel.cancelsOf x.task)

/-- The pause comes to its end: the clock moves on to its wake-up time, unless it is past it. -/
structure Resumes (x : Sleeper) (l l' : Loop (World Simulator)) : Prop where
  proceeds : Proceeds l 2 l'
  focus : l'.focus = some (x.task, x.cont (.ok ()))
  clock : l'.state.world.engine.clock = max l.state.world.engine.clock x.wake
  kernel : l'.state.kernel = l.state.kernel
  parked : l'.parked = l.parked

theorem resumes (h : x.nap.Holds l₁) (hends : x.nap.Ends l₁ l₂) (hx : x.Undisturbed l₁) :
    ∃ l₃, x.Resumes l₂ l₃ := by
  obtain ⟨hscopes, -, ⟨-, hasked⟩ | ⟨hfocus, -⟩⟩ := hends.told h
  · exact absurd hasked hx.task
  · have hfocus' : l₂.focus = some (x.task, waking x.ctx x.wake x.cont (.ok .null)) := hfocus
    have hopen : l₂.state.kernel.scopes.isCancelled x.ctx.scope = false := hscopes ▸ hx.scope
    exact ⟨_, .access hfocus' (.access (focus_of_not_cancelled hopen) (.refl _)), rfl, rfl, rfl, rfl⟩

end Sleeper

variable {R : Rules} {l l' : Loop (World Simulator)} {log : List OwnerCall} {t : FutureId} {ctx : Context} {duration : Data} {seconds : Float}
  {wake : Int} {cont : Except Fault Unit → Proc (World Simulator)}

/-- What a pause does until it sleeps. -/
theorem proceeds_sleep (hf : l.focus = some (t, sleep ctx duration cont)) (hd : checkedSeconds duration = .ok seconds)
    (hc : l.state.kernel.scopes.isCancelled ctx.scope = false) (hw : wakeTime l.state.world.engine.clock seconds = .ok wake) :
    Proceeds l 3 (l.yielded t (waking ctx wake cont)) := by
  rw [sleep_eq ctx hd] at hf
  refine .access hf (.access (focus_of_not_cancelled hc) (.step (t := t) (p := .turn (waking ctx wake cont)) ?_ (.refl _)))
  simp [accessed, hw]

/-- **Pauses end in the order in which they began.** A task that begins a pause sleeps behind all that sleep. Of two tasks in pauses the one that is due
first goes on first, in every run and whatever their wake-up times are, and if neither its scope nor the task was asked to end, the clock shows the later of
what it showed and the wake-up time of this pause, while the other task still sleeps. A pause ends when the jobs have been taken that were there when it
began. -/
theorem pauses_end_in_order (lib : Library Simulator) (hl : Reachable R log l) :
    (∀ (x : Sleeper) t ctx duration cont seconds wake, x.nap.Holds l → l.focus = some (t, (primitives lib).sleep ctx duration cont) →
      checkedSeconds duration = .ok seconds → l.state.kernel.scopes.isCancelled ctx.scope = false →
      wakeTime l.state.world.engine.clock seconds = .ok wake →
      ∃ l', Proceeds l 3 l' ∧ l'.state.world = l.state.world ∧
        x.nap.Before (Sleeper.nap ⟨t, l.state.kernel.cancelsOf t, l.state.kernel.requested t, ctx, wake, cont⟩) l') ∧
    (∀ x y : Sleeper, x.nap.Before y.nap l → ∀ log' l', Run R l log' l' →
      x.nap.Before y.nap l' ∨
      ∃ log₁ log₂ l₁ l₂, Run R l log₁ l₁ ∧ x.nap.Before y.nap l₁ ∧ x.nap.Ends l₁ l₂ ∧ y.nap.Holds l₂ ∧ Run R l₂ log₂ l' ∧
        l₂.state.world = l₁.state.world ∧ (x.Undisturbed l₁ → ∃ l₃, x.Resumes l₂ l₃ ∧ y.nap.Holds l₃)) ∧
    (∀ x : Sleeper, x.nap.Holds l → ∀ n l', Takes R l n l' → l.state.kernel.ready.length ≤ n →
      ∃ log₁ log₂ l₁ l₂, Run R l log₁ l₁ ∧ x.nap.Holds l₁ ∧ x.nap.Ends l₁ l₂ ∧ Run R l₂ log₂ l') := by
  refine ⟨fun x t ctx duration cont seconds wake hx hf hd hc hw => ?_, fun x y h log' l' hr => ?_, fun x hx n l' ht hn => ?_⟩
  · refine ⟨_, proceeds_sleep hf hd hc hw, rfl, ?_⟩
    exact hx.before_yielded (hl.sound.focus t _ hf).2 (hl.alert hf)
  · obtain h' | ⟨log₁, log₂, l₁, l₂, hr₁, h₁, hends, hy, hr₂⟩ := hr.before hl.sound h
    · exact Or.inl h'
    · have hworld : l₂.state.world = l₁.state.world := by
        obtain ⟨rest, -, rfl⟩ := hends.taken
        rfl
      refine Or.inr ⟨log₁, log₂, l₁, l₂, hr₁, h₁, hends, hy, hr₂, hworld, fun hundisturbed => ?_⟩
      obtain ⟨l₃, hresumes⟩ := Sleeper.resumes h₁.first hends hundisturbed
      exact ⟨l₃, hresumes, hy.congr hresumes.kernel hresumes.parked⟩
  · obtain ⟨pre, post, hready⟩ := List.append_of_mem hx.due
    have hlt : pre.length < n := by
      rw [hready, List.length_append, List.length_cons] at hn
      omega
    obtain ⟨log₁, log₂, l₁, l₂, hr₁, ⟨-, h₁⟩, hends, -, hr₂⟩ :=
      ht.woken (sleeps_napping R x.nap.task x.nap.asked x.nap.pending x.nap.next) ⟨hl.sound, hx⟩ hready hlt
    exact ⟨log₁, log₂, l₁, l₂, hr₁, h₁, hends, hr₂⟩

/-! ## Five seconds and one -/

/-- A pause of so many seconds, and what the clock shows after it. -/
def clockAfter (ctx : Context) (seconds : Int) : Play Data := do
  (primitives oneLibrary).sleep ctx (.int seconds)
  (primitives oneLibrary).now ctx

/-- Two paths of one scope pause at once, the first for five seconds and the second for one. -/
def twoPauses : Play Data := do
  let scope ← Flow.ofKernel (·.newScope)
  let long ← Flow.spawnUnder scope (clockAfter { scope := scope } 5)
  let short ← Flow.spawnUnder scope (clockAfter { scope := scope } 1)
  return .list [← Flow.await long, ← Flow.await short]

/-- Two instants, if the result is a list of these. -/
def twoInstants? : Except Fault Data → Option (Int × Int)
  | .ok (.list [.instant a, .instant b]) => some (a, b)
  | _ => none

/-- The wake-up time of a pause that begins when the clock shows the start. -/
def firstWake (duration : Data) : Except Fault Int := do wakeTime 0 (← checkedSeconds duration)

/-- **The longer pause ends first.** When the shorter one ends, the clock is four seconds past its wake-up time. -/
theorem longer_pause_ends_first :
    (firstWake (.int 5)).toOption = some 5000000 ∧ (firstWake (.int 1)).toOption = some 1000000 ∧
    twoInstants? (Loop.runMain { engine := {} } twoPauses).1 = some (5000000, 5000000) := by
  decide +kernel

/-! ### One pause behind another -/

theorem exists_of_firstWake (h : (firstWake duration).toOption = some wake) :
    ∃ seconds, checkedSeconds duration = .ok seconds ∧ wakeTime 0 seconds = .ok wake := by
  rw [firstWake] at h
  cases hd : checkedSeconds duration with
  | error e =>
    rw [hd] at h
    cases h
  | ok seconds =>
    rw [hd] at h
    change (wakeTime 0 seconds).toOption = some wake at h
    cases hw : wakeTime 0 seconds with
    | error e =>
      rw [hw] at h
      cases h
    | ok wake' =>
      rw [hw] at h
      exact ⟨seconds, rfl, congrArg Except.ok (Option.some.inj h) ▸ hw⟩

theorem reachable_move (hl : Reachable R log l) (hm : Move R l [] l') : Reachable R log l' := by
  obtain ⟨world, hr⟩ := hl
  exact ⟨world, by simpa using hr.tail hm⟩

theorem reachable_access {F : LoopState (World Simulator) → LoopState (World Simulator) × Proc (World Simulator)} (hl : Reachable R log l)
    (hf : l.focus = some (t, .access F)) (hkernel : (F l.state).1.kernel = l.state.kernel) : Reachable R log (l.accessed t F) := by
  refine reachable_move hl (.node hf (.access ?_) (by rw [Loop.step, hf]; rfl))
  rw [hkernel]
  exact .refl

theorem reachable_sleep (hl : Reachable R log l) (hf : l.focus = some (t, sleep ctx duration cont)) (hd : checkedSeconds duration = .ok seconds)
    (hc : l.state.kernel.scopes.isCancelled ctx.scope = false) (hw : wakeTime l.state.world.engine.clock seconds = .ok wake) :
    Reachable R log (l.yielded t (waking ctx wake cont)) := by
  rw [sleep_eq ctx hd] at hf
  have hchecked := reachable_access hl hf rfl
  have hset := reachable_access hchecked (focus_of_not_cancelled hc) rfl
  refine reachable_move hset (.node (t := t) (p := .turn (waking ctx wake cont)) ?_ (.turn _) ?_)
  · simp [accessed, hw]
  · simp [Loop.step, accessed, hw]
    rfl

/-- What a first task and a path that it spawns do: the path pauses for five seconds, and the task for one. -/
def pausingBoth : FutureId → Proc (World Simulator) := fun _ =>
  .spawn false (fun _ => sleep { scope := 0 } (.int 5) fun _ => .finish (.ok .null)) fun _ =>
    .turn fun _ => sleep { scope := 0 } (.int 1) fun _ => .finish (.ok .null)

/-- The path is about to pause. -/
def firstPause : Loop (World Simulator) := runWhile (fun _ => true) 3 (Loop.entered { engine := {} } pausingBoth)

/-- The path sleeps, and the first task is about to pause. -/
def secondPause : Loop (World Simulator) :=
  runWhile (fun _ => true) 1 (firstPause.yielded 1 (waking { scope := 0 } 5000000 fun _ => .finish (.ok .null)))

def pausingPath : Sleeper := ⟨1, 0, false, { scope := 0 }, 5000000, fun _ => .finish (.ok .null)⟩

theorem reachable_secondPause : Reachable oneSideEffectRules [] secondPause := by
  have hentered : Reachable oneSideEffectRules [] (Loop.entered { engine := {} } pausingBoth) := reachable_entered (fun _ h => by cases h.1) _ _
  have hspawned : Reachable oneSideEffectRules [] (runWhile (fun _ => true) 1 (Loop.entered { engine := {} } pausingBoth)) :=
    reachable_move hentered (.node rfl (.spawn _ _ _ (fun _ h => by cases h.1)) rfl)
  have hyielded : Reachable oneSideEffectRules [] (runWhile (fun _ => true) 2 (Loop.entered { engine := {} } pausingBoth)) :=
    reachable_move hspawned (.node rfl (.turn _) rfl)
  have hfirst : Reachable oneSideEffectRules [] firstPause := reachable_move hyielded (.job rfl rfl)
  have hwake : (firstWake (.int 5)).toOption = some 5000000 := by decide +kernel
  obtain ⟨seconds, hd, hw⟩ := exists_of_firstWake hwake
  exact reachable_move (reachable_sleep hfirst rfl hd rfl hw) (.job rfl rfl)

/-- The path sleeps until the fifth second, and the first task comes to sleep behind it. -/
theorem pauses_end_in_order_of_secondPause : Reachable oneSideEffectRules [] secondPause ∧ pausingPath.nap.Holds secondPause ∧
    ∃ (y : Sleeper) (l' : Loop (World Simulator)), y.wake = 1000000 ∧ Proceeds secondPause 3 l' ∧ pausingPath.nap.Before y.nap l' := by
  have hsleeps : pausingPath.nap.Holds secondPause := ⟨⟨_, rfl, rfl, by decide, by decide⟩, rfl, .head _⟩
  have hwake : (firstWake (.int 1)).toOption = some 1000000 := by decide +kernel
  obtain ⟨seconds, hd, hw⟩ := exists_of_firstWake hwake
  obtain ⟨l', hproceeds, -, hbefore⟩ := (pauses_end_in_order oneLibrary reachable_secondPause).1 pausingPath 0 _ _ _ seconds _ hsleeps rfl hd rfl hw
  exact ⟨reachable_secondPause, hsleeps, _, l', rfl, hproceeds, hbefore⟩

end Simulator

end ScriptFlow
