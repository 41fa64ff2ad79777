import Mathlib
import ScriptFlow.Proofs.Loop.Sound

/-!
# Sleeping and waking

A task that sleeps is woken by one job of the queue. Whatever else happens leaves it asleep, and the job comes nearer with every one that is taken before it.

* `Loop.Takes` — runs that take so many jobs.
* `Loop.Sleeps` — what a sleep and its end are; `Loop.Run.woken` — a sleep goes on or ends once; `Loop.Takes.woken` — **it ends when
  enough jobs have been taken**.
-/

namespace ScriptFlow

namespace Loop

variable {σ : Type}

open Kernel

/-- Runs in which at least so many jobs are taken. -/
inductive Takes (R : Rules) (l : Loop σ) : Nat → Loop σ → Prop where
  | refl : Takes R l 0 l
  | job {n l' l''} (h : Takes R l n l') (hf : l'.focus = none) (hs : l'.step = some l'') : Takes R l (n + 1) l''
  | move {n log l' l''} (h : Takes R l n l') (hm : Move R l' log l'') : Takes R l n l''

/-- A sleep that a job ends. -/
structure Sleeps (R : Rules) (j : Job) (asleep : Loop σ → Prop) (wakes : Loop σ → Loop σ → Prop) : Prop where
  kept {l l' : Loop σ} {log : List OwnerCall} (hm : Move R l log l') (h : asleep l) : asleep l' ∨ (wakes l l' ∧ log = [])
  taken {l l' : Loop σ} {rest : List Job} (h : asleep l) (hf : l.focus = none) (hr : l.state.kernel.ready = j :: rest)
    (hstep : l.step = some l') : wakes l l'
  ended {l l' : Loop σ} (h : wakes l l') : ¬ asleep l'

section Takes

variable {R : Rules} {l l' : Loop σ} {log : List OwnerCall} {n : Nat}

theorem Takes.run (h : Takes R l n l') : ∃ log, Run R l log l' := by
  induction h with
  | refl => exact ⟨[], .refl⟩
  | job _ hf hs ih =>
    obtain ⟨log, hr⟩ := ih
    exact ⟨log ++ [], hr.tail (.job hf hs)⟩
  | move _ hm ih =>
    obtain ⟨log, hr⟩ := ih
    exact ⟨_, hr.tail hm⟩

/-- A job is taken from the front of the queue; what becomes ready comes behind the others. -/
theorem queue_of_job (hf : l.focus = none) (hs : l.step = some l') :
    ∃ j rest js, l.state.kernel.ready = j :: rest ∧ l'.state.kernel.ready = rest ++ js := by
  cases hr : l.state.kernel.ready with
  | nil => simp [step, hf, hr] at hs
  | cons j rest =>
    simp only [step, hf, hr, Option.some.injEq] at hs
    subst hs
    have hresume : ∀ t input, ∃ js, ((l.withKernel fun k => { k with ready := rest }).resume t input).state.kernel.ready = rest ++ js := by
      intro t input
      refine ⟨[], ?_⟩
      rw [List.append_nil]
      cases hn : (l.withKernel fun k => { k with ready := rest }).next? t with
      | none => rw [resume_of_none hn]; rfl
      | some next => rw [resume_of_some hn]; rfl
    have hcalled : ∀ x c, ∃ js, ((l.dequeued rest).runCallback x c).ready = rest ++ js := by
      intro x c
      obtain ⟨js, hjs, -⟩ := (grows_runCallback (l.dequeued rest) x c).queue
      exact ⟨js, hjs⟩
    cases j with
    | resume t input =>
      obtain ⟨js, hjs⟩ := hresume t input
      exact ⟨_, rest, js, rfl, hjs⟩
    | callback x c =>
      cases c with
      | wake t =>
        simp only [takeJob]
        split
        · rename_i o _
          obtain ⟨js, hjs⟩ := hresume t o.result
          exact ⟨_, rest, js, rfl, hjs⟩
        · exact ⟨_, rest, [], rfl, (List.append_nil _).symm⟩
      | _ => exact ⟨_, rest, _, rfl, (hcalled x _).choose_spec⟩

/-- Other moves leave the queue as it is, and what becomes ready comes at its end. -/
theorem Move.queue (hm : Move R l log l') : (l.focus = none ∧ l.step = some l') ∨
    ∃ js, l'.state.kernel.ready = l.state.kernel.ready ++ js := by
  cases hm with
  | job hf hs => exact Or.inl ⟨hf, hs⟩
  | outside world hf h =>
    obtain ⟨js, hjs, -⟩ := h.grows.queue
    exact Or.inr ⟨js, hjs⟩
  | start watched body hf h => exact Or.inr ⟨_, rfl⟩
  | @node t p _ _ hf hp hs =>
    have hm : Move R l log l' := .node hf hp hs
    right
    cases hm.effect with
    | idle hn => rw [hf] at hn; cases hn
    | resumed hn => rw [hf] at hn; cases hn
    | called hn => rw [hf] at hn; cases hn
    | outside _ hn => rw [hf] at hn; cases hn
    | started _ _ hn => rw [hf] at hn; cases hn
    | @finished t r =>
      obtain ⟨js, hjs, -⟩ := (l.state.kernel.calm_finishTask t r).queue
      exact ⟨js, hjs⟩
    | accessed _ ha =>
      obtain ⟨js, hjs, -⟩ := ha.grows.queue
      exact ⟨js, hjs⟩
    | spawned => exact ⟨_, rfl⟩
    | passed => exact ⟨[], (List.append_nil _).symm⟩
    | @blocked t f =>
      obtain ⟨js, hjs, -⟩ := (l.state.kernel.grows_waitFor t f).queue
      rw [ready_addCallback, List.append_assoc] at hjs
      exact ⟨_, hjs⟩
    | yielded => exact ⟨_, rfl⟩

variable {j : Job} {asleep : Loop σ → Prop} {wakes : Loop σ → Loop σ → Prop}

/-- A sleep ends at most once in a run. -/
theorem Run.woken (hr : Run R l log l') (hkept : ∀ {l l' log}, Move R l log l' → asleep l → asleep l' ∨ (wakes l l' ∧ log = []))
    (h : asleep l) : asleep l' ∨ ∃ log₁ log₂ l₁ l₂, Run R l log₁ l₁ ∧ asleep l₁ ∧ wakes l₁ l₂ ∧ Move R l₁ [] l₂ ∧ Run R l₂ log₂ l' := by
  induction hr with
  | refl => exact Or.inl h
  | @tail log₁ log' l₁ l₂ hr hm ih =>
    rcases ih with ha | ⟨log₁', log₂, l₁', l₂', hr₁, ha, hw, hm', hr₂⟩
    · rcases hkept hm ha with ha' | ⟨hw, rfl⟩
      · exact Or.inl ha'
      · exact Or.inr ⟨log₁, [], l₁, l₂, hr, ha, hw, hm, .refl⟩
    · exact Or.inr ⟨log₁', log₂ ++ log', l₁', l₂', hr₁, ha, hw, hm', hr₂.tail hm⟩

/-- The job that ends a sleep comes nearer with every job. -/
theorem Sleeps.job (hs : Sleeps R j asleep wakes) (h : asleep l) {pre post : List Job} (hr : l.state.kernel.ready = pre ++ j :: post)
    (hf : l.focus = none) (hstep : l.step = some l') :
    wakes l l' ∨ (asleep l' ∧ ∃ pre' post', l'.state.kernel.ready = pre' ++ j :: post' ∧ pre'.length < pre.length) := by
  cases pre with
  | nil => exact Or.inl (hs.taken h hf hr hstep)
  | cons j₀ pre =>
    rcases hs.kept (.job hf hstep) h with ha | ⟨hw, -⟩
    · obtain ⟨_, rest, js, hj, hrest⟩ := queue_of_job hf hstep
      obtain ⟨-, rfl⟩ := List.cons.inj (hj.symm.trans hr)
      exact Or.inr ⟨ha, pre, post ++ js, by simp [hrest], Nat.lt_succ_self _⟩
    · exact Or.inl hw

/-- No move puts it off. -/
theorem Sleeps.move (hs : Sleeps R j asleep wakes) (h : asleep l) {pre post : List Job} (hr : l.state.kernel.ready = pre ++ j :: post)
    (hm : Move R l log l') : (wakes l l' ∧ log = []) ∨
      (asleep l' ∧ ∃ pre' post', l'.state.kernel.ready = pre' ++ j :: post' ∧ pre'.length ≤ pre.length) := by
  rcases hs.kept hm h with ha | hw
  · refine Or.inr ⟨ha, ?_⟩
    rcases hm.queue with ⟨hf, hstep⟩ | ⟨js, hjs⟩
    · rcases hs.job h hr hf hstep with hw | ⟨-, pre', post', hr', hlt⟩
      · exact absurd ha (hs.ended hw)
      · exact ⟨pre', post', hr', hlt.le⟩
    · exact ⟨pre, post ++ js, by simp [hjs, hr], Nat.le_refl _⟩
  · exact Or.inl hw

/-- **A sleep ends** after at most as many jobs as there are before the one that ends it. -/
theorem Takes.woken (ht : Takes R l n l') (hs : Sleeps R j asleep wakes) (h : asleep l) {pre post : List Job}
    (hr : l.state.kernel.ready = pre ++ j :: post) (hn : pre.length < n) :
    ∃ log₁ log₂ l₁ l₂, Run R l log₁ l₁ ∧ asleep l₁ ∧ wakes l₁ l₂ ∧ Move R l₁ [] l₂ ∧ Run R l₂ log₂ l' := by
  suffices hcases : (∃ log₁ log₂ l₁ l₂, Run R l log₁ l₁ ∧ asleep l₁ ∧ wakes l₁ l₂ ∧ Move R l₁ [] l₂ ∧ Run R l₂ log₂ l') ∨
      (asleep l' ∧ ∃ pre' post', l'.state.kernel.ready = pre' ++ j :: post' ∧ pre'.length + n ≤ pre.length) by
    rcases hcases with hw | ⟨-, pre', -, -, hlen⟩
    · exact hw
    · omega
  clear hn
  induction ht with
  | refl => exact Or.inr ⟨h, pre, post, hr, Nat.le_refl _⟩
  | @job n l₁ l₂ ht hf hstep ih =>
    obtain ⟨log, hrun⟩ := ht.run
    have hmove : Move R l₁ [] l₂ := .job hf hstep
    rcases ih with ⟨log₁, log₂, l₃, l₄, hr₁, ha, hw, hm, hr₂⟩ | ⟨ha, pre', post', hr', hlen⟩
    · exact Or.inl ⟨log₁, _, l₃, l₄, hr₁, ha, hw, hm, hr₂.tail hmove⟩
    · rcases hs.job ha hr' hf hstep with hw | ⟨ha', pre'', post'', hr'', hlt⟩
      · exact Or.inl ⟨log, [], l₁, l₂, hrun, ha, hw, hmove, .refl⟩
      · exact Or.inr ⟨ha', pre'', post'', hr'', by omega⟩
  | @move n log l₁ l₂ ht hmove ih =>
    obtain ⟨log', hrun⟩ := ht.run
    rcases ih with ⟨log₁, log₂, l₃, l₄, hr₁, ha, hw, hm, hr₂⟩ | ⟨ha, pre', post', hr', hlen⟩
    · exact Or.inl ⟨log₁, _, l₃, l₄, hr₁, ha, hw, hm, hr₂.tail hmove⟩
    · rcases hs.move ha hr' hmove with ⟨hw, rfl⟩ | ⟨ha', pre'', post'', hr'', hle⟩
      · exact Or.inl ⟨log', [], l₁, l₂, hrun, ha, hw, hmove, .refl⟩
      · exact Or.inr ⟨ha', pre'', post'', hr'', by omega⟩

end Takes

end Loop

end ScriptFlow
