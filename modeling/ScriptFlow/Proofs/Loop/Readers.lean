import Mathlib
import ScriptFlow.Proofs.Loop.Reading
import ScriptFlow.Workflow.Primitives

/-!
# Readers and scopes

* `Kernel.future_cancelScope` — a future that nothing on the scopes leads to is left alone when they are cancelled.
* `Kernel.Waits.cancelScope_open` — so are the waits of readers under other scopes.
* `Loop.Takes.told` — no read stays blocked once its stand-in is decided.
-/

namespace ScriptFlow

namespace Kernel

/-! ## What a cancellation leaves alone -/

section Cancellation

variable {k k' : Kernel} {g : Get} {gone : Prop}

theorem future_cancelAll {fs : List FutureId} {y : FutureId} (h : ∀ x ∈ fs, ¬ k.Leads x y) : (k.cancelAll fs).future y = k.future y := by
  induction fs generalizing k with
  | nil => rfl
  | cons x rest ih =>
    have hx := (k.cancel_cancels x).future_of_not_leads (h x (by simp))
    refine (ih fun z hz hl => ?_).trans hx
    exact h z (List.mem_cons_of_mem _ hz) (leads_mono (k.cancel_cancels x).calm hl)

/-- What fires when a scope is cancelled: everything that is registered on a scope which is cancelled with it, and nothing else. -/
theorem cancelScope_fires (k : Kernel) (s : ScopeId) : ∃ fired,
    k.cancelScope s = (k.cancelAll fired).withScopes (k.cancelScope s).scopes ∧
    (∀ x ∈ fired, ∃ e, x ∈ (k.scopes.scope e).callbacks ∧ k.scopes.isCancelled e = false ∧
      (k.cancelScope s).scopes.isCancelled e = true) ∧
    ∀ e, k.scopes.isCancelled e = false → (k.cancelScope s).scopes.isCancelled e = true →
      ∀ x ∈ (k.scopes.scope e).callbacks, x ∈ fired := by
  obtain ⟨f, fired, hs, he⟩ := k.cancelScope_sweeps s
  have hscopes : (k.cancelScope s).scopes = f := by
    rw [he]
    rfl
  rw [hscopes]
  refine ⟨fired, he, fun x hx => ?_, fun e hc hc' x hx => ?_⟩
  · exact (hs.of_mem_fired hx).resolve_left fun hf => by cases List.mem_singleton.mp hf
  · rcases hs.scope_eq_or e with hsame | ⟨-, -, -, hall⟩
    · rw [Forest.isCancelled, hsame, ← Forest.isCancelled, hc] at hc'
      cases hc'
    · exact hall x hx

/-- **Cancelling a scope leaves a future alone**, unless something that is registered on a scope which is cancelled with it leads there. -/
theorem future_cancelScope {s : ScopeId} {y : FutureId}
    (h : ∀ e x, x ∈ (k.scopes.scope e).callbacks → k.scopes.isCancelled e = false → (k.cancelScope s).scopes.isCancelled e = true →
      ¬ k.Leads x y) : (k.cancelScope s).future y = k.future y := by
  obtain ⟨fired, he, hfired, -⟩ := k.cancelScope_fires s
  have hfuture : (k.cancelScope s).future y = (k.cancelAll fired).future y := by
    rw [he]
    rfl
  rw [hfuture]
  refine future_cancelAll fun x hx => ?_
  obtain ⟨e, hm, hc, hc'⟩ := hfired x hx
  exact h e x hm hc hc'

/-- Cancelling decides a future by cancellation only. -/
theorem Cancels.outcome?_eq {x y : FutureId} (hc : Cancels k x k') (ho : k.outcome? y = none) (hd : k'.outcome? y ≠ none) :
    k'.outcome? y = some .cancelled := by
  induction hc with
  | done => exact absurd ho hd
  | plain =>
    rw [outcome?_resolve] at hd ⊢
    split at hd
    · rename_i hx
      rw [if_pos hx]
    · exact absurd ho hd
  | asked => exact absurd (by simpa [requestCancel] using ho) hd
  | through _ _ _ _ _ ih => exact ih (by simpa using ho) hd

theorem outcome?_cancelAll {fs : List FutureId} {y : FutureId} (ho : k.outcome? y = none) (hd : (k.cancelAll fs).outcome? y ≠ none) :
    (k.cancelAll fs).outcome? y = some .cancelled := by
  induction fs generalizing k with
  | nil => exact absurd ho hd
  | cons x rest ih =>
    by_cases hx : (k.cancel x).outcome? y = none
    · exact ih hx hd
    · exact ((k.cancel x).calm_cancelAll rest).outcome _ _ ((k.cancel_cancels x).outcome?_eq ho hx)

/-- **Cancelling the scope of a read cancels its stand-in**, if no result has come to it. -/
theorem Waits.cancelled_with_scope (h : k.Waits g) {s : ScopeId} (ho : k.outcome? g.waiter = none)
    (hc : (k.cancelScope s).scopes.isCancelled g.scope = true) : (k.cancelScope s).outcome? g.waiter = some .cancelled := by
  obtain ⟨hopen, hm⟩ := h.scope ho
  obtain ⟨fired, he, -, hall⟩ := k.cancelScope_fires s
  have hd := outcome?_cancelAll_of_mem h.lt h.plain (hall _ hopen hc _ hm)
  rw [he]
  exact outcome?_cancelAll ho hd

theorem cancelsOf_grows {new : Ref → Prop} {spent : FutureId → Callback → Prop} (h : Grows new spent k k') (t : FutureId) :
    k.cancelsOf t ≤ k'.cancelsOf t := by
  unfold cancelsOf
  cases ht : k.task? t with
  | none => exact Nat.zero_le _
  | some task =>
    obtain ⟨task', ht', hc⟩ := h.task t task ht
    simpa [ht'] using hc

/-- What was asked of a task stays asked. -/
theorem Asked.grows {new : Ref → Prop} {spent : FutureId → Callback → Prop} (h : k.Asked g) (hg : Grows new spent k k') : k'.Asked g :=
  h.imp id fun hlt => Nat.lt_of_lt_of_le hlt (cancelsOf_grows hg g.task)

/-- A request counts. -/
theorem cancelsOf_noteCancel {t : FutureId} {task : Task} (ht : k.task? t = some task) :
    (k.noteCancel t).cancelsOf t = k.cancelsOf t + 1 := by
  simp [cancelsOf, task?_noteCancel, ht]

/-- Cancelling something else decides a stand-in only through its task. -/
theorem Cancels.open_or_asked {x : FutureId} (hc : Cancels k x k') (h : k.Stands g gone) (ho : k.outcome? g.waiter = none)
    (hx : x ≠ g.waiter) : k'.outcome? g.waiter = none ∨ k'.Asked g := by
  induction hc with
  | done => exact Or.inl ho
  | plain =>
    left
    rw [outcome?_resolve, if_neg]
    · exact ho
    · exact fun he => hx he.1.symm
  | asked =>
    left
    simpa [requestCancel] using ho
  | @through k x task w k' hxo ht hw hwo hc ih =>
    by_cases hxt : x = g.task
    · right
      subst hxt
      refine Asked.grows (Or.inr ?_) hc.calm
      rw [cancelsOf_noteCancel ht]
      exact Nat.lt_succ_of_le h.counted
    · refine ih (h.noteCancel hxt) (by simpa using ho) ?_
      rintro rfl
      exact hxt (h.eq_task ho ⟨task, ht, hw⟩)

theorem Stands.open_or_asked_cancelAll (h : k.Stands g gone) {fs : List FutureId} (ho : k.outcome? g.waiter = none)
    (hw : g.waiter ∉ fs) : (k.cancelAll fs).outcome? g.waiter = none ∨ (k.cancelAll fs).Asked g := by
  induction fs generalizing k with
  | nil => exact Or.inl ho
  | cons x rest ih =>
    have hx : x ≠ g.waiter := fun he => hw (he ▸ List.mem_cons_self)
    rcases (k.cancel_cancels x).open_or_asked h ho hx with ho' | ha
    · exact ih (h.cancel fun he => absurd he hx) ho' fun hm => hw (List.mem_cons_of_mem _ hm)
    · exact Or.inr (ha.grows ((k.cancel x).calm_cancelAll rest))

/-- **Cancelling a scope leaves the reads under other scopes alone**, unless it asks their task to end. -/
theorem Waits.cancelScope_open (h : k.Waits g) (s : ScopeId) (ho : k.outcome? g.waiter = none)
    (hc : (k.cancelScope s).scopes.isCancelled g.scope = false) (ha : ¬ (k.cancelScope s).Asked g) :
    (k.cancelScope s).outcome? g.waiter = none := by
  obtain ⟨fired, he, hfired, -⟩ := k.cancelScope_fires s
  have hw : g.waiter ∉ fired := by
    intro hm
    obtain ⟨e, hm, -, hc'⟩ := hfired _ hm
    have hr := h.refs ho (.registered e g.waiter) hm (by simp [Ref.touches])
    have hes : e = g.scope := by simpa [Get.refs] using hr
    rw [← hes, hc'] at hc
    cases hc
  rcases h.toStands.open_or_asked_cancelAll ho hw with ho' | ha'
  · rw [he]
    exact ho'
  · refine absurd ?_ ha
    rw [he]
    exact ha'

/-- A cancellation does not decide a task. -/
theorem Cancels.outcome?_of_task {x t : FutureId} (hc : Cancels k x k') (ht : (k.task? t).isSome) : k'.outcome? t = k.outcome? t := by
  induction hc with
  | done => rfl
  | plain _ hx =>
    rw [outcome?_resolve, if_neg]
    rintro ⟨rfl, -⟩
    rw [hx] at ht
    cases ht
  | asked => simp [requestCancel]
  | @through k x task w k' _ _ _ _ _ ih =>
    refine (ih ?_).trans (by simp)
    rw [task?_noteCancel]
    split
    · simpa using ht
    · exact ht

/-- A task that has not ended is asked to when it is cancelled. -/
theorem Cancels.asks {t : FutureId} {task : Task} (hc : Cancels k t k') (ht : k.task? t = some task) (ho : k.outcome? t = none) :
    k.cancelsOf t < k'.cancelsOf t := by
  have hnote : k.cancelsOf t < (k.noteCancel t).cancelsOf t := by
    rw [cancelsOf_noteCancel ht]
    exact Nat.lt_succ_self _
  cases hc with
  | done hd => exact absurd ho hd
  | plain _ ht' => rw [ht] at ht'; cases ht'
  | asked => exact hnote.trans_le (cancelsOf_grows (calm_requestCancel ..) t)
  | through _ _ _ _ hc => exact hnote.trans_le (cancelsOf_grows hc.calm t)

theorem cancelsOf_cancelAll {t : FutureId} {fs : List FutureId} (ht : (k.task? t).isSome) (ho : k.outcome? t = none) (hm : t ∈ fs) :
    k.cancelsOf t < (k.cancelAll fs).cancelsOf t := by
  induction fs generalizing k with
  | nil => cases hm
  | cons x rest ih =>
    have hx := k.cancel_cancels x
    by_cases hxt : t = x
    · subst hxt
      obtain ⟨task, htask⟩ := Option.isSome_iff_exists.mp ht
      exact (hx.asks htask ho).trans_le (cancelsOf_grows ((k.cancel t).calm_cancelAll rest) t)
    · have ht' : ((k.cancel x).task? t).isSome := Loop.isSome_task?_grows hx.calm ht
      exact (cancelsOf_grows hx.calm t).trans_lt
        (ih ht' ((hx.outcome?_of_task ht).trans ho) ((List.mem_cons.mp hm).resolve_left hxt))

/-- **Cancelling a scope asks every task to end** that is registered on it, or on a scope that is cancelled with it. -/
theorem cancelsOf_cancelScope {t : FutureId} {s e : ScopeId} (ht : (k.task? t).isSome) (ho : k.outcome? t = none)
    (hm : t ∈ (k.scopes.scope e).callbacks) (hc : k.scopes.isCancelled e = false)
    (hc' : (k.cancelScope s).scopes.isCancelled e = true) : k.cancelsOf t < (k.cancelScope s).cancelsOf t := by
  obtain ⟨fired, he, -, hall⟩ := k.cancelScope_fires s
  have hfired := hall e hc hc' t hm
  rw [he]
  exact cancelsOf_cancelAll ht ho hfired

end Cancellation

end Kernel

namespace Loop

variable {σ : Type}

open Kernel

/-! ## No read stays blocked -/

section Told

variable {R : Rules} {g : Get} {next : Except Fault Data → Proc σ} {l l' : Loop σ} {log : List OwnerCall} {n : Nat}

/-- When its turn comes, the callback of the stand-in wakes the task. -/
theorem told_of_job {rest : List Job} (hs : Sound l) (h : Waiting g next l) (hf : l.focus = none)
    (hr : l.state.kernel.ready = .callback g.waiter (.wake g.task) :: rest) (hstep : l.step = some l') : Told g next l l' := by
  obtain ⟨o, ho⟩ := Option.ne_none_iff_exists'.mp (hs.queued g.waiter (.wake g.task) (by simp [hr]))
  have ho' : ((l.withKernel fun k => { k with ready := rest }).state.kernel.future g.waiter).outcome = some o := ho
  simp only [step, hf, hr, takeJob, ho', Option.some.injEq] at hstep
  rw [resume_of_some (l := l.withKernel fun k => { k with ready := rest }) h.parked] at hstep
  exact ⟨hf, rest, o, hr, ho, hstep.symm⟩

theorem Told.not_waiting (h : Told g next l l') : ¬ Waiting g next l' := by
  obtain ⟨rest, o, -, -, rfl⟩ := h.told
  intro hw
  have hn := hw.parked
  rw [next?_takenUp, if_pos rfl] at hn
  cases hn

theorem sleeps_waiting (hh : Hides R g.task g.waiter) :
    Sleeps R (.callback g.waiter (.wake g.task)) (fun l => Sound l ∧ Waiting g next l) (Told g next) where
  kept hm h := (hm.effect.waiting h.1 h.2 hh).imp (⟨hm.effect.sound h.1, ·⟩) id
  taken h hf hr hstep := told_of_job h.1 h.2 hf hr hstep
  ended h hw := h.not_waiting hw.2

/-- **A read is woken** after at most as many jobs as there are before the callback of its stand-in. -/
theorem Takes.told (ht : Takes R l n l') (hs : Sound l) (h : Waiting g next l) (hh : Hides R g.task g.waiter) {pre post : List Job}
    (hr : l.state.kernel.ready = pre ++ .callback g.waiter (.wake g.task) :: post) (hn : pre.length < n) :
    ∃ log₁ log₂ l₁ l₂, Run R l log₁ l₁ ∧ Waiting g next l₁ ∧ Told g next l₁ l₂ ∧ Move R l₁ [] l₂ ∧ Run R l₂ log₂ l' := by
  obtain ⟨log₁, log₂, l₁, l₂, hr₁, hw, htold, hm, hr₂⟩ := ht.woken (sleeps_waiting hh) ⟨hs, h⟩ hr hn
  exact ⟨log₁, log₂, l₁, l₂, hr₁, hw.2, htold, hm, hr₂⟩

/-- When nothing is left to do, a read that sleeps waits for a future that is open, under a scope that is not cancelled. -/
theorem Waiting.of_rest (h : Waiting g next l) (hr : l.state.kernel.ready = []) :
    l.state.kernel.outcome? g.source = none ∧ l.state.kernel.scopes.isCancelled g.scope = false := by
  obtain ⟨hopen, hsource⟩ := h.waits.toStands.open_of_rest hr
  exact ⟨hsource, (h.waits.scope hopen).1⟩

end Told

end Loop

/-- What a reader sees of a decided future. -/
def Outcome.seen : Outcome → Except Fault Data
  | value d => .ok d
  | error e => .error e
  | cancelled => .error contextCancelled

namespace Kernel

/-! ## Answers -/

section Answers

variable {k k₀ : Kernel} {g : Get} {t f : FutureId} {s : ScopeId} {a : Except Fault Data}

/-- Under a scope that is not cancelled, the end of a wait says what the future says. -/
theorem endOfWait_of_open (hs : k.scopes.isCancelled s = false) {o : Outcome} (ho : k.outcome? f = some o) :
    k.endOfWait s f o.result = o.seen := by
  have hw : k.wasCancelled f = true ↔ o = .cancelled := by
    rw [wasCancelled_eq, ho, Option.some.injEq]
  cases o with
  | value d => rfl
  | cancelled => exact endOfWait_taskCancelled (Or.inr ho) ""
  | error e =>
    have hw' : k.wasCancelled f = false := by simpa using hw
    cases e <;> simp [endOfWait, Outcome.result, Outcome.seen, hs, hw']

/-- What came to the stand-in is what the reader gets, unless it is itself a cancellation. -/
theorem endOfWait_result {o : Outcome} (hc : o ≠ .cancelled) :
    k.endOfWait s f o.result = o.seen ∨ (k.endOfWait s f o.result = .error contextCancelled ∧ ∃ m, o = .error (.taskCancelled m)) := by
  cases o with
  | value d => exact Or.inl rfl
  | cancelled => exact absurd rfl hc
  | error e =>
    cases e with
    | taskCancelled m =>
      cases hw : k.scopes.isCancelled s || k.wasCancelled f with
      | true => exact Or.inr ⟨by simp [endOfWait, Outcome.result, hw], m, rfl⟩
      | false => exact Or.inl (by simp [endOfWait, Outcome.result, Outcome.seen, hw])
    | _ => exact Or.inl rfl

theorem Answers.seen (h : k.Answers g a) (ha : ¬ k.Asked g) :
    a = .error contextCancelled ∨ ∃ o, k.outcome? g.source = some o ∧ a = o.seen := by
  cases h with
  | own _ _ ho hc => exact (endOfWait_result hc).symm.imp (·.1) fun he => ⟨_, ho, he⟩
  | cancelled => exact Or.inl rfl
  | asked hasked => exact absurd hasked ha

/-- Under a scope that is not cancelled, a reader sees what the future ended with. -/
theorem Answers.seen_of_open (h : k.Answers g a) (ha : ¬ k.Asked g) (hs : k.scopes.isCancelled g.scope = false) :
    ∃ o, k.outcome? g.source = some o ∧ a = o.seen := by
  cases h with
  | own _ _ ho _ => exact ⟨_, ho, endOfWait_of_open hs ho⟩
  | cancelled _ _ hwhy =>
    rw [hs] at hwhy
    exact ⟨.cancelled, hwhy.resolve_left (by simp), rfl⟩
  | asked hasked => exact absurd hasked ha

/-- Did a read sleep when its task was asked to end? -/
def Broken (k₀ k : Kernel) (t f : FutureId) (s : ScopeId) : Prop := k₀.outcome? f = none ∧ k.Asked (k₀.newGet t f s)

theorem ReadEnd.seen (h : ReadEnd k₀ k t f s a) (hb : ¬ Broken k₀ k t f s)
    (hout : ∀ o, k₀.outcome? f = some o → k.outcome? f = some o) :
    a = .error contextCancelled ∨ ∃ o, k.outcome? f = some o ∧ a = o.seen := by
  cases h with
  | refused => exact Or.inl rfl
  | known hs ho => exact Or.inr ⟨_, hout _ ho, endOfWait_of_open hs ho⟩
  | slept _ ho hanswers => exact hanswers.seen fun ha => hb ⟨ho, ha⟩

theorem ReadEnd.seen_of_open (h : ReadEnd k₀ k t f s a) (hb : ¬ Broken k₀ k t f s)
    (hout : ∀ o, k₀.outcome? f = some o → k.outcome? f = some o) (hs : k₀.scopes.isCancelled s = false)
    (hs' : k.scopes.isCancelled s = false) : ∃ o, k.outcome? f = some o ∧ a = o.seen := by
  cases h with
  | refused hc => rw [hs] at hc; cases hc
  | known _ ho => exact ⟨_, hout _ ho, endOfWait_of_open hs ho⟩
  | slept _ ho hanswers => exact hanswers.seen_of_open (fun ha => hb ⟨ho, ha⟩) hs'

end Answers

end Kernel

namespace Loop

variable {σ : Type}

open Kernel

/-! ## Readers -/

/-- How a read stands while its task sleeps. -/
structure Sleeper (R : Rules) (l : Loop σ) (g : Get) (cont : Except Fault Data → Proc σ) : Prop where
  /-- a scope that is cancelled has decided the stand-in -/
  scope : l.state.kernel.outcome? g.waiter = none → l.state.kernel.scopes.isCancelled g.scope = false
  /-- the cancellation of the scope cancels it, if no result has come to it -/
  ends : ∀ s, l.state.kernel.outcome? g.waiter = none → (l.state.kernel.cancelScope s).scopes.isCancelled g.scope = true →
    (l.state.kernel.cancelScope s).outcome? g.waiter = some .cancelled
  /-- the stand-in was cancelled before a result came to it -/
  cancelled : l.state.kernel.outcome? g.waiter = some .cancelled →
    ReadsTo R l g.task g.source g.scope cont fun l₁ a => ¬ l₁.state.kernel.Asked g → a = .error contextCancelled
  /-- a result came to the stand-in first -/
  result : ∀ o, l.state.kernel.outcome? g.waiter = some o → o ≠ .cancelled → (∀ m, o ≠ .error (.taskCancelled m)) →
    l.state.kernel.outcome? g.source = some o ∧
      ReadsTo R l g.task g.source g.scope cont fun l₁ a => ¬ l₁.state.kernel.Asked g → a = o.seen
  /-- under a cancelled scope the task does not stay asleep -/
  woken : l.state.kernel.scopes.isCancelled g.scope = true → ∀ n l', Takes R l n l' → l.state.kernel.ready.length ≤ n →
    ∃ log₁ log₂ l₁ l₂, Run R l log₁ l₁ ∧ Told g (fun r => Flow.leave g.scope g.source g.waiter r cont) l₁ l₂ ∧ Run R l₂ log₂ l'
  /-- the cancellation of other scopes leaves the read alone -/
  apart : ∀ s, l.state.kernel.outcome? g.waiter = none → (l.state.kernel.cancelScope s).scopes.isCancelled g.scope = false →
    ¬ (l.state.kernel.cancelScope s).Asked g →
      (l.state.kernel.cancelScope s).Waits g ∧ (l.state.kernel.cancelScope s).outcome? g.waiter = none
  rest : l.state.kernel.ready = [] → l.state.kernel.outcome? g.source = none ∧ l.state.kernel.scopes.isCancelled g.scope = false

section Readers

variable {R : Rules} {l : Loop σ} {t : FutureId}

theorem ReadsTo.mono {f : FutureId} {s : ScopeId} {cont : Except Fault Data → Proc σ} {ends ends' : Loop σ → Except Fault Data → Prop}
    (h : ReadsTo R l t f s cont ends) (himp : ∀ log l₁ a, Run R l log l₁ → ends l₁ a → ends' l₁ a) : ReadsTo R l t f s cont ends' := by
  intro log l' hr
  rcases h log l' hr with hreads | ⟨log₁, log₂, l₁, a, hr₁, hf, he, hr₂⟩
  · exact Or.inl hreads
  · exact Or.inr ⟨log₁, log₂, l₁, a, hr₁, hf, himp log₁ l₁ a hr₁ he, hr₂⟩

/-- The callback that wakes a task whose stand-in is decided is in the queue. -/
theorem Waiting.queued {g : Get} {next : Except Fault Data → Proc σ} (h : Waiting g next l)
    (ho : l.state.kernel.outcome? g.waiter ≠ none) :
    ∃ pre post, l.state.kernel.ready = pre ++ .callback g.waiter (.wake g.task) :: post := by
  rcases h.waits.wake with ⟨hn, -⟩ | ⟨-, hm⟩
  · exact absurd hn ho
  · exact List.append_of_mem hm

/-- **What is true of a reader that sleeps.** -/
theorem Waiting.sleeper {g : Get} {cont : Except Fault Data → Proc σ}
    (h : Waiting g (fun r => Flow.leave g.scope g.source g.waiter r cont) l) (hs : Sound l) (hh : Hides R g.task g.waiter) :
    Sleeper R l g cont where
  scope ho := (h.waits.scope ho).1
  ends s ho hc := h.waits.cancelled_with_scope ho hc
  cancelled ho := by
    refine (Waiting.reads h hs hh).mono fun log l₁ a hr hanswers ha => ?_
    cases hanswers with
    | own _ hw _ hc =>
      rw [hr.outcome? ho] at hw
      exact absurd (Option.some.inj hw).symm hc
    | cancelled => rfl
    | asked hasked => exact absurd hasked ha
  result o ho hc hm := by
    refine ⟨h.waits.same o ho hc, (Waiting.reads h hs hh).mono fun log l₁ a hr hanswers ha => ?_⟩
    cases hanswers with
    | own _ hw _ hc' =>
      rw [hr.outcome? ho] at hw
      cases hw
      exact (endOfWait_result hc').resolve_right fun he => he.2.elim hm
    | cancelled _ hw =>
      rw [hr.outcome? ho] at hw
      exact absurd (Option.some.inj hw) hc
    | asked hasked => exact absurd hasked ha
  woken hc n l' ht hn := by
    have ho : l.state.kernel.outcome? g.waiter ≠ none := by
      intro ho
      rw [(h.waits.scope ho).1] at hc
      cases hc
    obtain ⟨pre, post, hready⟩ := Waiting.queued h ho
    have hlen : pre.length < n := by
      rw [hready, List.length_append, List.length_cons] at hn
      omega
    obtain ⟨log₁, log₂, l₁, l₂, hr₁, -, htold, -, hr₂⟩ := ht.told hs h hh hready hlen
    exact ⟨log₁, log₂, l₁, l₂, hr₁, htold, hr₂⟩
  apart s ho hc ha := ⟨h.waits.cancelScope s, h.waits.cancelScope_open s ho hc ha⟩
  rest hr := Waiting.of_rest h hr

end Readers

end Loop

/-- What a reader does with what it has waited for. -/
def Promise.decoding {ε : Type} (type : Option ResultType) (cont : Except Fault Data → Proc (World ε)) (r : Except Fault Data) :
    Proc (World ε) :=
  cont (r >>= fun d => d.decodeAs type)

theorem Promise.await_eq {ε : Type} (ctx : Context) (p : Promise) (type : Option ResultType)
    (cont : Except Fault Data → Proc (World ε)) :
    p.await ctx type cont = Flow.awaitUnder ctx.scope p.source (Promise.decoding type cont) := by
  have hbind : (p.await ctx type : Play ε Data) =
      Flow.awaitUnder ctx.scope p.source >>= fun d => Flow.ofExcept (d.decodeAs type) := rfl
  rw [hbind, Loop.bind_apply]
  congr 1
  funext r
  cases r <;> rfl

namespace Loop

open Kernel

/-- **Readers of a future.** A read ends once: with the cancellation of the context if the scope was cancelled at its beginning, with what the
future ended with if the scope is not cancelled at its end, and with one of the two anyhow. While it sleeps `Sleeper` says what it comes to, that it
does not stay asleep under a cancelled scope, and that other scopes do not concern it. Cancelling scopes leaves the future alone
unless something that is registered on them leads to it. -/
theorem readers_stand_apart {ε : Type} {R : Rules} {log : List OwnerCall} {l : Loop (World ε)} {t : FutureId} {ctx : Context} {p : Promise}
    {type : Option ResultType} {cont : Except Fault Data → Proc (World ε)} (hl : Reachable R log l)
    (hf : l.focus = some (t, p.await ctx type cont)) (hp : p.source < l.state.kernel.futures.size)
    (hctx : ctx.scope < l.state.kernel.scopes.scopes.size) (hh : Hides R t l.state.kernel.futures.size) :
    (ReadsTo R l t p.source ctx.scope (Promise.decoding type cont) fun l₁ a =>
      ¬ Broken l.state.kernel l₁.state.kernel t p.source ctx.scope →
        (l.state.kernel.scopes.isCancelled ctx.scope = true → a = .error contextCancelled) ∧
        (l.state.kernel.scopes.isCancelled ctx.scope = false → l₁.state.kernel.scopes.isCancelled ctx.scope = false →
          ∃ o, l₁.state.kernel.outcome? p.source = some o ∧ a = o.seen) ∧
        (a = .error contextCancelled ∨ ∃ o, l₁.state.kernel.outcome? p.source = some o ∧ a = o.seen)) ∧
    (∀ log₁ l₁, Run R l log₁ l₁ →
      Waiting (l.state.kernel.newGet t p.source ctx.scope)
        (fun r => Flow.leave ctx.scope p.source l.state.kernel.futures.size r (Promise.decoding type cont)) l₁ →
      Sleeper R l₁ (l.state.kernel.newGet t p.source ctx.scope) (Promise.decoding type cont)) ∧
    (∀ (k : Kernel) (s : ScopeId), (∀ e x, x ∈ (k.scopes.scope e).callbacks → k.scopes.isCancelled e = false →
        (k.cancelScope s).scopes.isCancelled e = true → ¬ k.Leads x p.source) →
      (k.cancelScope s).future p.source = k.future p.source) := by
  have hs := hl.sound
  refine ⟨?_, fun log₁ l₁ hr hw => Waiting.sleeper hw (hr.sound hs) hh, fun k s h => future_cancelScope h⟩
  refine (reads_awaitUnder hs (hf.trans (by rw [Promise.await_eq])) hp hctx hh).mono fun log₁ l₁ a hr hend hb => ⟨?_, ?_, ?_⟩
  · intro hc
    cases hend with
    | refused => rfl
    | known hs' => rw [hc] at hs'; cases hs'
    | slept hs' => rw [hc] at hs'; cases hs'
  · exact fun hc hc' => hend.seen_of_open hb (fun o ho => hr.outcome? ho) hc hc'
  · exact hend.seen hb fun o ho => hr.outcome? ho

/-- A loop with a scope and a future. -/
def oneFuture : Loop (World Unit) := { state := { kernel := (({} : Kernel).newScope.1.newFuture {}).1, world := { engine := () } } }

/-- A task begins to run beside the future. -/
def begun (body : FutureId → Proc (World Unit)) : Loop (World Unit) :=
  ((oneFuture.start false body).1.withKernel fun k => { k with ready := [] }).resume 1 (.ok .null)

/-- A task begins to read the future. -/
def oneReader : Loop (World Unit) := begun fun _ => ({ source := 0 } : Promise).await { scope := 0 } none .finish

/-- Nobody but the task that reads knows the stand-in. -/
def oneReaderRules : Rules := { bars := fun a f => f = 2 ∧ a ≠ some 1, calls := fun _ => False }

theorem hides_oneReader : Hides oneReaderRules 1 oneReader.state.kernel.futures.size :=
  ⟨fun _ ha => ⟨rfl, ha⟩, id⟩

/-- A task that begins beside the future is reached if nothing is barred yet. -/
theorem reachable_begun_of {R : Rules} (hR : ∀ a f, f ≤ 1 → ¬ R.bars a f) (body : FutureId → Proc (World Unit)) :
    Reachable R [] (begun body) := by
  have hacts : Acts (R.bars none) R.calls ({} : Kernel) [] (({} : Kernel).newScope.1.newFuture {}).1 :=
    (Acts.refl.act .newScope).act (.create none fun _ => rfl)
  have hout : Move R ({ state := { world := { engine := () } } } : Loop (World Unit)) [] oneFuture :=
    .outside ({ engine := () } : World Unit) rfl hacts
  have hstart := Move.start (R := R) (l := oneFuture) false body rfl fun a => hR a 1 (Nat.le_refl 1)
  exact ⟨{ engine := () }, ((Run.single hout).tail hstart).tail (.job rfl rfl)⟩

theorem reachable_begun (body : FutureId → Proc (World Unit)) : Reachable oneReaderRules [] (begun body) := by
  refine reachable_begun_of ?_ body
  rintro a f hf ⟨rfl, -⟩
  exact absurd hf (by decide)

/-- The hypotheses hold of the loop with one reader. -/
theorem readers_stand_apart_of_oneReader : Reachable oneReaderRules [] oneReader ∧
    ReadsTo oneReaderRules oneReader 1 0 0 (Promise.decoding none .finish) fun l₁ a =>
      ¬ Broken oneReader.state.kernel l₁.state.kernel 1 0 0 →
        (oneReader.state.kernel.scopes.isCancelled 0 = true → a = .error contextCancelled) ∧
        (oneReader.state.kernel.scopes.isCancelled 0 = false → l₁.state.kernel.scopes.isCancelled 0 = false →
          ∃ o, l₁.state.kernel.outcome? 0 = some o ∧ a = o.seen) ∧
        (a = .error contextCancelled ∨ ∃ o, l₁.state.kernel.outcome? 0 = some o ∧ a = o.seen) :=
  have hf : oneReader.focus = some (1, ({ source := 0 } : Promise).await { scope := 0 } none .finish) := rfl
  ⟨reachable_begun _, (readers_stand_apart (reachable_begun _) hf (by decide) (by decide) hides_oneReader).1⟩

/-- A path is started and read under a scope, which may be cancelled, and then read again under another scope. -/
def sharedPath (cancels : Bool) : Flow Unit Data := do
  let other ← Flow.ofKernel (·.newScope)
  let scope ← Flow.ofKernel (·.newScope)
  let path ← Flow.spawnUnder scope do
    Flow.turns 3
    return .int 7
  discard (Flow.spawn (Flow.awaitUnder scope path))
  Flow.turns 1
  if cancels then Flow.modifyKernel (·.cancelScope scope)
  Flow.awaitUnder other path

/-- What a program gives, as a number, or the text of its error. -/
def shown : Except Fault Data → String
  | .ok (.int n) => toString n
  | .error (.error .canceled text) => text
  | _ => ""

/-- The scope of a reader reaches a future that is linked to it, and with it the readers under other scopes. -/
theorem readers_share_a_linked_future :
    shown (runMain () (sharedPath false)).1 = "7" ∧ shown (runMain () (sharedPath true)).1 = "context cancelled" := by
  decide +kernel

end Loop

end ScriptFlow
