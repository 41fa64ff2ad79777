import Mathlib
import ScriptFlow.Proofs.Loop.Readers

/-!
# Disconnected contexts

A disconnected context has a scope that is nobody's child, so cancelling other scopes leaves it alone. The task that reads under it is another matter: it may be
linked to a scope of its own.

* `Kernel.Waits.broken_by_linked_task`, `Kernel.Waits.kept_by_unlinked_task` — which cancellations end a read under another scope.
* `Loop.disconnected_reads` — **when a read under a disconnected context keeps its promise**.
-/

namespace ScriptFlow

namespace Kernel

variable {k k' : Kernel} {s : ScopeId} {bars calls : FutureId → Prop}

/-- **Cancelling another scope does not cancel a scope that is nobody's child.** -/
theorem isCancelled_cancelScope_of_rooted (h : k.scopes.Rooted s) {c : ScopeId} (hc : c ≠ s) :
    (k.cancelScope c).scopes.isCancelled s = k.scopes.isCancelled s := by
  obtain ⟨f, fired, hs, he⟩ := k.cancelScope_sweeps c
  have hscopes : (k.cancelScope c).scopes = f := by
    rw [he]
    rfl
  rw [hscopes, Bool.eq_iff_iff]
  refine ⟨fun hf => ?_, hs.isCancelled_mono⟩
  rcases hs.of_isCancelled hf with hk | ⟨a, ha, habove⟩
  · exact hk
  · -- the errand is about the scope itself, or about one above it
    rcases ha with ha | ⟨p, hp, -⟩
    · have hac : a = c := by simpa using ha
      exact absurd (hac ▸ h.eq_of_above habove) hc
    · simp at hp

end Kernel

namespace Kernel

variable {k k' : Kernel} {g : Get} {gone : Prop}

/-! ## What asks the task of a read to end -/

theorem Stands.done_of_task_mem (h : k.Stands g gone) {fs : List FutureId} (ht : k.outcome? g.task = none) (hm : g.task ∈ fs) :
    (k.cancelAll fs).outcome? g.waiter ≠ none := by
  induction fs generalizing k with
  | nil => cases hm
  | cons x rest ih =>
    have hx := k.cancel_cancels x
    have hrest := (k.cancel x).calm_cancelAll rest
    obtain ⟨task, htask, -⟩ : ∃ task, k.task? g.task = some task ∧ _ := Option.bind_eq_some_iff.mp h.waits
    by_cases ho : k.outcome? g.waiter = none
    · by_cases hxt : g.task = x
      · subst hxt
        refine hrest.done_of_done ?_
        rw [h.outcome?_cancel_task ht ho]
        exact Option.some_ne_none _
      · by_cases hxw : x = g.waiter
        · subst hxw
          exact hrest.done_of_done (hx.isDone_of_plain h.lt h.plain)
        · refine ih (h.cancel fun he => absurd he hxw) ?_ ((List.mem_cons.mp hm).resolve_left hxt)
          exact (hx.outcome?_of_task (by simp [htask])).trans ht
    · exact hrest.done_of_done (hx.calm.done_of_done ho)

/-- **A read ends when its task is registered** on a scope that is cancelled, whatever scope it reads under. -/
theorem Waits.broken_by_linked_task (h : k.Waits g) {c e : ScopeId} (ht : k.outcome? g.task = none)
    (hm : g.task ∈ (k.scopes.scope e).callbacks) (hc : k.scopes.isCancelled e = false)
    (hc' : (k.cancelScope c).scopes.isCancelled e = true) :
    (k.cancelScope c).Asked g ∧ (k.cancelScope c).outcome? g.waiter ≠ none := by
  obtain ⟨task, htask, -⟩ : ∃ task, k.task? g.task = some task ∧ _ := Option.bind_eq_some_iff.mp h.waits
  refine ⟨Or.inr (Nat.lt_of_le_of_lt h.counted (cancelsOf_cancelScope (by simp [htask]) ht hm hc hc')), ?_⟩
  obtain ⟨fired, he, -, hall⟩ := k.cancelScope_fires c
  have hfired := hall e hc hc' g.task hm
  rw [he]
  exact h.toStands.done_of_task_mem ht hfired

/-- A cancellation comes to an open stand-in through its task only. -/
theorem Stands.leads_waiter (h : k.Stands g gone) (ho : k.outcome? g.waiter = none) {x : FutureId} (hl : k.Leads x g.waiter) :
    x = g.waiter ∨ k.Leads x g.task := by
  rcases Relation.ReflTransGen.cases_tail hl with he | ⟨y, hy, hyw⟩
  · exact Or.inl he.symm
  · rw [h.eq_task ho hyw] at hy
    exact Or.inr hy

/-- **A read goes on** when a scope is cancelled from which nothing leads to its task. -/
theorem Waits.kept_by_unlinked_task (h : k.Waits g) (ho : k.outcome? g.waiter = none) {c : ScopeId}
    (hl : ∀ e x, x ∈ (k.scopes.scope e).callbacks → k.scopes.isCancelled e = false → (k.cancelScope c).scopes.isCancelled e = true →
      ¬ k.Leads x g.task) (hc : (k.cancelScope c).scopes.isCancelled g.scope = false) :
    (k.cancelScope c).future g.task = k.future g.task ∧ (k.cancelScope c).outcome? g.waiter = none := by
  refine ⟨future_cancelScope hl, ?_⟩
  have hfuture : (k.cancelScope c).future g.waiter = k.future g.waiter := by
    refine future_cancelScope fun e x hm he he' hlead => ?_
    rcases h.toStands.leads_waiter ho hlead with rfl | hlead
    · -- the stand-in is registered on the scope of the read only
      have hr := h.refs ho (.registered e g.waiter) hm (by simp [Ref.touches])
      have hes : e = g.scope := by simpa [Get.refs] using hr
      rw [hes, hc] at he'
      cases he'
    · exact hl e x hm he he' hlead
  rw [outcome?, hfuture]
  exact ho

/-- What a cancellation does to tasks. -/
theorem Cancels.task {x t : FutureId} {a : Task} (hc : Cancels k x k') (ht : k.task? t = some a) :
    ∃ a', k'.task? t = some a' ∧ a'.waitsFor = a.waitsFor ∧ (a.cancelRequested = true → a'.cancelRequested = true) := by
  have hnote : ∀ {k : Kernel} {x : FutureId} {a : Task}, k.task? t = some a →
      ∃ a', (k.noteCancel x).task? t = some a' ∧ a'.waitsFor = a.waitsFor ∧ a'.cancelRequested = a.cancelRequested := by
    intro k x a ha
    rw [task?_noteCancel, ha]
    split
    · exact ⟨_, rfl, rfl, rfl⟩
    · exact ⟨_, rfl, rfl, rfl⟩
  induction hc generalizing a with
  | done => exact ⟨a, ht, rfl, id⟩
  | plain => exact ⟨a, by simpa using ht, rfl, id⟩
  | @asked k x task _ _ =>
    obtain ⟨a', ha', hw, hr⟩ := hnote (x := x) ht
    rw [requestCancel, task?_updateTask, ha']
    split
    · exact ⟨_, rfl, hw, fun _ => rfl⟩
    · exact ⟨a', rfl, hw, fun h => hr.trans h⟩
  | @through k x task w k' _ _ _ _ _ ih =>
    obtain ⟨a', ha', hw, hr⟩ := hnote (x := x) ht
    obtain ⟨a'', ha'', hw', hr'⟩ := ih ha'
    exact ⟨a'', ha'', hw'.trans hw, fun h => hr' (hr.trans h)⟩

/-- A task that waits for nothing keeps the request. -/
theorem Cancels.requests {t : FutureId} {a : Task} (hc : Cancels k t k') (ht : k.task? t = some a) (hw : a.waitsFor = none)
    (ho : k.outcome? t = none) : k'.requested t = true := by
  cases hc with
  | done hd => exact absurd ho hd
  | plain _ hp => rw [ht] at hp; cases hp
  | asked => simp [requestCancel, Kernel.requested, task?_updateTask, task?_noteCancel, ht]
  | through _ htask hwt _ _ =>
    rw [ht] at htask
    cases htask
    rw [hw] at hwt
    cases hwt

theorem requested_cancelAll {t : FutureId} {a : Task} {fs : List FutureId} (ht : k.task? t = some a) (hw : a.waitsFor = none)
    (ho : k.outcome? t = none) (hm : t ∈ fs ∨ a.cancelRequested = true) : (k.cancelAll fs).requested t = true := by
  induction fs generalizing k a with
  | nil =>
    have hr := hm.resolve_left (by simp)
    simpa [cancelAll, Kernel.requested, ht] using hr
  | cons x rest ih =>
    have hx := k.cancel_cancels x
    obtain ⟨a', ha', hw', hr'⟩ := hx.task ht
    refine ih ha' (hw'.trans hw) ((hx.outcome?_of_task (by simp [ht])).trans ho) ?_
    by_cases hxt : t = x
    · subst hxt
      have hr := hx.requests ht hw ho
      exact Or.inr (by simpa [Kernel.requested, ha'] using hr)
    · exact hm.imp (fun hm => (List.mem_cons.mp hm).resolve_left hxt) hr'

/-- **A path that cancels the scope it was started under** is asked to end, and will be told when it next waits. -/
theorem requested_cancelScope {t : FutureId} {a : Task} {c e : ScopeId} (ht : k.task? t = some a) (hw : a.waitsFor = none)
    (ho : k.outcome? t = none) (hm : t ∈ (k.scopes.scope e).callbacks) (hc : k.scopes.isCancelled e = false)
    (hc' : (k.cancelScope c).scopes.isCancelled e = true) : (k.cancelScope c).requested t = true := by
  obtain ⟨fired, he, -, hall⟩ := k.cancelScope_fires c
  have hfired := hall e hc hc' t hm
  rw [he]
  exact requested_cancelAll ht hw ho (Or.inl hfired)

end Kernel

namespace Kernel

/-! ## What a read ends with under a disconnected context -/

section Ends

variable {k k₀ : Kernel} {g : Get} {t f : FutureId} {s : ScopeId} {a : Except Fault Data}

/-- A read keeps its promise, or its own scope was cancelled. -/
theorem ReadEnd.kept (h : ReadEnd k₀ k t f s a) (hb : ¬ Broken k₀ k t f s) (hout : ∀ o, k₀.outcome? f = some o → k.outcome? f = some o)
    (hs : k₀.scopes.isCancelled s = true → k.scopes.isCancelled s = true) :
    (∃ o, k.outcome? f = some o ∧ a = o.seen) ∨ (k.scopes.isCancelled s = true ∧ a = .error contextCancelled) := by
  by_cases hc : k.scopes.isCancelled s = true
  · rcases h.seen hb hout with ha | ho
    · exact Or.inr ⟨hc, ha⟩
    · exact Or.inl ho
  · have hc₀ : k₀.scopes.isCancelled s = false := by
      rw [Bool.eq_false_iff]
      exact fun hc₀ => hc (hs hc₀)
    exact Or.inl (h.seen_of_open hb hout hc₀ (by simpa using hc))

/-- A read that slept when its task was asked to end breaks it. -/
theorem ReadEnd.broken (h : ReadEnd k₀ k t f s a) (hb : Broken k₀ k t f s) (hs₀ : k₀.scopes.isCancelled s = false)
    (hs : k.scopes.isCancelled s = false) (hf : k.outcome? f ≠ some .cancelled) : ∃ m, a = .error (.taskCancelled m) := by
  cases h with
  | refused hc => rw [hs₀] at hc; cases hc
  | known _ ho => rw [hb.1] at ho; cases ho
  | slept _ _ hanswers =>
    cases hanswers with
    | own ha => exact absurd hb.2 ha
    | cancelled ha => exact absurd hb.2 ha
    | @asked m =>
      have hw : k.wasCancelled f = false := by
        rw [Bool.eq_false_iff]
        exact fun hw => hf ((k.wasCancelled_eq f).mp hw)
      exact ⟨m, by simp [endOfWait, hs, hw]⟩

end Ends

/-- What the cancellation of scopes does to a read under a disconnected context, while its task sleeps. -/
structure Detached (k : Kernel) (g : Get) : Prop where
  scope : ∀ c, c ≠ g.scope → (k.cancelScope c).scopes.isCancelled g.scope = k.scopes.isCancelled g.scope
  /-- a scope that is cancelled takes along the tasks that are linked to it -/
  broken : ∀ c e, k.outcome? g.task = none → g.task ∈ (k.scopes.scope e).callbacks → k.scopes.isCancelled e = false →
    (k.cancelScope c).scopes.isCancelled e = true → (k.cancelScope c).Asked g ∧ (k.cancelScope c).outcome? g.waiter ≠ none
  /-- and no others -/
  kept : ∀ c, c ≠ g.scope → k.outcome? g.waiter = none →
    (∀ e x, x ∈ (k.scopes.scope e).callbacks → k.scopes.isCancelled e = false → (k.cancelScope c).scopes.isCancelled e = true →
      ¬ k.Leads x g.task) →
    (k.cancelScope c).future g.task = k.future g.task ∧ (k.cancelScope c).outcome? g.waiter = none

theorem Waits.detached {k : Kernel} {g : Get} (h : k.Waits g) (hr : k.scopes.Rooted g.scope) : k.Detached g where
  scope _ hc := isCancelled_cancelScope_of_rooted hr hc
  broken _ _ ht hm he he' := h.broken_by_linked_task ht hm he he'
  kept _ hc ho hl := by
    refine h.kept_by_unlinked_task ho hl ?_
    rw [isCancelled_cancelScope_of_rooted hr hc]
    exact (h.scope ho).1

end Kernel

namespace Loop

variable {ε : Type} {R : Rules}

open Kernel

/-- The scope of a disconnected context is nobody's child, then and later. -/
theorem rooted_disconnected {l₀ l : Loop (World ε)} {log : List OwnerCall} {t : FutureId} {ctx : Context}
    {cont : Except Fault Context → Proc (World ε)} (hs : Sound l₀) (hf : l₀.focus = some (t, ctx.disconnected cont)) (hr : Run R l₀ log l)
    (hlt : l₀.state.kernel.scopes.scopes.size < l.state.kernel.scopes.scopes.size) :
    l.state.kernel.scopes.Rooted l₀.state.kernel.scopes.scopes.size := by
  rcases hr.access hf with rfl | ⟨log₁, log₂, -, hr₂⟩
  · exact absurd hlt (Nat.lt_irrefl _)
  · exact hr₂.ops.rooted hs.whole.rooted_new

/-- **Reads under a disconnected context.** Other scopes do not reach its scope. A read under it gives what the future ended with, unless its own
scope was cancelled, or the read slept and its task was asked to end; then it gives the cancellation of the task. A task that sleeps is asked to end by
every scope that it is linked to, and by nothing that does not lead to it; a path under way that cancels a scope it is linked to is asked
to end in its next read that sleeps. -/
theorem disconnected_reads {log₀ log : List OwnerCall} {l₀ l : Loop (World ε)} {t₀ t : FutureId} {ctx d : Context}
    {cont₀ : Except Fault Context → Proc (World ε)} {p : Promise} {type : Option ResultType} {cont : Except Fault Data → Proc (World ε)}
    (hl : Reachable R log₀ l₀) (hf₀ : l₀.focus = some (t₀, ctx.disconnected cont₀))
    (hd : d.scope = l₀.state.kernel.scopes.scopes.size) (hr : Run R l₀ log l) (hf : l.focus = some (t, p.await d type cont))
    (hp : p.source < l.state.kernel.futures.size) (hlt : d.scope < l.state.kernel.scopes.scopes.size)
    (hh : Hides R t l.state.kernel.futures.size) :
    (∀ log₁ l₁ c, Run R l log₁ l₁ → c ≠ d.scope →
      (l₁.state.kernel.cancelScope c).scopes.isCancelled d.scope = l₁.state.kernel.scopes.isCancelled d.scope) ∧
    (ReadsTo R l t p.source d.scope (Promise.decoding type cont) fun l₁ a =>
      (¬ Broken l.state.kernel l₁.state.kernel t p.source d.scope →
        (∃ o, l₁.state.kernel.outcome? p.source = some o ∧ a = o.seen) ∨
          (l₁.state.kernel.scopes.isCancelled d.scope = true ∧ a = .error contextCancelled)) ∧
      (Broken l.state.kernel l₁.state.kernel t p.source d.scope → l₁.state.kernel.scopes.isCancelled d.scope = false →
        l₁.state.kernel.outcome? p.source ≠ some .cancelled → ∃ m, a = .error (.taskCancelled m))) ∧
    (∀ log₁ l₁, Run R l log₁ l₁ →
      Waiting (l.state.kernel.newGet t p.source d.scope)
        (fun r => Flow.leave d.scope p.source l.state.kernel.futures.size r (Promise.decoding type cont)) l₁ →
      l₁.state.kernel.Detached (l.state.kernel.newGet t p.source d.scope)) ∧
    (∀ (k : Kernel) (task : Task) (c e : ScopeId), k.task? t = some task → task.waitsFor = none → k.outcome? t = none →
      t ∈ (k.scopes.scope e).callbacks → k.scopes.isCancelled e = false → (k.cancelScope c).scopes.isCancelled e = true →
        (k.cancelScope c).Asked ((k.cancelScope c).newGet t p.source d.scope)) := by
  have hs := hr.sound hl.sound
  have hroot : l.state.kernel.scopes.Rooted d.scope := by
    rw [hd] at hlt ⊢
    exact rooted_disconnected hl.sound hf₀ hr hlt
  refine ⟨fun log₁ l₁ c hr₁ hc => ?_, ?_, fun log₁ l₁ hr₁ hw => ?_, fun k task c e ht hw ho hm he he' => ?_⟩
  · exact isCancelled_cancelScope_of_rooted (hr₁.ops.rooted hroot) hc
  · refine (reads_awaitUnder hs (hf.trans (by rw [Promise.await_eq])) hp hlt hh).mono fun log₁ l₁ a hr₁ hend => ⟨fun hb => ?_, fun hb hc => ?_⟩
    · exact hend.kept hb (fun o ho => hr₁.outcome? ho) hr₁.ops.isCancelled_mono
    · refine hend.broken hb ?_ hc
      rw [Bool.eq_false_iff]
      intro hc₀
      rw [hr₁.ops.isCancelled_mono hc₀] at hc
      cases hc
  · exact hw.waits.detached (hr₁.ops.rooted hroot)
  · exact Or.inl (requested_cancelScope ht hw ho hm he he')

/-- A program that reads under a context which is disconnected from its own. -/
def disconnecting (ctx : Context) (p : Promise) : Play Unit Data := do
  p.await (← ctx.disconnected) none

/-- A task is about to make a disconnected context. -/
def oneDisconnecting : Loop (World Unit) := begun fun _ => disconnecting { scope := 0 } { source := 0 } .finish

/-- It begins to read under it. -/
def oneDisconnected : Loop (World Unit) :=
  { oneDisconnecting with
    state := { oneDisconnecting.state with kernel := oneDisconnecting.state.kernel.newScope.1 }
    focus := some (1, ({ source := 0 } : Promise).await { scope := 1 } none .finish) }

theorem run_oneDisconnected : Run oneReaderRules oneDisconnecting [] oneDisconnected :=
  Run.single (.node rfl (.access (Acts.refl.act .newScope)) rfl)

/-- The hypotheses hold of a task that reads under a new context. -/
theorem disconnected_reads_of_oneDisconnected : Reachable oneReaderRules [] oneDisconnecting ∧
    Run oneReaderRules oneDisconnecting [] oneDisconnected ∧
    ∀ log₁ l₁ c, Run oneReaderRules oneDisconnected log₁ l₁ → c ≠ 1 →
      (l₁.state.kernel.cancelScope c).scopes.isCancelled 1 = l₁.state.kernel.scopes.isCancelled 1 :=
  ⟨reachable_begun _, run_oneDisconnected, (disconnected_reads (d := { scope := 1 }) (p := { source := 0 }) (reachable_begun _) rfl rfl
    run_oneDisconnected rfl (by decide) (by decide) ⟨fun _ ha => ⟨rfl, ha⟩, id⟩).1⟩

/-- A path that was started under a scope reads under a disconnected context; then the scope may be cancelled. -/
def linkedPath (cancels : Bool) : Flow Unit Data := do
  let scope ← Flow.ofKernel (·.newScope)
  let other ← Flow.ofKernel (·.newScope)
  let future ← Flow.ofKernel (·.newFuture)
  let path ← Flow.spawnUnder scope do
    Flow.awaitUnder (← ({ scope := scope } : Context).disconnected).scope future
  Flow.turns 2
  if cancels then Flow.modifyKernel (·.cancelScope scope)
  Flow.turns 2
  Flow.modifyKernel (·.resolve future (.value (.int 7)))
  Flow.awaitUnder other path

/-- The scope that a path was started under ends its reads under disconnected contexts. -/
theorem linked_path_ends_disconnected_read :
    shown (runMain () (linkedPath false)).1 = "7" ∧ shown (runMain () (linkedPath true)).1 = "context cancelled" := by
  decide +kernel

end Loop

end ScriptFlow
