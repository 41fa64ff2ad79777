import Mathlib
import ScriptFlow.Proofs.Loop.Readers

/-!
# Waiting behind a shield

A task may wait for another through a stand-in that no scope knows. Then the stand-in is given up only for the task that waits, and what waits behind the shield does not
hear of it.

* `Kernel.Shields` — the stand-in between the future and the task, registered nowhere.
* `Kernel.Stands.future_cancel_task` — cancelling the task that waits leaves the future behind the shield alone.
* `Loop.upheld_shields` — whatever happens beside it, the shield stands until it wakes the task.
-/

namespace ScriptFlow

namespace Kernel

/-- A stand-in that no scope gives up. -/
structure Shields (k : Kernel) (g : Get) : Prop extends Stands k g False where
  alone : k.outcome? g.waiter = none → ∀ s, g.waiter ∉ (k.scopes.scope s).callbacks

section Shields

variable {k k' : Kernel} {g : Get} {new : Ref → Prop} {spent : FutureId → Callback → Prop}

/-- A change that registers the stand-in nowhere. -/
theorem Shields.grows (h : k.Shields g) (hs : k'.Stands g False) (hg : Grows new spent k k')
    (hnew : k'.outcome? g.waiter = none → ∀ s, ¬ new (.registered s g.waiter)) : k'.Shields g where
  toStands := hs
  alone ho s hm := by
    rcases hg.refs (.registered s g.waiter) hm with hr | hr
    · exact h.alone (hg.open_of_open ho) s hr
    · exact hnew ho s hr

theorem Shields.calm (h : k.Shields g) (hs : k'.Stands g False) (hg : Calm k k') : k'.Shields g :=
  h.grows hs hg fun _ _ => id

theorem Shields.cancel (h : k.Shields g) {x : FutureId} (hx : x = g.waiter → k.outcome? x ≠ none) : (k.cancel x).Shields g :=
  h.calm (h.toStands.cancel hx) (k.cancel_cancels x).calm

theorem Shields.onCancel (h : k.Shields g) (s : ScopeId) {x : FutureId} (hx : x = g.waiter → k.outcome? x ≠ none) :
    (k.onCancel s x).Shields g := by
  by_cases hc : k.scopes.isCancelled s = true
  · rw [k.onCancel_of_cancelled hc]
    exact h.cancel hx
  · have hg : Grows (fun r => r = .registered s x) (fun _ _ => False) k (k.onCancel s x) := k.grows_onCancel rfl
    have hc : k.scopes.isCancelled s = false := by simpa using hc
    rw [k.onCancel_of_not_cancelled hc] at hg ⊢
    have hnew : k.outcome? g.waiter = none → ∀ e, Ref.registered e g.waiter ≠ .registered s x := by
      intro ho e he
      exact hx (Ref.registered.inj he).2.symm ((Ref.registered.inj he).2 ▸ ho)
    refine h.grows (h.toStands.grows hg ?_ id (fun _ => id) rfl id fun _ ho => Or.inl ho) hg hnew
    rintro ho r rfl hw
    exact absurd (by rw [show g.waiter = x by simpa [Ref.touches] using hw]) (hnew ho s)

/-- Cancelling a scope asks at most the task to end. -/
theorem Shields.cancelScope (h : k.Shields g) (s : ScopeId) : (k.cancelScope s).Shields g := by
  obtain ⟨fired, he, hfired, -⟩ := k.cancelScope_fires s
  have hw : g.waiter ∈ fired → False ∨ k.outcome? g.waiter ≠ none := by
    refine fun hm => Or.inr fun ho => ?_
    obtain ⟨e, hm, -, -⟩ := hfired _ hm
    exact h.alone ho e hm
  have hall := h.toStands.cancelAll fired id hw
  have hcalm : Calm (k.cancelAll fired) ((k.cancelAll fired).withScopes (k.cancelScope s).scopes) := by
    refine grows_scopes _ fun x y hy => Or.inl ?_
    rw [scopes_cancelAll]
    exact ((k.calm_cancelScope s).refs (.registered x y) hy).resolve_right id
  refine h.calm ?_ (k.calm_cancelScope s)
  rw [he]
  exact hall.calm hcalm rfl rfl

/-- Operations of an actor that keeps away from the stand-in. -/
theorem Does.shields {bars : FutureId → Prop} (hd : Does bars k k') (h : k.Shields g) (hb : bars g.waiter) : k'.Shields g := by
  cases hd with
  | create o =>
    refine h.calm (h.toStands.calm (calm_newFuture k rfl (by simp)) ?_ ?_) (calm_newFuture k rfl (by simp))
    · simp [task?, future_newFuture, h.task_lt.ne]
    · simp [outcome?, future_newFuture, h.lt.ne]
  | resolve o hf => exact h.calm (h.toStands.resolve (hf.decided hb) o) (calm_resolve ..)
  | promise => exact h.calm (h.toStands.calm (calm_setChained k _) (by simp) (by simp)) (calm_setChained ..)
  | @listen x c hg hw hc =>
    have hgrows : Grows (fun r => r = .pending x c) (fun _ _ => False) k (k.addCallback x c) := grows_addCallback k x rfl
    refine h.grows (h.toStands.grows hgrows ?_ id (fun _ => id) (by simp) id fun _ ho => Or.inl (by simpa using ho)) hgrows (by simp)
    rintro ho r rfl hwr
    exact absurd (by simpa using ho) ((hc _ hwr).2.decided hb rfl)
  | cancel hf => exact h.cancel (hf.decided hb)
  | newScope => exact h.calm (h.toStands.calm k.calm_newScope rfl rfl) k.calm_newScope
  | childScope => exact h.calm (h.toStands.calm (k.calm_childScope _) rfl rfl) (k.calm_childScope _)
  | cancelScope s => exact h.cancelScope s
  | register s hlt hf => exact h.onCancel s (hf.decided hb)
  | unregister s hf => exact h.calm (h.toStands.offCancel s _) (k.calm_offCancel s _)
  | notices ns => exact h.calm (h.toStands.calm (k.calm_notices ns) rfl rfl) (k.calm_notices ns)

theorem Shields.afterCall (h : k.Shields g) {f : FutureId} (hf : f ≠ g.waiter) (a : Settling) : (k.afterCall f a).Shields g := by
  have hgrows : Grows (fun r => ∃ x, r = .pending x (.forward f)) (fun _ _ => False) k (k.afterCall f a) :=
    k.grows_afterCall f a fun x _ => ⟨x, rfl⟩
  refine h.grows ?_ hgrows (by simp)
  rcases k.afterCall_cases f a with ⟨he, -⟩ | ⟨-, -, ⟨o, he⟩ | ⟨x, -, he⟩⟩
  · rw [he]
    exact h.toStands
  · rw [he]
    exact h.toStands.resolve (fun hx => absurd hx hf) o
  · rw [he] at hgrows ⊢
    refine h.toStands.grows hgrows ?_ id (fun _ => id) (by simp) id fun _ ho => Or.inl (by simpa using ho)
    rintro _ r ⟨y, rfl⟩ hw
    exact absurd (by simpa [Ref.touches, Callback.touches] using hw) hf.symm

theorem Acts.shields {bars calls : FutureId → Prop} {log : List OwnerCall} (ha : Acts bars calls k log k') (h : k.Shields g)
    (hb : bars g.waiter) (hc : ¬ calls g.waiter) : k'.Shields g := by
  induction ha with
  | refl => exact h
  | act _ hd ih => exact hd.shields ih hb
  | call _ hf _ _ ih =>
    refine ih.afterCall ?_ _
    rintro rfl
    exact hc hf

/-- A task begins to wait behind a shield. -/
theorem shields_waitFor {t f : FutureId} {s : ScopeId} {task : Task} (ht : k.task? t = some task)
    (hrefs : ∀ r, k.Holds r → ∀ x ∈ r.touches, x < k.futures.size) (ho : k.outcome? f = none) (hlt : f < k.futures.size) :
    ((k.shield f).1.waitFor t k.futures.size).Shields (k.newGet t f s) := by
  have hscopes : (k.shield f).1.scopes = k.scopes := by simp [shield_of_open ho]
  have hsame : (k.shield f).1.withScopes k.scopes = (k.shield f).1 := by rw [← hscopes]; rfl
  have hstands : (((k.shield f).1.withScopes k.scopes).waitFor t k.futures.size).Stands (k.newGet t f s) False :=
    stands_waitFor ht hrefs ho hlt fun _ _ => Or.inl
  rw [hsame] at hstands
  refine { toStands := hstands, alone := fun _ e hm => ?_ }
  rw [scopes_waitFor, hscopes] at hm
  exact absurd (hrefs (.registered e _) hm k.futures.size (by simp [Ref.touches])) (Nat.lt_irrefl _)

/-! ## The task that waits -/

/-- A cancellation of a task that waits comes to its stand-in, and no further. -/
theorem Stands.leads_task {gone : Prop} (h : k.Stands g gone) {y : FutureId} (hl : k.Leads g.task y) : y = g.task ∨ y = g.waiter := by
  rcases Relation.ReflTransGen.cases_head hl with he | ⟨z, ⟨task, ht, hz⟩, hrest⟩
  · exact Or.inl he.symm
  · have hzw : z = g.waiter := by
      have hw := h.waits
      rw [waitsOn, ht] at hw
      exact Option.some.inj (hz.symm.trans hw)
    subst hzw
    exact Or.inr (leads_of_plain h.plain hrest)

/-- **What waits behind a shield does not hear of a cancellation** of the task in front of it. -/
theorem Stands.future_cancel_task {gone : Prop} (h : k.Stands g gone) {y : FutureId} (hy : y ≠ g.task) (hyw : y ≠ g.waiter) :
    (k.cancel g.task).future y = k.future y := by
  refine (k.cancel_cancels g.task).future_of_not_leads fun hl => ?_
  rcases h.leads_task hl with he | he
  · exact hy he
  · exact hyw he

/-- A task that will be told of a cancellation was asked to end. -/
theorem Cancels.counts {x t : FutureId} (hc : Cancels k x k') (h : k'.requested t = true) :
    k.requested t = true ∨ k.cancelsOf t < k'.cancelsOf t := by
  have hnote : ∀ {k : Kernel} {x : FutureId}, (k.noteCancel x).requested t = k.requested t := by
    intro k x
    simp only [Kernel.requested, task?_noteCancel]
    split
    · simp [Function.comp_def]
    · rfl
  have hcancels : ∀ {k : Kernel} {x : FutureId}, k.cancelsOf t ≤ (k.noteCancel x).cancelsOf t :=
    fun {k x} => cancelsOf_grows (calm_noteCancel k x) t
  induction hc with
  | done => exact Or.inl h
  | plain => exact Or.inl (by simpa [Kernel.requested] using h)
  | @asked k x task _ ht =>
    by_cases hx : t = x
    · subst hx
      refine Or.inr (Nat.lt_of_lt_of_le ?_ (cancelsOf_grows (calm_requestCancel (k.noteCancel t) t) t))
      rw [cancelsOf_noteCancel ht]
      exact Nat.lt_succ_self _
    · refine Or.inl ?_
      rw [Kernel.requested, requestCancel, task?_updateTask, if_neg hx] at h
      exact hnote.symm.trans h
  | through _ _ _ _ _ ih =>
    rcases ih h with hr | hlt
    · exact Or.inl (hnote.symm.trans hr)
    · exact Or.inr (hcancels.trans_lt hlt)

theorem counts_cancelAll {t : FutureId} {fs : List FutureId} (h : (k.cancelAll fs).requested t = true) :
    k.requested t = true ∨ k.cancelsOf t < (k.cancelAll fs).cancelsOf t := by
  induction fs generalizing k with
  | nil => exact Or.inl h
  | cons x rest ih =>
    have hx := k.cancel_cancels x
    have hrest := cancelsOf_grows ((k.cancel x).calm_cancelAll rest) t
    rcases ih h with hr | hlt
    · exact (hx.counts hr).imp id fun hlt => hlt.trans_le hrest
    · exact Or.inr ((cancelsOf_grows hx.calm t).trans_lt hlt)

theorem counts_cancelScope {t : FutureId} {s : ScopeId} (h : (k.cancelScope s).requested t = true) :
    k.requested t = true ∨ k.cancelsOf t < (k.cancelScope s).cancelsOf t := by
  obtain ⟨fired, he, -, -⟩ := k.cancelScope_fires s
  rw [he] at h ⊢
  exact counts_cancelAll h

end Shields

end Kernel

namespace Loop

open Kernel

theorem upheld_shields (g : Get) : Upheld g fun k => k.Shields g where
  stands h := ⟨_, h.toStands⟩
  keep h hs hscopes hopen := { toStands := hs _ h.toStands, alone := fun ho => hscopes ▸ h.alone (hopen ho) }
  offCancel h s _ := h.calm (h.toStands.offCancel s _) (Kernel.calm_offCancel _ s _)
  acts h hb hc hd := hd.shields h hb hc

end Loop

end ScriptFlow
