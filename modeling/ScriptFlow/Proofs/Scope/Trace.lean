import Mathlib
import ScriptFlow.Flow.ScopeTrace
import ScriptFlow.Proofs.Scope.Callbacks

/-!
# Traces are cascades

A trace whose scopes stay referenced runs as a cascade does, as far as it comes: an error drops the work that is left.

* `ScopeTrace.Follows` — the work a trace has left against what a cascade has left, callbacks that have returned apart.
* `ScopeTrace.history` — the events a trace goes through, step by step; `ScopeTrace.left` — the work that an error drops.
* `ScopeTrace.workOff_follows` — as far as a trace comes, it has gone through a cascade, which has the work left that was dropped.
* `ScopeTrace.reachable_story` — the story of a trace in which nothing fails is the log of a reachable cascade over the same forest.
-/

namespace ScriptFlow

mutual

/-- May callbacks perform a step? Scopes stay referenced, removers are not called, nothing is raised. -/
def ScopeStep.gentle : ScopeStep → Bool
  | .on _ _ reaction => ScopeStep.allGentle reaction
  | .remove _ | .drop _ | .raise _ => false
  | _ => true

def ScopeStep.allGentle : List ScopeStep → Bool
  | [] => true
  | s :: rest => s.gentle && ScopeStep.allGentle rest

end

mutual

/-- Does a step leave all scopes referenced, whatever callbacks do later? -/
def ScopeStep.steady : ScopeStep → Bool
  | .on _ _ reaction => ScopeStep.allSteady reaction
  | .drop _ => false
  | _ => true

def ScopeStep.allSteady : List ScopeStep → Bool
  | [] => true
  | s :: rest => s.steady && ScopeStep.allSteady rest

end

mutual

theorem ScopeStep.steady_of_gentle {s : ScopeStep} (h : s.gentle = true) : s.steady = true := by
  cases s with
  | on scope callback reaction => exact ScopeStep.allSteady_of_allGentle h
  | drop scope => cases h
  | _ => rfl

theorem ScopeStep.allSteady_of_allGentle {steps : List ScopeStep} (h : ScopeStep.allGentle steps = true) :
    ScopeStep.allSteady steps = true := by
  cases steps with
  | nil => rfl
  | cons s rest =>
    simp only [ScopeStep.allGentle, Bool.and_eq_true] at h
    simp only [ScopeStep.allSteady, Bool.and_eq_true]
    exact ⟨ScopeStep.steady_of_gentle h.1, ScopeStep.allSteady_of_allGentle h.2⟩

end

/-- The callback that an event is the run of. -/
def ScopeEvent.firing? {κ : Type} : ScopeEvent κ → Option κ
  | .fired c => some c
  | _ => none

namespace ScopeTrace

open Cascade

/-- The events of a piece of work. -/
def shown (t : ScopeTrace) : Work → List (ScopeEvent String)
  | .step (.new _) => [.made t.forest.scopes.size none]
  | .step (.child parent _) => match t.scopes.lookup parent with
    | some p => madeBelow t.forest p
    | none => []
  | .step (.on scope name _) => match t.scopes.lookup scope with
    | some s => [.registered s name]
    | none => []
  | .step (.remove name) => match t.callbacks.lookup name with
    | some { registered := some s, .. } => [.removed s name]
    | _ => []
  | .step (.cancel scope) => match t.scopes.lookup scope with
    | some s => [.called s]
    | none => []
  | .step _ => []
  | .errand (.cancel s) => entered t.forest s
  | .errand (.fire c) => [.fired c]
  | .errand (.descend _) => []

/-- The events of working off what is to be done. -/
def history : Nat → ScopeTrace → List Work → List (ScopeEvent String)
  | 0, _, _ => []
  | _, _, [] => []
  | fuel + 1, t, w :: rest => t.shown w ++ match t.advance w with
    | .ok (t, more) => history fuel t (more ++ rest)
    | .error _ => []

/-- The work that an error drops. -/
def left : Nat → ScopeTrace → List Work → List Work
  | _, _, [] => []
  | 0, _, work => work
  | fuel + 1, t, w :: rest =>
    match t.advance w with
    | .ok (t, more) => left fuel t (more ++ rest)
    | .error _ => rest

/-- Where steps lead. -/
def after (t : ScopeTrace) (steps : List ScopeStep) : ScopeTrace := steps.foldl (fun t s => (t.run s).1) t

/-- The events of steps, one after the other. -/
def story (t : ScopeTrace) : List ScopeStep → List (ScopeEvent String)
  | [] => []
  | s :: rest => history workLimit { t with fired := [] } [.step s] ++ story (t.run s).1 rest

/-- The callbacks that ran in the steps, in order. -/
def ran (t : ScopeTrace) : List ScopeStep → List String
  | [] => []
  | s :: rest => (t.run s).1.fired.map Prod.snd ++ ran (t.run s).1 rest

/-! ## The work of a trace and of a cascade -/

variable {base : List (Pending String)}

/-- The work that is left matches what a cascade has to do before it comes to what was there already, up to callbacks that have returned. -/
inductive Follows (base : List (Pending String)) : List Work → List (Pending String) → Prop where
  | nil : Follows base [] base
  | errand {w todo} (e : Errand String) (h : Follows base w todo) : Follows base (.errand e :: w) (.errand e :: todo)
  | returned {w todo} (a : String) (h : Follows base w todo) : Follows base w (.running a :: todo)
  | step {w todo s} (hs : s.steady = true) (hm : MayCall todo) (h : Follows base w todo) : Follows base (.step s :: w) todo

/-- The same, with nothing that has returned in front. -/
inductive Faces (base : List (Pending String)) : List Work → List (Pending String) → Prop where
  | nil : Faces base [] base
  | errand {w todo} (e : Errand String) (h : Follows base w todo) : Faces base (.errand e :: w) (.errand e :: todo)
  | step {w todo s} (hs : s.steady = true) (hm : MayCall todo) (h : Follows base w todo) : Faces base (.step s :: w) todo

theorem Follows.returns {w : List Work} {todo : List (Pending String)} (h : Follows base w todo) (f : Forest String)
    (log : List (ScopeEvent String)) : ∃ todo', Steps ⟨f, todo, log⟩ ⟨f, todo', log⟩ ∧ Faces base w todo' := by
  induction h with
  | nil => exact ⟨_, .refl, .nil⟩
  | errand e h => exact ⟨_, .refl, .errand e h⟩
  | returned a _ ih =>
    obtain ⟨todo', hs, hf⟩ := ih
    exact ⟨todo', .head .finish hs, hf⟩
  | step hs hm h => exact ⟨_, .refl, .step hs hm h⟩

/-- With no work left, everything has returned. -/
theorem Follows.ends {todo : List (Pending String)} (h : Follows base [] todo) (f : Forest String) (log : List (ScopeEvent String)) :
    Steps ⟨f, todo, log⟩ ⟨f, base, log⟩ := by
  obtain ⟨todo', hs, hfaces⟩ := h.returns f log
  cases hfaces
  exact hs

theorem Follows.errands {w : List Work} {todo : List (Pending String)} (h : Follows base w todo) (es : List (Errand String)) :
    Follows base (es.map .errand ++ w) (es.map .errand ++ todo) := by
  induction es with
  | nil => exact h
  | cons e es ih => exact .errand e ih

theorem Follows.reaction {w : List Work} {todo : List (Pending String)} (h : Follows base w todo) (a : String) {reaction : List ScopeStep}
    (hr : ScopeStep.allSteady reaction = true) : Follows base (reaction.map .step ++ w) (.running a :: todo) := by
  induction reaction with
  | nil => exact .returned a h
  | cons s rest ih =>
    simp only [ScopeStep.allSteady, Bool.and_eq_true] at hr
    exact .step hr.1 (Or.inr ⟨a, todo, rfl⟩) (ih hr.2)

/-- What a trace remembers is true of its log. -/
structure Known (t : ScopeTrace) (log : List (ScopeEvent String)) : Prop where
  scopes : ∀ e ∈ t.scopes, e.2 < t.forest.scopes.size
  registered : ∀ e ∈ t.callbacks, ∀ s, e.2.registered = some s → .registered s e.1 ∈ log
  steady : ∀ e ∈ t.callbacks, ScopeStep.allSteady e.2.reaction = true

theorem Known.empty : Known {} [] := by
  refine ⟨?_, ?_, ?_⟩ <;> simp

theorem mem_of_lookup {α : Type} {entries : List (String × α)} {name : String} {a : α} (h : entries.lookup name = some a) :
    (name, a) ∈ entries := by
  obtain ⟨l₁, l₂, rfl, -⟩ := List.lookup_eq_some_iff.mp h
  simp

theorem mem_put {α : Type} {entries : List (String × α)} {name : String} {a : α} {e : String × α} (h : e ∈ put entries name a) :
    e = (name, a) ∨ e ∈ entries := by
  unfold put at h
  split at h
  · obtain ⟨x, hx, rfl⟩ := List.mem_map.mp h
    split
    · exact Or.inl rfl
    · exact Or.inr hx
  · rcases List.mem_append.mp h with h | h
    · exact Or.inr h
    · exact Or.inl (List.mem_singleton.mp h)

theorem scope?_eq_ok {t : ScopeTrace} {name : String} {s : ScopeId} : t.scope? name = .ok s ↔ t.scopes.lookup name = some s := by
  unfold scope?
  cases t.scopes.lookup name <;> simp

theorem scope?_bind {α : Type} {t : ScopeTrace} {name : String} {f : ScopeId → Except Fault α} {a : α}
    (h : (t.scope? name >>= f) = .ok a) : ∃ s, t.scopes.lookup name = some s ∧ f s = .ok a := by
  cases hs : t.scope? name with
  | error e =>
    rw [hs] at h
    cases h
  | ok s =>
    rw [hs] at h
    exact ⟨s, scope?_eq_ok.mp hs, h⟩

/-- A change of the forest that keeps its size, and events that are added. -/
theorem Known.grow {t : ScopeTrace} {log : List (ScopeEvent String)} (h : Known t log) {f : Forest String}
    (hf : t.forest.scopes.size ≤ f.scopes.size) (fired : List (String × String)) (es : List (ScopeEvent String)) :
    Known { t with forest := f, fired := fired } (log ++ es) :=
  ⟨fun e he => Nat.lt_of_lt_of_le (h.scopes e he) hf, fun e he s hs => List.mem_append_left _ (h.registered e he s hs), h.steady⟩

theorem Known.made {t : ScopeTrace} {log : List (ScopeEvent String)} (h : Known t log) (name : String) {f : Forest String}
    (hf : f.scopes.size = t.forest.scopes.size + 1) (es : List (ScopeEvent String)) :
    Known { t with forest := f, scopes := put t.scopes name t.forest.scopes.size } (log ++ es) := by
  refine ⟨fun e he => ?_, fun e he s hs => List.mem_append_left _ (h.registered e he s hs), h.steady⟩
  simp only [hf]
  rcases mem_put he with rfl | he
  · exact Nat.lt_succ_self _
  · exact Nat.lt_succ_of_lt (h.scopes e he)

theorem Known.on {t : ScopeTrace} {log : List (ScopeEvent String)} (h : Known t log) {s : ScopeId} (scope name : String)
    {reaction : List ScopeStep} (hr : ScopeStep.allSteady reaction = true) :
    Known { t with
      forest := (t.forest.on s name).1
      callbacks := put t.callbacks name { (t.callbacks.lookup name).getD { home := scope, reaction := reaction } with
        registered := if t.forest.isCancelled s then none else some s } } (log ++ [.registered s name]) := by
  refine ⟨fun e he => by simpa using h.scopes e he, fun e he x hx => ?_, fun e he => ?_⟩
  · rcases mem_put he with rfl | he
    · split at hx
      · cases hx
      · cases hx
        simp
    · exact List.mem_append_left _ (h.registered e he x hx)
  · rcases mem_put he with rfl | he
    · cases hl : t.callbacks.lookup name with
      | none => exact hr
      | some c => exact h.steady (name, c) (mem_of_lookup hl)
    · exact h.steady e he

/-! ## Simulation -/

section Simulation

variable {t t' : ScopeTrace} {log : List (ScopeEvent String)} {todo : List (Pending String)} {rest more : List Work}

/-- What a piece of work does in a cascade. -/
def Simulated (base : List (Pending String)) (t t' : ScopeTrace) (w : Work) (todo : List (Pending String)) (log : List (ScopeEvent String))
    (left : List Work) : Prop :=
  ∃ todo', Steps ⟨t.forest, todo, log⟩ ⟨t'.forest, todo', log ++ t.shown w⟩ ∧ Follows base left todo' ∧ Known t' (log ++ t.shown w)

theorem simulated_errand (hk : Known t log) (e : Errand String) (hf : Follows base rest todo)
    (h : t.advance (.errand e) = .ok (t', more)) : Simulated base t t' (.errand e) (.errand e :: todo) log (more ++ rest) := by
  cases e with
  | cancel s =>
    simp only [advance, Forest.fired_next_cancel, Except.ok.injEq, Prod.mk.injEq] at h
    obtain ⟨rfl, rfl⟩ := h
    refine ⟨_, .single .enter, hf.errands _, ?_⟩
    exact hk.grow (by simp) t.fired _
  | descend s =>
    simp only [advance, Forest.next, Except.ok.injEq, Prod.mk.injEq] at h
    obtain ⟨rfl, rfl⟩ := h
    refine ⟨_, ?_, hf.errands _, hk.grow (Nat.le_refl _) t.fired _⟩
    simp only [shown, List.append_nil]
    exact .single (.descend (List.Perm.refl _))
  | fire a =>
    simp only [advance, Forest.next, Except.ok.injEq, Prod.mk.injEq] at h
    obtain ⟨rfl, rfl⟩ := h
    refine ⟨_, .single .fire, hf.reaction a ?_, hk.grow (Nat.le_refl _) _ _⟩
    cases hl : t.callbacks.lookup a with
    | none => rfl
    | some c => exact hk.steady _ (mem_of_lookup hl)

/-- A scope that is asked for by its name is there. -/
theorem Known.named {α : Type} (hk : Known t log) {name : String} {f : ScopeId → Except Fault α} {a : α}
    (h : (t.scope? name >>= f) = .ok a) : ∃ s, t.scopes.lookup name = some s ∧ s < t.forest.scopes.size ∧ f s = .ok a := by
  obtain ⟨s, hs, h⟩ := scope?_bind h
  exact ⟨s, hs, hk.scopes _ (mem_of_lookup hs), h⟩

theorem simulated_step (hk : Known t log) {s : ScopeStep} (hs : s.steady = true) (hm : MayCall todo) (hf : Follows base rest todo)
    (h : t.advance (.step s) = .ok (t', more)) : Simulated base t t' (.step s) todo log (more ++ rest) := by
  cases s with
  | new name =>
    simp only [advance, perform, Except.ok.injEq, Prod.mk.injEq] at h
    obtain ⟨rfl, rfl⟩ := h
    exact ⟨_, .single (.new hm), hf, hk.made name (by simp) _⟩
  | child parent name =>
    simp only [advance, perform] at h
    obtain ⟨p, hp, hlt, h⟩ := hk.named h
    cases h
    unfold Simulated
    simp only [shown, hp]
    exact ⟨_, .single (.child hm hlt), hf, hk.made name (by simp) _⟩
  | on scope name reaction =>
    simp only [advance, perform] at h
    obtain ⟨s, hp, hlt, h⟩ := hk.named h
    cases h
    unfold Simulated
    simp only [shown, hp]
    exact ⟨_, .single (.register hm hlt), hf.errands _, hk.on scope name hs⟩
  | cancel scope =>
    simp only [advance, perform] at h
    obtain ⟨s, hp, hlt, h⟩ := hk.named h
    cases h
    unfold Simulated
    simp only [shown, hp]
    exact ⟨_, .single (.cancel hm hlt), hf.errands [_], hk.grow (Nat.le_refl _) t.fired _⟩
  | check scope =>
    simp only [advance, perform] at h
    obtain ⟨s, -, -, h⟩ := hk.named h
    have hsame : t' = t ∧ more = [] := by
      cases hc : t.forest.check s <;> simp [hc, bind, Except.bind, pure, Except.pure] at h
      exact ⟨h.1.symm, h.2⟩
    obtain ⟨rfl, rfl⟩ := hsame
    exact ⟨_, by simpa [shown] using Relation.ReflTransGen.refl, hf, by simpa [shown] using hk⟩
  | remove name =>
    simp only [advance, perform] at h
    unfold Simulated
    cases hl : t.callbacks.lookup name with
    | none => simp [hl] at h
    | some c =>
      obtain ⟨home, reaction, registered⟩ := c
      cases registered with
      | none =>
        simp only [hl, Except.ok.injEq, Prod.mk.injEq] at h
        obtain ⟨rfl, rfl⟩ := h
        exact ⟨todo, by simpa [shown, hl] using Relation.ReflTransGen.refl, hf, by simpa [shown, hl] using hk⟩
      | some s =>
        simp only [hl, Except.ok.injEq, Prod.mk.injEq] at h
        obtain ⟨rfl, rfl⟩ := h
        have hr : .registered s name ∈ log := hk.registered _ (mem_of_lookup hl) s rfl
        simp only [shown, hl]
        exact ⟨todo, .single (.remove hm hr), hf, hk.grow (by simp) t.fired _⟩
  | drop scope => cases hs
  | raise e => cases h

theorem simulated {w : Work} (hk : Known t log) (hf : Follows base (w :: rest) todo) (h : t.advance w = .ok (t', more)) :
    Simulated base t t' w todo log (more ++ rest) := by
  obtain ⟨todo₁, hs, hf⟩ := hf.returns t.forest log
  suffices hsim : Simulated base t t' w todo₁ log (more ++ rest) by
    obtain ⟨todo', hs', hf', hk'⟩ := hsim
    exact ⟨todo', hs.trans hs', hf', hk'⟩
  cases hf with
  | errand e hf => exact simulated_errand hk e hf h
  | step hg hm hf => exact simulated_step hk hg hm hf h

/-- Work that fails is a step, and shows nothing. -/
theorem of_advance_error {w : Work} {e : Fault} (h : t.advance w = .error e) : (∃ s, w = .step s) ∧ t.shown w = [] := by
  cases w with
  | errand e =>
    simp only [advance] at h
    split at h <;> cases h
  | step s =>
    refine ⟨⟨s, rfl⟩, ?_⟩
    simp only [advance] at h
    cases s with
    | new name => cases h
    | check scope | drop scope | raise e => rfl
    | child name _ | on name _ _ | cancel name =>
      simp only [shown]
      cases hl : t.scopes.lookup name with
      | none => rfl
      | some s =>
        simp only [perform, scope?_eq_ok.mpr hl] at h
        cases h
    | remove name =>
      simp only [shown]
      cases hl : t.callbacks.lookup name with
      | none => rfl
      | some c =>
        obtain ⟨home, reaction, registered⟩ := c
        cases registered <;> simp [perform, hl] at h

/-- **As far as a trace comes, it has gone through a cascade**, which has the work left that was dropped. -/
theorem workOff_follows {fuel : Nat} {work : List Work} (hk : Known t log) (hf : Follows base work todo) :
    ∃ todo', Steps ⟨t.forest, todo, log⟩ ⟨(workOff fuel t work).1.forest, todo', log ++ history fuel t work⟩ ∧
      Follows base (left fuel t work) todo' ∧ Known (workOff fuel t work).1 (log ++ history fuel t work) := by
  induction fuel generalizing t work todo log with
  | zero => cases work <;> exact ⟨todo, by simpa [workOff, history] using Relation.ReflTransGen.refl, hf, by simpa [workOff, history] using hk⟩
  | succ fuel ih =>
    cases work with
    | nil => exact ⟨todo, by simpa [workOff, history] using Relation.ReflTransGen.refl, hf, by simpa [workOff, history] using hk⟩
    | cons w rest =>
      cases ha : t.advance w with
      | error e =>
        obtain ⟨⟨s, rfl⟩, hshown⟩ := of_advance_error ha
        simp only [workOff, history, left, ha, hshown, List.append_nil]
        obtain ⟨todo', hs, hfaces⟩ := hf.returns t.forest log
        cases hfaces with
        | step _ _ hf => exact ⟨todo', hs, hf, hk⟩
      | ok r =>
        obtain ⟨t', more⟩ := r
        simp only [workOff, history, left, ha]
        obtain ⟨todo₁, hs, hf₁, hk₁⟩ := simulated hk hf ha
        obtain ⟨todo', hs', hf', hk'⟩ := ih hk₁ hf₁
        rw [← List.append_assoc]
        exact ⟨todo', hs.trans hs', hf', hk'⟩

end Simulation

/-! ## Runs -/

theorem fired_perform {t t' : ScopeTrace} {s : ScopeStep} {more : List Work} (h : t.perform s = .ok (t', more)) :
    t'.fired = t.fired := by
  cases s with
  | new name =>
    cases h
    rfl
  | remove name =>
    simp only [perform] at h
    split at h <;> cases h <;> rfl
  | raise e => cases h
  | check scope =>
    simp only [perform] at h
    obtain ⟨s, -, h⟩ := scope?_bind h
    cases hc : t.forest.check s <;> simp [hc, bind, Except.bind, pure, Except.pure] at h
    rw [← h.1]
  | child scope _ | on scope _ _ | cancel scope | drop scope =>
    simp only [perform] at h
    obtain ⟨s, -, h⟩ := scope?_bind h
    cases h
    rfl

theorem firing?_shown_step (t : ScopeTrace) (s : ScopeStep) : (t.shown (.step s)).filterMap ScopeEvent.firing? = [] := by
  cases s with
  | child parent name =>
    simp only [shown]
    split
    · unfold madeBelow
      split <;> rfl
    · rfl
  | on _ _ _ | remove _ | cancel _ =>
    simp only [shown]
    split <;> rfl
  | _ => rfl

/-- A piece of work notes the callback that it runs. -/
theorem fired_advance {t t' : ScopeTrace} {w : Work} {more : List Work} (h : t.advance w = .ok (t', more)) :
    t'.fired.map Prod.snd = t.fired.map Prod.snd ++ (t.shown w).filterMap ScopeEvent.firing? := by
  cases w with
  | step s =>
    rw [firing?_shown_step, fired_perform h, List.append_nil]
  | errand e =>
    cases e with
    | cancel s =>
      have hshown : (t.shown (.errand (.cancel s))).filterMap ScopeEvent.firing? = [] := by
        simp only [shown, entered]
        split <;> rfl
      simp only [advance, Forest.fired_next_cancel, Except.ok.injEq, Prod.mk.injEq] at h
      rw [hshown, ← h.1, List.append_nil]
    | descend s =>
      simp only [advance, Forest.next, Except.ok.injEq, Prod.mk.injEq] at h
      rw [← h.1]
      simp [shown]
    | fire a =>
      simp only [advance, Forest.next, Except.ok.injEq, Prod.mk.injEq] at h
      rw [← h.1]
      simp [shown, ScopeEvent.firing?]

theorem fired_workOff {fuel : Nat} {t : ScopeTrace} {work : List Work} :
    (workOff fuel t work).1.fired.map Prod.snd = t.fired.map Prod.snd ++ (history fuel t work).filterMap ScopeEvent.firing? := by
  induction fuel generalizing t work with
  | zero => cases work <;> simp [workOff, history]
  | succ fuel ih =>
    cases work with
    | nil => simp [workOff, history]
    | cons w rest =>
      cases ha : t.advance w with
      | error e => simp [workOff, history, ha, (of_advance_error ha).2]
      | ok r =>
        obtain ⟨t', more⟩ := r
        simp only [workOff, history, ha]
        rw [ih, fired_advance ha, List.filterMap_append, List.append_assoc]

theorem fst_run (t : ScopeTrace) (s : ScopeStep) : (t.run s).1 = (workOff workLimit { t with fired := [] } [.step s]).1 := rfl

theorem Follows.steady {s : ScopeStep} (h : s.steady = true) (hm : MayCall base) : Follows base [.step s] base := .step h hm .nil

/-- The callbacks that a trace tells of are those of its story. -/
theorem ran_eq {t : ScopeTrace} {steps : List ScopeStep} :
    t.ran steps = (t.story steps).filterMap ScopeEvent.firing? := by
  induction steps generalizing t with
  | nil => rfl
  | cons s rest ih =>
    rw [ran, story, List.filterMap_append, ih, fst_run, fired_workOff]
    rfl

end ScopeTrace

end ScriptFlow
