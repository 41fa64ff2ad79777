import Mathlib
import ScriptFlow.Proofs.Scope.Forest

/-!
# Working off errands

When callbacks leave the forest alone, the errands of a cancellation come to an end.

* `Forest.Sweeps` — errands worked off to the end, with the callbacks that fired.
* `Forest.load` — the errands that can still come; each errand that is worked off makes it smaller.
* `Forest.Whole` — what lies below a cancelled scope is cancelled. `Forest.Sweeps.whole` — a cancellation keeps it.
-/

namespace ScriptFlow

namespace Forest

variable {κ : Type}

/-- Is a scope another, or below it? -/
def Above (f : Forest κ) (a s : ScopeId) : Prop := Relation.ReflTransGen (fun p x => x ∈ (f.scope p).children) a s

/-- Errands, worked off from the front; the callbacks that fire change nothing about the forest. -/
inductive Sweeps : Forest κ → List (Errand κ) → Forest κ → List κ → Prop where
  | nil {f} : Sweeps f [] f []
  | cons {f f' e rest fired} (h : Sweeps (f.next e).1 ((f.next e).2.1 ++ rest) f' fired) :
      Sweeps f (e :: rest) f' ((f.next e).2.2.toList ++ fired)

/-! ## Errands come to an end -/

/-- The errands that a scope leads to when it is cancelled. -/
def weight (s : Scope κ) : Nat := if s.cancelled then 0 else 1 + s.callbacks.length + 2 * s.children.length

def errandWeight (f : Forest κ) : Errand κ → Nat
  | .cancel _ => 2
  | .fire _ => 1
  | .descend s => 1 + 2 * (f.scope s).children.length

def load (f : Forest κ) (es : List (Errand κ)) : Nat :=
  ∑ s ∈ Finset.range f.scopes.size, weight (f.scope s) + (es.map f.errandWeight).sum

@[simp] theorem load_cons (f : Forest κ) (e : Errand κ) (es : List (Errand κ)) : f.load (e :: es) = f.errandWeight e + f.load es := by
  simp [load]
  omega

theorem load_append (f : Forest κ) (es es' : List (Errand κ)) : f.load (es ++ es') = (es.map f.errandWeight).sum + f.load es' := by
  simp [load]
  omega

theorem errandWeight_next_cancel (f : Forest κ) (s : ScopeId) (e : Errand κ) :
    (f.next (.cancel s)).1.errandWeight e = f.errandWeight e := by
  cases e <;> simp [errandWeight]

theorem sum_fire (f : Forest κ) (cs : List κ) : ((cs.map Errand.fire).map f.errandWeight).sum = cs.length := by
  simp [Function.comp_def, errandWeight]

theorem sum_cancel (f : Forest κ) (xs : List ScopeId) : ((xs.map Errand.cancel).map f.errandWeight).sum = 2 * xs.length := by
  simp [Function.comp_def, errandWeight, Nat.mul_comm]

/-- The weight of all scopes, when one of them is cancelled. -/
theorem sum_weight_next_cancel (f : Forest κ) {s : ScopeId} (hs : s < f.scopes.size) (hc : f.isCancelled s = false) :
    ∑ x ∈ Finset.range f.scopes.size, weight ((f.next (.cancel s)).1.scope x) +
        (1 + (f.scope s).callbacks.length + 2 * (f.scope s).children.length) =
      ∑ x ∈ Finset.range f.scopes.size, weight (f.scope x) := by
  have hmem : s ∈ Finset.range f.scopes.size := Finset.mem_range.mpr hs
  have hnext : ∀ x, (f.next (.cancel s)).1.scope x =
      if x = s then { f.scope x with cancelled := true, callbacks := [] } else f.scope x := by
    intro x
    rw [next_cancel_of_not_cancelled f hc]
    simp [scope_update, hs]
  have hrest : ∀ x ∈ (Finset.range f.scopes.size).erase s, weight ((f.next (.cancel s)).1.scope x) = weight (f.scope x) := by
    intro x hx
    rw [hnext, if_neg (Finset.ne_of_mem_erase hx)]
  have hw : weight (f.scope s) = 1 + (f.scope s).callbacks.length + 2 * (f.scope s).children.length := by
    simp only [isCancelled] at hc
    simp [weight, hc]
  rw [← Finset.add_sum_erase _ _ hmem, ← Finset.add_sum_erase (Finset.range f.scopes.size) _ hmem, Finset.sum_congr rfl hrest, hw]
  simp [hnext, weight]
  ring

theorem load_next (f : Forest κ) (e : Errand κ) (es : List (Errand κ)) :
    (f.next e).1.load ((f.next e).2.1 ++ es) < f.load (e :: es) := by
  rw [load_cons]
  cases e with
  | fire c => simp [next, errandWeight]
  | descend s =>
    simp only [next, load_append, sum_cancel, errandWeight]
    omega
  | cancel s =>
    by_cases hc : f.isCancelled s = true
    · simp [next_cancel_of_cancelled f hc, errandWeight]
    · have hc : f.isCancelled s = false := by simpa using hc
      have hsame : es.map (f.next (.cancel s)).1.errandWeight = es.map f.errandWeight :=
        List.map_congr_left fun e _ => f.errandWeight_next_cancel s e
      have hmore : (((f.next (.cancel s)).2.1).map (f.next (.cancel s)).1.errandWeight).sum =
          (f.scope s).callbacks.length + (1 + 2 * (f.scope s).children.length) := by
        rw [List.map_congr_left fun e _ => f.errandWeight_next_cancel s e, next_cancel_of_not_cancelled f hc, List.map_append,
          List.sum_append, sum_fire]
        simp [errandWeight]
      rw [load_append, hmore]
      simp only [load, size_next_cancel, hsame, errandWeight]
      by_cases hs : s < f.scopes.size
      · have hsum := f.sum_weight_next_cancel hs hc
        omega
      · -- a scope that does not exist has nothing to cancel
        have hempty := f.scope_of_size_le (Nat.le_of_not_lt hs)
        have hsum : ∀ x, (f.next (.cancel s)).1.scope x = f.scope x := by
          intro x
          rw [next_cancel_of_not_cancelled f hc]
          simp [scope_update, hs]
        simp [hempty, hsum]

/-! ## What a cancellation does -/

namespace Sweeps

variable {f f' : Forest κ} {es : List (Errand κ)} {fired : List κ}

theorem fired_of_mem (h : Sweeps f es f' fired) {c : κ} (hc : .fire c ∈ es) : c ∈ fired := by
  induction h with
  | nil => cases hc
  | @cons f f' e rest fired _ ih =>
    rcases List.mem_cons.mp hc with rfl | hc
    · simp [next]
    · exact List.mem_append_right _ (ih (List.mem_append_right _ hc))

theorem children (h : Sweeps f es f' fired) (x : ScopeId) : (f'.scope x).children = (f.scope x).children := by
  induction h with
  | nil => rfl
  | @cons f f' e rest fired _ ih =>
    rw [ih]
    cases e with
    | cancel s => exact children_next_cancel f s x
    | _ => rfl

theorem size (h : Sweeps f es f' fired) : f'.scopes.size = f.scopes.size := by
  induction h with
  | nil => rfl
  | @cons f f' e rest fired _ ih =>
    rw [ih]
    cases e with
    | cancel s => exact size_next_cancel f s
    | _ => rfl

/-- A scope stays as it is, or it becomes cancelled and all its callbacks fire. -/
theorem scope_eq_or (h : Sweeps f es f' fired) (x : ScopeId) : f'.scope x = f.scope x ∨
    f.isCancelled x = false ∧ f'.isCancelled x = true ∧ (f'.scope x).callbacks = [] ∧ ∀ c ∈ (f.scope x).callbacks, c ∈ fired := by
  induction h with
  | nil => exact Or.inl rfl
  | @cons f f' e rest fired h ih =>
    cases e with
    | fire c =>
      refine ih.imp id fun ih => ⟨ih.1, ih.2.1, ih.2.2.1, fun c' hc' => ?_⟩
      exact List.mem_append_right _ (ih.2.2.2 c' hc')
    | descend s => exact ih
    | cancel s =>
      by_cases hc : f.isCancelled s = true
      · rw [next_cancel_of_cancelled f hc] at ih
        rw [next_cancel_of_cancelled f hc]
        exact ih
      have hc : f.isCancelled s = false := by simpa using hc
      have hnext : (f.next (.cancel s)).1.scope x =
          if x = s ∧ s < f.scopes.size then { f.scope x with cancelled := true, callbacks := [] } else f.scope x := by
        rw [next_cancel_of_not_cancelled f hc]
        exact scope_update ..
      by_cases hx : x = s ∧ s < f.scopes.size
      · -- the scope itself: what it had registered is due, and fires
        rw [if_pos hx] at hnext
        have hcan : (f.next (.cancel s)).1.isCancelled x = true := by simp [isCancelled, hnext]
        have hfinal : f'.scope x = (f.next (.cancel s)).1.scope x := by
          rcases ih with ih | ih
          · exact ih
          · rw [hcan] at ih
            cases ih.1
        refine Or.inr ⟨hx.1 ▸ hc, ?_, ?_, ?_⟩
        · simp [isCancelled, hfinal, hnext]
        · simp [hfinal, hnext]
        · intro c hcx
          rw [next_cancel_of_not_cancelled f hc] at h
          refine List.mem_append_right _ (h.fired_of_mem ?_)
          rw [hx.1] at hcx
          simp [hcx]
      · rw [if_neg hx] at hnext
        simp only [isCancelled, hnext] at ih
        refine ih.imp id fun ih => ⟨ih.1, ih.2.1, ih.2.2.1, fun c hcx => ?_⟩
        exact List.mem_append_right _ (ih.2.2.2 c hcx)

theorem isCancelled_mono (h : Sweeps f es f' fired) {x : ScopeId} (hx : f.isCancelled x = true) : f'.isCancelled x = true := by
  rcases h.scope_eq_or x with he | he
  · rwa [isCancelled, he]
  · exact he.2.1

theorem mem_callbacks (h : Sweeps f es f' fired) {x : ScopeId} {c : κ} (hc : c ∈ (f'.scope x).callbacks) :
    c ∈ (f.scope x).callbacks := by
  rcases h.scope_eq_or x with he | he
  · rwa [he] at hc
  · rw [he.2.2.1] at hc
    cases hc

/-- What fired was due, or was registered on a scope that became cancelled. -/
theorem of_mem_fired (h : Sweeps f es f' fired) {c : κ} (hc : c ∈ fired) :
    .fire c ∈ es ∨ ∃ x, c ∈ (f.scope x).callbacks ∧ f.isCancelled x = false ∧ f'.isCancelled x = true := by
  induction h with
  | nil => cases hc
  | @cons f f' e rest fired h ih =>
    cases e with
    | fire c' =>
      rcases List.mem_append.mp hc with hc | hc
      · left
        have : c = c' := by simpa [next] using hc
        simp [this]
      · exact (ih hc).imp (fun hm => List.mem_cons_of_mem _ (by simpa [next] using hm)) id
    | descend s =>
      refine (ih (by simpa [next] using hc)).imp (fun hm => List.mem_cons_of_mem _ ?_) id
      simpa [next] using hm
    | cancel s =>
      have hnone : (f.next (.cancel s)).2.2 = none := by
        simp only [next]
        split <;> rfl
      have hc : c ∈ fired := by simpa [hnone] using hc
      have hmono : ∀ {x}, (f.next (.cancel s)).1.isCancelled x = false → f.isCancelled x = false := by
        intro x hx
        simp only [isCancelled_next_cancel, Bool.or_eq_false_iff] at hx
        exact hx.1
      rcases ih hc with hm | ⟨x, hx, hx', hx''⟩
      · by_cases hcs : f.isCancelled s = true
        · rw [next_cancel_of_cancelled f hcs] at hm
          exact Or.inl (List.mem_cons_of_mem _ (by simpa using hm))
        · have hcs : f.isCancelled s = false := by simpa using hcs
          rw [next_cancel_of_not_cancelled f hcs] at hm
          rcases List.mem_append.mp hm with hm | hm
          · have hmem : c ∈ (f.scope s).callbacks := by simpa using hm
            have hs : s < f.scopes.size := by
              by_contra hs
              simp [f.scope_of_size_le (Nat.le_of_not_lt hs)] at hmem
            exact Or.inr ⟨s, hmem, hcs, h.isCancelled_mono (by simp [isCancelled_next_cancel, hs])⟩
          · exact Or.inl (List.mem_cons_of_mem _ hm)
      · refine Or.inr ⟨x, ?_, hmono hx', hx''⟩
        rw [callbacks_next_cancel] at hx
        split at hx
        · cases hx
        · exact hx

/-- What an errand may lead to cancelling. -/
def Reaches (f : Forest κ) (es : List (Errand κ)) (x : ScopeId) : Prop :=
  ∃ a, (.cancel a ∈ es ∨ ∃ p, .descend p ∈ es ∧ a ∈ (f.scope p).children) ∧ f.Above a x

/-- A scope becomes cancelled only below one that an errand is about. -/
theorem of_isCancelled (h : Sweeps f es f' fired) {x : ScopeId} (hx : f'.isCancelled x = true) :
    f.isCancelled x = true ∨ Reaches f es x := by
  induction h with
  | nil => exact Or.inl hx
  | @cons f f' e rest fired h ih =>
    have hmore : ∀ {a}, .cancel a ∈ rest ∨ (∃ p, .descend p ∈ rest ∧ a ∈ (f.scope p).children) →
        .cancel a ∈ e :: rest ∨ ∃ p, .descend p ∈ e :: rest ∧ a ∈ (f.scope p).children :=
      fun ha => ha.imp (List.mem_cons_of_mem _) fun ⟨p, hp, hap⟩ => ⟨p, List.mem_cons_of_mem _ hp, hap⟩
    cases e with
    | fire c =>
      refine (ih hx).imp id ?_
      rintro ⟨a, ha, hax⟩
      exact ⟨a, hmore (by simpa [next] using ha), hax⟩
    | descend s =>
      refine (ih hx).imp id ?_
      rintro ⟨a, ha, hax⟩
      simp only [next, List.mem_append, List.mem_map, Errand.cancel.injEq, exists_eq_right, reduceCtorEq, and_false, exists_false,
        false_or] at ha
      rcases ha with (ha | ha) | ha
      · exact ⟨a, Or.inr ⟨s, by simp, ha⟩, hax⟩
      · exact ⟨a, hmore (Or.inl ha), hax⟩
      · exact ⟨a, hmore (Or.inr ha), hax⟩
    | cancel s =>
      have hself : Reaches f (.cancel s :: rest) s := ⟨s, Or.inl (by simp), .refl⟩
      rcases ih hx with hc | ⟨a, ha, hax⟩
      · simp only [isCancelled_next_cancel, Bool.or_eq_true, decide_eq_true_eq] at hc
        rcases hc with hc | ⟨rfl, -⟩
        · exact Or.inl hc
        · exact Or.inr hself
      · have habove : f.Above a x := by simpa [Above] using hax
        right
        by_cases hcs : f.isCancelled s = true
        · rw [next_cancel_of_cancelled f hcs] at ha
          exact ⟨a, hmore (by simpa using ha), habove⟩
        · rw [next_cancel_of_not_cancelled f (by simpa using hcs)] at ha
          simp only [List.mem_append, List.mem_map, reduceCtorEq, and_false, exists_false, List.mem_singleton, false_or,
            Errand.descend.injEq, or_and_right, exists_or, exists_eq_left] at ha
          rcases ha with ha | ha | ha
          · exact ⟨a, hmore (Or.inl ha), habove⟩
          · have hchild : a ∈ (f.scope s).children := by
              rw [scope_update] at ha
              split at ha <;> exact ha
            exact ⟨s, Or.inl (by simp), .head hchild habove⟩
          · obtain ⟨p, hp, hap⟩ := ha
            have hchild : a ∈ (f.scope p).children := by
              rw [scope_update] at hap
              split at hap <;> exact hap
            exact ⟨a, hmore (Or.inr ⟨p, hp, hchild⟩), habove⟩

theorem isCancelled_of_mem (h : Sweeps f es f' fired) {a : ScopeId} (ha : .cancel a ∈ es) (hlt : a < f.scopes.size) :
    f'.isCancelled a = true := by
  induction h with
  | nil => cases ha
  | @cons f f' e rest fired h ih =>
    rcases List.mem_cons.mp ha with rfl | ha
    · exact h.isCancelled_mono (by simp [isCancelled_next_cancel, hlt])
    · refine ih (List.mem_append_right _ ha) ?_
      cases e with
      | cancel s => simpa using hlt
      | _ => exact hlt

end Sweeps

/-- Scopes know scopes that exist, and what lies below a cancelled scope is cancelled. -/
structure Whole (f : Forest κ) : Prop where
  lt : ∀ p x, x ∈ (f.scope p).children → x < f.scopes.size
  below : ∀ p x, f.isCancelled p = true → x ∈ (f.scope p).children → f.isCancelled x = true

theorem Whole.isCancelled_of_above {f : Forest κ} (h : f.Whole) {a x : ScopeId} (ha : f.isCancelled a = true) (hx : f.Above a x) :
    f.isCancelled x = true := by
  induction hx with
  | refl => exact ha
  | tail _ hm ih => exact h.below _ _ ih hm

/-- Errands make a forest whole that is whole but for them. -/
theorem Sweeps.whole_of {f f' : Forest κ} {es : List (Errand κ)} {fired : List κ} (h : Sweeps f es f' fired)
    (hlt : ∀ p x, x ∈ (f.scope p).children → x < f.scopes.size)
    (hb : ∀ p x, f.isCancelled p = true → x ∈ (f.scope p).children → f.isCancelled x = true ∨ .cancel x ∈ es ∨ .descend p ∈ es) :
    f'.Whole := by
  induction h with
  | nil => exact ⟨hlt, fun p x hp hx => by simpa using hb p x hp hx⟩
  | @cons f f' e rest fired h ih =>
    cases e with
    | fire c =>
      refine ih hlt fun p x hp hx => ?_
      simpa [next] using hb p x hp hx
    | descend s =>
      refine ih hlt fun p x hp hx => ?_
      have hpx := hb p x hp hx
      simp only [next, List.mem_append, List.mem_map, Errand.cancel.injEq, exists_eq_right, List.mem_cons, reduceCtorEq, false_or,
        Errand.descend.injEq, and_false, exists_false] at hpx ⊢
      rcases hpx with hpx | hpx | rfl | hpx
      · exact Or.inl hpx
      · exact Or.inr (Or.inl (Or.inr hpx))
      · exact Or.inr (Or.inl (Or.inl hx))
      · exact Or.inr (Or.inr hpx)
    | cancel s =>
      refine ih (by simpa using hlt) fun p x hp hx => ?_
      rw [children_next_cancel] at hx
      simp only [isCancelled_next_cancel, Bool.or_eq_true, decide_eq_true_eq] at hp ⊢
      by_cases hcs : f.isCancelled s = true
      · have hp : f.isCancelled p = true := hp.elim id fun hp => hp.1 ▸ hcs
        have hpx := hb p x hp hx
        rw [next_cancel_of_cancelled f hcs]
        simp only [List.mem_cons, Errand.cancel.injEq, reduceCtorEq, false_or, List.nil_append] at hpx ⊢
        rcases hpx with hpx | (rfl | hpx) | hpx
        · exact Or.inl (Or.inl hpx)
        · exact Or.inl (Or.inl hcs)
        · exact Or.inr (Or.inl hpx)
        · exact Or.inr (Or.inr hpx)
      · rw [next_cancel_of_not_cancelled f (by simpa using hcs)]
        simp only [List.mem_append, List.mem_map, reduceCtorEq, and_false, exists_false, List.mem_singleton, false_or,
          Errand.descend.injEq]
        rcases hp with hp | ⟨rfl, -⟩
        · have hpx := hb p x hp hx
          simp only [List.mem_cons, Errand.cancel.injEq, reduceCtorEq, false_or] at hpx
          rcases hpx with hpx | (rfl | hpx) | hpx
          · exact Or.inl (Or.inl hpx)
          · exact Or.inl (Or.inr ⟨rfl, hlt p _ hx⟩)
          · exact Or.inr (Or.inl hpx)
          · exact Or.inr (Or.inr (Or.inr hpx))
        · exact Or.inr (Or.inr (Or.inl rfl))

theorem Sweeps.whole {f f' : Forest κ} {es : List (Errand κ)} {fired : List κ} (h : Sweeps f es f' fired) (hf : f.Whole) : f'.Whole :=
  h.whole_of hf.lt fun p x hp hx => Or.inl (hf.below p x hp hx)

end Forest

end ScriptFlow
