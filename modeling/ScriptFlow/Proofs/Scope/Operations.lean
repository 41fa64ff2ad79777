import Mathlib
import ScriptFlow.Proofs.Scope.Cascade
import ScriptFlow.Proofs.Scope.Sweep

/-!
# Operations of a forest

What an owner does to a forest whose callbacks leave it alone, as futures do that are cancelled with a scope. A cancellation is one operation, with all errands
that come of it.

* `Forest.Op` — one operation; `Forest.Ops` — operations one after the other.
* `Forest.Ops.whole`, `Forest.Ops.isCancelled_mono`, `Forest.Ops.rooted` — what they keep.
-/

namespace ScriptFlow

namespace Forest

variable {κ : Type} {f f' : Forest κ} {s : ScopeId}

section Whole

/-- The tree alone matters. -/
theorem Whole.congr (h : f.Whole) (hsize : f'.scopes.size = f.scopes.size) (hcan : ∀ s, f'.isCancelled s = f.isCancelled s)
    (hkids : ∀ s, (f'.scope s).children = (f.scope s).children) : f'.Whole := by
  refine ⟨fun p x hx => ?_, fun p x hp hx => ?_⟩
  · rw [hsize]
    exact h.lt p x (hkids p ▸ hx)
  · rw [hcan] at *
    exact h.below p x hp (hkids p ▸ hx)

theorem Whole.new (h : f.Whole) : f.new.1.Whole := by
  refine ⟨fun p x hx => ?_, fun p x hp hx => ?_⟩
  · rw [size_new]
    exact Nat.lt_succ_of_lt (h.lt p x (by simpa using hx))
  · rw [isCancelled_new] at *
    exact h.below p x hp (by simpa using hx)

theorem Whole.child (h : f.Whole) {p : ScopeId} (hp : p < f.scopes.size) : (f.child p).1.Whole := by
  refine ⟨fun q x hx => ?_, fun q x hq hx => ?_⟩
  · rw [size_child]
    rw [children_child f hp] at hx
    split at hx
    · rcases List.mem_append.mp hx with hx | hx
      · exact Nat.lt_succ_of_lt (h.lt q x hx)
      · rw [List.mem_singleton.mp hx]
        exact Nat.lt_succ_self _
    · exact Nat.lt_succ_of_lt (h.lt q x hx)
  · have hlt : ∀ {y}, y ∈ (f.scope q).children → y ≠ f.scopes.size := fun hy => (h.lt q _ hy).ne
    have hqlt : q ≠ f.scopes.size := by
      rintro rfl
      simp [scope_child] at hx
    rw [isCancelled_child, if_neg hqlt] at hq
    rw [isCancelled_child]
    rw [children_child f hp] at hx
    split at hx
    · rename_i hqp
      rcases List.mem_append.mp hx with hx | hx
      · rw [if_neg (hlt hx)]
        exact h.below q x hq hx
      · rw [if_pos (List.mem_singleton.mp hx), ← hqp]
        exact hq
    · rw [if_neg (hlt hx)]
      exact h.below q x hq hx

end Whole

/-! ## Scopes that are nobody's children -/

/-- A scope that is nobody's child. -/
structure Rooted (f : Forest κ) (s : ScopeId) : Prop where
  lt : s < f.scopes.size
  root : ∀ p, s ∉ (f.scope p).children

section Rooted

theorem Rooted.congr (h : f.Rooted s) (hsize : f'.scopes.size = f.scopes.size)
    (hkids : ∀ p, (f'.scope p).children = (f.scope p).children) : f'.Rooted s := by
  refine ⟨?_, fun p => ?_⟩
  · rw [hsize]
    exact h.lt
  · rw [hkids]
    exact h.root p

theorem Rooted.new (h : f.Rooted s) : f.new.1.Rooted s := by
  refine ⟨?_, fun p => ?_⟩
  · rw [size_new]
    exact Nat.lt_succ_of_lt h.lt
  · rw [scope_new]
    exact h.root p

theorem Rooted.child (h : f.Rooted s) {p : ScopeId} (hp : p < f.scopes.size) : (f.child p).1.Rooted s := by
  refine ⟨?_, fun q => ?_⟩
  · rw [size_child]
    exact Nat.lt_succ_of_lt h.lt
  · rw [children_child f hp]
    split
    · intro hm
      rcases List.mem_append.mp hm with hm | hm
      · exact h.root q hm
      · exact h.lt.ne (List.mem_singleton.mp hm)
    · exact h.root q

/-- A new scope is nobody's child. -/
theorem Whole.rooted_new (h : f.Whole) : f.new.1.Rooted f.new.2 := by
  refine ⟨?_, fun p hm => ?_⟩
  · rw [size_new]
    exact Nat.lt_succ_self _
  · rw [scope_new] at hm
    exact Nat.lt_irrefl _ (h.lt p _ hm)

theorem Rooted.eq_of_above (h : f.Rooted s) {c : ScopeId} (hc : f.Above c s) : c = s := by
  rcases Relation.ReflTransGen.cases_tail hc with he | ⟨p, -, hp⟩
  · exact he.symm
  · exact absurd hp (h.root p)

end Rooted

/-! ## Operations -/

section Ops

variable [BEq κ]

/-- An operation of an owner. -/
inductive Op (f : Forest κ) : Forest κ → Prop where
  | new : Op f f.new.1
  | child {p} (hp : p < f.scopes.size) : Op f (f.child p).1
  | on (s c) : Op f (f.on s c).1
  | remove (s c) : Op f (f.remove s c)
  | cancel {s f' fired} (h : f.Sweeps [.cancel s] f' fired) : Op f f'

/-- Operations, one after the other. -/
abbrev Ops (f f' : Forest κ) : Prop := Relation.ReflTransGen Op f f'

theorem Op.whole (ho : f.Op f') (h : f.Whole) : f'.Whole := by
  cases ho with
  | new => exact h.new
  | child hp => exact h.child hp
  | on s c => exact h.congr (by simp) (by simp) (by simp)
  | remove s c => exact h.congr (by simp) (by simp) (by simp)
  | cancel hs => exact hs.whole h

/-- A scope that is cancelled stays cancelled. -/
theorem Op.isCancelled_mono (ho : f.Op f') (h : f.isCancelled s = true) : f'.isCancelled s = true := by
  cases ho with
  | new => simpa using h
  | child hp => rwa [isCancelled_child, if_neg (f.lt_size_of_cancelled h).ne]
  | on x c => simpa using h
  | remove x c => simpa using h
  | cancel hs => exact hs.isCancelled_mono h

theorem Op.rooted (ho : f.Op f') (h : f.Rooted s) : f'.Rooted s := by
  cases ho with
  | new => exact h.new
  | child hp => exact h.child hp
  | on x c => exact h.congr (by simp) (by simp)
  | remove x c => exact h.congr (by simp) (by simp)
  | cancel hs => exact h.congr hs.size hs.children

/-- What every operation keeps. -/
theorem Ops.keep {P : Forest κ → Prop} (hop : ∀ {f f' : Forest κ}, f.Op f' → P f → P f') (h : f.Ops f') (hf : P f) : P f' := by
  induction h with
  | refl => exact hf
  | tail _ ho ih => exact hop ho ih

theorem Ops.whole (ho : f.Ops f') (h : f.Whole) : f'.Whole := ho.keep Op.whole h

theorem Ops.isCancelled_mono (ho : f.Ops f') (h : f.isCancelled s = true) : f'.isCancelled s = true :=
  ho.keep (P := fun f => f.isCancelled s = true) Op.isCancelled_mono h

theorem Ops.rooted (ho : f.Ops f') (h : f.Rooted s) : f'.Rooted s := ho.keep (P := (Rooted · s)) Op.rooted h

end Ops

end Forest

end ScriptFlow
