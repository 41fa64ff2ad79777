import Mathlib
import ScriptFlow.Flow.Scope

/-!
# Looking scopes up

What each operation of a forest does to the scope found under an id:

* `scope_update`, `scope_new`, `scope_child` — the operations by their effect on every scope;
* `isCancelled_child`, `children_child`, `callbacks_child` — a scope made below another, field by field;
* `next_cancel_of_cancelled` — cancelling a cancelled scope does nothing and leads to nothing.

An id that names no scope finds the empty one, so a forest need not be well formed for these.
-/

namespace ScriptFlow

namespace Forest

variable {κ : Type} (f : Forest κ)

@[simp] theorem scope_empty (s : ScopeId) : ({} : Forest κ).scope s = {} := rfl

@[simp] theorem size_update (s : ScopeId) (g : Scope κ → Scope κ) : (f.update s g).scopes.size = f.scopes.size := by
  simp [update]

theorem scope_update (s : ScopeId) (g : Scope κ → Scope κ) (x : ScopeId) :
    (f.update s g).scope x = if x = s ∧ s < f.scopes.size then g (f.scope x) else f.scope x := by
  unfold scope update
  rw [Array.getElem?_modify]
  by_cases h : s = x
  · subst h
    by_cases hs : s < f.scopes.size
    · simp [hs]
    · simp [hs]
  · have hx : x ≠ s := fun e => h e.symm
    simp [h, hx]

theorem scope_of_size_le {s : ScopeId} (h : f.scopes.size ≤ s) : f.scope s = {} := by
  simp [scope, Array.getElem?_eq_none h]

theorem lt_size_of_cancelled {s : ScopeId} (h : f.isCancelled s = true) : s < f.scopes.size := by
  by_contra hs
  simp [isCancelled, scope_of_size_le f (Nat.le_of_not_lt hs)] at h

/-! ## New scopes -/

@[simp] theorem size_new : f.new.1.scopes.size = f.scopes.size + 1 := by
  simp [new]

/-- A new scope is like the empty one that its id found before. -/
@[simp] theorem scope_new (x : ScopeId) : f.new.1.scope x = f.scope x := by
  unfold scope new
  simp only [Array.getElem?_push]
  split
  · rename_i h
    simp [h]
  · rfl

@[simp] theorem isCancelled_new (x : ScopeId) : f.new.1.isCancelled x = f.isCancelled x := by
  simp [isCancelled]

@[simp] theorem size_child (p : ScopeId) : (f.child p).1.scopes.size = f.scopes.size + 1 := by
  simp [child]

theorem scope_child (p x : ScopeId) : (f.child p).1.scope x =
    if x = f.scopes.size then { cancelled := f.isCancelled p }
    else if x = p then { f.scope x with children := (f.scope x).children ++ (if p < f.scopes.size then [f.scopes.size] else []) }
    else f.scope x := by
  have hp : (f.update p fun q => { q with children := q.children ++ [f.scopes.size] }).isCancelled p = f.isCancelled p := by
    unfold isCancelled
    rw [scope_update]
    split <;> rfl
  have hx := scope_update f p (fun q => { q with children := q.children ++ [f.scopes.size] }) x
  unfold child
  simp only [hp]
  unfold scope at hx ⊢
  simp only [Array.getElem?_push, size_update]
  by_cases hs : x = f.scopes.size
  · simp [hs]
  · rw [if_neg hs, if_neg hs, hx]
    by_cases hxp : x = p
    · by_cases hlt : p < f.scopes.size <;> simp [hxp, hlt]
    · simp [hxp]

theorem isCancelled_child (p x : ScopeId) :
    (f.child p).1.isCancelled x = if x = f.scopes.size then f.isCancelled p else f.isCancelled x := by
  unfold isCancelled
  rw [scope_child]
  split
  · rfl
  · split <;> rfl

theorem callbacks_child (p x : ScopeId) : ((f.child p).1.scope x).callbacks = (f.scope x).callbacks := by
  rw [scope_child]
  split
  · rename_i h
    simp [h, scope_of_size_le f (Nat.le_refl _)]
  · split <;> rfl

theorem children_child {p : ScopeId} (hp : p < f.scopes.size) (x : ScopeId) :
    ((f.child p).1.scope x).children = if x = p then (f.scope x).children ++ [f.scopes.size] else (f.scope x).children := by
  rw [scope_child]
  by_cases hs : x = f.scopes.size
  · have hxp : x ≠ p := by
      rintro rfl
      exact Nat.lt_irrefl _ (hs ▸ hp)
    rw [if_pos hs, if_neg hxp, hs, scope_of_size_le f (Nat.le_refl _)]
  · rw [if_neg hs]
    by_cases hxp : x = p
    · simp [hxp, hp]
    · simp [hxp]

/-! ## Callbacks and cancellation -/

theorem on_of_cancelled {s : ScopeId} (h : f.isCancelled s = true) (c : κ) : f.on s c = (f, [.fire c]) := by
  simp [on, h]

theorem on_of_not_cancelled {s : ScopeId} (h : f.isCancelled s = false) (c : κ) :
    f.on s c = (f.update s fun x => { x with callbacks := x.callbacks ++ [c] }, []) := by
  simp [on, h]

/-- A change of callbacks alone. -/
theorem isCancelled_update_callbacks (s : ScopeId) (g : List κ → List κ) (x : ScopeId) :
    (f.update s fun q => { q with callbacks := g q.callbacks }).isCancelled x = f.isCancelled x := by
  unfold isCancelled
  rw [scope_update]
  split <;> rfl

@[simp] theorem isCancelled_on (s : ScopeId) (c : κ) (x : ScopeId) : (f.on s c).1.isCancelled x = f.isCancelled x := by
  unfold on
  split
  · rfl
  · exact isCancelled_update_callbacks f s (· ++ [c]) x

theorem on_snd (s : ScopeId) (c : κ) : (f.on s c).2 = if f.isCancelled s then [.fire c] else [] := by
  unfold on
  split <;> rfl

@[simp] theorem size_on (s : ScopeId) (c : κ) : (f.on s c).1.scopes.size = f.scopes.size := by
  unfold on
  split <;> simp

@[simp] theorem children_on (s : ScopeId) (c : κ) (x : ScopeId) : ((f.on s c).1.scope x).children = (f.scope x).children := by
  unfold on
  split
  · rfl
  · rw [scope_update]
    split <;> rfl

theorem callbacks_on (s : ScopeId) (c : κ) (x : ScopeId) : ((f.on s c).1.scope x).callbacks =
    if x = s ∧ s < f.scopes.size ∧ f.isCancelled s = false then (f.scope x).callbacks ++ [c] else (f.scope x).callbacks := by
  by_cases h : f.isCancelled s = true
  · simp [on_of_cancelled f h, h]
  · have h : f.isCancelled s = false := by simpa using h
    rw [on_of_not_cancelled f h, scope_update]
    by_cases hx : x = s ∧ s < f.scopes.size <;> simp [hx, h]

section Remove

variable [BEq κ]

@[simp] theorem size_remove (s : ScopeId) (c : κ) : (f.remove s c).scopes.size = f.scopes.size := by
  simp [remove]

@[simp] theorem isCancelled_remove (s : ScopeId) (c : κ) (x : ScopeId) : (f.remove s c).isCancelled x = f.isCancelled x :=
  isCancelled_update_callbacks f s (·.erase c) x

@[simp] theorem children_remove (s : ScopeId) (c : κ) (x : ScopeId) :
    ((f.remove s c).scope x).children = (f.scope x).children := by
  unfold remove
  rw [scope_update]
  split <;> rfl

theorem callbacks_remove (s : ScopeId) (c : κ) (x : ScopeId) :
    ((f.remove s c).scope x).callbacks = if x = s then (f.scope x).callbacks.erase c else (f.scope x).callbacks := by
  unfold remove
  rw [scope_update]
  by_cases h : x = s
  · subst h
    by_cases hx : x < f.scopes.size
    · simp [hx]
    · simp [hx, scope_of_size_le f (Nat.le_of_not_lt hx)]
  · simp [h]

end Remove

/-- Cancelling again does nothing and leads to nothing. -/
theorem next_cancel_of_cancelled {s : ScopeId} (h : f.isCancelled s = true) : f.next (.cancel s) = (f, [], none) := by
  simp [next, h]

theorem next_cancel_of_not_cancelled {s : ScopeId} (h : f.isCancelled s = false) : f.next (.cancel s) =
    (f.update s fun x => { x with cancelled := true, callbacks := [] },
      (f.scope s).callbacks.map .fire ++ [.descend s], none) := by
  simp [next, h]

theorem isCancelled_next_cancel (s x : ScopeId) :
    (f.next (.cancel s)).1.isCancelled x = (f.isCancelled x || decide (x = s ∧ s < f.scopes.size)) := by
  by_cases h : f.isCancelled s = true
  · rw [next_cancel_of_cancelled f h]
    by_cases hx : x = s
    · subst hx
      simp [h]
    · simp [hx]
  · have h : f.isCancelled s = false := by simpa using h
    rw [next_cancel_of_not_cancelled f h]
    unfold isCancelled
    simp only [scope_update]
    by_cases hx : x = s ∧ s < f.scopes.size <;> simp [hx]

theorem fired_next_cancel (s : ScopeId) : (f.next (.cancel s)).2.2 = none := by
  simp only [next]
  split <;> rfl

@[simp] theorem size_next_cancel (s : ScopeId) : (f.next (.cancel s)).1.scopes.size = f.scopes.size := by
  simp only [next]
  split
  · rfl
  · simp

@[simp] theorem children_next_cancel (s x : ScopeId) :
    ((f.next (.cancel s)).1.scope x).children = (f.scope x).children := by
  simp only [next]
  split
  · rfl
  · rw [scope_update]
    split <;> rfl

theorem callbacks_next_cancel (s x : ScopeId) : ((f.next (.cancel s)).1.scope x).callbacks =
    if x = s ∧ f.isCancelled s = false then [] else (f.scope x).callbacks := by
  by_cases h : f.isCancelled s = true
  · simp [next_cancel_of_cancelled f h, h]
  · have h : f.isCancelled s = false := by simpa using h
    rw [next_cancel_of_not_cancelled f h]
    simp only [scope_update]
    by_cases hx : x = s
    · subst hx
      by_cases hlt : x < f.scopes.size
      · simp [hlt, h]
      · simp [hlt, h, scope_of_size_le f (Nat.le_of_not_lt hlt)]
    · simp [hx]

end Forest

end ScriptFlow
