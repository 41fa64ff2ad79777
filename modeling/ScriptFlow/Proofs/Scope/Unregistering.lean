import Mathlib
import ScriptFlow.Proofs.Scope.Failing

/-!
# Unregistering callbacks

The function that unregisters a callback looks for an equal callback in the list that the scope has now, and takes out the first. It does not know its own
entry, and a scope that is cancelled has handed its list over and starts an empty one.

* `Cascade.waiting`, `Cascade.late` — the callbacks that a scope lists when it is cancelled, and those registered on it later, read off a history.
* `Cascade.Attainable.summons` — **what has run and what is due is what was summoned**, however often a callback is registered and removed.
* `Enrolment` — one registration of a callback; equal to another for the scope when the callbacks are equal.
* `Cascade.exists_withdrawn` — of the registrations of a callback the oldest are withdrawn, at least as many as different functions were called.
* `unregistering_withdraws_the_oldest` — what becomes of every registration, for all cascades and all traces.

So a function that is called twice takes away another registration of its callback, and one that is called while the callbacks of its scope run comes too late.
-/

namespace ScriptFlow

namespace ScopeEvent

variable {κ : Type}

def cancels (s : ScopeId) : ScopeEvent κ → Bool
  | .cancelled x => x == s
  | _ => false

/-- The scope that becomes cancelled. -/
def cancelled? : ScopeEvent κ → Option ScopeId
  | .cancelled s => some s
  | _ => none

/-- The callback that is registered on a scope. -/
def registers? (s : ScopeId) : ScopeEvent κ → Option κ
  | .registered x c => if x = s then some c else none
  | _ => none

/-- The callback that is removed from a scope. -/
def removes? (s : ScopeId) : ScopeEvent κ → Option κ
  | .removed x c => if x = s then some c else none
  | _ => none

/-- What an event makes of the list of a scope that is not cancelled. -/
def relist [BEq κ] (s : ScopeId) (cs : List κ) : ScopeEvent κ → List κ
  | .registered x c => if x = s then cs ++ [c] else cs
  | .removed x c => if x = s then cs.erase c else cs
  | _ => cs

theorem cancels_iff {s : ScopeId} {e : ScopeEvent κ} : e.cancels s = true ↔ e = .cancelled s := by
  cases e <;> simp [cancels]

theorem mem_cancelled? {log : List (ScopeEvent κ)} {s : ScopeId} : s ∈ log.filterMap cancelled? ↔ .cancelled s ∈ log := by
  rw [List.mem_filterMap]
  constructor
  · rintro ⟨e, he, hs⟩
    cases e <;> cases hs
    exact he
  · exact fun h => ⟨_, h, rfl⟩

theorem mem_registers? {log : List (ScopeEvent κ)} {s : ScopeId} {c : κ} : c ∈ log.filterMap (registers? s) ↔ .registered s c ∈ log := by
  rw [List.mem_filterMap]
  constructor
  · rintro ⟨e, he, hs⟩
    cases e <;> simp only [registers?] at hs <;> grind
  · exact fun h => ⟨_, h, by simp [registers?]⟩

theorem mem_removes? {log : List (ScopeEvent κ)} {s : ScopeId} {c : κ} : c ∈ log.filterMap (removes? s) ↔ .removed s c ∈ log := by
  rw [List.mem_filterMap]
  constructor
  · rintro ⟨e, he, hs⟩
    cases e <;> simp only [removes?] at hs <;> grind
  · exact fun h => ⟨_, h, by simp [removes?]⟩

theorem mem_firing? {log : List (ScopeEvent κ)} {c : κ} : c ∈ log.filterMap firing? ↔ .fired c ∈ log := by
  rw [List.mem_filterMap]
  constructor
  · rintro ⟨e, he, hs⟩
    cases e <;> cases hs
    exact he
  · exact fun h => ⟨_, h, rfl⟩

end ScopeEvent

/-- The callback that is due. -/
def Errand.callback? {κ : Type} : Errand κ → Option κ
  | .fire c => some c
  | _ => none

namespace Cascade

variable {κ : Type}

/-! ## Histories of a scope -/

/-- A history up to the cancellation of a scope. -/
def inTime (s : ScopeId) (log : List (ScopeEvent κ)) : List (ScopeEvent κ) := log.takeWhile (!·.cancels s)

/-- The callbacks that a scope lists, or listed when it was cancelled. -/
def waiting [BEq κ] (log : List (ScopeEvent κ)) (s : ScopeId) : List κ := (inTime s log).foldl (ScopeEvent.relist s) []

/-- The callbacks that were registered on a scope after its cancellation. -/
def late (log : List (ScopeEvent κ)) (s : ScopeId) : List κ := (log.dropWhile (!·.cancels s)).filterMap (ScopeEvent.registers? s)

/-- The callbacks that have become due. -/
def summoned [BEq κ] (log : List (ScopeEvent κ)) : List κ :=
  (log.filterMap ScopeEvent.cancelled?).flatMap fun s => waiting log s ++ late log s

/-- The callbacks that are due. -/
def due (todo : List (Pending κ)) : List κ := (todo.filterMap Pending.errand?).filterMap Errand.callback?

section Histories

variable {log : List (ScopeEvent κ)} {s : ScopeId}

theorem inTime_append_of_cancelled (h : .cancelled s ∈ log) (es : List (ScopeEvent κ)) : inTime s (log ++ es) = inTime s log := by
  unfold inTime
  rw [List.takeWhile_append, if_neg]
  intro hlen
  have hall := (List.takeWhile_prefix (l := log) (!ScopeEvent.cancels s ·)).eq_of_length hlen
  rw [List.takeWhile_eq_self_iff] at hall
  simpa [ScopeEvent.cancels] using hall _ h

theorem takeWhile_eq_self (h : .cancelled s ∉ log) : inTime s log = log := by
  unfold inTime
  rw [List.takeWhile_eq_self_iff]
  intro e he
  cases hc : e.cancels s
  · rfl
  · rw [ScopeEvent.cancels_iff.mp hc] at he
    exact absurd he h

theorem inTime_append_of_not (h : .cancelled s ∉ log) (es : List (ScopeEvent κ)) : inTime s (log ++ es) = log ++ inTime s es := by
  have hself := takeWhile_eq_self h
  unfold inTime at *
  rw [List.takeWhile_append, hself, if_pos rfl]

theorem inTime_prefix (s : ScopeId) (log : List (ScopeEvent κ)) : inTime s log <+: log := List.takeWhile_prefix _

theorem waiting_append_of_cancelled [BEq κ] (h : .cancelled s ∈ log) (es : List (ScopeEvent κ)) : waiting (log ++ es) s = waiting log s := by
  rw [waiting, waiting, inTime_append_of_cancelled h]

theorem waiting_snoc [BEq κ] (h : .cancelled s ∉ log) (e : ScopeEvent κ) : waiting (log ++ [e]) s = e.relist s (waiting log s) := by
  rw [waiting, waiting, inTime_append_of_not h, takeWhile_eq_self h, List.foldl_append]
  cases hc : e.cancels s
  · simp [inTime, hc]
  · rw [ScopeEvent.cancels_iff.mp hc]
    simp [inTime, ScopeEvent.cancels, ScopeEvent.relist]

theorem late_eq_nil (h : .cancelled s ∉ log) : late log s = [] := by
  have hself := takeWhile_eq_self h
  have hdrop : log.dropWhile (!·.cancels s) = [] := by
    have happ := List.takeWhile_append_dropWhile (p := (!ScopeEvent.cancels s ·)) (l := log)
    unfold inTime at hself
    rw [hself] at happ
    simpa using happ
  rw [late, hdrop, List.filterMap_nil]

theorem late_append_of_cancelled (h : .cancelled s ∈ log) (es : List (ScopeEvent κ)) :
    late (log ++ es) s = late log s ++ es.filterMap (ScopeEvent.registers? s) := by
  have hne : ¬ (log.dropWhile (!·.cancels s)).isEmpty = true := by
    rw [List.isEmpty_iff, List.dropWhile_eq_nil_iff]
    intro hall
    simpa [ScopeEvent.cancels] using hall _ h
  rw [late, late, List.dropWhile_append, if_neg hne, List.filterMap_append]

/-- What is registered on a scope is registered in time or comes late. -/
theorem registers_eq (log : List (ScopeEvent κ)) (s : ScopeId) :
    log.filterMap (ScopeEvent.registers? s) = (inTime s log).filterMap (ScopeEvent.registers? s) ++ late log s := by
  rw [late, ← List.filterMap_append]
  unfold inTime
  rw [List.takeWhile_append_dropWhile]

/-! ## What is summoned -/

/-- An event that neither cancels a scope nor comes late summons nobody. -/
theorem summoned_snoc_of_quiet [BEq κ] {e : ScopeEvent κ} (hc : e.cancelled? = none)
    (hr : ∀ s, .cancelled s ∈ log → e.registers? s = none) : summoned (log ++ [e]) = summoned log := by
  unfold summoned
  rw [List.filterMap_append]
  simp only [List.filterMap_cons_none hc, List.filterMap_nil, List.append_nil]
  refine List.flatMap_congr fun s hs => ?_
  have hs := ScopeEvent.mem_cancelled?.mp hs
  rw [waiting_append_of_cancelled hs, late_append_of_cancelled hs]
  simp [hr s hs]

/-- A scope that is cancelled summons the callbacks that it lists. -/
theorem summoned_snoc_cancelled [BEq κ] (h : .cancelled s ∉ log) : summoned (log ++ [.cancelled s]) = summoned log ++ waiting log s := by
  unfold summoned
  have hsame : waiting (log ++ [.cancelled s]) s = waiting log s := waiting_snoc h _
  have hlate : late (log ++ [.cancelled s]) s = [] := by
    have hne : (log.dropWhile (!·.cancels s)).isEmpty = true := by
      rw [List.isEmpty_iff, List.dropWhile_eq_nil_iff]
      have hself := takeWhile_eq_self h
      unfold inTime at hself
      rwa [List.takeWhile_eq_self_iff] at hself
    rw [late, List.dropWhile_append, if_pos hne]
    simp [ScopeEvent.cancels, ScopeEvent.registers?]
  rw [List.filterMap_append, List.flatMap_append]
  congr 1
  · refine List.flatMap_congr fun x hx => ?_
    have hx := ScopeEvent.mem_cancelled?.mp hx
    rw [waiting_append_of_cancelled hx, late_append_of_cancelled hx]
    simp [ScopeEvent.registers?]
  · simp [ScopeEvent.cancelled?, hsame, hlate]

/-- One member of a list yields one entry more. -/
theorem flatMap_perm_cons {α : Type} {g g' : ScopeId → List α} {a : α} {l : List ScopeId} (hd : l.Nodup) (hs : s ∈ l)
    (hself : g' s = g s ++ [a]) (hother : ∀ x ∈ l, x ≠ s → g' x = g x) : (l.flatMap g').Perm (a :: l.flatMap g) := by
  induction l with
  | nil => cases hs
  | cons x l ih =>
    obtain ⟨hx, hd⟩ := List.nodup_cons.mp hd
    simp only [List.flatMap_cons]
    rcases List.mem_cons.mp hs with rfl | hin
    · have hrest : l.flatMap g' = l.flatMap g := List.flatMap_congr fun y hy => hother y (List.mem_cons_of_mem _ hy) (by grind)
      rw [hself, hrest, List.append_assoc]
      exact List.perm_middle
    · rw [hother x (List.mem_cons_self ..) (by grind)]
      exact ((ih hd hin fun y hy => hother y (List.mem_cons_of_mem _ hy)).append_left _).trans List.perm_middle

/-- A callback that comes late is summoned at once. -/
theorem summoned_snoc_late [BEq κ] (h : .cancelled s ∈ log) (hd : (log.filterMap ScopeEvent.cancelled?).Nodup) (c : κ) :
    (summoned (log ++ [.registered s c])).Perm (c :: summoned log) := by
  unfold summoned
  rw [List.filterMap_append, List.filterMap_cons_none rfl, List.filterMap_nil, List.append_nil]
  refine flatMap_perm_cons hd (ScopeEvent.mem_cancelled?.mpr h) ?_ fun x hx hne => ?_
  · rw [waiting_append_of_cancelled h, late_append_of_cancelled h]
    simp [ScopeEvent.registers?]
  · have hx := ScopeEvent.mem_cancelled?.mp hx
    rw [waiting_append_of_cancelled hx, late_append_of_cancelled hx]
    simp [ScopeEvent.registers?, Ne.symm hne]

end Histories

/-! ## What has run and what is due -/

/-- The lists of the scopes, and all that was summoned has run or is due. -/
structure Summons [BEq κ] (c : Cascade κ) : Prop where
  listed : ∀ s, c.forest.isCancelled s = false → (c.forest.scope s).callbacks = waiting c.log s
  once : (c.log.filterMap ScopeEvent.cancelled?).Nodup
  ran : (due c.todo ++ c.log.filterMap ScopeEvent.firing?).Perm (summoned c.log)

section Steps

variable [BEq κ] {c c' : Cascade κ} {f : Forest κ} {todo : List (Pending κ)} {log : List (ScopeEvent κ)}

theorem Summons.empty : Summons ({} : Cascade κ) := by
  refine ⟨?_, ?_, ?_⟩ <;> simp [waiting, inTime, summoned, due]

/-- A step that shows nothing and lists nobody. -/
theorem Summons.silent (h : Summons c) (hf : c'.forest = c.forest) (hlog : c'.log = c.log) (hdue : due c'.todo = due c.todo) : Summons c' := by
  obtain ⟨hl, ho, hr⟩ := h
  rw [← hlog] at ho hr
  rw [← hdue] at hr
  refine ⟨?_, ho, hr⟩
  rw [hf, hlog]
  exact hl

/-- A step with one event that summons nobody. -/
theorem Summons.quiet {e : ScopeEvent κ} (h : Summons c) (ht : Tree c) (hlog : c'.log = c.log ++ [e]) (hc : e.cancelled? = none)
    (hr : ∀ s, c.forest.isCancelled s = true → e.registers? s = none)
    (hcan : ∀ s, c'.forest.isCancelled s = c.forest.isCancelled s)
    (hlist : ∀ s, c.forest.isCancelled s = false → (c'.forest.scope s).callbacks = e.relist s (c.forest.scope s).callbacks)
    (hran : (due c'.todo ++ e.firing?.toList).Perm (due c.todo)) : Summons c' := by
  refine ⟨fun s hs => ?_, ?_, ?_⟩
  · rw [hcan] at hs
    have hnot : .cancelled s ∉ c.log := fun hm => by simp [(ht.cancelled_log s).mp hm] at hs
    rw [hlist s hs, h.listed s hs, hlog, waiting_snoc hnot]
  · rw [hlog, List.filterMap_append, List.filterMap_cons_none hc, List.filterMap_nil, List.append_nil]
    exact h.once
  · rw [hlog, summoned_snoc_of_quiet hc fun s hs => hr s ((ht.cancelled_log s).mp hs)]
    have hone : [e].filterMap ScopeEvent.firing? = e.firing?.toList := by cases e <;> rfl
    rw [List.filterMap_append, hone]
    have hswap : (due c'.todo ++ (c.log.filterMap ScopeEvent.firing? ++ e.firing?.toList)).Perm
        (due c'.todo ++ e.firing?.toList ++ c.log.filterMap ScopeEvent.firing?) := by
      rw [List.append_assoc]
      exact List.perm_append_comm.append_left _
    exact hswap.trans ((hran.append_right _).trans h.ran)

/-- A scope becomes cancelled, and what it lists is due. -/
theorem Summons.cancels {s : ScopeId} (h : Summons c) (ht : ∀ x, .cancelled x ∈ c.log ↔ c.forest.isCancelled x = true)
    (hs : c.forest.isCancelled s = false) (hlog : c'.log = c.log ++ [.cancelled s])
    (hcan : ∀ x, c.forest.isCancelled x = true ∨ x = s → c'.forest.isCancelled x = true)
    (hlist : ∀ x, x ≠ s → (c'.forest.scope x).callbacks = (c.forest.scope x).callbacks)
    (hdue : due c'.todo = (c.forest.scope s).callbacks ++ due c.todo) : Summons c' := by
  have hnot : ∀ {x}, c.forest.isCancelled x = false → .cancelled x ∉ c.log := fun hx hm => by simp [(ht _).mp hm] at hx
  refine ⟨fun x hx => ?_, ?_, ?_⟩
  · have hne : x ≠ s := fun he => by simp [hcan x (Or.inr he)] at hx
    have hx : c.forest.isCancelled x = false := by
      by_contra hc
      simp [hcan x (Or.inl (by simpa using hc))] at hx
    rw [hlist x hne, h.listed x hx, hlog, waiting_snoc (hnot hx)]
    rfl
  · rw [hlog, List.filterMap_append]
    simpa [ScopeEvent.cancelled?] using h.once.concat fun hm => hnot hs (ScopeEvent.mem_cancelled?.mp hm)
  · rw [hlog, summoned_snoc_cancelled (hnot hs), hdue, h.listed s hs, List.filterMap_append]
    simp only [List.filterMap_cons_none (rfl : ScopeEvent.firing? (.cancelled s : ScopeEvent κ) = none), List.filterMap_nil,
      List.append_nil, List.append_assoc]
    exact List.perm_append_comm.trans (h.ran.append_right _)

/-- A callback is registered on a cancelled scope. -/
theorem Summons.late {s : ScopeId} {a : κ} (h : Summons c) (ht : Tree c) (hs : c.forest.isCancelled s = true)
    (hf : c'.forest = c.forest) (hlog : c'.log = c.log ++ [.registered s a]) (hdue : due c'.todo = a :: due c.todo) : Summons c' := by
  have hmem := (ht.cancelled_log s).mpr hs
  refine ⟨fun x hx => ?_, ?_, ?_⟩
  · rw [hf] at hx ⊢
    have hnot : .cancelled x ∉ c.log := fun hm => by simp [(ht.cancelled_log x).mp hm] at hx
    have hne : s ≠ x := fun he => by simp [← he, hs] at hx
    rw [h.listed x hx, hlog, waiting_snoc hnot]
    simp [ScopeEvent.relist, hne]
  · rw [hlog, List.filterMap_append, List.filterMap_cons_none rfl, List.filterMap_nil, List.append_nil]
    exact h.once
  · rw [hlog, hdue, List.filterMap_append, List.filterMap_cons_none rfl, List.filterMap_nil, List.append_nil]
    exact (h.ran.cons a).trans (summoned_snoc_late hmem h.once a).symm

omit [BEq κ] in
theorem due_errands (es : List (Errand κ)) (todo : List (Pending κ)) :
    due (es.map .errand ++ todo) = es.filterMap Errand.callback? ++ due todo := by
  unfold due
  rw [List.filterMap_append, List.filterMap_append]
  congr 1
  induction es with
  | nil => rfl
  | cons e es ih => simp only [List.map_cons, List.filterMap_cons, Pending.errand?, ih]

theorem Summons.child (h : Summons ⟨f, todo, log⟩) (ht : Tree ⟨f, todo, log⟩) (p : ScopeId) :
    Summons ⟨(f.child p).1, todo, log ++ madeBelow f p⟩ := by
  have hfresh : f.isCancelled f.scopes.size = false := by
    simp [Forest.isCancelled, Forest.scope_of_size_le f (Nat.le_refl _)]
  have hbare : (f.scope f.scopes.size).callbacks = [] := by simp [Forest.scope_of_size_le f (Nat.le_refl _)]
  by_cases hc : f.isCancelled p = true
  · have hmade : Summons ⟨f, todo, log ++ [.made f.scopes.size (some p)]⟩ :=
      h.quiet ht rfl rfl (fun _ _ => rfl) (fun _ => rfl) (fun _ _ => rfl) (by simp [ScopeEvent.firing?])
    have hlog : ∀ x, ScopeEvent.cancelled x ∈ log ++ [.made f.scopes.size (some p)] ↔ f.isCancelled x = true := by
      intro x
      simpa using ht.cancelled_log x
    refine hmade.cancels hlog hfresh (by simp [madeBelow, hc]) ?_ (fun x _ => Forest.callbacks_child f p x) (by simp [hbare])
    intro x hx
    simp only [Forest.isCancelled_child]
    split
    · exact hc
    · rename_i hne
      exact hx.resolve_right hne
  · refine h.quiet (e := .made f.scopes.size (some p)) ht (by simp [madeBelow, hc]) rfl (fun _ _ => rfl) (fun x => ?_)
      (fun x _ => Forest.callbacks_child f p x) (by simp [ScopeEvent.firing?])
    simp only [Forest.isCancelled_child]
    split
    · rename_i he
      rw [he, hfresh]
      simpa using hc
    · rfl

theorem Summons.register {s : ScopeId} {a : κ} (h : Summons ⟨f, todo, log⟩) (ht : Tree ⟨f, todo, log⟩) (hs : s < f.scopes.size) :
    Summons ⟨(f.on s a).1, (f.on s a).2.map .errand ++ todo, log ++ [.registered s a]⟩ := by
  by_cases hc : f.isCancelled s = true
  · rw [Forest.on_of_cancelled f hc]
    exact h.late ht hc rfl rfl rfl
  · have hc : f.isCancelled s = false := by simpa using hc
    refine h.quiet ht rfl rfl (fun x hx => ?_) (by simp) (fun x hx => ?_) ?_
    · have hne : s ≠ x := fun he => by simp [← he, hc] at hx
      simp [ScopeEvent.registers?, hne]
    · simp only [Forest.callbacks_on, ScopeEvent.relist]
      by_cases hx : x = s
      · simp [hx, hs, hc]
      · simp [hx, Ne.symm hx]
    · simp [Forest.on_snd, hc, ScopeEvent.firing?]

theorem Summons.enter {s : ScopeId} (h : Summons ⟨f, .errand (.cancel s) :: todo, log⟩) (ht : Tree ⟨f, .errand (.cancel s) :: todo, log⟩) :
    Summons ⟨(f.next (.cancel s)).1, (f.next (.cancel s)).2.1.map .errand ++ todo, log ++ entered f s⟩ := by
  obtain ⟨hlt, -⟩ := ht.due s (by simp)
  by_cases hs : f.isCancelled s = true
  · rw [Forest.next_cancel_of_cancelled f hs]
    exact h.silent rfl (by simp [entered, hs]) rfl
  · have hs : f.isCancelled s = false := by simpa using hs
    refine h.cancels ht.cancelled_log hs (by simp [entered, hs]) (fun x hx => ?_) (fun x hx => ?_) ?_
    · rcases hx with hx | rfl
      · simp [Forest.isCancelled_next_cancel, hx]
      · simp [Forest.isCancelled_next_cancel, hlt]
    · simp [Forest.callbacks_next_cancel, hx]
    · rw [due_errands, Forest.next_cancel_of_not_cancelled f hs, List.filterMap_append, List.filterMap_map]
      have hall : (f.scope s).callbacks.filterMap (Errand.callback? ∘ Errand.fire) = (f.scope s).callbacks := List.filterMap_some
      rw [hall]
      simp [Errand.callback?, due, Pending.errand?, List.filterMap_cons]

theorem Summons.step (h : Summons c) (ht : Tree c) (hs : Step c c') : Summons c' := by
  cases hs with
  | new hm => exact h.quiet ht rfl rfl (fun _ _ => rfl) (by simp) (by simp [ScopeEvent.relist]) (by simp [ScopeEvent.firing?])
  | child hm hp => exact h.child ht _
  | register hm hlt => exact h.register ht hlt
  | @remove f todo log s a hm hr =>
    refine h.quiet ht rfl rfl (fun _ _ => rfl) (by simp) (fun x _ => ?_) (by simp [ScopeEvent.firing?])
    simp only [Forest.callbacks_remove, ScopeEvent.relist, eq_comm]
  | cancel hm hlt =>
    exact h.quiet ht rfl rfl (fun _ _ => rfl) (fun _ => rfl) (fun _ _ => rfl)
      (by simp [ScopeEvent.firing?, due, Pending.errand?, Errand.callback?, List.filterMap_cons])
  | enter => exact h.enter ht
  | @descend f todo log s more hp =>
    have hnone : more.filterMap Errand.callback? = [] := by
      rw [List.filterMap_eq_nil_iff]
      intro e he
      obtain ⟨x, -, rfl⟩ : ∃ x ∈ (f.scope s).children, Errand.cancel x = e := by simpa [Forest.next] using hp.mem_iff.mp he
      rfl
    refine h.silent rfl rfl ?_
    rw [due_errands, hnone]
    rfl
  | fire =>
    refine h.quiet ht rfl rfl (fun _ _ => rfl) (fun _ => rfl) (fun _ _ => rfl) ?_
    simp only [due, Pending.errand?, Errand.callback?, ScopeEvent.firing?, List.filterMap_cons, Option.toList_some]
    exact List.perm_append_comm
  | finish => exact h.silent rfl rfl rfl

/-- **What has run and what is due is what was summoned**, whatever callbacks are equal to each other and however often one is registered and removed. -/
theorem Attainable.summons (h : Attainable c) : Summons c := by
  induction h with
  | empty => exact Summons.empty
  | step h hs ih => exact ih.step h.tree hs
  | fail c _ ih => exact ih.silent rfl rfl rfl

end Steps

/-- A function that unregisters is called after the registration that made it. -/
def Proper (log : List (ScopeEvent κ)) : Prop := ∀ l₁ l₂ s a, log = l₁ ++ .removed s a :: l₂ → .registered s a ∈ l₁

theorem Proper.append {log es : List (ScopeEvent κ)} (h : Proper log) (hes : ∀ s a, .removed s a ∈ es → .registered s a ∈ log) :
    Proper (log ++ es) := by
  intro l₁ l₂ s a he
  rcases append_eq_append_cons he with ⟨l, hl, -⟩ | ⟨l, hl, he⟩
  · exact h l₁ l s a hl
  · rw [hl]
    exact List.mem_append_left _ (hes s a (by simp [he]))

theorem Attainable.proper [BEq κ] {c : Cascade κ} (h : Attainable c) : Proper c.log := by
  induction h with
  | empty => simp [Proper]
  | fail c _ ih => exact ih
  | step h hs ih =>
    cases hs with
    | remove hm hr => exact ih.append (by simpa using hr)
    | child hm hp =>
      refine ih.append ?_
      unfold madeBelow
      split <;> simp
    | enter =>
      refine ih.append ?_
      unfold entered
      split <;> simp
    | descend | finish => exact ih
    | _ => exact ih.append (by simp)

end Cascade

/-! ## Registrations -/

/-- One registration of a callback. -/
structure Enrolment (κ : Type) where
  callback : κ
  number : Nat
  deriving DecidableEq

/-- A scope tells registrations apart by their callbacks alone. -/
instance Enrolment.instBEq {κ : Type} [BEq κ] : BEq (Enrolment κ) := ⟨fun r r' => r.callback == r'.callback⟩

namespace Cascade

variable {κ : Type} [DecidableEq κ]

/-- The registrations of a callback on a scope before its cancellation, in order. -/
def registrations (log : List (ScopeEvent (Enrolment κ))) (s : ScopeId) (a : κ) : List (Enrolment κ) :=
  ((inTime s log).filterMap (ScopeEvent.registers? s)).filter fun r => r.callback = a

/-- The registrations of a callback whose functions were called before the cancellation of the scope, once for each call. -/
def removals (log : List (ScopeEvent (Enrolment κ))) (s : ScopeId) (a : κ) : List (Enrolment κ) :=
  ((inTime s log).filterMap (ScopeEvent.removes? s)).filter fun r => r.callback = a

omit [DecidableEq κ] in
theorem filter_eraseP_self {α : Type} (p : α → Bool) (l : List α) : (l.eraseP p).filter p = (l.filter p).tail := by
  induction l with
  | nil => rfl
  | cons x l ih => cases hx : p x <;> simp [hx, ih]

omit [DecidableEq κ] in
theorem filter_eraseP_of_disjoint {α : Type} {p q : α → Bool} (h : ∀ x, p x = true → q x = false) (l : List α) :
    (l.eraseP p).filter q = l.filter q := by
  induction l with
  | nil => rfl
  | cons x l ih =>
    cases hx : p x
    · simp [hx, List.filter_cons, ih]
    · simp [hx, h x hx]

/-- What one function takes out of the list, seen from a callback. -/
theorem filter_erase (cs : List (Enrolment κ)) (r : Enrolment κ) (a : κ) :
    (cs.erase r).filter (fun r => r.callback = a) =
      if r.callback = a then (cs.filter fun r => r.callback = a).tail else cs.filter fun r => r.callback = a := by
  rw [List.erase_eq_eraseP']
  split
  · rename_i h
    have hp : (fun x : Enrolment κ => x == r) = fun x => decide (x.callback = a) := by
      funext x
      subst h
      rfl
    rw [hp, filter_eraseP_self]
  · rename_i h
    refine filter_eraseP_of_disjoint (fun x hx => ?_) cs
    have hx : x.callback = r.callback := eq_of_beq hx
    simp [hx, h]

/-- Of the registrations of a callback the oldest are withdrawn: no more than functions are called, no fewer than there are different ones among these. -/
def Withdrawn (made called kept : List (Enrolment κ)) : Prop :=
  ∃ k, k ≤ made.length ∧ k ≤ called.length ∧ called.dedup.length ≤ k ∧ kept = made.drop k

theorem Withdrawn.register {made called kept : List (Enrolment κ)} (h : Withdrawn made called kept) (r : Enrolment κ) :
    Withdrawn (made ++ [r]) called (kept ++ [r]) := by
  obtain ⟨k, hmade, hcalled, hdif, rfl⟩ := h
  refine ⟨k, ?_, hcalled, hdif, (List.drop_append_of_le_length hmade).symm⟩
  rw [List.length_append]
  omega

/-- A call takes out the oldest that is left. A function that was not called before has its own registration among those that were made, so when none is left
all functions that were called so far, and this one, are accounted for. -/
theorem Withdrawn.remove {made called kept : List (Enrolment κ)} (h : Withdrawn made called kept) {r : Enrolment κ}
    (hr : ∀ r' ∈ called ++ [r], r' ∈ made) : Withdrawn made (called ++ [r]) kept.tail := by
  obtain ⟨k, hmade, hcalled, hdif, rfl⟩ := h
  have hdifferent : (called ++ [r]).dedup.length ≤ made.length :=
    ((List.nodup_dedup _).subperm fun r' hr' => hr r' (List.mem_dedup.mp hr')).length_le
  have hmore : (called ++ [r]).dedup.length ≤ k + 1 := by
    have hsub : (called ++ [r]).dedup ⊆ r :: called.dedup := fun r' hr' => by simpa [or_comm] using List.mem_dedup.mp hr'
    exact Nat.le_trans ((List.nodup_dedup _).subperm hsub).length_le (Nat.succ_le_succ hdif)
  have hcall : (called ++ [r]).length = called.length + 1 := List.length_append
  refine ⟨min (k + 1) made.length, by omega, by omega, le_min hmore hdifferent, ?_⟩
  rw [List.tail_drop]
  rcases Nat.lt_or_ge k made.length with hlt | hge
  · rw [Nat.min_eq_left hlt]
  · rw [Nat.min_eq_right (by omega), List.drop_length, List.drop_eq_nil_of_le (by omega)]

/-- **Functions that are called in time take out the oldest registrations of their callback.** -/
theorem Proper.withdrawn {log : List (ScopeEvent (Enrolment κ))} (h : Proper log) (s : ScopeId) (a : κ) :
    Withdrawn (registrations log s a) (removals log s a) ((waiting log s).filter fun r => r.callback = a) := by
  have hproper : ∀ l₁ l₂ r, inTime s log = l₁ ++ .removed s r :: l₂ → .registered s r ∈ l₁ := by
    intro l₁ l₂ r he
    obtain ⟨rest, hrest⟩ := inTime_prefix s log
    exact h l₁ (l₂ ++ rest) s r (by rw [← hrest, he]; simp)
  unfold registrations removals waiting
  generalize inTime s log = past at hproper
  induction past using List.reverseRecOn with
  | nil => exact ⟨0, by simp⟩
  | append_singleton past e ih =>
    have hpast := ih fun l₁ l₂ r he => hproper l₁ (l₂ ++ [e]) r (by simp [he])
    simp only [List.filterMap_append, List.filter_append, List.foldl_append, List.foldl_cons, List.foldl_nil]
    cases e with
    | registered x r =>
      by_cases hx : x = s
      · by_cases ha : r.callback = a
        · simpa [ScopeEvent.registers?, ScopeEvent.removes?, ScopeEvent.relist, List.filterMap_cons, hx, ha] using hpast.register r
        · simpa [ScopeEvent.registers?, ScopeEvent.removes?, ScopeEvent.relist, List.filterMap_cons, hx, ha] using hpast
      · simpa [ScopeEvent.registers?, ScopeEvent.removes?, ScopeEvent.relist, List.filterMap_cons, hx] using hpast
    | removed x r =>
      by_cases hx : x = s
      · by_cases ha : r.callback = a
        · have hcalls : ∀ r' ∈ ((past.filterMap (ScopeEvent.removes? s)).filter fun r => r.callback = a) ++ [r],
              r' ∈ (past.filterMap (ScopeEvent.registers? s)).filter fun r => r.callback = a := by
            intro r' hr'
            simp only [List.mem_append, List.mem_filter, List.mem_singleton, decide_eq_true_eq, ScopeEvent.mem_removes?] at hr'
            simp only [List.mem_filter, ScopeEvent.mem_registers?, decide_eq_true_eq]
            rcases hr' with ⟨hr', ha'⟩ | rfl
            · obtain ⟨l₁, l₂, rfl⟩ := List.append_of_mem hr'
              exact ⟨List.mem_append_left _ (hproper l₁ (l₂ ++ [.removed x r]) r' (by simp)), ha'⟩
            · exact ⟨hproper past [] r' (by rw [hx]), ha⟩
          simpa [ScopeEvent.registers?, ScopeEvent.removes?, ScopeEvent.relist, List.filterMap_cons, hx, ha, filter_erase]
            using hpast.remove hcalls
        · simpa [ScopeEvent.registers?, ScopeEvent.removes?, ScopeEvent.relist, List.filterMap_cons, hx, ha, filter_erase] using hpast
      · simpa [ScopeEvent.registers?, ScopeEvent.removes?, ScopeEvent.relist, List.filterMap_cons, hx] using hpast
    | _ => simpa [ScopeEvent.registers?, ScopeEvent.removes?, ScopeEvent.relist, List.filterMap_cons] using hpast

/-! ## The fate of registrations -/

section Distinct

variable {κ : Type} {log : List (ScopeEvent κ)}

theorem Distinct.nodup_registers (h : Distinct log) (s : ScopeId) : (log.filterMap (ScopeEvent.registers? s)).Nodup := by
  have hsame : log.filterMap (ScopeEvent.registers? s) =
      (log.filter fun e => (e.registers? s).isSome).filterMap ScopeEvent.callback? := by
    rw [List.filterMap_filter]
    refine List.filterMap_congr fun e _ => ?_
    cases e <;> simp only [ScopeEvent.registers?, ScopeEvent.callback?] <;> grind
  rw [hsame]
  exact h.sublist (List.filter_sublist.filterMap _)

theorem waiting_sublist [BEq κ] (log : List (ScopeEvent κ)) (s : ScopeId) :
    (waiting log s).Sublist ((inTime s log).filterMap (ScopeEvent.registers? s)) := by
  unfold waiting
  generalize inTime s log = past
  induction past using List.reverseRecOn with
  | nil => exact .slnil
  | append_singleton past e ih =>
    simp only [List.filterMap_append, List.foldl_append, List.foldl_cons, List.foldl_nil]
    cases e with
    | registered x c =>
      by_cases hx : x = s
      · simpa [ScopeEvent.registers?, ScopeEvent.relist, hx] using ih.append_right [c]
      · simpa [ScopeEvent.registers?, ScopeEvent.relist, hx, List.filterMap_cons] using ih
    | removed x c =>
      by_cases hx : x = s
      · simpa [ScopeEvent.registers?, ScopeEvent.relist, hx, List.filterMap_cons] using List.erase_sublist.trans ih
      · simpa [ScopeEvent.registers?, ScopeEvent.relist, hx, List.filterMap_cons] using ih
    | _ => simpa [ScopeEvent.registers?, ScopeEvent.relist, List.filterMap_cons] using ih

/-- What a scope summons is among what was registered on it. -/
theorem waiting_late_sublist [BEq κ] (log : List (ScopeEvent κ)) (s : ScopeId) :
    (waiting log s ++ late log s).Sublist (log.filterMap (ScopeEvent.registers? s)) := by
  rw [registers_eq]
  exact (waiting_sublist log s).append_right _

theorem Distinct.nodup_summoned [BEq κ] (h : Distinct log) (ho : (log.filterMap ScopeEvent.cancelled?).Nodup) : (summoned log).Nodup := by
  unfold summoned
  rw [List.nodup_flatMap]
  refine ⟨fun s _ => (h.nodup_registers s).sublist (waiting_late_sublist log s), ho.imp fun {s s'} hne => ?_⟩
  rw [Function.onFun, List.disjoint_left]
  intro c hc hc'
  have hs := ScopeEvent.mem_registers?.mp ((waiting_late_sublist log s).mem hc)
  have hs' := ScopeEvent.mem_registers?.mp ((waiting_late_sublist log s').mem hc')
  exact hne (h.scope_eq hs hs')

theorem mem_summoned [BEq κ] {c : κ} : c ∈ summoned log ↔ ∃ s, .cancelled s ∈ log ∧ (c ∈ waiting log s ∨ c ∈ late log s) := by
  simp [summoned, ScopeEvent.cancelled?, List.mem_flatMap, ← ScopeEvent.mem_cancelled?]

theorem mem_due {todo : List (Pending κ)} {a : κ} : a ∈ due todo ↔ .errand (.fire a) ∈ todo := by
  rw [due, List.mem_filterMap]
  constructor
  · rintro ⟨e, he, ha⟩
    cases e <;> cases ha
    exact mem_errands.mp he
  · exact fun h => ⟨_, mem_errands.mpr h, rfl⟩

end Distinct

theorem mem_drop_iff {α : Type} {l : List α} (h : l.Nodup) {i : Nat} {a : α} (hi : l[i]? = some a) (k : Nat) : a ∈ l.drop k ↔ k ≤ i := by
  have hlt : i < l.length := (List.getElem?_eq_some_iff.mp hi).1
  constructor
  · intro hm
    obtain ⟨j, hj⟩ := List.mem_iff_getElem?.mp hm
    rw [List.getElem?_drop] at hj
    have hij := (List.getElem?_inj hlt h).mp (hi.trans hj.symm)
    omega
  · intro hk
    refine List.mem_iff_getElem?.mpr ⟨i - k, ?_⟩
    rw [List.getElem?_drop, Nat.add_sub_of_le hk, hi]

/-- A callback has run, or it is due and runs unless an error drops it. -/
def Runs {κ : Type} (c : Cascade κ) (a : κ) : Prop := .fired a ∈ c.log ∨ .errand (.fire a) ∈ c.todo

/-- What becomes of the registrations of a callback. -/
structure Unregistered (c : Cascade (Enrolment κ)) : Prop where
  /-- no registration runs twice -/
  once : (due c.todo ++ c.log.filterMap ScopeEvent.firing?).Nodup
  /-- The functions that were called before the cancellation have withdrawn the oldest registrations, and all others run. -/
  fate : ∀ s a, ∃ k, k ≤ (removals c.log s a).length ∧ (removals c.log s a).dedup.length ≤ k ∧
    ∀ (i : Nat) (r : Enrolment κ), (registrations c.log s a)[i]? = some r → (c.Runs r ↔ c.forest.isCancelled s = true ∧ k ≤ i)
  /-- whoever comes late runs -/
  late : ∀ s, ∀ r ∈ late c.log s, c.Runs r

theorem Summons.runs_iff {κ : Type} [BEq κ] {c : Cascade κ} (h : Summons c) (a : κ) : c.Runs a ↔ a ∈ summoned c.log := by
  rw [← h.ran.mem_iff, List.mem_append, mem_due, ScopeEvent.mem_firing?, Runs, or_comm]

theorem Attainable.unregistered {c : Cascade (Enrolment κ)} (h : Attainable c) (hd : Distinct c.log) : Unregistered c := by
  have hsum := h.summons
  have hlog := h.tree.cancelled_log
  refine ⟨hsum.ran.nodup_iff.mpr (hd.nodup_summoned hsum.once), fun s a => ?_, fun s r hr => ?_⟩
  · obtain ⟨k, -, hcalls, hdif, hkept⟩ := h.proper.withdrawn s a
    refine ⟨k, hcalls, hdif, fun i r hr => ?_⟩
    have hin : r ∈ registrations c.log s a := List.mem_of_getElem? hr
    obtain ⟨hin, hra⟩ := List.mem_filter.mp hin
    have hall := hd.nodup_registers s
    rw [registers_eq] at hall
    have hnodup : (registrations c.log s a).Nodup := (List.nodup_append.mp hall).1.filter _
    have hwait : r ∈ waiting c.log s ↔ k ≤ i := by
      rw [← mem_drop_iff hnodup hr, ← hkept, List.mem_filter, and_iff_left hra]
    rw [hsum.runs_iff, mem_summoned, ← hlog, ← hwait]
    constructor
    · rintro ⟨x, hx, hr'⟩
      have hreg := ScopeEvent.mem_registers?.mp ((waiting_late_sublist c.log x).mem (List.mem_append.mpr hr'))
      have hregs : .registered s r ∈ c.log := ScopeEvent.mem_registers?.mp (by rw [registers_eq]; exact List.mem_append_left _ hin)
      obtain rfl := hd.scope_eq hreg hregs
      exact ⟨hx, hr'.resolve_right fun hlate => (List.nodup_append.mp hall).2.2 r hin r hlate rfl⟩
    · exact fun ⟨hs, hr'⟩ => ⟨s, hs, Or.inl hr'⟩
  · have hs : .cancelled s ∈ c.log := by
      by_contra hs
      simp [late_eq_nil hs] at hr
    exact (hsum.runs_iff r).mpr (mem_summoned.mpr ⟨s, hs, Or.inr hr⟩)

section Consequences

variable {c : Cascade (Enrolment κ)}

theorem removals_subset {log : List (ScopeEvent (Enrolment κ))} (h : Proper log) (s : ScopeId) (a : κ) :
    removals log s a ⊆ registrations log s a := by
  intro r hr
  obtain ⟨hin, hra⟩ := List.mem_filter.mp hr
  obtain ⟨l₁, l₂, hl⟩ := List.append_of_mem (ScopeEvent.mem_removes?.mp hin)
  obtain ⟨rest, hrest⟩ := inTime_prefix s log
  have hmem : .registered s r ∈ l₁ := h l₁ (l₂ ++ rest) s r (by rw [← hrest, hl]; simp)
  refine List.mem_filter.mpr ⟨ScopeEvent.mem_registers?.mpr ?_, hra⟩
  rw [hl]
  exact List.mem_append_left _ hmem

/-- A registration runs when its scope is cancelled, unless a function of the same callback was called on the scope before. -/
theorem Unregistered.spared (h : Unregistered c) (ht : Tree c) {s : ScopeId} {r : Enrolment κ} (hr : .registered s r ∈ c.log)
    (hnone : removals c.log s r.callback = []) : c.Runs r ↔ c.forest.isCancelled s = true := by
  have hr := ScopeEvent.mem_registers?.mpr hr
  rw [registers_eq] at hr
  rcases List.mem_append.mp hr with hin | hlate
  · obtain ⟨k, hle, -, hruns⟩ := h.fate s r.callback
    have hin : r ∈ registrations c.log s r.callback := List.mem_filter.mpr ⟨hin, by simp⟩
    obtain ⟨i, hi⟩ := List.mem_iff_getElem?.mp hin
    rw [hnone, List.length_nil] at hle
    rw [hruns i r hi, and_iff_left (by omega)]
  · have hs : .cancelled s ∈ c.log := by
      by_contra hs
      simp [late_eq_nil hs] at hlate
    exact iff_of_true (h.late s r hlate) ((ht.cancelled_log s).mp hs)

/-- When no function is called twice, as many registrations are withdrawn as functions are called. -/
theorem Unregistered.exact (h : Unregistered c) {s : ScopeId} {a : κ} (hd : (removals c.log s a).Nodup) {i : Nat} {r : Enrolment κ}
    (hr : (registrations c.log s a)[i]? = some r) : c.Runs r ↔ c.forest.isCancelled s = true ∧ (removals c.log s a).length ≤ i := by
  obtain ⟨k, hle, hge, hruns⟩ := h.fate s a
  rw [hd.dedup] at hge
  rw [Nat.le_antisymm hge hle]
  exact hruns i r hr

/-- The only registration of a callback runs when its scope is cancelled, unless its function was called before. -/
theorem Unregistered.alone (h : Unregistered c) (hp : Proper c.log) {s : ScopeId} {r : Enrolment κ}
    (hr : registrations c.log s r.callback = [r]) : c.Runs r ↔ c.forest.isCancelled s = true ∧ r ∉ removals c.log s r.callback := by
  obtain ⟨k, hle, hge, hruns⟩ := h.fate s r.callback
  have hsub := removals_subset hp s r.callback
  rw [hr] at hsub
  have hcalled : k ≤ 0 ↔ r ∉ removals c.log s r.callback := by
    constructor
    · intro hk hin
      have hpos := List.length_pos_of_mem (List.mem_dedup.mpr hin)
      omega
    · intro hout
      have hnone : removals c.log s r.callback = [] := by
        refine List.eq_nil_iff_forall_not_mem.mpr fun r' hr' => hout ?_
        have he := List.mem_singleton.mp (hsub hr')
        rwa [he] at hr'
      simpa [hnone] using hle
  rw [hruns 0 r (by rw [hr]; rfl), hcalled]

end Consequences

/-- A function that is called when its scope is cancelled changes nothing. -/
theorem Tree.remove_of_cancelled {κ : Type} [BEq κ] {c : Cascade κ} (h : Tree c) {s : ScopeId} (hs : c.forest.isCancelled s = true) (a : κ) :
    c.forest.remove s a = c.forest := by
  have hbare := h.bare s hs
  unfold Forest.scope at hbare
  unfold Forest.remove Forest.update
  congr 1
  refine Array.ext (by simp) fun i hi hi' => ?_
  rw [Array.getElem_modify]
  split
  · rename_i he
    subst he
    simp only [Array.getElem?_eq_getElem hi', Option.getD_some] at hbare
    rw [hbare, List.erase_nil, ← hbare]
  · rfl

end Cascade

/-- What ran in a trace, and what was lost, is what was summoned. -/
theorem ScopeTrace.ran_perm_summoned {steps : List ScopeStep} (hs : ∀ s ∈ steps, s.steady = true) :
    (ran {} steps ++ (lost {} steps).filterMap Errand.callback?).Perm (Cascade.summoned (story {} steps)) := by
  obtain ⟨todo, ha, hp⟩ := attainable_story Known.empty .empty (Or.inl rfl) hs
  rw [List.nil_append] at ha
  have hlost : ((lost {} steps).filterMap Errand.callback?).Perm (Cascade.due todo) := by
    unfold Cascade.due
    exact (by simpa using hp : (lost {} steps).Perm (todo.filterMap Pending.errand?)).filterMap _
  rw [ran_eq]
  exact (List.perm_append_comm.trans (hlost.append_right _)).trans ha.summons.ran

/-- **Functions that unregister withdraw the oldest registrations of their callback.** Whatever is registered, removed, cancelled and made, by users and by
callbacks that run, and whichever callbacks fail: no registration runs twice; of the registrations of a callback on a scope the oldest are withdrawn, no more than
functions of these were called before the scope was cancelled and no fewer than different ones, and all others run when the scope is cancelled. So functions never
touch another callback or another scope; when none is called twice, as many are withdrawn as functions were called; a callback that is registered once is withdrawn
exactly by its own function; and whatever is called after the cancellation changes nothing. In the traces of a scope, callbacks run as their scopes summon them. -/
theorem unregistering_withdraws_the_oldest {κ : Type} [DecidableEq κ] (c : Cascade (Enrolment κ)) (hc : Cascade.Attainable c)
    (hd : Cascade.Distinct c.log) :
    c.Unregistered ∧
      (∀ s r, .registered s r ∈ c.log → Cascade.removals c.log s r.callback = [] → (c.Runs r ↔ c.forest.isCancelled s = true)) ∧
      (∀ (s : ScopeId) (a : κ) (i : Nat) (r : Enrolment κ), (Cascade.removals c.log s a).Nodup → (Cascade.registrations c.log s a)[i]? = some r →
        (c.Runs r ↔ c.forest.isCancelled s = true ∧ (Cascade.removals c.log s a).length ≤ i)) ∧
      (∀ s r, Cascade.registrations c.log s r.callback = [r] →
        (c.Runs r ↔ c.forest.isCancelled s = true ∧ r ∉ Cascade.removals c.log s r.callback)) ∧
      (∀ s r, c.forest.isCancelled s = true → c.forest.remove s r = c.forest) ∧
      ∀ steps : List ScopeStep, (∀ s ∈ steps, s.steady = true) →
        (ScopeTrace.ran {} steps ++ (ScopeTrace.lost {} steps).filterMap Errand.callback?).Perm (Cascade.summoned (ScopeTrace.story {} steps)) := by
  have h := hc.unregistered hd
  exact ⟨h, fun s r => h.spared hc.tree, fun s a i r hn hr => h.exact hn hr, fun s r => h.alone hc.proper, fun s r hs => hc.tree.remove_of_cancelled hs r,
    fun steps hs => ScopeTrace.ran_perm_summoned hs⟩

/-- A callback is registered twice, and the second function is called twice. -/
def doubledTrace : List ScopeStep := [.new "a", .on "a" "x" [], .on "a" "x" [], .remove "x", .remove "x", .cancel "a"]

/-- A callback that runs unregisters the next. -/
def lateTrace : List ScopeStep := [.new "a", .on "a" "x" [.remove "y"], .on "a" "y" [], .cancel "a"]

/-- The forest of a scope where a callback was registered twice and the second function was called twice. -/
def doubledForest : Forest (Enrolment Nat) :=
  (((({} : Forest (Enrolment Nat)).new.1.on 0 ⟨7, 0⟩).1.on 0 ⟨7, 1⟩).1.remove 0 ⟨7, 1⟩).remove 0 ⟨7, 1⟩

/-- The scope is cancelled then. -/
def doubledCascade : Cascade (Enrolment Nat) where
  forest := (doubledForest.next (.cancel 0)).1
  log := [.made 0 none, .registered 0 ⟨7, 0⟩, .registered 0 ⟨7, 1⟩, .removed 0 ⟨7, 1⟩, .removed 0 ⟨7, 1⟩, .called 0, .cancelled 0]

theorem Cascade.Reachable.on {κ : Type} [BEq κ] {f : Forest κ} {log : List (ScopeEvent κ)} (h : Reachable ⟨f, [], log⟩) {s : ScopeId}
    (hs : s < f.scopes.size) (hc : f.isCancelled s = false) (a : κ) : Reachable ⟨(f.on s a).1, [], log ++ [.registered s a]⟩ := by
  have hstep : Step ⟨f, [], log⟩ ⟨(f.on s a).1, (f.on s a).2.map .errand ++ [], log ++ [.registered s a]⟩ := .register (Or.inl rfl) hs
  rw [Forest.on_snd, hc] at hstep
  exact h.tail hstep

theorem doubledCascade_reachable : Cascade.Reachable doubledCascade := by
  have hnew : Cascade.Reachable (⟨({} : Forest (Enrolment Nat)).new.1, [], [.made 0 none]⟩) := .single (.new (Or.inl rfl))
  have hboth := (hnew.on (s := 0) (by decide +kernel) (by decide +kernel) ⟨7, 0⟩).on (s := 0) (by decide +kernel) (by decide +kernel) ⟨7, 1⟩
  have hremoved := (hboth.tail (.remove (s := 0) (c := ⟨7, 1⟩) (Or.inl rfl) (by simp))).tail (.remove (s := 0) (c := ⟨7, 1⟩) (Or.inl rfl) (by simp))
  have hcalled := hremoved.tail (.cancel (s := 0) (Or.inl rfl) (by decide +kernel))
  have hentered : Cascade.Reachable ⟨doubledCascade.forest, (doubledForest.next (.cancel 0)).2.1.map .errand ++ [],
      [.made 0 none, .registered 0 ⟨7, 0⟩, .registered 0 ⟨7, 1⟩, .removed 0 ⟨7, 1⟩, .removed 0 ⟨7, 1⟩, .called 0] ++
        Cascade.entered doubledForest 0⟩ := hcalled.tail .enter
  have hdue : (doubledForest.next (.cancel 0)).2.1 = [.descend 0] := by decide +kernel
  have hshown : Cascade.entered doubledForest 0 = [.cancelled 0] := by decide +kernel
  have hbelow : (doubledCascade.forest.next (.descend 0)).2.1 = [] := by decide +kernel
  rw [hdue, hshown] at hentered
  exact hentered.tail (.descend (.of_eq hbelow.symm))

/-- No registration is kept from running but by its own function. -/
def Cascade.Keeps {κ : Type} (c : Cascade κ) : Prop :=
  ∀ s a, .registered s a ∈ c.log → .removed s a ∉ c.log → c.forest.isCancelled s = true → c.Runs a

/-- What is removed before it has run never runs. -/
def Cascade.Withdraws {κ : Type} (log : List (ScopeEvent κ)) : Prop :=
  ∀ l₁ l₂ s a, log = l₁ ++ .removed s a :: l₂ → .fired a ∉ l₁ → .fired a ∉ l₂

theorem unregistering_withdraws_the_oldest_doubled :
    Cascade.Attainable doubledCascade ∧ Cascade.Distinct doubledCascade.log ∧ doubledCascade.Unregistered ∧
      (∀ s ∈ doubledTrace, s.steady = true) ∧
      (ScopeTrace.ran {} doubledTrace ++ (ScopeTrace.lost {} doubledTrace).filterMap Errand.callback?).Perm
        (Cascade.summoned (ScopeTrace.story {} doubledTrace)) := by
  have ha : Cascade.Attainable doubledCascade := Cascade.Attainable.empty.steps doubledCascade_reachable
  have hd : Cascade.Distinct doubledCascade.log := by
    unfold Cascade.Distinct
    decide
  have hs : ∀ s ∈ doubledTrace, s.steady = true := by decide +kernel
  obtain ⟨hfates, -, -, -, -, htraces⟩ := unregistering_withdraws_the_oldest doubledCascade ha hd
  exact ⟨ha, hd, hfates, hs, htraces doubledTrace hs⟩

/-- A function that is called twice keeps another registration of its callback from running, and one that is called while the callbacks of its scope run
withdraws nothing. -/
theorem functions_miss_their_registrations :
    (Cascade.Reachable doubledCascade ∧ Cascade.Distinct doubledCascade.log ∧ ¬ doubledCascade.Keeps) ∧
      ScopeTrace.ran {} doubledTrace = [] ∧ ¬ Cascade.Withdraws (ScopeTrace.story {} lateTrace) ∧
      ScopeTrace.ran {} lateTrace = ["x", "y"] := by
  refine ⟨⟨doubledCascade_reachable, ?_, fun h => ?_⟩, by decide +kernel, fun h => ?_, by decide +kernel⟩
  · unfold Cascade.Distinct
    decide
  · have hruns := h 0 ⟨7, 0⟩ (by decide) (by decide) (by decide +kernel)
    rcases hruns with hfired | hdue
    · exact absurd hfired (by decide)
    · cases hdue
  · have hstory : ScopeTrace.story {} lateTrace = [.made 0 none, .registered 0 "x", .registered 0 "y", .called 0, .cancelled 0, .fired "x"] ++
        .removed 0 "y" :: [.fired "y"] := by decide +kernel
    exact h _ _ 0 "y" hstory (by decide) (by decide)

end ScriptFlow
