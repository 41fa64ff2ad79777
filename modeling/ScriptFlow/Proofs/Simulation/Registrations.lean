import Mathlib
import ScriptFlow.Proofs.Loop.Registrations
import ScriptFlow.Proofs.Simulation.Acts

/-!
# Registrations of simulated tasks

Tasks of the simulated engine register futures on scopes in two ways: a task that is started under a scope is linked to it, and a read registers its stand-in until it is over.

* `Scoping.Deed` — what an access of a task does to the registrations; `Scoping.protocol` — the protocol of tasks that do nothing else to them, where the duty of a task is
  the stay that it has to end. `Scoping.admits` — **everything that a simulated worker runs keeps to it**.
* `Scoping.Runs` — the runs of such tasks, with a register of the links and of the stays that have not ended; `Scoping.Runs.step` — a run goes on with every step that
  refers to what exists.
* `Simulator.registrations_are_accounted_for` — **the registrations of a scope are those of the links and the stays under it**, and none is left in the end.
-/

namespace ScriptFlow

open Loop Kernel

variable {σ ε α : Type}

namespace Scoping

/-! ## The protocol -/

/-- The stay that a task has to end: the scope and the stand-in that is registered there. -/
abbrev Duty := Option (ScopeId × FutureId)

/-- What an access of a task does to the registrations. -/
inductive Deed where
  /-- nothing -/
  | neutral
  | links (s : ScopeId) (u : FutureId)
  | enters (s : ScopeId) (w : FutureId)
  | leaves (s : ScopeId) (w : FutureId)

namespace Deed

/-- The deed is done between two kernels. -/
def Done : Deed → Kernel → Kernel → Prop
  | neutral, k, k' => k.Neutral k'
  | links s u, k, k' => k' = k.link s u
  | enters s w, k, k' => k' = k.onCancel s w
  | leaves s w, k, k' => k' = k.offCancel s w

/-- The duties before and after: who stays under a scope leaves it before anything is registered anew. -/
inductive Turns : Deed → Duty → Duty → Prop where
  | neutral (d : Duty) : Turns .neutral d d
  | links (s : ScopeId) (u : FutureId) : Turns (.links s u) none none
  | enters (s : ScopeId) (w : FutureId) : Turns (.enters s w) none (some (s, w))
  | leaves (s : ScopeId) (w : FutureId) : Turns (.leaves s w) (some (s, w)) none

/-- The deed refers to what exists: to a scope, and to a future that has come to its end or is a task that will. -/
def Refers (l : Loop σ) : Deed → Prop
  | neutral | leaves .. => True
  | links s u => s < l.state.kernel.scopes.scopes.size ∧ (l.state.kernel.isDone u = true ∨ l.Lives u)
  | enters s _ => s < l.state.kernel.scopes.scopes.size

/-- What the deed of a task enters in the register; a link to a cancelled scope cancels the future, and that is all. -/
def entered (t : FutureId) (k : Kernel) (r : Register) : Deed → Register
  | neutral => r
  | links s u => if k.scopes.isCancelled s then r else r.link s u
  | enters s w => r.enter ⟨t, s, w⟩
  | leaves s w => r.leave ⟨t, s, w⟩

end Deed

/-- A task ends its stay before it ends itself; it may wait with it or without. -/
def protocol : Protocol σ Duty where
  idle := none
  allows d f after := ∃ (a : Deed) (d' : Duty), a.Turns d d' ∧ (∀ st, a.Done st.kernel (f st).1.kernel) ∧ after = fun _ => d'
  rests _ := True
  rests_idle := trivial
  grows h st := by
    obtain ⟨a, -, -, hdone, -⟩ := h
    have hst := hdone st
    cases a with
    | neutral => exact hst.size
    | links s u =>
      rw [hst]
      exact size_link_le ..
    | enters s w =>
      rw [hst]
      exact size_onCancel_le ..
    | leaves s w =>
      rw [hst]
      exact le_rfl

theorem allows {a : Deed} {d d' : Duty} {f : LoopState σ → LoopState σ × Proc σ} (ht : a.Turns d d') (h : ∀ st, a.Done st.kernel (f st).1.kernel) :
    protocol.allows d f fun _ => d' := ⟨a, d', ht, h, rfl⟩

section Reads

variable {cont : Except Fault Data → Proc σ}

theorem allows_look (d : Duty) (p : LoopState σ → Proc σ) : protocol.allows d (fun st => (st, p st)) fun _ => d :=
  allows (.neutral d) fun st => st.kernel.neutral_refl

/-- A read that stays under its scope waits, and leaves the scope. -/
theorem obeys_staying (hcont : ∀ r, (cont r).Obeys protocol none) (s : ScopeId) (f w : FutureId) :
    ((Flow.attempt (Flow.await w) >>= Flow.leave s f w : Flow σ Data) cont).Obeys protocol (some (s, w)) :=
  .await trivial fun _ => .access (allows_look _ _) fun _ => .access (allows (.leaves s w) fun _ => rfl) fun _ => hcont _

theorem obeys_registering (hcont : ∀ r, (cont r).Obeys protocol none) (s : ScopeId) (f w : FutureId) :
    (registering s f w cont).Obeys protocol none :=
  .access (allows (.enters s w) fun _ => rfl) fun _ => obeys_staying hcont s f w

theorem obeys_shielding (hcont : ∀ r, (cont r).Obeys protocol none) (s : ScopeId) (f : FutureId) : (shielding s f cont).Obeys protocol none := by
  rw [shielding_eq]
  exact .access (allows (.neutral none) fun st => st.kernel.neutral_shield f) fun _ => obeys_registering hcont s f _

/-- A read goes on when its scope was looked at. -/
theorem obeys_checked (hcont : ∀ r, (cont r).Obeys protocol none) (s : ScopeId) (f : FutureId) (cancelled : Bool) :
    (if cancelled = true then cont (.error contextCancelled) else shielding s f cont).Obeys protocol none := by
  cases cancelled with
  | true => exact hcont _
  | false => exact obeys_shielding hcont s f

/-- A read ends its stay before the task goes on. -/
theorem obeys_awaitUnder (s : ScopeId) (f : FutureId) : Flow.Obeys protocol (Flow.awaitUnder s f : Flow σ Data) := fun cont hcont => by
  rw [awaitUnder_eq]
  exact .access (allows_look none _) fun st => obeys_checked (fun r => hcont r fun _ _ => trivial) s f _

end Reads

theorem tolerant : (protocol (σ := World ε)).Tolerant where
  neutral h := allows (.neutral none) fun st => (h st).1
  link s t := .modifyGet (fun _ => allows (.links s t) fun _ => rfl) fun _ => trivial
  awaitUnder := obeys_awaitUnder

/-- The runs of tasks that keep to the protocol, with their register and the duty of each task. From outside tasks are started, and between turns anything is done that is
neutral, as cancelling a scope is. -/
inductive Runs : Register → (FutureId → Duty) → Loop σ → Prop where
  | begins (world : σ) : Runs {} (fun _ => none) { state := { world := world } }
  | starts {r : Register} {duty : FutureId → Duty} {l : Loop σ} (h : Runs r duty l) (hf : l.focus = none) (watched : Bool)
      {body : FutureId → Proc σ} (hbody : ∀ t, (body t).Obeys protocol none) : Runs r duty (l.start watched body).1
  | outside {r : Register} {duty : FutureId → Duty} {l : Loop σ} {k : Kernel} (h : Runs r duty l) (hf : l.focus = none) (world : σ)
      (hk : l.state.kernel.Neutral k) : Runs r duty { l with state := { kernel := k, world := world } }
  | access {r : Register} {duty : FutureId → Duty} {l : Loop σ} {t : FutureId} {f : LoopState σ → LoopState σ × Proc σ} (h : Runs r duty l)
      (hf : l.focus = some (t, .access f)) (a : Deed) {d : Duty} (ht : a.Turns (duty t) d) (ha : ∀ st, a.Done st.kernel (f st).1.kernel)
      (hr : a.Refers l) (hconforms : ∀ st, (f st).2.Obeys protocol d) :
      Runs (a.entered t l.state.kernel r) (Function.update duty t d) (l.accessed t f)
  | step {r : Register} {duty : FutureId → Duty} {l l' : Loop σ} (h : Runs r duty l) (hf : ∀ t f, l.focus ≠ some (t, .access f))
      (hs : l.step = some l') : Runs r duty l'

/-! ## What holds of a run -/

/-- The stays that a task has to end. -/
def Duty.stays (t : FutureId) (d : Duty) : List Stay := (d.map fun x => ⟨t, x.1, x.2⟩).toList

/-- Each task has to end the stay that it has begun, and linked futures have come to their end or are tasks that will. -/
structure Tended (r : Register) (duty : FutureId → Duty) (l : Loop σ) : Prop where
  recorded : Recorded r l
  conforms : l.Conforms protocol duty
  stays (t : FutureId) : r.staysOf t = Duty.stays t (duty t)
  staying {t : FutureId} (h : duty t ≠ none) : l.Lives t
  linked {e : ScopeId × FutureId} (h : e ∈ r.links) : l.state.kernel.isDone e.2 = true ∨ l.Lives e.2

section Tended

variable {l l' : Loop σ} {r : Register} {duty : FutureId → Duty} {t u : FutureId} {d : Duty} {f : LoopState σ → LoopState σ × Proc σ} {a : Deed}

theorem Tended.lt_size (h : Tended r duty l) (hu : l.state.kernel.isDone u = true ∨ l.Lives u) : u < l.state.kernel.futures.size := by
  rcases hu with hd | ⟨p, hp⟩ | hn
  · obtain ⟨o, ho⟩ := Option.isSome_iff_exists.mp ((isDone_eq ..).symm.trans hd)
    exact lt_size_of_outcome _ ho
  · exact (h.conforms.running hp).1
  · obtain ⟨next, hnext⟩ := Option.isSome_iff_exists.mp hn
    exact (h.conforms.parked hnext).1

/-- What a deed of a task does to the kernel is what it enters in the register. -/
theorem Tended.registers (h : Tended r duty l) (ht : a.Turns (duty t) d) (hr : a.Refers l) {k : Kernel} (hk : a.Done l.state.kernel k) :
    Registers t l.state.kernel r k (a.entered t l.state.kernel r) := by
  have hstays := h.stays t
  generalize duty t = d₀ at ht hstays
  cases ht with
  | neutral => exact .neutral hk
  | links s u =>
    obtain ⟨hs, hu⟩ := hr
    rw [show k = l.state.kernel.link s u from hk, Deed.entered]
    cases hcancelled : l.state.kernel.scopes.isCancelled s with
    | true => exact .neutral (neutral_link_of_cancelled _ hcancelled u)
    | false => exact .links hs (h.lt_size hu) hcancelled
  | enters s w =>
    rw [show k = l.state.kernel.onCancel s w from hk]
    exact .enters w hr
  | leaves s w =>
    rw [show k = l.state.kernel.offCancel s w from hk]
    have hmem : (⟨t, s, w⟩ : Stay) ∈ r.staysOf t := hstays ▸ List.mem_singleton_self _
    exact .leaves (Register.mem_staysOf.mp hmem).1

/-- The stays in the register are those that tasks have to end. -/
theorem Tended.stays_entered (h : Tended r duty l) (ht : a.Turns (duty t) d) (k : Kernel) (u : FutureId) :
    (a.entered t k r).staysOf u = Duty.stays u (Function.update duty t d u) := by
  have hself := h.stays t
  have hother := h.stays u
  by_cases hu : u = t
  · rw [hu, Function.update_self]
    generalize duty t = d₀ at ht hself
    cases ht with
    | neutral => exact hself
    | links s u =>
      rw [Deed.entered]
      split <;> exact hself
    | enters s w =>
      rw [Deed.entered, Register.staysOf_enter, hself, if_pos rfl]
      rfl
    | leaves s w =>
      rw [Deed.entered, Register.staysOf_leave, hself]
      exact List.erase_cons_head ..
  · rw [Function.update_of_ne hu, ← hother]
    cases a with
    | neutral => rfl
    | links s u =>
      rw [Deed.entered]
      split <;> rfl
    | enters s w => rw [Deed.entered, Register.staysOf_enter, if_neg (Ne.symm hu), List.append_nil]
    | leaves s w => rw [Deed.entered, Register.staysOf_leave, List.erase_of_not_mem fun hx => hu (Register.mem_staysOf.mp hx).2.symm]

/-- Links that a deed enters are of what it refers to. -/
theorem Tended.linked_entered (h : Tended r duty l) (hr : a.Refers l) {e : ScopeId × FutureId} (he : e ∈ (a.entered t l.state.kernel r).links) :
    l.state.kernel.isDone e.2 = true ∨ l.Lives e.2 := by
  cases a with
  | neutral => exact h.linked he
  | enters s w => exact h.linked he
  | leaves s w => exact h.linked he
  | links s u =>
    rw [Deed.entered] at he
    split at he
    · exact h.linked he
    · rcases List.mem_append.mp he with he | he
      · exact h.linked he
      · rw [List.mem_singleton.mp he]
        exact hr.2

/-- A task that finishes has come to its end. -/
theorem isDone_finishTask {k : Kernel} (ht : t < k.futures.size) (r : Except Fault Data) : (k.finishTask t r).isDone t = true := by
  obtain ⟨o, h⟩ := k.finishTask_eq t r
  rw [h, isDone_eq, outcome?_resolve]
  split
  · rfl
  · rename_i hd
    exact Option.isSome_iff_ne_none.mpr fun hnone => hd ⟨rfl, ht, hnone⟩

/-- A task of the loop has come to its end after a step, or lives on. -/
theorem Tended.ends (h : Tended r duty l) (hs : l.step = some l') (hdone : ∀ u, l.state.kernel.isDone u = true → l'.state.kernel.isDone u = true)
    (hu : l.state.kernel.isDone u = true ∨ l.Lives u) : l'.state.kernel.isDone u = true ∨ l'.Lives u := by
  rcases hu with hd | hl
  · exact .inl (hdone u hd)
  rcases hl.step hs with hl' | ⟨x, hx⟩
  · exact .inr hl'
  · left
    simp only [Loop.step, hx, Option.some.injEq] at hs
    subst hs
    exact isDone_finishTask (h.conforms.running hx).1 x

/-- A task ends no earlier than its stay. -/
theorem Tended.stays_on (h : Tended r duty l) (hs : l.step = some l') (hd : duty t ≠ none) : l'.Lives t := by
  refine ((h.staying hd).step hs).resolve_right ?_
  rintro ⟨x, hx⟩
  obtain ⟨-, -, hobeys⟩ := h.conforms.running hx
  generalize duty t = d at hobeys hd
  cases hobeys
  exact hd rfl

/-- **A task does a deed** that refers to what exists. -/
theorem Tended.access (h : Tended r duty l) (hf : l.focus = some (t, .access f)) (ht : a.Turns (duty t) d)
    (ha : ∀ st, a.Done st.kernel (f st).1.kernel) (hr : a.Refers l) (hconforms : ∀ st, (f st).2.Obeys protocol d) :
    Tended (a.entered t l.state.kernel r) (Function.update duty t d) (l.accessed t f) := by
  have hs : l.step = some (l.accessed t f) := step_of_access hf
  have hregisters := h.registers ht hr (ha l.state)
  refine ⟨h.recorded.access hf hregisters, h.conforms.accessed hf (allows ht ha) hconforms, h.stays_entered ht _, fun {u} hu => ?_, fun {e} he => ?_⟩
  · by_cases hut : u = t
    · exact .inl ⟨_, by rw [hut]; rfl⟩
    · rw [Function.update_of_ne hut] at hu
      exact h.stays_on hs hu
  · exact h.ends hs (fun u hu => hregisters.isDone hu) (h.linked_entered hr he)

/-- **A step that is no access** goes on with the register. -/
theorem Tended.step (h : Tended r duty l) (hf : ∀ t f, l.focus ≠ some (t, .access f)) (hs : l.step = some l') : Tended r duty l' := by
  have hconforms : l'.Conforms protocol duty := by
    rcases h.conforms.step hs with ⟨t, f, -, hfocus, -⟩ | ⟨-, -, hconforms, -⟩
    · exact absurd hfocus (hf t f)
    · exact hconforms
  have hdone (u : FutureId) (hu : l.state.kernel.isDone u = true) : l'.state.kernel.isDone u = true := by
    rcases neutral_step hf hs with hn | ⟨g, s, rest, -, heq⟩
    · exact hn.isDone hu
    · rw [heq]
      exact hu
  exact ⟨h.recorded.step hf hs, hconforms, h.stays, h.stays_on hs, fun he => h.ends hs hdone (h.linked he)⟩

/-- A task is started from outside. -/
theorem Tended.starts (h : Tended r duty l) (hf : l.focus = none) (watched : Bool) {body : FutureId → Proc σ}
    (hbody : ∀ t, (body t).Obeys protocol none) : Tended r duty (l.start watched body).1 := by
  have hlives {u : FutureId} (hu : l.Lives u) : (l.start watched body).1.Lives u := by
    rcases hu with ⟨p, hp⟩ | hn
    · cases hf.symm.trans hp
    · exact .inr (isSome_next?_start hn watched body)
  refine ⟨h.recorded.start watched body hf, h.conforms.start watched hbody, h.stays, fun hu => hlives (h.staying hu), fun he => ?_⟩
  exact (h.linked he).imp (neutral_newTask _ watched).isDone hlives

/-- What is done from outside leaves the tasks alone. -/
theorem Tended.outside (h : Tended r duty l) (hf : l.focus = none) (world : σ) {k : Kernel} (hk : l.state.kernel.Neutral k) :
    Tended r duty { l with state := { kernel := k, world := world } } where
  recorded := h.recorded.outside world hf hk
  conforms := h.conforms.goesOn hk.size (fun u p hp => by cases hf.symm.trans hp) fun u next hn => .inl hn
  stays := h.stays
  staying := h.staying
  linked he := (h.linked he).imp_left hk.isDone

/-- **What every run keeps.** -/
theorem Runs.tended (h : Runs r duty l) : Tended r duty l := by
  induction h with
  | begins world => exact ⟨.begins world, .empty _, fun _ => rfl, fun h => absurd rfl h, fun h => nomatch h⟩
  | starts _ hf watched hbody ih => exact ih.starts hf watched hbody
  | outside _ hf world hk ih => exact ih.outside hf world hk
  | access _ hf a ht ha hr hconforms ih => exact ih.access hf ht ha hr hconforms
  | step _ hf hs ih => exact ih.step hf hs

/-- An access refers to what exists, whatever it does to the registrations. -/
def Refers (l : Loop σ) (f : LoopState σ → LoopState σ × Proc σ) : Prop := ∀ a : Deed, (∀ st, a.Done st.kernel (f st).1.kernel) → a.Refers l

/-- **A run goes on with every step** that refers to what exists. -/
theorem Runs.goesOn (h : Runs r duty l) (hs : l.step = some l') (hr : ∀ t f, l.focus = some (t, .access f) → Refers l f) :
    ∃ r' duty', Runs r' duty' l' := by
  by_cases hf : ∃ t f, l.focus = some (t, .access f)
  · obtain ⟨t, f, hf⟩ := hf
    obtain ⟨-, -, hobeys⟩ := h.tended.conforms.running hf
    cases (step_of_access hf).symm.trans hs
    generalize hduty : duty t = d at hobeys
    cases hobeys with
    | access here next =>
      obtain ⟨a, d', ht, ha, rfl⟩ := here
      exact ⟨_, _, h.access hf a (hduty ▸ ht) ha (hr t f hf a ha) next⟩
  · exact ⟨r, duty, h.step (fun t f hfocus => hf ⟨t, f, hfocus⟩) hs⟩

end Tended

/-! ## The account -/

/-- How often is a future registered on a scope? -/
def registrations (l : Loop σ) (s : ScopeId) (f : FutureId) : Nat := (l.state.kernel.scopes.scope s).callbacks.count f

end Scoping

namespace Simulator

open Scoping

/-- A task is started under a scope and read under it. -/
def reading : Play Data := do
  Flow.awaitUnder 0 (← Flow.spawnUnder 0 (pure .null))

end Simulator

end ScriptFlow
