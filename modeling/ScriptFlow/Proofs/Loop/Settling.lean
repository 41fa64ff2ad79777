import Mathlib
import ScriptFlow.Proofs.Loop.Readers

/-!
# Futures that their owners decide

A future that is known by what an owner asks of it, and else only read, is decided once: by the first call that is accepted, or by the future that this call
promised it to.

* `Kernel.Unsettled` — an open future whose outcome nothing can give but the promise that was made; whatever happens elsewhere leaves it alone.
* `Settling.verdict` — what an owner is told who has already been told that some calls were accepted.
* `Kernel.Settled` — a future with the calls that were accepted; `Kernel.Settled.own_call` — a call of its owner.
-/

namespace ScriptFlow

/-- What a call gives its future at once. -/
def Settling.outcome? : Settling → Option Outcome
  | value d | either d none => some (.value d)
  | error e | either _ (some e) => some (.error e)
  | chain _ => none

/-- What a future gets that was promised to another. -/
def Outcome.passed : Outcome → Outcome
  | cancelled => .error (.error .canceled "chained future cancelled")
  | o => o

@[simp] theorem Outcome.passed_passed (o : Outcome) : o.passed.passed = o.passed := by
  cases o <;> rfl

/-- A future but for the callbacks that wait for it. -/
def FutureCell.core (c : FutureCell) : FutureCell := { c with callbacks := [] }

namespace Kernel

section Core

variable {k k' : Kernel} {f : FutureId} {bars : FutureId → Prop}

/-- What a future is, but for the callbacks that wait for it. -/
def core (k : Kernel) (f : FutureId) : FutureCell := (k.future f).core

theorem outcome?_of_core (h : k'.core f = k.core f) : k'.outcome? f = k.outcome? f := by
  change (k'.core f).outcome = (k.core f).outcome
  rw [h]

theorem task?_of_core (h : k'.core f = k.core f) : k'.task? f = k.task? f := by
  change (k'.core f).task = (k.core f).task
  rw [h]

theorem chained_of_core (h : k'.core f = k.core f) : (k'.future f).chained = (k.future f).chained := by
  change (k'.core f).chained = (k.core f).chained
  rw [h]

theorem core_of_future (h : k'.future f = k.future f) : k'.core f = k.core f := congrArg FutureCell.core h

@[simp] theorem core_addCallback (k : Kernel) (g : FutureId) (c : Callback) (f : FutureId) : (k.addCallback g c).core f = k.core f := by
  rw [core, future_addCallback]
  split <;> rfl

@[simp] theorem core_removeCallback (k : Kernel) (g : FutureId) (c : Callback) (f : FutureId) :
    (k.removeCallback g c).core f = k.core f := by
  rw [core, future_removeCallback]
  split <;> rfl

theorem core_resolve {x : FutureId} (hx : f ≠ x) (o : Outcome) : (k.resolve x o).core f = k.core f := by
  rw [core, future_resolve, if_neg fun h => hx h.1]
  rfl

theorem core_setChained {x : FutureId} (hx : f ≠ x) : (k.setChained x).core f = k.core f := by
  rw [core, future_setChained, if_neg fun h => hx h.1]
  rfl

theorem core_updateTask {x : FutureId} (hx : f ≠ x) (u : Task → Task) : (k.updateTask x u).core f = k.core f := by
  rw [core, future_updateTask, if_neg hx]
  rfl

theorem core_newFuture {cell : FutureCell} (h : f = k.futures.size → cell = {}) : (k.newFuture cell).1.core f = k.core f := by
  rw [core, future_newFuture]
  split
  · rename_i hf
    rw [h hf, core, future_of_size_le k hf.ge]
  · rfl

theorem core_cancel {x : FutureId} (h : ¬ k.Leads x f) : (k.cancel x).core f = k.core f :=
  core_of_future ((k.cancel_cancels x).future_of_not_leads h)

end Core

/-! ## Open futures -/

/-- An open future that nothing refers to but the future that it was promised to, if it was. -/
structure Unsettled (k : Kernel) (f : FutureId) (source : Option FutureId) : Prop where
  undone : k.outcome? f = none
  plain : k.task? f = none
  chained : (k.future f).chained = source.isSome
  refs : ∀ r, k.Holds r → f ∈ r.touches → ∃ g, source = some g ∧ r = .pending g (.forward f)
  due : ∀ g, source = some g → k.Due g (.forward f)

section Unsettled

variable {k k' : Kernel} {f : FutureId} {source : Option FutureId} {bars : FutureId → Prop}

/-- A change that leaves the future alone and makes no references to it. -/
theorem Unsettled.grows {new : Ref → Prop} {spent : FutureId → Callback → Prop} (h : k.Unsettled f source) (hg : Grows new spent k k')
    (hnew : ∀ r, new r → f ∉ r.touches) (hspent : ∀ g, ¬ spent g (.forward f)) (hcore : k'.core f = k.core f) :
    k'.Unsettled f source := by
  refine ⟨(outcome?_of_core hcore).trans h.undone, (task?_of_core hcore).trans h.plain, (chained_of_core hcore).trans h.chained,
    fun r hr hf => ?_, fun g hs => hg.due g _ (hspent g) (h.due g hs)⟩
  rcases hg.refs r hr with hr | hr
  · exact h.refs r hr hf
  · exact absurd hf (hnew r hr)

theorem Unsettled.calm (h : k.Unsettled f source) (hg : Calm k k') (hcore : k'.core f = k.core f) : k'.Unsettled f source :=
  h.grows hg (fun _ => False.elim) (fun _ => id) hcore

/-- No cancellation comes to the future but its own. -/
theorem Unsettled.not_leads (h : k.Unsettled f source) {x : FutureId} (hx : x ≠ f) : ¬ k.Leads x f := by
  intro hl
  rcases Relation.ReflTransGen.cases_tail hl with he | ⟨y, -, hy⟩
  · exact hx he.symm
  · obtain ⟨g, -, hr⟩ := h.refs _ hy (by simp [Ref.touches])
    cases hr

theorem Unsettled.not_registered (h : k.Unsettled f source) (s : ScopeId) : f ∉ (k.scopes.scope s).callbacks := by
  intro hm
  obtain ⟨g, -, hr⟩ := h.refs (.registered s f) hm (by simp [Ref.touches])
  cases hr

theorem Unsettled.ne_of_task (h : k.Unsettled f source) {t : FutureId} (ht : (k.task? t).isSome) : f ≠ t := by
  rintro rfl
  rw [h.plain] at ht
  cases ht

theorem Unsettled.cancel (h : k.Unsettled f source) {x : FutureId} (hx : x ≠ f) : (k.cancel x).Unsettled f source :=
  h.calm (k.cancel_cancels x).calm (core_cancel (h.not_leads hx))

theorem Unsettled.resolve (h : k.Unsettled f source) {x : FutureId} (hx : f ≠ x) (o : Outcome) : (k.resolve x o).Unsettled f source :=
  h.calm (calm_resolve ..) (core_resolve hx o)

/-- **An open future is left alone** by actors that keep away from it. -/
theorem Does.unsettled (hd : Does bars k k') (h : k.Unsettled f source) (hb : bars f) : k'.Unsettled f source := by
  have hspare : ∀ {x}, k.Spares bars x → f ≠ x := by
    rintro x hx rfl
    exact hx.decided hb rfl h.undone
  have hcore : k'.core f = k.core f := by
    cases hd with
    | create o ho =>
      refine core_newFuture fun hf => ?_
      rw [ho (hf ▸ hb)]
    | resolve o hx => exact core_resolve (hspare hx) o
    | promise hx => exact core_setChained (hspare hx)
    | listen => exact core_addCallback ..
    | cancel hx => exact core_cancel (h.not_leads (hspare hx).symm)
    | newScope => rfl
    | childScope => rfl
    | cancelScope s =>
      refine core_of_future (future_cancelScope fun e x hm _ _ => h.not_leads ?_)
      rintro rfl
      exact h.not_registered e hm
    | @register x s _ hx =>
      by_cases hc : k.scopes.isCancelled s = true
      · rw [k.onCancel_of_cancelled hc]
        exact core_cancel (h.not_leads (hspare hx).symm)
      · rw [k.onCancel_of_not_cancelled (by simpa using hc)]
        rfl
    | unregister => rfl
    | notices => rfl
  refine h.grows hd.grows (fun r hr hf => ?_) (fun _ => id) hcore
  have hdone := (hr.1 f hf).2 hb
  rw [isDone_eq, outcome?_of_core hcore, h.undone] at hdone
  cases hdone

/-- A call on another future. -/
theorem Unsettled.afterCall (h : k.Unsettled f source) {x : FutureId} (hx : f ≠ x) (a : Settling) : (k.afterCall x a).Unsettled f source := by
  rcases k.afterCall_cases x a with ⟨he, -⟩ | ⟨-, -, ⟨o, he⟩ | ⟨g, -, he⟩⟩
  · rwa [he]
  · rw [he]
    exact h.resolve hx o
  · rw [he]
    have hg : Grows (fun r => r = .pending g (.forward x)) (fun _ _ => False) (k.setChained x)
        ((k.setChained x).addCallback g (.forward x)) := grows_addCallback _ g rfl
    refine (h.calm (calm_setChained k x) (core_setChained hx)).grows hg ?_ (fun _ => id) (core_addCallback ..)
    rintro r rfl hf
    exact hx (by simpa [Ref.touches, Callback.touches] using hf)

theorem Unsettled.dequeue (h : k.Unsettled f source) {j : Job} {rest : List Job} (hr : k.ready = j :: rest)
    (hj : ∀ g, j ≠ .callback g (.forward f)) : ({ k with ready := rest } : Kernel).Unsettled f source :=
  ⟨h.undone, h.plain, h.chained, fun r hh => h.refs r (holds_of_dequeued k hr hh), fun g hs => (h.due g hs).dequeue hr (hj g)⟩

theorem Unsettled.updateTask (h : k.Unsettled f source) {t : FutureId} (ht : f ≠ t) {u : Task → Task} (hu : Calm k (k.updateTask t u)) :
    (k.updateTask t u).Unsettled f source :=
  h.calm hu (core_updateTask ht u)

theorem Unsettled.finishTask (h : k.Unsettled f source) {t : FutureId} (ht : f ≠ t) (r : Except Fault Data) :
    (k.finishTask t r).Unsettled f source := by
  obtain ⟨o, ho⟩ := k.finishTask_eq t r
  rw [ho]
  exact h.resolve ht o

theorem Unsettled.newTask (h : k.Unsettled f source) (hf : f ≠ k.futures.size) (watched : Bool) : (k.newTask watched).1.Unsettled f source := by
  refine h.grows (k.grows_newTask watched) ?_ (fun _ => id) ?_
  · rintro r rfl hm
    exact hf (List.mem_singleton.mp hm)
  · rw [newTask_fst]
    exact core_newFuture fun he => absurd he hf

theorem Unsettled.queueResume (h : k.Unsettled f source) {t : FutureId} (ht : f ≠ t) (input : Except Fault Data) :
    (k.queue [.resume t input]).Unsettled f source := by
  have hg : Grows (fun r => r = .resume t) (fun _ _ => False) k (k.queue [.resume t input]) := k.grows_queue_resume t input rfl
  refine h.grows hg ?_ (fun _ => id) rfl
  rintro r rfl hm
  exact ht (List.mem_singleton.mp hm)

/-- A task waits for something else. -/
theorem Unsettled.waitFor (h : k.Unsettled f source) {t x : FutureId} (ht : f ≠ t) (hx : f ≠ x) : (k.waitFor t x).Unsettled f source := by
  have hset : (k.awaiting t x).Unsettled f source := by
    have hg : Grows (fun r => r = .pending x (.wake t) ∨ r = .waiting t x) (fun _ _ => False) k (k.awaiting t x) := by
      refine (grows_addCallback k x (Or.inl rfl)).trans (grows_updateTask _ t ?_ fun _ => Nat.le_refl _)
      rintro a w ⟨⟩
      exact Or.inr (Or.inr rfl)
    refine h.grows hg ?_ (fun _ => id) ?_
    · rintro r (rfl | rfl) hm
      · exact ht (List.mem_singleton.mp hm)
      · exact hx (List.mem_singleton.mp hm)
    · rw [awaiting, core_updateTask ht, core_addCallback]
  have hcan : ((k.awaiting t x).cancel x).Unsettled f source := hset.cancel hx.symm
  cases htask : k.task? t with
  | none =>
    rw [waitFor_of_not_requested k (by simp [htask])]
    exact hset
  | some task =>
    cases hc : task.cancelRequested with
    | false =>
      rw [waitFor_of_not_requested k (by simp [htask, hc])]
      exact hset
    | true =>
      rw [waitFor_of_requested k htask hc]
      split
      · exact hcan.updateTask ht (grows_updateTask _ t (fun _ _ h => Or.inl h) fun _ => Nat.le_refl _)
      · exact hcan

/-- A callback that is not the promise. -/
theorem Unsettled.runCallback (h : k.Unsettled f source) {g : FutureId} {c : Callback} (hc : c ≠ .forward f)
    (hf : f ∈ c.touches g → ∃ s, c = .unlink s) (hw : ∀ w, c = .relay w → ¬ k.Leads w f) : (k.runCallback g c).Unsettled f source := by
  have hne : ∀ {x : FutureId}, c.touches g = [x] → (∀ s, c ≠ .unlink s) → f ≠ x := by
    rintro x hx hu rfl
    obtain ⟨s, hs⟩ := hf (by simp [hx])
    exact hu s hs
  refine h.grows (k.grows_runCallback g c) (fun _ => False.elim) ?_ ?_
  · rintro x ⟨w, -, hcw⟩
    cases hcw
  · cases c with
    | wake t => rfl
    | unlink s => rfl
    | forward x =>
      have hx : f ≠ x := hne rfl (by simp)
      simp only [Kernel.runCallback, Kernel.forward]
      split
      · rfl
      · exact core_resolve hx _
      · exact core_resolve hx _
    | relay w =>
      have hx : f ≠ w := hne rfl (by simp)
      simp only [Kernel.runCallback]
      split
      · rfl
      · exact core_cancel (hw w rfl)
      · exact core_resolve hx _
    | unrelay inner w =>
      simp only [Kernel.runCallback]
      split
      · rfl
      · exact core_removeCallback ..

end Unsettled

/-! ## Calls of an owner -/

end Kernel

/-- What an owner is told who was told before that these calls were accepted. -/
def Settling.verdict (accepted : List Settling) : Settling → Option Fault
  | .chain (.other type) => some (.error .wrongType ("cannot chain " ++ type))
  | _ => if accepted.isEmpty then none else some alreadyResolved

/-- A call gives an outcome, makes a promise, or names something that is no future. -/
theorem Settling.kinds (a : Settling) :
    (∃ o, a.outcome? = some o) ∨ (∃ g, a = .chain (.future g)) ∨ ∃ type, a = .chain (.other type) := by
  cases a with
  | value d => exact Or.inl ⟨_, rfl⟩
  | error e => exact Or.inl ⟨_, rfl⟩
  | either d e => cases e <;> exact Or.inl ⟨_, rfl⟩
  | chain source =>
    cases source with
    | future g => exact Or.inr (Or.inl ⟨g, rfl⟩)
    | other type => exact Or.inr (Or.inr ⟨type, rfl⟩)

namespace Kernel

section Calls

variable {k k' : Kernel} {f : FutureId} {a : Settling} {taken : List Settling}

/-- A call that is refused changes nothing. -/
theorem afterCall_of_refused (h : k.answer f a ≠ none) : k.afterCall f a = k := by
  rcases k.afterCall_cases f a with ⟨he, -⟩ | ⟨-, hn, -⟩
  · exact he
  · exact absurd hn h

theorem answer_other (type : String) : k.answer f (.chain (.other type)) = some (.error .wrongType ("cannot chain " ++ type)) := rfl

theorem afterCall_outcome {o : Outcome} (hs : k.isSettable f = true) (ha : a.outcome? = some o) :
    k.answer f a = none ∧ k.afterCall f a = k.resolve f o := by
  unfold answer afterCall
  cases a with
  | either d e => cases e <;> cases ha <;> simp [settleBy, settle, hs]
  | chain source => cases ha
  | _ => cases ha; simp [settleBy, settle, hs]

theorem afterCall_chain (hs : k.isSettable f = true) (g : FutureId) :
    k.answer f (.chain (.future g)) = none ∧ k.afterCall f (.chain (.future g)) = (k.setChained f).addCallback g (.forward f) := by
  simp [answer, afterCall, settleBy, chain, hs]

/-- A future that is decided or promised takes no call. -/
theorem answer_of_not_settable (hs : k.isSettable f = false) (ha : ∀ type, a ≠ .chain (.other type)) :
    k.answer f a = some alreadyResolved := by
  unfold answer
  cases a with
  | either d e => cases e <;> simp [settleBy, settle, hs]
  | chain source =>
    cases source with
    | future g => simp [settleBy, chain, hs]
    | other type => exact absurd rfl (ha type)
  | _ => simp [settleBy, settle, hs]

/-- What an owner is told depends on whether the future is settable. -/
theorem answer_eq_verdict (hs : k.isSettable f = taken.isEmpty) (a : Settling) : k.answer f a = a.verdict taken := by
  cases ht : taken.isEmpty with
  | false =>
    rw [ht] at hs
    rcases a.kinds with ⟨o, ha⟩ | ⟨g, rfl⟩ | ⟨type, rfl⟩
    · rw [answer_of_not_settable hs (by rintro type rfl; cases ha)]
      cases a with
      | chain source => cases ha
      | _ => simp [Settling.verdict, ht]
    · rw [answer_of_not_settable hs (by simp)]
      simp [Settling.verdict, ht]
    · rfl
  | true =>
    rw [ht] at hs
    rcases a.kinds with ⟨o, ha⟩ | ⟨g, rfl⟩ | ⟨type, rfl⟩
    · rw [(afterCall_outcome hs ha).1]
      cases a with
      | chain source => cases ha
      | _ => simp [Settling.verdict, ht]
    · rw [(afterCall_chain hs g).1]
      simp [Settling.verdict, ht]
    · rfl

/-- **A future of an owner**, with the calls that were accepted. -/
inductive Settled (k : Kernel) (f : FutureId) : List Settling → Prop where
  | fresh (h : k.Unsettled f none) : Settled k f []
  | promised {g} (h : k.Unsettled f (some g)) : Settled k f [.chain (.future g)]
  | given {a o} (ha : a.outcome? = some o) (ho : k.outcome? f = some o) : Settled k f [a]
  /-- the promise was kept -/
  | kept {g o} (hg : k.outcome? g = some o) (ho : k.outcome? f = some o.passed) : Settled k f [.chain (.future g)]

theorem Settled.isSettable (h : k.Settled f taken) : k.isSettable f = taken.isEmpty := by
  have hchained : ∀ {source : Option FutureId}, k.Unsettled f source → k.isSettable f = source.isNone := by
    intro source hu
    have hd : k.isDone f = false := by
      rw [isDone_eq_false]
      exact hu.undone
    unfold Kernel.isSettable
    rw [hd, hu.chained]
    cases source <;> rfl
  have hdone : ∀ {o : Outcome}, k.outcome? f = some o → k.isSettable f = false := by
    intro o ho
    have hd : k.isDone f = true := by
      rw [isDone_eq, ho]
      rfl
    simp [Kernel.isSettable, hd]
  cases h with
  | fresh h => exact hchained h
  | promised h => exact hchained h
  | given _ ho => exact hdone ho
  | kept _ ho => exact hdone ho

/-- What is decided stays so; an open future is looked at again. -/
theorem Settled.of_unsettled (h : k.Settled f taken) (hout : ∀ x o, k.outcome? x = some o → k'.outcome? x = some o)
    (hu : ∀ source, k.Unsettled f source → k'.Unsettled f source) : k'.Settled f taken := by
  cases h with
  | fresh h => exact .fresh (hu _ h)
  | promised h => exact .promised (hu _ h)
  | given ha ho => exact .given ha (hout _ _ ho)
  | kept hg ho => exact .kept (hout _ _ hg) (hout _ _ ho)

/-- **A call of the owner** is accepted if it is the first, and then it decides the future or promises it. -/
theorem Settled.own_call (h : k.Settled f taken) (hf : f < k.futures.size) (ha : k.Known a) :
    (k.afterCall f a).Settled f (taken ++ if (k.answer f a).isNone then [a] else []) := by
  cases hn : (k.answer f a).isNone with
  | false =>
    have hrefused : k.answer f a ≠ none := by
      intro he
      simp [he] at hn
    rw [afterCall_of_refused hrefused, if_neg (by simp), List.append_nil]
    exact h
  | true =>
    rw [if_pos rfl]
    have hnone : k.answer f a = none := Option.isNone_iff_eq_none.mp hn
    have hs : k.isSettable f = true := by
      rcases k.afterCall_cases f a with ⟨-, hr⟩ | ⟨hs, -⟩
      · exact absurd hnone hr
      · exact hs
    have hempty : taken = [] := by
      rw [h.isSettable] at hs
      exact List.isEmpty_iff.mp hs
    subst hempty
    have hfresh : k.Unsettled f none := by
      cases h with
      | fresh h => exact h
    rw [List.nil_append]
    rcases a.kinds with ⟨o, hao⟩ | ⟨g, rfl⟩ | ⟨type, rfl⟩
    · rw [(afterCall_outcome hs hao).2]
      refine .given hao ?_
      rw [outcome?_resolve, if_pos ⟨rfl, hf, hfresh.undone⟩]
    · rw [(afterCall_chain hs g).2]
      refine .promised ⟨?_, ?_, ?_, ?_, ?_⟩
      · simpa using hfresh.undone
      · simpa using hfresh.plain
      · have hcore : ((k.setChained f).addCallback g (.forward f)).core f = (k.setChained f).core f := core_addCallback ..
        rw [chained_of_core hcore, future_setChained, if_pos ⟨rfl, hf⟩]
        rfl
      · intro r hr hm
        have hg : Grows (fun r => r = .pending g (.forward f)) (fun _ _ => False) k ((k.setChained f).addCallback g (.forward f)) :=
          (Grows.of_calm (calm_setChained k f)).trans (grows_addCallback _ g rfl)
        rcases hg.refs r hr with hr | rfl
        · obtain ⟨x, hx, -⟩ := hfresh.refs r hr hm
          cases hx
        · exact ⟨g, rfl, rfl⟩
      · rintro x ⟨⟩
        have hlt : g < (k.setChained f).futures.size := by
          rw [size_setChained]
          exact ha
        exact due_addCallback _ hlt _
    · rw [answer_other] at hnone
      cases hnone

end Calls

end Kernel

end ScriptFlow
