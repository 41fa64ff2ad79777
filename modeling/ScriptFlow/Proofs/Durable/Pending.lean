import Mathlib
import ScriptFlow.Proofs.Durable.Closures
import ScriptFlow.Proofs.Script.Conversion
import ScriptFlow.Trial.Executions

/-!
# Pending side effects

A side effect is pending from the point where its closure is kept until it is forgotten. So an execution keeps just the closures of the side effects
that are pending, whatever its tasks, the engine and the worker do in between.

* `Execution.Tidy` — the closures that are kept are those of the pending calls, each under a key of its own, and tasks in a call have not ended.
* `Execution.Does` — the acts of a task on its side effect; `Execution.Tidy.step` — **a step is an act**; `Execution.Tidy.deliver` — **news is none**.
* `Execution.Enters`, `Execution.step_forgetting` — how a call begins and ends.
* `Execution.Move` — steps and news; `Execution.moves_activate` — **an activation consists of them**; `ExecutionTrial.fresh_start` — **an execution
  begins without closures**.
-/

namespace ScriptFlow

open Activation Loop

namespace Execution

/-! ## Steps -/

/-- What a task does with a side effect. -/
inductive Act where
  | calls (c : SideCall)
  /-- the call fails before anything is asked for -/
  | refused (c : SideCall) (e : Fault)
  | takes (key : Nat) (c : SideCall)
  | registers (key : Nat) (c : SideCall)
  /-- the call ends -/
  | releases (key : Nat) (c : SideCall) (r : Except Fault Data)
  /-- nothing of these -/
  | other

/-- The closures that are kept afterwards. -/
def Act.on (table : List (Nat × Except Fault Data)) : Act → List (Nat × Except Fault Data)
  | .registers k c => (k, c.closure) :: table
  | .releases k _ _ => without table k
  | _ => table

/-- An act of a task, with how far it has come before and after. -/
inductive Does (t : FutureId) (l l' : Stage) : Duty → Act → Duty → Prop where
  | calls (ctx : Context) (c : SideCall) (hf : l.focus = some (t, sideEffect ctx c.closure c.next)) : Does t l l' .idle (.calls c) (.called c)
  | refused (ctx : Context) (c : SideCall) (e : Fault) (hf : l.focus = some (t, sideEffect ctx c.closure c.next))
      (hf' : l'.focus = some (t, c.next (.error e))) : Does t l l' .idle (.refused c e) .idle
  | takes (c : SideCall) : Does t l l' (.called c) (.takes ((engine l).calls + 1) c) (.keyed ((engine l).calls + 1) c)
  | registers (k : Nat) (c : SideCall) : Does t l l' (.keyed k c) (.registers k c) (.pending k c)
  | releases (k : Nat) (c : SideCall) (r : Except Fault Data) (hf' : l'.focus = some (t, c.next r)) :
      Does t l l' (.pending k c) (.releases k c r) .idle
  | other (d : Duty) : Does t l l' d .other d

/-- The closures that an execution keeps are those of the calls that are pending, each under a key of its own. -/
structure Tidy (duty : FutureId → Duty) (l : Stage) : Prop where
  conforms : l.Conforms protocol duty
  kept (k : Nat) (closure : Except Fault Data) :
    (engine l).sideEffects.lookup k = some closure ↔ ∃ t c, duty t = .pending k c ∧ c.closure = closure
  own {t u : FutureId} {k : Nat} (ht : (duty t).key? = some k) (hu : (duty u).key? = some k) : t = u
  known {t : FutureId} {k : Nat} (ht : (duty t).key? = some k) : k ≤ (engine l).calls
  /-- a task that is in a call has not ended -/
  lives {t : FutureId} (ht : duty t ≠ .idle) : l.Lives t

theorem Duty.key?_of_pending {d : Duty} {k : Nat} {c : SideCall} (h : d = .pending k c) : d.key? = some k := by
  rw [h]
  rfl

section Tidy

variable {duty duty' : FutureId → Duty} {l l' : Stage} {t : FutureId} {k : Nat} {c : SideCall}

/-- Two calls are not pending under the same key. -/
theorem Tidy.unique (h : Tidy duty l) {u : FutureId} {c' : SideCall} (ht : duty t = .pending k c) (hu : duty u = .pending k c') : t = u :=
  h.own (Duty.key?_of_pending ht) (Duty.key?_of_pending hu)

/-- Without pending calls no closure is kept. -/
theorem Tidy.eq_nil (h : Tidy duty l) (hnone : ∀ t k c, duty t ≠ .pending k c) : (engine l).sideEffects = [] := by
  cases hentries : (engine l).sideEffects with
  | nil => rfl
  | cons e rest =>
    obtain ⟨k, closure⟩ := e
    obtain ⟨t, c, ht, -⟩ := (h.kept k closure).mp (by rw [hentries, List.lookup_cons, beq_self_eq_true])
    exact absurd ht (hnone t k c)

/-- Keys stay apart, and a new one is taken from the numbers that no call has had. -/
theorem Tidy.of_keys (h : Tidy duty l) (hconforms : l'.Conforms protocol duty') (hlives : ∀ u, duty' u ≠ .idle → l'.Lives u)
    (hcalls : (engine l).calls ≤ (engine l').calls)
    (hkeys : ∀ u k, (duty' u).key? = some k → (duty u).key? = some k ∨ u = t ∧ k = (engine l).calls + 1 ∧ k ≤ (engine l').calls)
    (hkept : ∀ k closure, (engine l').sideEffects.lookup k = some closure ↔ ∃ t c, duty' t = .pending k c ∧ c.closure = closure) :
    Tidy duty' l' where
  conforms := hconforms
  kept := hkept
  own {u v k} hu hv := by
    rcases hkeys u k hu with hu | ⟨rfl, rfl, -⟩ <;> rcases hkeys v _ hv with hv | ⟨rfl, hk, -⟩
    · exact h.own hu hv
    · exact absurd (h.known hu) (by omega)
    · exact absurd (h.known hv) (by omega)
    · rfl
  known {u k} hu := by
    rcases hkeys u k hu with hu | ⟨-, -, hk⟩
    · exact (h.known hu).trans hcalls
    · exact hk
  lives := hlives _

/-- The closures stay as they are. -/
theorem Tidy.still (h : Tidy duty l) (hconforms : l'.Conforms protocol duty) (hlives : ∀ u, duty u ≠ .idle → l'.Lives u)
    (hclosures : (engine l').sideEffects = (engine l).sideEffects) (hcalls : (engine l).calls ≤ (engine l').calls) : Tidy duty l' :=
  h.of_keys (t := 0) hconforms hlives hcalls (fun _ _ => .inl) (hclosures ▸ h.kept)

theorem Tidy.lives_update (h : Tidy duty l) {d : Duty} (hlives : ∀ u, l.Lives u → l'.Lives u) (ht : l'.Lives t) (u : FutureId)
    (hu : Function.update duty t d u ≠ .idle) : l'.Lives u := by
  by_cases hut : u = t
  · exact hut ▸ ht
  · rw [Function.update_of_ne hut] at hu
    exact hlives u (h.lives hu)

/-- A task comes further with a side effect; its closure is not kept, neither before nor afterwards. -/
theorem Tidy.advances (h : Tidy duty l) {d : Duty} (hconforms : l'.Conforms protocol (Function.update duty t d))
    (hlives : ∀ u, Function.update duty t d u ≠ .idle → l'.Lives u)
    (hclosures : (engine l').sideEffects = (engine l).sideEffects) (hcalls : (engine l).calls ≤ (engine l').calls)
    (ht : ∀ k c, duty t ≠ .pending k c) (hd : ∀ k c, d ≠ .pending k c)
    (hkey : ∀ k, d.key? = some k → k = (engine l).calls + 1 ∧ k ≤ (engine l').calls) : Tidy (Function.update duty t d) l' := by
  refine h.of_keys (t := t) hconforms hlives hcalls (fun u k hu => ?_) fun k closure => ?_
  · by_cases hut : u = t
    · subst hut
      rw [Function.update_self] at hu
      exact .inr ⟨rfl, hkey k hu⟩
    · rw [Function.update_of_ne hut] at hu
      exact .inl hu
  · rw [hclosures, h.kept]
    refine exists_congr fun u => exists_congr fun c => and_congr_left' ?_
    by_cases hut : u = t
    · subst hut
      rw [Function.update_self]
      exact iff_of_false (ht k c) (hd k c)
    · rw [Function.update_of_ne hut]

/-- A closure is kept. -/
theorem Tidy.registers (h : Tidy duty l) (ht : duty t = .keyed k c) (hconforms : l'.Conforms protocol (Function.update duty t (.pending k c)))
    (hlives : ∀ u, Function.update duty t (.pending k c) u ≠ .idle → l'.Lives u)
    (hclosures : (engine l').sideEffects = (k, c.closure) :: (engine l).sideEffects) (hcalls : (engine l).calls ≤ (engine l').calls) :
    Tidy (Function.update duty t (.pending k c)) l' := by
  have hkey : (duty t).key? = some k := by
    rw [ht]
    rfl
  refine h.of_keys (t := t) hconforms hlives hcalls (fun u k' hu => .inl ?_) fun k' closure => ?_
  · by_cases hut : u = t
    · subst hut
      rw [Function.update_self] at hu
      exact hkey.trans hu
    · rwa [Function.update_of_ne hut] at hu
  · rw [hclosures, List.lookup_cons]
    by_cases hk : k' = k
    · subst hk
      rw [beq_self_eq_true]
      refine ⟨fun hc => ⟨t, c, Function.update_self .., Option.some.inj hc⟩, ?_⟩
      rintro ⟨u, c', hu, rfl⟩
      have hut : u = t := by
        by_contra hut
        rw [Function.update_of_ne hut] at hu
        exact hut (h.own (Duty.key?_of_pending hu) hkey)
      rw [hut, Function.update_self] at hu
      cases hu
      rfl
    · rw [beq_false_of_ne hk]
      refine (h.kept k' closure).trans (exists_congr fun u => exists_congr fun c' => and_congr_left' ?_)
      by_cases hut : u = t
      · subst hut
        rw [Function.update_self, ht]
        exact iff_of_false (fun h => nomatch h) fun h => hk (Duty.pending.inj h).1.symm
      · rw [Function.update_of_ne hut]

/-- A closure is forgotten. -/
theorem Tidy.releases (h : Tidy duty l) (ht : duty t = .pending k c) (hconforms : l'.Conforms protocol (Function.update duty t .idle))
    (hlives : ∀ u, Function.update duty t .idle u ≠ .idle → l'.Lives u)
    (hclosures : (engine l').sideEffects = without (engine l).sideEffects k) (hcalls : (engine l).calls ≤ (engine l').calls) :
    Tidy (Function.update duty t .idle) l' := by
  refine h.of_keys (t := t) hconforms hlives hcalls (fun u k' hu => .inl ?_) fun k' closure => ?_
  · by_cases hut : u = t
    · rw [hut, Function.update_self] at hu
      cases hu
    · rwa [Function.update_of_ne hut] at hu
  · rw [hclosures, without, Entries.lookup_filter]
    by_cases hk : k' = k
    · subst hk
      refine iff_of_false (fun h => ?_) ?_
      · rw [if_pos rfl] at h
        cases h
      · rintro ⟨u, c', hu, -⟩
        by_cases hut : u = t
        · rw [hut, Function.update_self] at hu
          cases hu
        · rw [Function.update_of_ne hut] at hu
          exact hut (h.unique hu ht)
    · rw [if_neg hk]
      refine (h.kept k' closure).trans (exists_congr fun u => exists_congr fun c' => and_congr_left' ?_)
      by_cases hut : u = t
      · subst hut
        rw [Function.update_self, ht]
        exact iff_of_false (fun h => hk (Duty.pending.inj h).1.symm) fun h => nomatch h
      · rw [Function.update_of_ne hut]

/-- **A step is an act**, and the closures that are kept stay those of the pending calls. -/
theorem Tidy.step (h : Tidy duty l) (hs : l.step = some l') :
    ∃ t a d, Does t l l' (duty t) a d ∧ Tidy (Function.update duty t d) l' ∧ (engine l').sideEffects = a.on (engine l).sideEffects := by
  rcases h.conforms.step hs with ⟨t, f, after, hf, hallows, rfl, hconforms⟩ | ⟨-, hworld, hconforms, -, -⟩
  · have hlives (d : Duty) : ∀ u, Function.update duty t d u ≠ .idle → (l.accessed t f).Lives u :=
      h.lives_update (fun u hu => hu.goesOn hf rfl id) (.inl ⟨_, rfl⟩)
    change Allows (duty t) f after at hallows
    refine ⟨t, ?_⟩
    generalize hd : duty t = d at hallows
    cases hallows with
    | still d hstill =>
      obtain ⟨-, hclosures, hcalls⟩ := hstill l.state
      refine ⟨.other, d, .other d, ?_, hclosures⟩
      have hlives' := hlives d
      rw [← hd, Function.update_eq_self] at hconforms hlives' ⊢
      exact h.still hconforms hlives' hclosures hcalls
    | calls ctx c hcall =>
      have hcalled : l.focus = some (t, sideEffect ctx c.closure c.next) := hf.trans (by rw [hcall])
      rw [sideEffect_eq] at hcall
      have hfun := Proc.access.inj hcall
      have hidle : ∀ k c, duty t ≠ .pending k c := by simp [hd]
      cases hcarry : Message.carry [] l.state.world.engine.inbound with
      | ok headers =>
        subst hfun
        dsimp only at hconforms
        rw [hcarry] at hconforms
        refine ⟨.calls c, .called c, .calls ctx c hcalled, h.advances hconforms (hlives _) rfl le_rfl hidle (by simp) ?_, rfl⟩
        intro k hk
        cases hk
      | error e =>
        have hend : (l.accessed t f).focus = some (t, c.next (.error e)) := by simp [accessed, ← hfun, hcarry]
        subst hfun
        dsimp only at hconforms
        rw [hcarry] at hconforms
        refine ⟨.refused c e, .idle, .refused ctx c e hcalled hend, h.advances hconforms (hlives _) rfl le_rfl hidle (by simp) ?_, rfl⟩
        intro k hk
        cases hk
    | takes c p =>
      refine ⟨_, _, .takes c, h.advances hconforms (hlives _) rfl (Nat.le_succ _) ?_ ?_ ?_, rfl⟩
      · simp [hd]
      · simp
      · intro k hk
        cases hk
        exact ⟨rfl, le_rfl⟩
    | registers k c p => exact ⟨_, _, .registers k c, h.registers hd hconforms (hlives _) rfl le_rfl, rfl⟩
    | releases k c r => exact ⟨_, _, .releases k c r rfl, h.releases hd hconforms (hlives _) rfl le_rfl, rfl⟩
  · have hclosures : (engine l').sideEffects = (engine l).sideEffects := congrArg (·.engine.sideEffects) hworld
    have hcalls : (engine l).calls ≤ (engine l').calls := (congrArg (·.engine.calls) hworld).ge
    refine ⟨0, .other, duty 0, .other _, ?_, ?_⟩
    · rw [Function.update_eq_self]
      refine h.still hconforms (fun u hu => ((h.lives hu).step hs).resolve_right ?_) hclosures hcalls
      rintro ⟨r, hf⟩
      obtain ⟨-, -, hfinish⟩ := h.conforms.running hf
      generalize duty u = d at hu hfinish
      cases hfinish
      exact hu rfl
    · exact hclosures

end Tidy

/-! ## News -/

/-- Something from outside: no task goes on, and the closures are not touched. -/
structure Outside (l l' : Stage) : Prop where
  focus : l'.focus = l.focus
  parked : l'.parked = l.parked
  futures : l.state.kernel.futures.size ≤ l'.state.kernel.futures.size
  sideEffects : (engine l').sideEffects = (engine l).sideEffects
  calls : (engine l').calls = (engine l).calls

namespace Outside

variable {l l' : Stage}

theorem refl (l : Stage) : Outside l l := ⟨rfl, rfl, le_rfl, rfl, rfl⟩

theorem modify {f : Execution → Execution} (hclosures : ∀ x, (f x).sideEffects = x.sideEffects) (hcalls : ∀ x, (f x).calls = x.calls) :
    Outside l (Activation.modify l f) := ⟨rfl, rfl, le_rfl, hclosures _, hcalls _⟩

/-- The engine takes note of something, and then the kernel does. -/
theorem noted {f : Execution → Execution} {g : Kernel → Kernel} (h : ∀ k, k.futures.size ≤ (g k).futures.size)
    (hclosures : ∀ x, (f x).sideEffects = x.sideEffects) (hcalls : ∀ x, (f x).calls = x.calls) :
    Outside l ((Activation.modify l f).withKernel g) := ⟨rfl, rfl, h _, hclosures _, hcalls _⟩

/-- A future that is decided, with a callback. -/
theorem size_decided_le (k : Kernel) (o : Outcome) (c : FutureId → FutureId × Callback) :
    k.futures.size ≤ ((k.decided o).1.addCallback (c (k.decided o).2).1 (c (k.decided o).2).2).futures.size :=
  (Nat.le_succ _).trans ((Kernel.size_addCallback ..).trans (Kernel.size_newFuture ..)).ge

theorem deliverCall {seq : Nat} {outcome : CallOutcome} (h : Activation.deliverCall l seq outcome = .ok l') : Outside l l' := by
  unfold Activation.deliverCall at h
  split at h
  · cases h
  · cases ho : outcome.decide activityFailure with
    | error e =>
      rw [ho] at h
      cases h
    | ok o =>
      rw [ho] at h
      dsimp only [bind, Except.bind, pure, Except.pure] at h
      split at h
      · obtain rfl := Except.ok.inj h
        split <;> split
        · exact noted (fun k => (k.size_resolve _ _).ge) (fun _ => rfl) fun _ => rfl
        · exact modify (fun _ => rfl) fun _ => rfl
        · exact noted (fun k => (k.size_resolve _ _).ge) (fun _ => rfl) fun _ => rfl
        · exact modify (fun _ => rfl) fun _ => rfl
      · obtain rfl := Except.ok.inj h
        exact noted (fun k => (k.size_resolve _ _).ge) (fun _ => rfl) fun _ => rfl

theorem settleStart (l : Stage) (seq : Nat) (run : ChildRun) (o : Outcome) : Outside l (Activation.settleStart l seq run o) :=
  noted (fun k => (k.size_resolve _ _).ge) (fun _ => rfl) fun _ => rfl

theorem deliverStart {seq : Nat} {outcome : StartOutcome} (h : Activation.deliverStart l seq outcome = .ok l') : Outside l l' := by
  unfold Activation.deliverStart at h
  split at h
  · cases h
  · split at h <;>
    · obtain rfl := Except.ok.inj h
      exact settleStart _ _ _ _

theorem deliverChild {seq : Nat} {outcome : CallOutcome} (h : Activation.deliverChild l seq outcome = .ok l') : Outside l l' := by
  unfold Activation.deliverChild at h
  split at h
  · cases h
  · cases ho : outcome.decide childFailure with
    | error e =>
      rw [ho] at h
      cases h
    | ok o =>
      rw [ho] at h
      obtain rfl := Except.ok.inj h
      exact noted (fun k => (k.size_resolve _ _).ge) (fun _ => rfl) fun _ => rfl

theorem fire (l : Stage) (seq : Nat) : Outside l (Activation.fire l seq) := by
  unfold Activation.fire
  split
  · exact refl _
  · exact noted (fun k => size_decided_le k _ fun due => (due, _)) (fun _ => rfl) fun _ => rfl

theorem deliverSignalled {seq : Nat} {failure : Option Fault} (h : Activation.deliverSignalled l seq failure = .ok l') : Outside l l' := by
  unfold Activation.deliverSignalled at h
  split at h
  · cases h
  · obtain rfl := Except.ok.inj h
    exact noted (fun k => (k.size_resolve _ _).ge) (fun _ => rfl) fun _ => rfl

theorem requestCancel (l : Stage) (main : FutureId) : Outside l (Activation.requestCancel l main) :=
  noted (fun k => size_decided_le k _ fun due => (due, _)) (fun _ => rfl) fun _ => rfl

end Outside

section Tidy

variable {duty : FutureId → Duty} {l l' : Stage}

theorem Tidy.outside (h : Tidy duty l) (ho : Outside l l') : Tidy duty l' := by
  refine h.still (h.conforms.goesOn ho.futures (fun t p hp => ?_) fun t next hn => .inl ?_) (fun t ht => ?_) ho.sideEffects ho.calls.ge
  · obtain ⟨hlt, hnone, hp⟩ := h.conforms.running (ho.focus.symm.trans hp)
    exact ⟨hlt.trans_le ho.futures, by rwa [next?, ho.parked], hp⟩
  · rwa [next?, ho.parked] at hn
  · rw [Lives, ho.focus, next?, ho.parked]
    exact h.lives ht

/-- A signal starts the task of its handler, or waits for one. -/
theorem Tidy.deliverSignal (h : Tidy duty l) {name : String} {args : List Data} (hl : Activation.deliverSignal l name args = .ok l') :
    Tidy duty l' ∧ (engine l').sideEffects = (engine l).sideEffects := by
  unfold Activation.deliverSignal at hl
  cases hargs : args.mapM WirePayload.carry with
  | error e =>
    rw [hargs] at hl
    cases hl
  | ok args =>
    rw [hargs] at hl
    dsimp only [bind, Except.bind] at hl
    split at hl
    · rename_i handler _
      obtain rfl := Except.ok.inj hl
      refine ⟨h.still (h.conforms.start false fun _ => obeys_signalTask handler args _ fun r _ => .finish r) (fun t ht => ?_) rfl le_rfl, rfl⟩
      exact (h.lives ht).imp id fun ht => isSome_next?_start ht _ _
    · obtain rfl := Except.ok.inj hl
      exact ⟨h.outside (.modify (fun _ => rfl) fun _ => rfl), rfl⟩

/-- **News leaves the closures alone**: outcomes of calls, executions of side effects, requests to cancel, signals and queries. -/
theorem Tidy.deliver (h : Tidy duty l) {main : FutureId} {query : Nat} {n : News} (hl : Activation.deliver main query l n = .ok l') :
    Tidy duty l' ∧ (engine l').sideEffects = (engine l).sideEffects := by
  have houtside (ho : Outside l l') : Tidy duty l' ∧ (engine l').sideEffects = (engine l).sideEffects := ⟨h.outside ho, ho.sideEffects⟩
  cases n with
  | activity seq outcome => exact houtside (.deliverCall hl)
  | sideEffect seq knowsKey => exact houtside (.deliverCall hl)
  | childStart seq outcome => exact houtside (.deliverStart hl)
  | child seq outcome => exact houtside (.deliverChild hl)
  | timer seq =>
    obtain rfl := Except.ok.inj hl
    exact houtside (.fire l seq)
  | signal name args => exact h.deliverSignal hl
  | signalled seq failure => exact houtside (.deliverSignalled hl)
  | query name args =>
    obtain rfl := Except.ok.inj hl
    exact houtside ⟨rfl, rfl, le_rfl, rfl, rfl⟩
  | cancel =>
    obtain rfl := Except.ok.inj hl
    exact houtside (.requestCancel l main)

end Tidy

/-! ## Moves -/

/-- A move of an execution: a step, news, or the beginning of an activation. -/
inductive Move (l l' : Stage) : Prop where
  | step (h : l.step = some l')
  | news (main : FutureId) (query : Nat) (n : News) (h : Activation.deliver main query l n = .ok l')
  | begins (clock : Int) (h : l' = Activation.modify l fun e => { e with clock := clock, commands := [] })

/-- **A move is an act.** -/
theorem Tidy.move {duty : FutureId → Duty} {l l' : Stage} (h : Tidy duty l) (hm : Move l l') :
    ∃ t a d, Does t l l' (duty t) a d ∧ Tidy (Function.update duty t d) l' ∧ (engine l').sideEffects = a.on (engine l).sideEffects := by
  have hstill (h' : Tidy duty l' ∧ (engine l').sideEffects = (engine l).sideEffects) : ∃ t a d, Does t l l' (duty t) a d ∧
      Tidy (Function.update duty t d) l' ∧ (engine l').sideEffects = a.on (engine l).sideEffects := by
    refine ⟨0, .other, duty 0, .other _, ?_, h'.2⟩
    rw [Function.update_eq_self]
    exact h'.1
  cases hm with
  | step hs => exact h.step hs
  | news main query n hn => exact hstill (h.deliver hn)
  | begins clock hl =>
    subst hl
    exact hstill ⟨h.outside (.modify (fun _ => rfl) fun _ => rfl), rfl⟩

/-- The stages that moves lead to. -/
def Moves : Stage → Stage → Prop := Relation.ReflTransGen Move

theorem moves_settle (l : Stage) : Moves l (Activation.settle l) :=
  Relation.ReflTransGen.mono (fun _ _ h => Move.step h) _ _ (steps_runWhile _ _ l)

theorem moves_deliverAll {main : FutureId} {query : Nat} {l l' : Stage} {news : List News} (h : deliverAll main query l news = .ok l') :
    Moves l l' := by
  induction news generalizing query l with
  | nil =>
    cases h
    exact .refl
  | cons n rest ih =>
    rw [deliverAll] at h
    cases hn : deliver main query l n with
    | error e =>
      rw [hn] at h
      cases h
    | ok l₁ =>
      rw [hn] at h
      exact .head (.news main query n hn) (ih h)

theorem moves_proceed (main : FutureId) (l : Stage) (groups : List (List News)) : Moves l (proceed main l groups).1 := by
  induction groups generalizing l with
  | nil => exact .refl
  | cons group rest ih =>
    rw [proceed]
    split
    · exact .refl
    · rename_i l₁ hl₁
      have hsettled : Moves l (Activation.settle l₁) := (moves_deliverAll hl₁).trans (moves_settle l₁)
      dsimp only
      split
      · exact hsettled
      · exact hsettled.trans (ih _)

/-- **An activation is a sequence of moves.** -/
theorem moves_activate (main : FutureId) (l : Stage) (clock : Int) (news : List News) : Moves l (activate main l clock news).1 := by
  unfold activate
  exact .head (.begins clock rfl) (moves_proceed main _ _)

/-! ## The beginning and the end of a call -/

/-- An execution that keeps no closures and whose tasks keep to the protocol. -/
structure Fresh (l : Stage) : Prop where
  conforms : l.Conforms protocol fun _ => .idle
  sideEffects : (engine l).sideEffects = []

/-- An execution that has not done anything yet. -/
def opening (state : State) (function : Play Data) : Stage := (({ state := state } : Stage).start false fun _ => Entry.main function .finish).1

theorem fresh_opening {state : State} {function : Play Data} (h : Flow.Obeys protocol function) (hclosures : state.world.engine.sideEffects = []) :
    Fresh (opening state function) where
  conforms := (Conforms.empty state).start false fun _ => obeys_main h _ fun r _ => .finish r
  sideEffects := hclosures

end Execution

/-! ## Trials -/

theorem PluginSet.plugins_of_extend {ε : Type} {s s' : PluginSet ε} {entries : List (String × Plugin ε)} (h : s.extend entries = .ok s') :
    s'.plugins = s.plugins ++ entries.map (·.2) := by
  induction entries generalizing s with
  | nil =>
    cases h
    simp
  | cons e entries ih =>
    obtain ⟨key, p⟩ := e
    rw [extend] at h
    cases hcheck : s.check key p with
    | error e =>
      rw [hcheck] at h
      cases h
    | ok u =>
      rw [hcheck] at h
      rw [ih h]
      simp

/-- **Whatever a worker runs begins without closures.** -/
theorem ExecutionTrial.fresh_start {t : ExecutionTrial} {l : Stage} {main : FutureId} (hp : ∀ p ∈ t.plugins, p.Obeys Execution.protocol)
    (h : t.start = .ok (l, main)) : Execution.Fresh l := by
  unfold start at h
  obtain ⟨plugins, hplugins, h⟩ := Script.Store.bind_ok_iff.mp h
  obtain ⟨registry, -, h⟩ := Script.Store.bind_ok_iff.mp h
  obtain ⟨registry', -, h⟩ := Script.Store.bind_ok_iff.mp h
  have hobey : plugins.Obey Execution.protocol := fun p hmem => hp p (by
    rw [PluginSet.plugins_of_extend hplugins] at hmem
    simpa using hmem)
  dsimp only at h
  split at h <;>
  · obtain ⟨function, -, h⟩ := Script.Store.bind_ok_iff.mp h
    obtain ⟨options, -, h⟩ := Script.Store.bind_ok_iff.mp h
    obtain ⟨args, -, h⟩ := Script.Store.bind_ok_iff.mp h
    obtain ⟨args', -, h⟩ := Script.Store.bind_ok_iff.mp h
    obtain rfl := congrArg Prod.fst (Except.ok.inj h)
    refine Execution.fresh_opening (.bind (.result _) fun inbound _ => ?_) rfl
    refine .bind (Execution.obeys_modifyEngine (fun _ => rfl) fun _ => le_rfl) fun _ _ => ?_
    exact Boundary.obeys_run Execution.tolerant _ (ScriptService.obeys_runFunction Execution.tolerant hobey Execution.obeys_programHost _ _ _)

end ScriptFlow
