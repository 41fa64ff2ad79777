import Mathlib
import ScriptFlow.Proofs.Loop.Readers

/-!
# Calls under a scope

A call may do some work, read a future under a scope, and do some more work before it ends. What it owes to the scope it owes through the read.

* `Loop.Proceeds` — steps of the task under way, which nothing interrupts.
* `Loop.Heeding` — what a task that sleeps in a read owes to its scope; `Loop.Waiting.heeding` — every one does.
* `Loop.Call` — a call that reads; `Loop.Heeds` — what it owes; `Loop.Call.Made.heeds` — **every call that reads heeds its scope**.
-/

namespace ScriptFlow

theorem Data.decodeAs_ne_taskCancelled (d : Data) (type : Option ResultType) (m : String) : d.decodeAs type ≠ .error (.taskCancelled m) := by
  unfold decodeAs
  split
  · simp
  · split <;> simp
  · split <;> simp

namespace Kernel

variable {k k₀ : Kernel} {g : Get} {t f : FutureId} {s : ScopeId} {a : Except Fault Data} {m : String}

/-! ## Answers under a cancelled scope -/

/-- Under a cancelled scope no wait ends with the cancellation of a task. -/
theorem endOfWait_ne_taskCancelled (hs : k.scopes.isCancelled s = true) (r : Except Fault Data) :
    k.endOfWait s f r ≠ .error (.taskCancelled m) := by
  cases r with
  | ok d => simp [endOfWait]
  | error e =>
    by_cases he : ∃ m', e = .taskCancelled m'
    · obtain ⟨m', rfl⟩ := he
      rw [endOfWait_taskCancelled (Or.inl hs)]
      simp [contextCancelled]
    · intro h
      cases e <;> simp [endOfWait] at h
      exact he ⟨_, rfl⟩

theorem Answers.ne_taskCancelled (h : k.Answers g a) (hs : k.scopes.isCancelled g.scope = true) : a ≠ .error (.taskCancelled m) := by
  cases h with
  | own => exact endOfWait_ne_taskCancelled hs _
  | cancelled => simp [contextCancelled]
  | asked => exact endOfWait_ne_taskCancelled hs _

/-- A stand-in that was cancelled, under a scope that is. -/
theorem Answers.of_cancelled (h : k.Answers g a) (hs : k.scopes.isCancelled g.scope = true) (hw : k.outcome? g.waiter = some .cancelled) :
    a = .error contextCancelled := by
  cases h with
  | own _ hw' _ hc =>
    rw [hw] at hw'
    exact absurd (Option.some.inj hw').symm hc
  | cancelled => rfl
  | asked => exact endOfWait_taskCancelled (Or.inl hs) _

theorem ReadEnd.ne_taskCancelled (h : ReadEnd k₀ k t f s a) (hs : k.scopes.isCancelled s = true)
    (hf : k₀.outcome? f ≠ some (.error (.taskCancelled m))) : a ≠ .error (.taskCancelled m) := by
  cases h with
  | refused => simp [contextCancelled]
  | slept _ _ h => exact h.ne_taskCancelled hs
  | @known o hs₀ ho =>
    rw [endOfWait_of_open hs₀ ho]
    intro ha
    cases o with
    | value d => cases ha
    | cancelled => simp [Outcome.seen, contextCancelled] at ha
    | error e =>
      cases ha
      exact hf ho

end Kernel

namespace Loop

variable {σ α : Type}

open Kernel

/-! ## Steps of the task under way -/

/-- The loop after so many steps of the task under way. -/
inductive Proceeds : Loop σ → Nat → Loop σ → Prop where
  | refl (l : Loop σ) : Proceeds l 0 l
  | step {l l' : Loop σ} {t : FutureId} {p : Proc σ} {n : Nat} (hf : l.focus = some (t, p))
      (h : Proceeds (({ l with focus := none } : Loop σ).advance t p) n l') : Proceeds l (n + 1) l'

section Proceeds

variable {R : Rules} {l l' l₁ : Loop σ} {log : List OwnerCall} {t : FutureId} {n : Nat}

theorem Proceeds.access {F : LoopState σ → LoopState σ × Proc σ} (hf : l.focus = some (t, .access F))
    (h : Proceeds (l.accessed t F) n l') : Proceeds l (n + 1) l' :=
  .step hf h

theorem Proceeds.trans {l₂ : Loop σ} {m : Nat} (h : Proceeds l n l₁) (h' : Proceeds l₁ m l₂) : Proceeds l (m + n) l₂ := by
  induction h with
  | refl => exact h'
  | step hf _ ih => exact .step hf (ih h')

/-- A task under way takes its steps one after the other. -/
theorem Run.proceeds (hr : Run R l log l') (h : Proceeds l n l₁) :
    (∃ i < n, Proceeds l i l') ∨ ∃ log₁ log₂, Run R l log₁ l₁ ∧ Run R l₁ log₂ l' := by
  induction h generalizing log with
  | refl => exact Or.inr ⟨[], log, .refl, hr⟩
  | @step l l₁ t p n hf h ih =>
    rcases hr.head with rfl | ⟨log₁, log₂, l₂, hm, hr₂⟩
    · exact Or.inl ⟨0, Nat.succ_pos n, .refl _⟩
    · have hl := hm.of_focus hf
      subst hl
      rcases ih hr₂ with ⟨i, hi, hp⟩ | ⟨log₃, log₄, hr₃, hr₄⟩
      · exact Or.inl ⟨i + 1, Nat.succ_lt_succ hi, .step hf hp⟩
      · exact Or.inr ⟨_, _, (Run.single hm).trans hr₃, hr₄⟩

end Proceeds

/-! ## Reads that sleep -/

/-- What a task that sleeps in a read owes to the scope. -/
structure Heeding (R : Rules) (l : Loop σ) (g : Get) (cont : Except Fault Data → Proc σ) : Prop where
  /-- the cancellation of the scope reaches the stand-in, unless a result came first -/
  reached : ∀ c, l.state.kernel.outcome? g.waiter = none → (l.state.kernel.cancelScope c).scopes.isCancelled g.scope = true →
    (l.state.kernel.cancelScope c).outcome? g.waiter = some .cancelled
  /-- then the read ends with the cancellation of the context, even if the task itself is asked to end -/
  ends : l.state.kernel.scopes.isCancelled g.scope = true → ReadsTo R l g.task g.source g.scope cont fun _ a =>
    (∀ m, a ≠ .error (.taskCancelled m)) ∧ (l.state.kernel.outcome? g.waiter = some .cancelled → a = .error contextCancelled)
  /-- and it does: the task does not sleep on -/
  woken : l.state.kernel.scopes.isCancelled g.scope = true → ∀ n l', Takes R l n l' → l.state.kernel.ready.length ≤ n →
    ∃ log₁ log₂ l₁ l₂ l₃ a, Run R l log₁ l₁ ∧ Told g (fun r => Flow.leave g.scope g.source g.waiter r cont) l₁ l₂ ∧
      Proceeds l₂ 2 l₃ ∧ l₃.focus = some (g.task, cont a) ∧ Run R l₂ log₂ l'

section Heeding

variable {R : Rules} {l : Loop σ}

theorem proceeds_leave {t : FutureId} {s : ScopeId} {f w : FutureId} {r : Except Fault Data} {cont : Except Fault Data → Proc σ}
    (hf : l.focus = some (t, Flow.leave s f w r cont)) :
    ∃ l', Proceeds l 2 l' ∧ l'.focus = some (t, cont (l.state.kernel.endOfWait s f r)) :=
  ⟨_, .access hf (.access rfl (.refl _)), rfl⟩

/-- **Whoever sleeps in a read heeds the scope.** -/
theorem Waiting.heeding {g : Get} {cont : Except Fault Data → Proc σ}
    (h : Waiting g (fun r => Flow.leave g.scope g.source g.waiter r cont) l) (hs : Sound l) (hh : Hides R g.task g.waiter) :
    Heeding R l g cont where
  reached c ho hc := h.waits.cancelled_with_scope ho hc
  ends hc := (Waiting.reads h hs hh).mono fun log l₁ a hr ha =>
    have hc₁ := hr.ops.isCancelled_mono hc
    ⟨fun _ => ha.ne_taskCancelled hc₁, fun hw => ha.of_cancelled hc₁ (hr.outcome? hw)⟩
  woken hc n l' ht hn := by
    obtain ⟨log₁, log₂, l₁, l₂, hr₁, htold, hr₂⟩ := (Waiting.sleeper h hs hh).woken hc n l' ht hn
    obtain ⟨⟨o, -, hf⟩, -⟩ := htold.leaves
    obtain ⟨l₃, hp, hf₃⟩ := proceeds_leave hf
    exact ⟨log₁, log₂, l₁, l₂, l₃, _, hr₁, htold, hp, hf₃, hr₂⟩

end Heeding

/-! ## Calls that read -/

/-- A call that reads a future under a scope, after so many steps of its own and before so many. -/
structure Call (σ α : Type) where
  task : FutureId
  scope : ScopeId
  source : FutureId
  before : Nat
  after : Nat
  /-- what the call does with what it has read -/
  next : Except Fault Data → Proc σ
  /-- what comes after the call -/
  cont : Except Fault α → Proc σ

/-- What a call makes of an answer keeps the two cancellations apart. -/
structure Passes (a : Except Fault Data) (b : Except Fault α) : Prop where
  cancelled : a = .error contextCancelled → b = .error contextCancelled
  own : ∀ m, b = .error (.taskCancelled m) → a = .error (.taskCancelled m)

theorem Passes.map {β : Type} {a : Except Fault Data} {b : Except Fault α} (h : Passes a b) (f : α → β) : Passes a (b.map f) where
  cancelled ha := by
    rw [h.cancelled ha]
    rfl
  own m hb := by
    cases b with
    | ok x => cases hb
    | error e => exact h.own m (congrArg Except.error (Except.error.inj hb))

theorem passes_decode (type : Option ResultType) (a : Except Fault Data) : Passes a (a >>= fun d => d.decodeAs type) where
  cancelled := by
    rintro rfl
    rfl
  own m h := by
    cases a with
    | ok d => exact absurd h (d.decodeAs_ne_taskCancelled type m)
    | error e => exact h

namespace Call

variable (c : Call σ α)

/-- The call comes to its end with an answer. -/
def Hands (l : Loop σ) (a : Except Fault Data) : Prop := ∃ l' b, Proceeds l c.after l' ∧ l'.focus = some (c.task, c.cont b) ∧
  Passes a b ∧ l'.state.kernel = l.state.kernel

/-- The task is about to make the call, and comes to its read. -/
structure Made (l l₁ : Loop σ) : Prop where
  steps : Proceeds l c.before l₁
  reads : l₁.focus = some (c.task, Flow.awaitUnder c.scope c.source c.next)
  hands : ∀ l₂ a, l₂.focus = some (c.task, c.next a) → c.Hands l₂ a

/-- Where a call may be that is not over. -/
inductive Under (l₀ l : Loop σ) : Prop where
  | begun {i} (hi : i < c.before) (h : Proceeds l₀ i l)
  | reading (h : Reads c.task c.source c.scope c.next l)
  | ending {l₁ a i} (hf : l₁.focus = some (c.task, c.next a)) (hi : i < c.after) (h : Proceeds l₁ i l)

/-- What a call that has come to its read owes to the scope. -/
structure Heeds (R : Rules) (l l₁ : Loop σ) : Prop where
  made : c.Made l l₁
  /-- a call that begins under a cancelled scope ends in its own steps -/
  refused : l.state.kernel.scopes.isCancelled c.scope = true →
    ∃ l', Proceeds l (c.after + (1 + c.before)) l' ∧ l'.focus = some (c.task, c.cont (.error contextCancelled))
  /-- a call ends once; under a cancelled scope not with the cancellation of a task, unless the future had ended so before -/
  ends : ∀ log l', Run R l log l' → c.Under l l' ∨ ∃ log₁ log₂ l₂ b, Run R l log₁ l₂ ∧ l₂.focus = some (c.task, c.cont b) ∧ Run R l₂ log₂ l' ∧
    (l₂.state.kernel.scopes.isCancelled c.scope = true →
      ∀ m, b = .error (.taskCancelled m) → l.state.kernel.outcome? c.source = some (.error (.taskCancelled m)))
  asleep : ∀ log₁ log₂ l', Run R l log₁ l₁ → Run R l₁ log₂ l' → Waiting (l₁.state.kernel.newGet c.task c.source c.scope)
    (fun r => Flow.leave c.scope c.source l₁.state.kernel.futures.size r c.next) l' →
      Heeding R l' (l₁.state.kernel.newGet c.task c.source c.scope) c.next

end Call

/-- A call of a task under a scope heeds it: it reads a future, and does so as it should. -/
def Heeds (R : Rules) (l : Loop σ) (t : FutureId) (s : ScopeId) (f : FutureId) (cont : Except Fault α → Proc σ) : Prop :=
  ∃ (c : Call σ α) (l₁ : Loop σ), c.task = t ∧ c.scope = s ∧ c.source = f ∧ c.cont = cont ∧ c.Heeds R l l₁

/-- A task begins a call under a scope. It will make so many futures for others before its own stand-in, which nobody else knows. -/
structure Begins (R : Rules) (l : Loop σ) (t : FutureId) (s : ScopeId) (made : Nat) (p : Proc σ) : Prop where
  reachable : ∃ log, Reachable R log l
  focus : l.focus = some (t, p)
  scope_lt : s < l.state.kernel.scopes.scopes.size
  hides : Hides R t (l.state.kernel.futures.size + made)

theorem engine_bind {ε : Type} (f : ε → Play ε α) (cont : Except Fault α → Proc (World ε)) :
    ((Play.engine : Play ε ε) >>= f) cont = .access fun st => (st, f st.world.engine cont) := rfl

section Calls

variable {R : Rules} {l l' l₁ : Loop σ} {log : List OwnerCall} {c : Call σ α}

/-- A task has looked at a scope that is cancelled. -/
theorem focus_of_cancelled {t : FutureId} {s : ScopeId} {p q : Proc σ} (hc : l.state.kernel.scopes.isCancelled s = true) :
    (l.accessed t fun st => (st, if st.kernel.scopes.isCancelled s then p else q)).focus = some (t, p) := by
  simp [accessed, hc]

theorem focus_of_not_cancelled {t : FutureId} {s : ScopeId} {p q : Proc σ} (hc : l.state.kernel.scopes.isCancelled s = false) :
    (l.accessed t fun st => (st, if st.kernel.scopes.isCancelled s then p else q)).focus = some (t, q) := by
  simp [accessed, hc]

/-- A read under a cancelled scope does not begin. -/
theorem proceeds_refused {t : FutureId} {s : ScopeId} {f : FutureId} {cont : Except Fault Data → Proc σ}
    (hf : l.focus = some (t, Flow.awaitUnder s f cont)) (hc : l.state.kernel.scopes.isCancelled s = true) :
    ∃ l', Proceeds l 1 l' ∧ l'.focus = some (t, cont (.error contextCancelled)) := by
  rw [awaitUnder_eq] at hf
  exact ⟨_, .access hf (.refl _), focus_of_cancelled hc⟩

/-- **A call that reads heeds its scope.** -/
theorem Call.Made.heeds (hm : c.Made l l₁) (hs : Sound l)
    (hsame : l₁.state.kernel.scopes.isCancelled c.scope = l.state.kernel.scopes.isCancelled c.scope)
    (hout : l₁.state.kernel.outcome? c.source = l.state.kernel.outcome? c.source)
    (hlt : c.source < l₁.state.kernel.futures.size) (hslt : c.scope < l₁.state.kernel.scopes.scopes.size)
    (hh : Hides R c.task l₁.state.kernel.futures.size) : c.Heeds R l l₁ where
  made := hm
  refused hc := by
    obtain ⟨l₂, hp, hf⟩ := proceeds_refused hm.reads (hsame.trans hc)
    obtain ⟨l₃, b, hp', hf', hb, -⟩ := hm.hands l₂ _ hf
    exact ⟨l₃, (hm.steps.trans hp).trans hp', hf'.trans (by rw [hb.cancelled rfl])⟩
  ends log l' hr := by
    rcases hr.proceeds hm.steps with ⟨i, hi, hp⟩ | ⟨log₁, log₂, hr₁, hr₂⟩
    · exact Or.inl (.begun hi hp)
    rcases reads_awaitUnder (hr₁.sound hs) hm.reads hlt hslt hh log₂ l' hr₂ with hreads | ⟨log₃, log₄, l₂, a, hr₃, hf₂, hend, hr₄⟩
    · exact Or.inl (.reading hreads)
    obtain ⟨l₃, b, hp, hf₃, hb, hk⟩ := hm.hands l₂ a hf₂
    rcases hr₄.proceeds hp with ⟨i, hi, hp⟩ | ⟨log₅, log₆, hr₅, hr₆⟩
    · exact Or.inl (.ending hf₂ hi hp)
    refine Or.inr ⟨_, _, l₃, b, (hr₁.trans hr₃).trans hr₅, hf₃, hr₆, fun hc m hm => ?_⟩
    rw [← hout]
    by_contra hne
    rw [hk] at hc
    exact hend.ne_taskCancelled hc hne (hb.own m hm)
  asleep log₁ log₂ l' hr₁ hr₂ hw := Waiting.heeding hw (hr₂.sound (hr₁.sound hs)) hh

/-- A task that comes to a read, and hands on what it has read, heeds the scope of the read. -/
theorem Begins.heeds {t : FutureId} {s : ScopeId} {f : FutureId} {made n after : Nat} {p : Proc σ} {next : Except Fault Data → Proc σ}
    {cont : Except Fault α → Proc σ} {finish : Except Fault Data → Except Fault α} (hb : Begins R l t s made p)
    (hsteps : Proceeds l n l₁) (hf : l₁.focus = some (t, Flow.awaitUnder s f next))
    (hands : ∀ (l₂ : Loop σ) (a : Except Fault Data), l₂.focus = some (t, next a) →
      ∃ l₃, Proceeds l₂ after l₃ ∧ l₃.focus = some (t, cont (finish a)) ∧ l₃.state.kernel = l₂.state.kernel)
    (hpass : ∀ a, Passes a (finish a))
    (hsame : l₁.state.kernel.scopes.isCancelled s = l.state.kernel.scopes.isCancelled s)
    (hscopes : l₁.state.kernel.scopes.scopes.size = l.state.kernel.scopes.scopes.size)
    (hsize : l₁.state.kernel.futures.size = l.state.kernel.futures.size + made) (hlt : f < l₁.state.kernel.futures.size)
    (hout : l₁.state.kernel.outcome? f = l.state.kernel.outcome? f) : Heeds R l t s f cont := by
  obtain ⟨log, hl⟩ := hb.reachable
  let c : Call σ α := { task := t, scope := s, source := f, before := n, after := after, next := next, cont := cont }
  have hm : c.Made l l₁ := by
    refine ⟨hsteps, hf, fun l₂ a h => ?_⟩
    obtain ⟨l₃, hp, hf₃, hk⟩ := hands l₂ a h
    exact ⟨l₃, finish a, hp, hf₃, hpass a, hk⟩
  refine ⟨c, l₁, rfl, rfl, rfl, rfl, hm.heeds hl.sound hsame hout hlt ?_ ?_⟩
  · exact hscopes ▸ hb.scope_lt
  · exact hsize ▸ hb.hides

/-- **Reading a promise heeds the scope of the context.** -/
theorem heeds_await {ε : Type} {R : Rules} {l : Loop (World ε)} {t : FutureId} {ctx : Context} {p : Promise} {type : Option ResultType}
    {cont : Except Fault Data → Proc (World ε)} (hb : Begins R l t ctx.scope 0 (p.await ctx type cont))
    (hp : p.source < l.state.kernel.futures.size) : Heeds R l t ctx.scope p.source cont :=
  hb.heeds (.refl l) (hb.focus.trans (by rw [Promise.await_eq]; rfl)) (fun l₂ _ h => ⟨l₂, .refl l₂, h, rfl⟩) (passes_decode type) rfl rfl rfl hp rfl

end Calls

end Loop

end ScriptFlow
