import Mathlib
import ScriptFlow.Proofs.Durable.Waits
import ScriptFlow.Proofs.Loop.Calls
import ScriptFlow.Proofs.Loop.Yielding
import ScriptFlow.Simulation.Primitives

/-!
# Waiting primitives under cancelled scopes

A pause of the simulated engine takes one turn. It looks at its scope before and after; in between the task sleeps without a scope, so what ends the turn early is a
request to the task itself.

* `Simulator.Rests` — a pause that takes its turn: **it ends as its scope says, unless its task is asked to end**, as every task is that is linked to a
  scope which is cancelled.
* `Simulator.pauses_sleep` — the ends of a pause.
* `waits_under_cancelled_scopes` — **what every primitive that waits owes to its scope**, on both engines.
-/

namespace ScriptFlow

/-! ## Pauses of the simulated engine -/

namespace Simulator

open Kernel Loop

/-- The clock moves on at the end of a pause. -/
def advancing (wake : Int) (cont : Except Fault Unit → Proc (World Simulator)) : Proc (World Simulator) :=
  .access fun st => ({ st with world := { st.world with engine := { st.world.engine with clock := max st.world.engine.clock wake } } },
    cont (.ok ()))

/-- A pause after its turn. -/
def waking (ctx : Context) (wake : Int) (cont : Except Fault Unit → Proc (World Simulator)) : Except Fault Data → Proc (World Simulator)
  | .ok _ => .access fun st => (st, if st.kernel.scopes.isCancelled ctx.scope then cont (.error contextCancelled) else advancing wake cont)
  | .error e => cont (.error e)

/-- A pause before its turn. -/
def settingOut (ctx : Context) (seconds : Float) (cont : Except Fault Unit → Proc (World Simulator)) : Proc (World Simulator) :=
  .access fun st => (st, match wakeTime st.world.engine.clock seconds with
    | .ok wake => .turn (waking ctx wake cont)
    | .error e => cont (.error e))

theorem check_eq (ctx : Context) (m : Play Unit) (cont : Except Fault Unit → Proc (World Simulator)) : (ctx.check >>= fun _ => m) cont =
    .access fun st => (st, if st.kernel.scopes.isCancelled ctx.scope then cont (.error contextCancelled) else m cont) := by
  have hcheck : (ctx.check >>= fun _ => m : Play Unit) cont =
      (Flow.kernel >>= fun k => (Flow.ofExcept (k.scopes.check ctx.scope) : Play Unit) >>= fun _ => m) cont := rfl
  rw [hcheck, kernel_bind]
  simp only [check_bind]

theorem waking_eq (ctx : Context) (wake : Int) (cont : Except Fault Unit → Proc (World Simulator)) :
    (do
      Flow.turn
      ctx.check
      Play.modifyEngine fun e => { e with clock := max e.clock wake } : Play Unit) cont = .turn (waking ctx wake cont) := by
  have hturn : ∀ m : Play Unit, (Flow.turn >>= fun _ => m : Play Unit) cont = .turn fun
      | .ok _ => m cont
      | .error e => cont (.error e) := fun _ => rfl
  rw [hturn]
  congr 1
  funext r
  cases r with
  | ok d => exact check_eq ctx _ cont
  | error e => rfl

theorem settingOut_eq (ctx : Context) (seconds : Float) (cont : Except Fault Unit → Proc (World Simulator)) :
    (do
      let wake ← Flow.ofExcept (wakeTime (← Play.engine).clock seconds)
      Flow.turn
      ctx.check
      Play.modifyEngine fun e => { e with clock := max e.clock wake } : Play Unit) cont = settingOut ctx seconds cont := by
  rw [engine_bind, settingOut]
  congr 1
  funext st
  rw [ofExcept_bind]
  simp only [waking_eq]
  cases wakeTime st.world.engine.clock seconds <;> rfl

theorem sleep_of_error (ctx : Context) {duration : Data} {e : Fault} (h : checkedSeconds duration = .error e)
    (cont : Except Fault Unit → Proc (World Simulator)) : sleep ctx duration cont = cont (.error e) := by
  unfold sleep
  rw [ofExcept_bind, h]

theorem sleep_eq (ctx : Context) {duration : Data} {seconds : Float} (h : checkedSeconds duration = .ok seconds)
    (cont : Except Fault Unit → Proc (World Simulator)) : sleep ctx duration cont =
      .access fun st => (st, if st.kernel.scopes.isCancelled ctx.scope then cont (.error contextCancelled) else settingOut ctx seconds cont) := by
  unfold sleep
  rw [ofExcept_bind, h]
  simp only [← settingOut_eq]
  exact check_eq ctx _ cont

/-! ## What a pause owes to its scope -/

/-- Where a pause may be that takes its turn. -/
inductive Pausing (l₀ : Loop (World Simulator)) (t : FutureId) (ctx : Context) (wake : Int) (cont : Except Fault Unit → Proc (World Simulator))
    (l : Loop (World Simulator)) : Prop where
  | begun {i} (hi : i < 3) (h : Proceeds l₀ i l)
  | napping (h : Napping t (l₀.state.kernel.cancelsOf t) (l₀.state.kernel.requested t) (waking ctx wake cont) l)
  | waking (h : l.focus = some (t, waking ctx wake cont (.ok .null)))
  | advancing (h : l.focus = some (t, advancing wake cont))

/-- What a pause ends with that took its turn between two kernels. -/
structure Rested (k₀ k : Kernel) (t : FutureId) (s : ScopeId) (b : Except Fault Unit) : Prop where
  /-- a request to the task ends it, and shows -/
  asked : AskedSince k₀ k t → b = .error (.taskCancelled "")
  cancelled : ¬ AskedSince k₀ k t → k.scopes.isCancelled s = true → b = .error contextCancelled
  kept : ¬ AskedSince k₀ k t → k.scopes.isCancelled s = false → b = .ok ()

/-- A pause that takes its turn. -/
structure Rests (R : Rules) (l : Loop (World Simulator)) (t : FutureId) (ctx : Context) (wake : Int)
    (cont : Except Fault Unit → Proc (World Simulator)) : Prop where
  begun : ∃ l₁, Proceeds l 2 l₁ ∧ l₁.focus = some (t, .turn (waking ctx wake cont))
  ends : ∀ log l', Run R l log l' → Pausing l t ctx wake cont l' ∨ ∃ log₁ log₂ l₁ b, Run R l log₁ l₁ ∧ l₁.focus = some (t, cont b) ∧
    Rested l.state.kernel l₁.state.kernel t ctx.scope b ∧ Run R l₁ log₂ l'
  /-- every scope that is cancelled meanwhile asks the tasks that are linked to it -/
  linked : ∀ log l' c e, Run R l log l' →
    Napping t (l.state.kernel.cancelsOf t) (l.state.kernel.requested t) (waking ctx wake cont) l' → l'.state.kernel.outcome? t = none →
      t ∈ (l'.state.kernel.scopes.scope e).callbacks → l'.state.kernel.scopes.isCancelled e = false →
        (l'.state.kernel.cancelScope c).scopes.isCancelled e = true → AskedSince l.state.kernel (l'.state.kernel.cancelScope c) t
  /-- a pause does not go on for ever -/
  woken : ∀ log l₁ n l', Run R l log l₁ →
    Napping t (l.state.kernel.cancelsOf t) (l.state.kernel.requested t) (waking ctx wake cont) l₁ → Takes R l₁ n l' →
      l₁.state.kernel.ready.length ≤ n → ∃ log₁ log₂ l₂ l₃ l₄ i b, Run R l₁ log₁ l₂ ∧ Roused t (waking ctx wake cont) l₂ l₃ ∧ i ≤ 2 ∧
        Proceeds l₃ i l₄ ∧ l₄.focus = some (t, cont b) ∧ Run R l₃ log₂ l'

section Rests

variable {R : Rules} {l l' l₁ : Loop (World Simulator)} {log : List OwnerCall} {t : FutureId} {ctx : Context} {wake : Int}
  {cont : Except Fault Unit → Proc (World Simulator)}

/-- A task whose turn is over, and that was not asked to end. -/
theorem run_waking {l₀ : Loop (World Simulator)} (hr : Run R l log l') (hf : l.focus = some (t, waking ctx wake cont (.ok .null)))
    (ha : ¬ AskedSince l₀.state.kernel l.state.kernel t) : Pausing l₀ t ctx wake cont l' ∨
    ∃ log₁ log₂ l₁ b, Run R l log₁ l₁ ∧ l₁.focus = some (t, cont b) ∧ Rested l₀.state.kernel l₁.state.kernel t ctx.scope b ∧
      Run R l₁ log₂ l' := by
  rcases hr.access hf with rfl | ⟨log₁, log₂, hr₁, hr₂⟩
  · exact Or.inl (.waking hf)
  cases hc : l.state.kernel.scopes.isCancelled ctx.scope with
  | true =>
    have hrested : Rested l₀.state.kernel l.state.kernel t ctx.scope (.error contextCancelled) :=
      ⟨fun h => absurd h ha, fun _ _ => rfl, fun _ hn => absurd (hc.symm.trans hn) (by simp)⟩
    exact Or.inr ⟨log₁, log₂, _, _, hr₁, focus_of_cancelled hc, hrested, hr₂⟩
  | false =>
    have hrested : Rested l₀.state.kernel l.state.kernel t ctx.scope (.ok ()) :=
      ⟨fun h => absurd h ha, fun _ hn => absurd (hc.symm.trans hn) (by simp), fun _ _ => rfl⟩
    rcases hr₂.access (focus_of_not_cancelled hc) with rfl | ⟨log₃, log₄, hr₃, hr₄⟩
    · exact Or.inl (.advancing (focus_of_not_cancelled hc))
    · exact Or.inr ⟨_, _, _, .ok (), hr₁.trans hr₃, rfl, hrested, hr₄⟩

theorem proceeds_waking (hf : l.focus = some (t, waking ctx wake cont (.ok .null))) :
    ∃ i l₁ b, i ≤ 2 ∧ Proceeds l i l₁ ∧ l₁.focus = some (t, cont b) := by
  cases hc : l.state.kernel.scopes.isCancelled ctx.scope with
  | true => exact ⟨1, _, .error contextCancelled, by decide, .access hf (.refl _), focus_of_cancelled hc⟩
  | false => exact ⟨2, _, .ok (), le_refl _, .access hf (.access (focus_of_not_cancelled hc) (.refl _)), rfl⟩

/-- **A pause that takes its turn** ends as its scope says, unless its task is asked to end. -/
theorem rests (hl : Reachable R log l) {p : Proc (World Simulator)} (hf : l.focus = some (t, p)) (hsteps : Proceeds l 2 l₁)
    (hk : l₁.state.kernel = l.state.kernel) (hf₁ : l₁.focus = some (t, .turn (waking ctx wake cont))) : Rests R l t ctx wake cont where
  begun := ⟨l₁, hsteps, hf₁⟩
  ends log' l' hr := by
    have hal : l₁.state.kernel.Alert t (l.state.kernel.cancelsOf t) (l.state.kernel.requested t) := hk ▸ hl.alert hf
    rcases hr.proceeds hsteps with ⟨i, hi, hp⟩ | ⟨log₁, log₂, hr₁, hr₂⟩
    · exact Or.inl (.begun (Nat.lt_succ_of_lt hi) hp)
    rcases hr₂.turn (hr₁.sound hl.sound) hf₁ hal with rfl | hn | ⟨log₃, log₄, l₂, r, hr₃, hf₂, hr₄, ⟨rfl, ha⟩ | ⟨rfl, ha⟩⟩
    · exact Or.inl (.begun (by decide) hsteps)
    · exact Or.inl (.napping hn)
    · have hrested : Rested l.state.kernel l₂.state.kernel t ctx.scope (.error (.taskCancelled "")) :=
        ⟨fun _ => rfl, fun h => absurd ha h, fun h => absurd ha h⟩
      exact Or.inr ⟨_, _, l₂, _, hr₁.trans hr₃, hf₂, hrested, hr₄⟩
    · rcases run_waking hr₄ hf₂ ha with hw | ⟨log₅, log₆, l₃, b, hr₅, hf₃, hrested, hr₆⟩
      · exact Or.inl hw
      · exact Or.inr ⟨_, _, l₃, b, (hr₁.trans hr₃).trans hr₅, hf₃, hrested, hr₆⟩
  linked log' l' c e _ hn ho hm hc hc' := Or.inr (hn.alert.linked ho hm hc hc').2
  woken log' l₂ n l' hr hn ht hlen := by
    obtain ⟨pre, post, hready⟩ := List.append_of_mem hn.due
    have hlt : pre.length < n := by
      rw [hready, List.length_append, List.length_cons] at hlen
      omega
    obtain ⟨log₁, log₂, l₃, l₄, hr₁, ⟨-, hn₃⟩, hroused, -, hr₂⟩ :=
      ht.woken (sleeps_napping R t _ _ _) ⟨hr.sound hl.sound, hn⟩ hready hlt
    obtain ⟨-, -, ⟨hf₄, -⟩ | ⟨hf₄, -⟩⟩ := hroused.told hn₃
    · exact ⟨log₁, log₂, l₃, l₄, l₄, 0, _, hr₁, hroused, Nat.zero_le _, .refl _, hf₄, hr₂⟩
    · obtain ⟨i, l₅, b, hi, hp, hf₅⟩ := proceeds_waking hf₄
      exact ⟨log₁, log₂, l₃, l₄, l₅, i, b, hr₁, hroused, hi, hp, hf₅, hr₂⟩

/-- The ends of a pause. -/
inductive Pauses (R : Rules) (l : Loop (World Simulator)) (t : FutureId) (ctx : Context) (duration : Data)
    (cont : Except Fault Unit → Proc (World Simulator)) : Prop where
  | refused {e} (hd : checkedSeconds duration = .error e) (h : l.focus = some (t, cont (.error e)))
  /-- the scope was cancelled when the pause began -/
  | cancelled (hc : l.state.kernel.scopes.isCancelled ctx.scope = true)
      (h : ∃ l₁, Proceeds l 1 l₁ ∧ l₁.focus = some (t, cont (.error contextCancelled)))
  /-- there is no such instant -/
  | beyond {seconds e} (hd : checkedSeconds duration = .ok seconds) (hc : l.state.kernel.scopes.isCancelled ctx.scope = false)
      (hw : wakeTime l.state.world.engine.clock seconds = .error e) (h : ∃ l₁, Proceeds l 2 l₁ ∧ l₁.focus = some (t, cont (.error e)))
  | rests {seconds wake} (hd : checkedSeconds duration = .ok seconds) (hc : l.state.kernel.scopes.isCancelled ctx.scope = false)
      (hw : wakeTime l.state.world.engine.clock seconds = .ok wake) (h : Rests R l t ctx wake cont)

theorem pauses_sleep {duration : Data} (hl : Reachable R log l) (hf : l.focus = some (t, sleep ctx duration cont)) :
    Pauses R l t ctx duration cont := by
  cases hd : checkedSeconds duration with
  | error e =>
    rw [sleep_of_error ctx hd] at hf
    exact .refused hd hf
  | ok seconds =>
    have hf₀ := hf
    rw [sleep_eq ctx hd] at hf
    cases hc : l.state.kernel.scopes.isCancelled ctx.scope with
    | true => exact .cancelled hc ⟨_, .access hf (.refl _), focus_of_cancelled hc⟩
    | false =>
      cases hw : wakeTime l.state.world.engine.clock seconds with
      | error e =>
        refine .beyond hd hc hw ⟨_, .access hf (.access (focus_of_not_cancelled hc) (.refl _)), ?_⟩
        simp [accessed, hw]
      | ok wake =>
        refine .rests hd hc hw (rests hl hf₀ (.access hf (.access (focus_of_not_cancelled hc) (.refl _))) rfl ?_)
        simp [accessed, hw]

end Rests

end Simulator

/-! ## Both engines -/

open Kernel Loop

/-- **Primitives that wait.** Reading a promise on either engine, and pauses and side effects of the durable engine, heed the scope of their context. A pause of
the simulated engine does so unless its task is asked to end; a side effect of the simulated engine does not wait, and does not look at the scope. -/
theorem waits_under_cancelled_scopes (lib : Library Simulator) (R : Rules) (t : FutureId) (ctx : Context) :
    (∀ (l : Loop (World Execution)) (p : Promise) (type : Option ResultType) (cont : Except Fault Data → Proc (World Execution)),
      Begins R l t ctx.scope 0 (Execution.primitives.get ctx p type cont) → p.source < l.state.kernel.futures.size →
        Heeds R l t ctx.scope p.source cont) ∧
    (∀ (l : Loop (World Simulator)) (p : Promise) (type : Option ResultType) (cont : Except Fault Data → Proc (World Simulator)),
      Begins R l t ctx.scope 0 ((Simulator.primitives lib).get ctx p type cont) → p.source < l.state.kernel.futures.size →
        Heeds R l t ctx.scope p.source cont) ∧
    (∀ (l : Loop (World Execution)) (duration : Data) (cont : Except Fault Unit → Proc (World Execution)),
      Begins R l t ctx.scope 1 (Execution.primitives.sleep ctx duration cont) →
        (∃ e, checkedSeconds duration = .error e ∧ l.focus = some (t, cont (.error e))) ∨
        Heeds R l t ctx.scope l.state.kernel.futures.size cont) ∧
    (∀ (l : Loop (World Execution)) (closure : Except Fault Data) (cont : Except Fault Data → Proc (World Execution)),
      Begins R l t ctx.scope 2 (Execution.primitives.sideEffect ctx closure cont) →
        (∃ e l₁, Message.carry [] l.state.world.engine.inbound = .error e ∧ Proceeds l 1 l₁ ∧ l₁.focus = some (t, cont (.error e))) ∨
        Heeds R l t ctx.scope (l.state.kernel.futures.size + 1) cont) ∧
    (∀ (log : List OwnerCall) (l : Loop (World Simulator)) (duration : Data) (cont : Except Fault Unit → Proc (World Simulator)),
      Reachable R log l → l.focus = some (t, (Simulator.primitives lib).sleep ctx duration cont) → Simulator.Pauses R l t ctx duration cont) ∧
    (∀ (r : Except Fault Data) (cont : Except Fault Data → Proc (World Simulator)),
      (Simulator.primitives lib).sideEffect ctx r cont = cont (do (← r).toPayload)) := by
  refine ⟨fun l p type cont hb hp => Execution.heeds_get hb hp, ?_, ?_, ?_, ?_, ?_⟩
  · exact fun l p type cont hb hp => heeds_await hb hp
  · intro l duration cont hb
    cases hd : checkedSeconds duration with
    | error e => exact Or.inl ⟨e, rfl, hb.focus.trans (congrArg (fun p => some (t, p)) (Execution.sleep_of_error hd cont))⟩
    | ok seconds => exact Or.inr (Execution.heeds_sleep hb hd)
  · intro l closure cont hb
    cases hm : Message.carry [] l.state.world.engine.inbound with
    | error e =>
      have hf := hb.focus.trans (congrArg (fun p => some (t, p)) (Execution.sideEffect_eq closure))
      exact Or.inl ⟨e, _, rfl, .access hf (.refl _), by simp [accessed, hm]⟩
    | ok headers => exact Or.inr (Execution.heeds_sideEffect hb hm)
  · exact fun log l duration cont hl hf => Simulator.pauses_sleep hl hf
  · exact fun _ _ => rfl

/-- A task of a durable execution is about to run a side effect. -/
def oneSideEffect : Loop (World Execution) :=
  entered { engine := { identity := {} } } fun _ => Execution.primitives.sideEffect { scope := 0 } (.ok (.int 7)) .finish

/-- A library of functions without plugins. -/
def oneLibrary : Library Simulator := Simulator.library {} 0

/-- A task of the simulated engine is about to pause. -/
def onePause : Loop (World Simulator) :=
  entered { engine := {} } fun _ => (Simulator.primitives oneLibrary).sleep { scope := 0 } (.int 5) fun _ => .finish (.ok .null)

/-- Nobody but the task knows its stand-in. -/
def oneSideEffectRules : Rules := { bars := fun a f => f = 3 ∧ a ≠ some 0, calls := fun _ => False }

theorem begins_oneSideEffect : Begins oneSideEffectRules oneSideEffect 0 0 2
    (Execution.primitives.sideEffect { scope := 0 } (.ok (.int 7)) .finish) where
  reachable := ⟨[], reachable_entered (fun _ h => by cases h.1) _ _⟩
  focus := rfl
  scope_lt := by decide
  hides := ⟨fun _ ha => ⟨rfl, ha⟩, id⟩

/-- The hypotheses hold of a side effect, and of a pause. -/
theorem waits_under_cancelled_scopes_of_oneSideEffect :
    Begins oneSideEffectRules oneSideEffect 0 0 2 (Execution.primitives.sideEffect { scope := 0 } (.ok (.int 7)) .finish) ∧
    Heeds oneSideEffectRules oneSideEffect 0 0 2 (.finish : Except Fault Data → Proc (World Execution)) ∧
    Reachable oneSideEffectRules [] onePause ∧
    Simulator.Pauses oneSideEffectRules onePause 0 { scope := 0 } (.int 5) fun _ => .finish (.ok .null) := by
  obtain ⟨-, -, -, hsideEffect, hpause, -⟩ := waits_under_cancelled_scopes oneLibrary oneSideEffectRules 0 { scope := 0 }
  have hreach : Reachable oneSideEffectRules [] onePause := reachable_entered (fun _ h => by cases h.1) _ _
  refine ⟨begins_oneSideEffect, ?_, hreach, hpause [] _ _ _ hreach rfl⟩
  refine (hsideEffect _ _ _ begins_oneSideEffect).resolve_left ?_
  rintro ⟨e, l₁, hcarry, -⟩
  cases hcarry

end ScriptFlow
