import Mathlib
import ScriptFlow.Durable.Primitives
import ScriptFlow.Proofs.Loop.Calls
import ScriptFlow.Proofs.Scope.Cancellation

/-!
# Waits of the durable engine

Reading a promise, pausing and running a side effect all end in a read under the scope of the context: a pause reads the task of its timer, a side
effect that of the worker's call. Both tasks are linked to the scope before the read begins.

* `Execution.heeds_get`, `Execution.heeds_sleep`, `Execution.heeds_sideEffect` — **each of them heeds the scope**.
-/

namespace ScriptFlow

open Kernel Loop

/-! ## Errors -/

/-- No translation makes or unmakes the cancellation of a task. -/
theorem Fault.eq_of_translated {e : Fault} {m : String} (h : e.translated = .taskCancelled m) : e = .taskCancelled m := by
  have hcause : ∀ c, Fault.translatedCause? c ≠ some (.taskCancelled m) := by
    intro c
    cases c <;> simp [translatedCause?, canceledWith]
  have hnone : e.translated? ≠ some (.taskCancelled m) := by
    unfold translated?
    split
    · exact hcause _
    · exact hcause _
    · simp [canceledWith]
    · simp
  unfold translated at h
  cases ht : e.translated? with
  | none => simpa [ht] using h
  | some e' =>
    rw [ht] at h hnone
    exact absurd (congrArg some h) hnone

namespace Execution

/-- Errors of the engine as a reader sees them. -/
def translating (p : Promise) : Except Fault Data → Except Fault Data
  | .ok d => .ok d
  | .error e => .error (if p.translates then e.translated else e)

theorem passes_translating (p : Promise) {a b : Except Fault Data} (h : Passes a b) : Passes a (translating p b) where
  cancelled ha := by
    rw [h.cancelled ha]
    cases hp : p.translates <;> simp [translating, hp, contextCancelled, Fault.translated, Fault.translated?]
  own m hb := by
    refine h.own m ?_
    cases b with
    | ok d => cases hb
    | error e =>
      have he : (if p.translates then e.translated else e) = .taskCancelled m := Except.error.inj hb
      split at he
      · rw [Fault.eq_of_translated he]
      · rw [he]

theorem passes_read (p : Promise) (type : Option ResultType) (a : Except Fault Data) :
    Passes a (translating p (a >>= fun d => d.decodeAs type)) :=
  passes_translating p (passes_decode type a)

theorem get_eq (ctx : Context) (p : Promise) (type : Option ResultType) (cont : Except Fault Data → Proc (World Execution)) :
    get ctx p type cont = Flow.awaitUnder ctx.scope p.source fun a => cont (translating p (a >>= fun d => d.decodeAs type)) := by
  have hget : get ctx p type cont = p.await ctx type fun r => (match r with
    | .ok d => return d
    | .error e => Flow.fail (if p.translates then e.translated else e) : Play Data) cont := rfl
  rw [hget, Promise.await_eq]
  congr 1
  funext a
  unfold Promise.decoding
  generalize (a >>= fun d => d.decodeAs type) = r
  cases r <;> rfl

end Execution

/-! ## Tasks that are linked to a scope -/

namespace Kernel

variable {k : Kernel} {s : ScopeId} {t : FutureId}

@[simp] theorem size_link (k : Kernel) (s : ScopeId) (f : FutureId) : (k.link s f).futures.size = k.futures.size := by
  have hon : (k.onCancel s f).futures.size = k.futures.size := by
    by_cases hc : k.scopes.isCancelled s = true
    · rw [k.onCancel_of_cancelled hc]
      exact (k.cancel_cancels f).size
    · rw [k.onCancel_of_not_cancelled (by simpa using hc)]
      rfl
  simp only [link]
  split
  · rw [size_addCallback, hon]
  · exact hon

@[simp] theorem isCancelled_link (k : Kernel) (s : ScopeId) (f : FutureId) (e : ScopeId) :
    (k.link s f).scopes.isCancelled e = k.scopes.isCancelled e := by
  rw [scopes_link, scopes_onCancel, Forest.isCancelled_on]

@[simp] theorem scopes_size_link (k : Kernel) (s : ScopeId) (f : FutureId) : (k.link s f).scopes.scopes.size = k.scopes.scopes.size := by
  rw [scopes_link, scopes_onCancel, Forest.size_on]

/-- Linking a task to a scope does not decide it. -/
theorem outcome?_link_of_task (ht : (k.task? t).isSome) : (k.link s t).outcome? t = k.outcome? t := by
  have hon : (k.onCancel s t).outcome? t = k.outcome? t := by
    by_cases hc : k.scopes.isCancelled s = true
    · rw [k.onCancel_of_cancelled hc]
      exact (k.cancel_cancels t).outcome?_of_task ht
    · rw [k.onCancel_of_not_cancelled (by simpa using hc)]
      rfl
  simp only [link]
  split
  · rw [outcome?_addCallback, hon]
  · exact hon

theorem future_newTask (k : Kernel) (watched : Bool) : (k.newTask watched).1.future k.futures.size = { task := some {}, watched := watched } := by
  rw [newTask_fst, future_queue, future_newFuture, if_pos rfl]

@[simp] theorem size_newTask (k : Kernel) (watched : Bool) : (k.newTask watched).1.futures.size = k.futures.size + 1 := by
  rw [newTask_fst, futures_queue, size_newFuture]

end Kernel

namespace Execution

variable {R : Rules} {l : Loop (World Execution)} {t : FutureId} {ctx : Context} {cont : Except Fault Data → Proc (World Execution)}

theorem heeds_get {p : Promise} {type : Option ResultType} (hb : Begins R l t ctx.scope 0 (get ctx p type cont))
    (hp : p.source < l.state.kernel.futures.size) : Heeds R l t ctx.scope p.source cont :=
  hb.heeds (.refl l) (hb.focus.trans (by rw [get_eq])) (fun l₂ _ h => ⟨l₂, .refl l₂, h, rfl⟩) (passes_read p type) rfl rfl rfl hp rfl

/-- A call that reads a task of its own, which it has linked to the scope. -/
theorem heeds_linked {α : Type} {cont : Except Fault α → Proc (World Execution)} {l₁ : Loop (World Execution)} {n after made : Nat}
    {s : ScopeId} {f : FutureId} {q : Except Fault Data → Proc (World Execution)} {p : Proc (World Execution)}
    {finish : Except Fault Data → Except Fault α} {k : Kernel} (hb : Begins R l t s made p)
    (hsteps : Proceeds l n l₁) (hf : l₁.focus = some (t, Flow.awaitUnder s f q))
    (hands : ∀ (l₂ : Loop (World Execution)) (a : Except Fault Data), l₂.focus = some (t, q a) →
      ∃ l₃, Proceeds l₂ after l₃ ∧ l₃.focus = some (t, cont (finish a)) ∧ l₃.state.kernel = l₂.state.kernel)
    (hpass : ∀ a, Passes a (finish a)) (hk : l₁.state.kernel = k.link s f) (hscopes : k.scopes = l.state.kernel.scopes)
    (hsize : k.futures.size = l.state.kernel.futures.size + made) (htask : (k.task? f).isSome) (hopen : k.outcome? f = none)
    (hnew : l.state.kernel.futures.size ≤ f) : Heeds R l t s f cont := by
  obtain ⟨task, ht⟩ := Option.isSome_iff_exists.mp htask
  refine hb.heeds hsteps hf hands hpass ?_ ?_ ?_ ?_ ?_
  · rw [hk, isCancelled_link, hscopes]
  · rw [hk, scopes_size_link, hscopes]
  · rw [hk, size_link, hsize]
  · rw [hk, size_link]
    exact lt_size_of_task _ ht
  · rw [hk, outcome?_link_of_task htask, hopen, Kernel.outcome?, future_of_size_le _ hnew]

/-! ## Pauses -/

theorem sleep_of_error {duration : Data} {e : Fault} (h : checkedSeconds duration = .error e)
    (cont : Except Fault Unit → Proc (World Execution)) : sleep ctx duration cont = cont (.error e) := by
  unfold sleep
  rw [ofExcept_bind, h]

theorem sleep_eq {duration : Data} {seconds : Float} (h : checkedSeconds duration = .ok seconds)
    (cont : Except Fault Unit → Proc (World Execution)) : sleep ctx duration cont =
      .spawn false (fun _ => pause seconds .finish) fun timer =>
        .access fun st => ({ st with kernel := st.kernel.link ctx.scope timer },
          get ctx { source := timer, translates := true } none fun r => cont (r.map fun _ => ())) := by
  have hget : ∀ timer, (discard (get ctx { source := timer, translates := true } none) : Play Unit) cont =
      get ctx { source := timer, translates := true } none fun r => cont (r.map fun _ => ()) := by
    intro timer
    have hmap : ∀ m : Play Data, (discard m : Play Unit) cont = m fun r => cont (r.map fun _ => ()) := by
      intro m
      have hbind : (discard m : Play Unit) = m >>= fun _ => pure () := rfl
      rw [hbind, bind_apply]
      congr 1
      funext r
      cases r <;> rfl
    exact hmap _
  unfold sleep
  rw [ofExcept_bind, h]
  simp only [← hget]
  rfl

/-- **A pause heeds its scope**, unless its duration is refused. -/
theorem heeds_sleep {duration : Data} {cont : Except Fault Unit → Proc (World Execution)}
    (hb : Begins R l t ctx.scope 1 (sleep ctx duration cont)) {seconds : Float} (h : checkedSeconds duration = .ok seconds) :
    Heeds R l t ctx.scope l.state.kernel.futures.size cont := by
  have hf := hb.focus
  rw [sleep_eq h] at hf
  refine heeds_linked (n := 2) (k := (l.state.kernel.newTask false).1)
    (q := fun a => cont ((translating { source := l.state.kernel.futures.size, translates := true }
      (a >>= fun d => d.decodeAs none)).map fun _ => ())) hb
    (.step hf (.access rfl (.refl _))) ?_ (fun l₂ _ h => ⟨l₂, .refl l₂, h, rfl⟩) (fun a => (passes_read _ none a).map _) rfl rfl
    (size_newTask _ _) ?_ ?_ (Nat.le_refl _)
  · simp only [accessed, get_eq]
  · simp [task?, future_newTask]
  · simp [outcome?, future_newTask]

/-! ## Side effects -/

/-- A side effect whose headers are known. -/
def requesting (ctx : Context) (closure : Except Fault Data) (headers : Message) : Play Data := do
  let (seq, call) ← newCall true
  Play.modifyEngine fun e => { e with sideEffects := (seq, closure) :: e.sideEffects }
  emit (.scheduleSideEffect { seq := seq, key := seq, headers := headers })
  expectOutcome seq call
  Flow.modifyKernel (·.link ctx.scope call.task)
  let r ← Flow.attempt (get ctx { source := call.task, translates := true } none)
  Play.modifyEngine fun e => { e with sideEffects := without e.sideEffects seq }
  Flow.ofExcept r

/-- The closure of a side effect is forgotten. -/
def forgetting (seq : Nat) (cont : Except Fault Data → Proc (World Execution)) (r : Except Fault Data) : Proc (World Execution) :=
  .access fun st => ({ st with world := { st.world with engine :=
    { st.world.engine with sideEffects := without st.world.engine.sideEffects seq } } }, cont r)

theorem sideEffect_eq (closure : Except Fault Data) : sideEffect ctx closure cont =
    .access fun st => (st, match Message.carry [] st.world.engine.inbound with
      | .ok headers => requesting ctx closure headers cont
      | .error e => cont (.error e)) := by
  have hbind : sideEffect ctx closure = (Play.engine : Play Execution) >>= fun e => headersOf e.inbound >>= requesting ctx closure := rfl
  rw [hbind, engine_bind]
  congr 1
  funext st
  rw [headersOf, ofExcept_bind]
  cases Message.carry [] st.world.engine.inbound <;> rfl

/-- The nodes of a side effect before it reads the task of the worker's call. -/
theorem requesting_eq (closure : Except Fault Data) (headers : Message) : requesting ctx closure headers cont =
    .access fun st => (modifyState st fun e => { e with calls := e.calls + 1 },
      .access fun st₁ => ({ st₁ with kernel := (st₁.kernel.newFuture {}).1 },
        .spawn true (fun _ => hold st₁.kernel.futures.size (emit (.cancelSideEffect (st.world.engine.calls + 1))) patience .finish) fun task =>
          .access fun st₂ => (modifyState st₂ fun e =>
              { e with callTasks := (task, { seq := st.world.engine.calls + 1, isSideEffect := true }) :: e.callTasks },
            .access fun st₃ => (modifyState st₃ fun e => { e with sideEffects := (st.world.engine.calls + 1, closure) :: e.sideEffects },
              .access fun st₄ => (addCommand st₄ (.scheduleSideEffect
                  { seq := st.world.engine.calls + 1, key := st.world.engine.calls + 1, headers := headers }),
                .access fun st₅ => (modifyState st₅ fun e => { e with pendingCalls :=
                    (st.world.engine.calls + 1, { task := task, outcome := st₁.kernel.futures.size }) :: e.pendingCalls },
                  .access fun st₆ => ({ st₆ with kernel := st₆.kernel.link ctx.scope task },
                    get ctx { source := task, translates := true } none (forgetting (st.world.engine.calls + 1) cont)))))))) := rfl

/-- The worker's call becomes a task, which is linked to the scope and then read. -/
theorem proceeds_requesting {closure : Except Fault Data} {headers : Message} (hf : l.focus = some (t, requesting ctx closure headers cont)) :
    ∃ l₁, Proceeds l 8 l₁ ∧ l₁.focus = some (t, get ctx { source := l.state.kernel.futures.size + 1, translates := true } none
        (forgetting (l.state.world.engine.calls + 1) cont)) ∧
      l₁.state.kernel = ({ ((l.state.kernel.newFuture {}).1.newTask true).1 with notices := [] } : Kernel).link ctx.scope
        (l.state.kernel.futures.size + 1) ∧
      l₁.state.world.engine.sideEffects = (l.state.world.engine.calls + 1, closure) :: l.state.world.engine.sideEffects := by
  rw [requesting_eq] at hf
  have hsize : (l.state.kernel.newFuture {}).1.futures.size = l.state.kernel.futures.size + 1 := size_newFuture _ _
  refine ⟨_, .access hf (.access rfl (.step rfl (.access rfl (.access rfl (.access rfl (.access rfl
    (.access rfl (.refl _)))))))), ?_, ?_, rfl⟩
  · rw [← hsize]
    rfl
  · rw [← hsize]
    rfl

/-- **A side effect heeds its scope**, if the headers of the execution can be carried on. -/
theorem heeds_sideEffect {closure : Except Fault Data} (hb : Begins R l t ctx.scope 2 (sideEffect ctx closure cont)) {headers : Message}
    (h : Message.carry [] l.state.world.engine.inbound = .ok headers) :
    Heeds R l t ctx.scope (l.state.kernel.futures.size + 1) cont := by
  have hf := hb.focus
  rw [sideEffect_eq] at hf
  have hf₁ : (l.accessed t fun st => (st, match Message.carry [] st.world.engine.inbound with
      | .ok headers => requesting ctx closure headers cont
      | .error e => cont (.error e))).focus = some (t, requesting ctx closure headers cont) := by
    simp only [accessed, h]
  obtain ⟨l₁, hsteps, hf₂, hk, -⟩ := proceeds_requesting hf₁
  have hsize : (l.state.kernel.newFuture {}).1.futures.size = l.state.kernel.futures.size + 1 := size_newFuture _ _
  have hread : l₁.focus = some (t, Flow.awaitUnder ctx.scope (l.state.kernel.futures.size + 1) fun a => forgetting (l.state.world.engine.calls + 1) cont
      (translating { source := l.state.kernel.futures.size + 1, translates := true } (a >>= fun d => d.decodeAs none))) :=
    hf₂.trans (by rw [get_eq]; rfl)
  refine heeds_linked (n := 9) hb (.access hf hsteps) hread (fun l₂ a h => ⟨_, .access h (.refl _), rfl, rfl⟩)
    (passes_read { source := l.state.kernel.futures.size + 1, translates := true } none) hk rfl ?_ ?_ ?_ (Nat.le_succ _)
  · change ((l.state.kernel.newFuture {}).1.newTask true).1.futures.size = _
    rw [size_newTask, hsize]
  · change (((l.state.kernel.newFuture {}).1.newTask true).1.future _).task.isSome
    rw [← hsize, future_newTask]
    rfl
  · change (((l.state.kernel.newFuture {}).1.newTask true).1.future _).outcome = none
    rw [← hsize, future_newTask]

end Execution

end ScriptFlow
