import Mathlib
import ScriptFlow.Flow.Loop
import ScriptFlow.Script.Environment
import ScriptFlow.Service.Session

/-!
# Outcomes of calls

A function of a module gives its outcome at once, or lets the script wait for it. An error that it gives rises at the place of the call and passes functions under way
and scripts that are being loaded as it is.

* `Machine.run_raise_guarded` — it comes to the youngest guarded call; `Machine.run_raise_uncaught` — without one it ends the script.
* `Machine.advance_builtin` — a call of a function of a module asks the host, and goes on with what the host replies.
* `Suspension.resume` — how a script goes on with the outcome of a call.
* `Session.Takes` — what a session does with the reply of a function: a wait goes on as an outcome at once does, unless the outcome gets lost.
* `Suspension.lost` — the outcomes that get lost: values without a form in scripts, and what no script may catch.
* `Session.awaited_results_arrive_at_the_call` — **where a script meets the outcome of a call**, at once or after a wait.
-/

namespace ScriptFlow

namespace Script

/-- Does an error pass a frame as it is? -/
def Frame.passes : Frame → Bool
  | .call .. | .loading .. => true
  | _ => false

namespace Machine

variable {store : Store} {frames pre rest : List Frame} {v : Value}

/-- Is an error under way? -/
def Rises (v : Value) (p : Prog) : Prop := p = .raise v ∨ p = .unwind v

/-- An error leaves the topmost frame when nobody handles it. -/
theorem step_rises {p : Prog} (hp : Rises v p) (hh : handler? frames = none) :
    Machine.step ⟨store, p, frames⟩ = unwind store v frames := by
  rcases hp with rfl | rfl
  · simp only [step, hh]
  · rfl

/-- Where errors pass, there is no handler before the next guarded call. -/
theorem handler?_passing (hpre : ∀ x ∈ pre, x.passes = true) (hrest : handler? rest = none) : handler? (pre ++ rest) = none := by
  induction pre with
  | nil => exact hrest
  | cons x pre ih =>
    have htail : ∀ y ∈ pre, y.passes = true := fun y hy => hpre y (List.mem_cons_of_mem _ hy)
    have hx := hpre x List.mem_cons_self
    cases x with
    | call => exact ih htail
    | loading => rfl
    | guard => cases hx
    | closing => cases hx

/-- An error leaves a frame that it passes. -/
theorem unwind_passing {x : Frame} (hx : x.passes = true) (store : Store) (v : Value) (rest : List Frame) :
    ∃ loader p, Rises v p ∧ unwind store v (x :: rest) = .running ⟨{ store with loader := loader }, p, rest⟩ := by
  cases x with
  | call => exact ⟨store.loader, _, Or.inr rfl, rfl⟩
  | loading => exact ⟨_, _, Or.inl rfl, rfl⟩
  | guard => cases hx
  | closing => cases hx

/-- An error passes frames one by one. -/
theorem run_rises (store : Store) {p : Prog} (hp : Rises v p) (hpre : ∀ x ∈ pre, x.passes = true) (hrest : handler? rest = none) (fuel : Nat) :
    ∃ loader p', Rises v p' ∧
      Machine.run (pre.length + fuel) ⟨store, p, pre ++ rest⟩ = Machine.run fuel ⟨{ store with loader := loader }, p', rest⟩ := by
  induction pre generalizing store p with
  | nil => exact ⟨store.loader, p, hp, by simp⟩
  | cons x pre ih =>
    have htail : ∀ y ∈ pre, y.passes = true := fun y hy => hpre y (List.mem_cons_of_mem _ hy)
    obtain ⟨loader, p₁, hp₁, hu⟩ := unwind_passing (hpre x List.mem_cons_self) store v (pre ++ rest)
    have hstep : Machine.step ⟨store, p, x :: (pre ++ rest)⟩ = .running ⟨{ store with loader := loader }, p₁, pre ++ rest⟩ := by
      have hh : handler? (x :: (pre ++ rest)) = none := handler?_passing hpre hrest
      rw [step_rises hp hh, hu]
    obtain ⟨loader', p₂, hp₂, hrun⟩ := ih { store with loader := loader } hp₁ htail
    refine ⟨loader', p₂, hp₂, ?_⟩
    have hlen : (x :: pre).length + fuel = pre.length + fuel + 1 := by
      simp only [List.length_cons]
      omega
    rw [hlen, List.cons_append]
    simp only [run, hstep]
    exact hrun

/-- **A guarded call gets the error** as a value. -/
theorem run_raise_guarded (hpre : ∀ x ∈ pre, x.passes = true) (next : Except Value (List Value) → Prog) (fuel : Nat) :
    ∃ loader, Machine.run (pre.length + 1 + fuel) ⟨store, .raise v, pre ++ .guard none next :: rest⟩ =
      Machine.run fuel ⟨{ store with loader := loader }, next (.error v), rest⟩ := by
  have hraise : Rises v (.raise v) := Or.inl rfl
  have hguard : handler? (.guard none next :: rest) = none := rfl
  obtain ⟨loader, p, hp, hrun⟩ := run_rises store hraise hpre hguard (1 + fuel)
  refine ⟨loader, ?_⟩
  have hstep : Machine.step ⟨{ store with loader := loader }, p, .guard none next :: rest⟩ =
      .running ⟨{ store with loader := loader }, next (.error v), rest⟩ := by
    rw [step_rises hp rfl]
    rfl
  rw [Nat.add_assoc, hrun, Nat.add_comm 1 fuel]
  simp only [run, hstep]

/-- **Without a guarded call the error ends the script.** -/
theorem run_raise_uncaught (store : Store) (v : Value) (hf : ∀ x ∈ frames, x.passes = true) {fuel : Nat} (hfuel : frames.length < fuel) :
    ∃ loader, Machine.run fuel ⟨store, .raise v, frames⟩ = some (.failed { store with loader := loader } v) := by
  obtain ⟨n, rfl⟩ : ∃ n, fuel = frames.length + (n + 1) := ⟨fuel - frames.length - 1, by omega⟩
  have hraise : Rises v (.raise v) := Or.inl rfl
  have hnone : handler? [] = none := rfl
  obtain ⟨loader, p, hp, hrun⟩ := run_rises store hraise hf hnone (n + 1)
  refine ⟨loader, ?_⟩
  rw [List.append_nil] at hrun
  have hstep : Machine.step ⟨{ store with loader := loader }, p, []⟩ = .failed { store with loader := loader } v := by
    rw [step_rises hp rfl]
    rfl
  rw [hrun]
  simp only [run, hstep]

/-! ## Calls of functions of modules -/

/-- What a script does with the reply to a call: a value is the result, an error rises at the place of the call. -/
def afterReply : HostReply → Prog
  | .value v => .done [v]
  | .error v => .raise v
  | .builtin _ => .done [.nil]

/-- A call that waits for nothing else asks at once. -/
theorem answered_toProg (request : HostCall) : (Invocation.answered request).toProg = .host request afterReply := by
  have hnext : (fun r : HostReply => (match r with
      | .value v => (pure [v] : Act (List Value))
      | .error v => Act.raise v
      | .builtin _ => pure [.nil]) .done) = afterReply := by
    funext r
    cases r <;> rfl
  rw [← hnext]
  rfl

/-- A script that calls a function of a module, once no metamethod has a say in what the last argument is. -/
def callsBuiltin (store : Store) (frames : List Frame) (module : Nat) (name : String) (inv : Invocation) : Machine :=
  ⟨store, (inv.called module name).toProg, frames⟩

/-- In two steps the script comes to the question for its host. -/
theorem run_builtin (store : Store) (frames : List Frame) (module : Nat) (name : String) (inv : Invocation) (n : Nat) :
    Machine.run (n + 2) (callsBuiltin store frames module name inv) =
      some (.asking (.invoke module name (Invocation.splitOptions store inv.args).1 (Invocation.splitOptions store inv.args).2)
        ⟨store, frames, afterReply⟩) := by
  have hprog : (inv.called module name).toProg = .touch fun s =>
      (s, (Invocation.answered (.invoke module name (Invocation.splitOptions s inv.args).1 (Invocation.splitOptions s inv.args).2)).toProg) := rfl
  simp only [answered_toProg] at hprog
  rw [callsBuiltin, hprog]
  rfl

theorem advance_builtin (store : Store) (frames : List Frame) (module : Nat) (name : String) (inv : Invocation) :
    Environment.advance (callsBuiltin store frames module name inv) =
      .asking (.invoke module name (Invocation.splitOptions store inv.args).1 (Invocation.splitOptions store inv.args).2)
        ⟨store, frames, afterReply⟩ := by
  obtain ⟨n, hn⟩ : ∃ n, Environment.steps = n + 2 := ⟨2 ^ 62 - 2, rfl⟩
  rw [Environment.advance, hn, run_builtin]
  rfl

end Machine

/-- How a script goes on with the outcome of a call. -/
def Suspension.resume (s : Suspension) : Except Fault Data → Machine
  | .ok d => s.answer (.value d)
  | .error e => s.refuse e

/-- An error that rises is the value of the fault, whatever becomes of the script. -/
theorem Environment.uncaught_fault (store : Store) (n : Nat) (e : Fault) : Environment.uncaught store (.object n (.fault e)) = e := rfl

end Script

open Script

/-! ## Waiting for an outcome -/

/-- The error with which the outcome of a wait leaves the script, if it does not come to the script. -/
def Script.Suspension.lost (s : Suspension) : Except Fault Data → Option Fault
  | .ok d => match s.store.ofData d with
    | .ok _ => none
    | .error e => some e
  | .error e => if e.isOrdinary then none else some e

namespace Session

variable {ε : Type}

/-- What a session does with the reply of a function, and then with the outcome of a wait. -/
structure Takes (s : Session ε) (fuel : Nat) (waiting : Suspension) (cont : Except Fault Ending → Proc (World ε))
    (take : Except Fault (Reply ε) → Proc (World ε)) : Prop where
  now : ∀ d, take (.ok (.now d)) = s.drive fuel (waiting.resume (.ok d)) cont
  failed : ∀ e, take (.error e) = s.drive fuel (waiting.resume (.error e)) cont
  later : ∀ wait, waiting.canPause = true → ∃ rest, take (.ok (.later wait)) = wait rest ∧
    (∀ r, waiting.lost r = none → rest r = s.drive fuel (waiting.resume r) cont) ∧
    ∀ r e, waiting.lost r = some e → rest r = cont (.ok (waiting.store, .error e))

/-- What the outcome of a wait comes to. -/
def afterWait (s : Session ε) (fuel : Nat) (waiting : Suspension) : Except Fault Data → Play ε Ending
  | .ok d => match waiting.store.ofData d with
    | .ok (store, v) => s.drive fuel ({ waiting with store := store }.reply (.value v))
    | .error e => pure (waiting.store, .error e)
  | .error e => if e.isOrdinary then s.drive fuel (waiting.refuse e) else pure (waiting.store, .error e)

/-- What a reply comes to. -/
def afterInvoke (s : Session ε) (fuel : Nat) (waiting : Suspension) : Except Fault (Reply ε) → Play ε Ending
  | .error e => s.drive fuel (waiting.refuse e)
  | .ok (.now d) => s.drive fuel (waiting.answer (.value d))
  | .ok (.later wait) =>
    if waiting.canPause then do s.afterWait fuel waiting (← Flow.attempt wait) else s.drive fuel waiting.stuck

theorem drive_invoke {s : Session ε} {fuel : Nat} {m : Machine} {request : HostCall} {waiting : Suspension} {number : Nat} {function : String}
    {args : List Data} {options : List (String × Data)} (hm : Environment.advance m = .asking request waiting)
    (ha : waiting.ask request = .invoke number function args options) : s.drive (fuel + 1) m =
      (Flow.attempt (s.invoke number function args options) >>= s.afterInvoke fuel waiting) := by
  rw [drive]
  simp only [hm, ha]
  rfl

theorem afterWait_of_not_lost {s : Session ε} {fuel : Nat} {waiting : Suspension} {r : Except Fault Data} (h : waiting.lost r = none) :
    s.afterWait fuel waiting r = s.drive fuel (waiting.resume r) := by
  cases r with
  | ok d =>
    cases hd : waiting.store.ofData d with
    | ok sv => simp only [afterWait, Suspension.resume, Suspension.answer, hd]
    | error e => simp [Suspension.lost, hd] at h
  | error e =>
    have ho : e.isOrdinary = true := by simpa [Suspension.lost] using h
    simp only [afterWait, ho, if_true, Suspension.resume]

theorem afterWait_of_lost {s : Session ε} {fuel : Nat} {waiting : Suspension} {r : Except Fault Data} {e : Fault}
    (h : waiting.lost r = some e) : s.afterWait fuel waiting r = pure (waiting.store, .error e) := by
  cases r with
  | ok d =>
    cases hd : waiting.store.ofData d with
    | ok sv => simp [Suspension.lost, hd] at h
    | error e' =>
      simp only [Suspension.lost, hd, Option.some.injEq] at h
      simp only [afterWait, hd, h]
  | error e' =>
    have ho : e'.isOrdinary = false ∧ e' = e := by simpa [Suspension.lost] using h
    obtain ⟨ho, rfl⟩ := ho
    simp only [afterWait, ho, Bool.false_eq_true, if_false]

/-- **A session takes the outcome of a wait as it takes an outcome at once**, unless it gets lost. -/
theorem takes_afterInvoke (s : Session ε) (fuel : Nat) (waiting : Suspension) (cont : Except Fault Ending → Proc (World ε)) :
    s.Takes fuel waiting cont fun r => s.afterInvoke fuel waiting r cont where
  now _ := rfl
  failed _ := rfl
  later wait hw := by
    refine ⟨fun r => s.afterWait fuel waiting r cont, ?_, fun r hr => ?_, fun r e hr => ?_⟩
    · simp only [afterInvoke, hw, if_true]
      rfl
    · exact congrFun (afterWait_of_not_lost hr) cont
    · exact congrFun (afterWait_of_lost hr) cont

/-- **Where a script meets the outcome of a call.** A script that calls a function of a module asks for it once, and goes on once, at the place of the call: with
the value, or with an error that rises there, comes to the youngest guarded call as it is, and without one ends the run as the same error. The
outcome of a wait is met as an outcome at once is, but for what gets lost: a value without a form in scripts, which at once is an error at the
place of the call, ends the run past every guarded call when it was waited for. -/
theorem awaited_results_arrive_at_the_call (s : Session ε) (fuel : Nat) (cont : Except Fault Ending → Proc (World ε)) (store : Store)
    (frames : List Frame) (number : Nat) (function : String) (inv : Invocation) :
    ∃ request waiting, Environment.advance (Machine.callsBuiltin store frames number function inv) = .asking request waiting ∧
      (∀ module name args options, waiting.ask request = .invoke module name args options → ∃ take,
        s.drive (fuel + 1) (Machine.callsBuiltin store frames number function inv) cont = s.invoke module name args options take ∧
          s.Takes fuel waiting cont take) ∧
      (∀ d store' v, store.ofData d = .ok (store', v) → waiting.resume (.ok d) = ⟨store', .done [v], frames⟩) ∧
      (∀ d e, store.ofData d = .error e → waiting.resume (.ok d) = waiting.resume (.error e) ∧ waiting.lost (.ok d) = some e) ∧
      (∀ e, ∃ store' v, waiting.resume (.error e) = ⟨store', .raise v, frames⟩ ∧
        (∀ pre next rest, frames = pre ++ .guard none next :: rest → (∀ x ∈ pre, x.passes = true) → ∀ n, ∃ loader,
          Machine.run (pre.length + 1 + n) (waiting.resume (.error e)) =
            Machine.run n ⟨{ store' with loader := loader }, next (.error v), rest⟩) ∧
        ((∀ x ∈ frames, x.passes = true) → frames.length < Environment.steps → ∃ store'',
          Environment.advance (waiting.resume (.error e)) = .failed store'' v ∧ Environment.uncaught store'' v = e)) := by
  have hm := Machine.advance_builtin store frames number function inv
  refine ⟨_, _, hm, ?_, ?_, ?_, ?_⟩
  · intro module name args options ha
    refine ⟨_, ?_, s.takes_afterInvoke fuel _ cont⟩
    rw [drive_invoke hm ha]
    rfl
  · intro d store' v hd
    simp only [Suspension.resume, Suspension.answer, hd]
    rfl
  · intro d e hd
    refine ⟨?_, ?_⟩
    · simp only [Suspension.resume, Suspension.answer, hd]
    · simp only [Suspension.lost, hd]
  · intro e
    refine ⟨(store.newObject (.fault e)).1, (store.newObject (.fault e)).2, rfl, ?_, ?_⟩
    · rintro pre next rest rfl hpre n
      exact Machine.run_raise_guarded hpre next n
    · intro hf hlen
      obtain ⟨loader, hrun⟩ := Machine.run_raise_uncaught (store.newObject (.fault e)).1
        (store.newObject (.fault e)).2 hf hlen
      refine ⟨{ (store.newObject (.fault e)).1 with loader := loader }, ?_, Environment.uncaught_fault _ store.objects e⟩
      have hresume : (Suspension.resume ⟨store, frames, Machine.afterReply⟩ (.error e)).run Environment.steps =
          some (.failed { (store.newObject (.fault e)).1 with loader := loader } (store.newObject (.fault e)).2) := hrun
      rw [Environment.advance, hresume]
      rfl

/-- A number that scripts have no form for. -/
def formless : Data := .int (2 ^ 63)

/-- A module whose functions give it, at once and after a wait. -/
def formlessModule : Module Unit :=
  { attributes := { builtins := [("now", fun _ _ _ => pure (.now formless)), ("later", fun _ _ _ => pure (.later (pure formless)))] } }

/-- Scripts that guard the two calls and tell whether they went well. -/
def guardingScripts : Sources :=
  [("/guarding.lua", "function atonce() return (pcall(tools.now)) end function awaited() return (pcall(tools.later)) end")]

/-- Runs one of the scripts. -/
def guarding (function : String) : Except Fault Data := do
  let s ← Session.create guardingScripts [("tools", formlessModule)] { name := "", context := { scope := 0 }, run := 0 }
  (Loop.runMain ({ engine := () } : World Unit) do
    let (s, _) ← s.load (.str "/guarding.lua")
    let (_, r) ← s.call (.str "/guarding.lua") (.str function) [] []
    Flow.ofExcept r).1

/-- What a run ended with: a truth value, or the name of an error. -/
def ending : Except Fault Data → String
  | .ok (.bool b) => toString b
  | .ok _ => ""
  | .error e => e.name

/-- A guarded call catches a value without a form that is there at once, and does not catch one that was waited for. -/
theorem awaited_formless_value_passes_guard : ending (guarding "atonce") = "false" ∧ ending (guarding "awaited") = "OverflowError" := by
  decide +kernel

end Session

end ScriptFlow
