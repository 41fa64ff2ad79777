import Mathlib
import ScriptFlow.Durable.Primitives
import ScriptFlow.Plugin.Bundled
import ScriptFlow.Proofs.Durable.Reporting
import ScriptFlow.Service.ScriptService

/-!
# How failing scripts end their executions

An execution ends with a failure that the engine knows, or with a cancellation. Any other error is a fault of the worker: the engine tries again, and the execution
does not end.

* `Fault.endsExecution` — the errors that end an execution; `Fault.failure_endsExecution` — which errors the boundary turns into such.
* `ScriptService.PassesOn` — the script workflow ends with the error that its session ended with.
* `Script.Environment.uncaught_cases` — what becomes of an error that a script did not catch.
* `ScriptService.failing_scripts` — **which failing scripts end their executions**; `ScriptService.malformed_json_ends_nothing` — one that does not.
-/

namespace ScriptFlow

open Kernel Loop

namespace Fault

/-- Does an error end an execution? -/
def endsExecution : Fault → Bool
  | .taskCancelled _ => true
  | e => e.isEngineFailure

/-- **The boundary turns errors of the library into ends of executions**, and no others. -/
theorem failure_endsExecution (e : Fault) : e.failure.endsExecution = (e.isLibrary || e.endsExecution) := by
  cases e with
  | error kind m => cases kind <;> rfl
  | _ => rfl

theorem failure_of_plain {e : Fault} (hl : e.isLibrary = false) (he : e.endsExecution = false) : e.failure = e := by
  cases e with
  | custom => cases hl
  | taskCancelled => cases he
  | error kind m => cases kind <;> first | rfl | cases hl
  | _ => rfl

end Fault

namespace Boundary

/-- What becomes of the end of a function. -/
inductive Received : Outcome → Except Fault Data → Prop where
  | value (d : Data) : Received (.value d) (.ok d)
  | cancelled : Received .cancelled (.error (.taskCancelled ""))
  /-- an error of the library, or one that the engine knows, ends the execution -/
  | ended {e : Fault} (h : e.isLibrary = true ∨ e.endsExecution = true) (he : e.failure.endsExecution = true) :
      Received (.error e) (.error e.failure)
  /-- any other error goes on as it is, and does not end it -/
  | plain {e : Fault} (h : e.isLibrary = false) (he : e.endsExecution = false) : Received (.error e) (.error e)

theorem Received.of_outcome {ε : Type} (o : Outcome) (cont : Except Fault Data → Proc (World ε)) :
    ∃ a, Received o a ∧ reporting cont o.result = cont a := by
  cases o with
  | value d => exact ⟨_, .value d, rfl⟩
  | cancelled => exact ⟨_, .cancelled, rfl⟩
  | error e =>
    by_cases h : e.isLibrary = true ∨ e.endsExecution = true
    · refine ⟨_, .ended h ?_, rfl⟩
      rw [Fault.failure_endsExecution, Bool.or_eq_true]
      exact h
    · obtain ⟨hl, he⟩ : e.isLibrary = false ∧ e.endsExecution = false := by simpa using h
      exact ⟨_, .plain hl he, congrArg (fun e => cont (.error e)) (Fault.failure_of_plain hl he)⟩

end Boundary

namespace Script.Environment

theorem decode_error {bs : ByteArray} {e : Fault} (h : Utf8.decode bs = .error e) : ∃ m, e = .error .unicodeDecode m := by
  unfold Utf8.decode at h
  split at h
  · cases h
  · split at h
    · cases h
      exact ⟨_, rfl⟩
    · cases h
      exact ⟨_, rfl⟩

theorem tableText_error {s : Store} {v : Value} {e : Fault} (h : tableText s v = .error e) : ∃ m, e = .error .unicodeDecode m := by
  unfold tableText at h
  split at h
  · cases h
  · split at h
    · split at h
      · exact decode_error h
      · cases h
    · cases h

/-- **An error that a script did not catch** is the error of a function of a module, or an error of the library, or its text cannot be read. -/
theorem uncaught_cases (s : Store) (v : Value) : (∃ n e, v = .object n (.fault e) ∧ uncaught s v = e) ∨
    (uncaught s v).isLibrary = true ∨ ∃ m, uncaught s v = .error .unicodeDecode m := by
  have hatom : s.toData v = Store.atomOf v → (∀ f, v ≠ .function f) → (∀ t, v ≠ .table t) → ∀ e, s.toData v = .error e →
      ∃ m, e = .error .unicodeDecode m := by
    intro ha hf ht e he
    rw [ha] at he
    cases v with
    | str bs =>
      cases hd : Utf8.decode bs with
      | ok t => simp [Store.atomOf, hd, Except.map] at he
      | error e' =>
        simp only [Store.atomOf, hd, Except.map, Except.error.injEq] at he
        exact he ▸ decode_error hd
    | function f => exact absurd rfl (hf f)
    | table t => exact absurd rfl (ht t)
    | _ => cases he
  unfold uncaught
  split
  · rename_i n e
    exact Or.inl ⟨n, e, rfl, rfl⟩
  · right
    split
    · exact Or.inl rfl
    · rename_i e he
      exact Or.inr (tableText_error he)
  · exact Or.inr (Or.inl rfl)
  · right
    rename_i hobject htable hfunction
    split
    · exact Or.inl rfl
    · rename_i e he
      refine Or.inr (hatom ?_ hfunction htable e he)
      cases v <;> first | rfl | exact absurd rfl (htable _)

end Script.Environment

namespace ScriptService

variable {ε : Type}

/-- What comes before the session of a request. -/
def prepare (plugins : PluginSet ε) (w : Primitives ε) (ctx : Context) (request : Data) : Play ε (Session ε × ScriptRequest) := do
  let r ← Flow.ofExcept (ScriptRequest.ofData request)
  let identity ← w.identity ctx
  let environ ← Flow.ofExcept (ScriptRequest.entriesOf r.environ)
  let number ← Play.newRun
  let modules := plugins.createModules w identity environ number
  let thread : Thread := { name := identity.id ++ "/" ++ identity.runId, context := ctx, run := number }
  let sources ← Flow.ofExcept r.sourceTexts
  let session ← Flow.ofExcept (Session.create sources modules thread)
  w.log ctx .info ("Running " ++ r.place)
  return (session, r)

/-- What comes after it. -/
def closing (w : Primitives ε) (ctx : Context) (r : ScriptRequest) : Except Fault Data → Play ε Data
  | .ok d => do
    w.log ctx .info ("Finished " ++ r.place)
    return d
  | .error e => do
    if e.isOrdinary then w.log ctx .error ("Script " ++ r.place ++ " failed: " ++ e.logText)
    Flow.fail e

/-- A script workflow passes on the error of its preparation, and the end of its session after a line in the log. -/
def PassesOn (prepared : Play ε (Session ε × ScriptRequest)) (run : Play ε Data) (cont : Except Fault Data → Proc (World ε)) : Prop :=
  ∃ rest, run cont = prepared rest ∧ (∀ e, rest (.error e) = cont (.error e)) ∧
    ∀ s r, ∃ close, rest (.ok (s, r)) = runSession s r close ∧ ∀ x, close x = cont x ∨
      ∃ log : List LogLine → List LogLine, close x = .access fun st => ({ st with world := { st.world with log := log st.world.log } }, cont x)

theorem run_eq (plugins : PluginSet ε) (w : Primitives ε) (ctx : Context) (request : Data) (cont : Except Fault Data → Proc (World ε)) :
    run plugins w ctx request cont = prepare plugins w ctx request fun
      | .error e => cont (.error e)
      | .ok (s, r) => runSession s r fun x => closing w ctx r x cont := by
  have hrun : run plugins w ctx request = (do
      let (s, r) ← prepare plugins w ctx request
      closing w ctx r (← Flow.attempt (runSession s r))) := by
    funext k
    unfold run prepare
    rfl
  rw [hrun]
  rfl

theorem passesOn (plugins : PluginSet Execution) (ctx : Context) (request : Data)
    (cont : Except Fault Data → Proc (World Execution)) :
    PassesOn (prepare plugins Execution.primitives ctx request) (run plugins Execution.primitives ctx request) cont := by
  refine ⟨_, run_eq .., fun e => rfl, fun s r => ⟨fun x => closing Execution.primitives ctx r x cont, rfl, fun x => ?_⟩⟩
  cases x with
  | ok d => exact Or.inr ⟨_, rfl⟩
  | error e =>
    cases ho : e.isOrdinary with
    | true =>
      refine Or.inr ⟨fun log => ⟨.error, "Script " ++ r.place ++ " failed: " ++ e.logText⟩ :: log, ?_⟩
      simp only [closing, ho, if_true]
      rfl
    | false =>
      left
      simp only [closing, ho, Bool.false_eq_true, if_false]
      rfl

/-- **Which failing scripts end their executions.** A script workflow ends with the error that its session ended with. An error of the library comes out
as a failure or a cancellation, and so does one that the engine knows; any other error comes out as it is, and ends nothing. An error that a script did not
catch is of the library, unless a function of a module gave it or its text cannot be read. -/
theorem failing_scripts {R : Rules} {log log₁ : List OwnerCall} {l l₁ : Loop (World Execution)} {t : FutureId} {scope : ScopeId}
    {plugins : PluginSet Execution} {ctx : Context} {request : Data} {cont : Except Fault Data → Proc (World Execution)}
    {b : Boundary.Watch Execution} (hl : Reachable R log l)
    (hf : l.focus = some (t, Boundary.run scope (run plugins Execution.primitives ctx request) cont)) (hm : Move R l log₁ l₁)
    (hb : b = Boundary.watch l.state.kernel t scope cont) :
    (∃ next, l₁.next? b.function = some next ∧ next (.ok .null) = run plugins Execution.primitives ctx request .finish) ∧
    PassesOn (prepare plugins Execution.primitives ctx request) (run plugins Execution.primitives ctx request) .finish ∧
    (∀ l', Boundary.Course R b l₁ l' → Boundary.Attending R b l₁ l' ∨
      ∃ l₂ a, Boundary.Course R b l₁ l₂ ∧ Boundary.Course R b l₂ l' ∧ l₂.focus = some (t, cont a) ∧
        ((∃ o, l₂.state.kernel.outcome? b.function = some o ∧ Boundary.Received o a) ∨
          (a = .error (.taskCancelled "") ∧ ∃ l₃ n, Boundary.Requested R b l₁ l₃ n l₂.state.kernel) ∨
          (a = .error (.error .runtime "cancelled too often") ∧
            Boundary.patience + l₁.state.kernel.cancelsOf t ≤ l₂.state.kernel.cancelsOf t + 1))) ∧
    ∀ (s : Script.Store) (v : Script.Value), (∃ n e, v = .object n (.fault e) ∧ Script.Environment.uncaught s v = e) ∨
      (Script.Environment.uncaught s v).isLibrary = true ∨ ∃ m, Script.Environment.uncaught s v = .error .unicodeDecode m := by
  obtain ⟨hnext, hcourse⟩ := Boundary.course_of_run hl hf hm hb
  subst hb
  refine ⟨hnext, passesOn plugins ctx request .finish, fun l' hc => ?_, Script.Environment.uncaught_cases⟩
  rcases hcourse l' hc with ha | ⟨l₂, hc₁, ⟨_, hf₂, he⟩, hc₂⟩
  · exact Or.inl ha
  · right
    cases he with
    | @own o ho =>
      obtain ⟨a', hreceived, hcont⟩ := Boundary.Received.of_outcome o cont
      have hend : l₂.focus = some (t, Boundary.reporting cont o.result) := hf₂
      exact ⟨l₂, a', hc₁, hc₂, hend.trans (by rw [hcont]), Or.inl ⟨o, ho, hreceived⟩⟩
    | replaced hr hd => exact ⟨l₂, _, hc₁, hc₂, hf₂, Or.inr (Or.inl ⟨rfl, _, _, hr⟩)⟩
    | exhausted hp => exact ⟨l₂, _, hc₁, hc₂, hf₂, Or.inr (Or.inr ⟨rfl, hp⟩)⟩

/-- A request to call a function of a script. -/
def requestFor (script : String) : Data := .object
  [("path", .str "/main.lua"), ("function", .str "f"), ("sources", .dict [(.str "/main.lua", .str script)])]

/-- A world with an execution. -/
def oneExecution : World Execution := { engine := { identity := {} } }

/-- The script workflow behind its boundary. -/
def bounded (script : String) : Execution.Play Data :=
  Boundary.run 0 (run ⟨[JsonText.plugin]⟩ Execution.primitives { scope := 0 } (requestFor script))

/-- Nobody but the boundary knows its first stand-in. -/
def boundedRules : Rules := { bars := fun a f => f = 2 ∧ a ≠ some 0, calls := fun _ => False }

/-- A task runs a script that fails. -/
def oneScript : Loop (World Execution) := entered oneExecution fun _ => bounded "function f() error('no') end" .finish

/-- The hypotheses hold of a loop that runs a script. -/
theorem failing_scripts_of_oneScript : ∃ l₁, Move boundedRules oneScript [] l₁ ∧
    ∀ l', Boundary.Course boundedRules (Boundary.watch oneScript.state.kernel 0 0 .finish) l₁ l' →
      Boundary.Attending boundedRules (Boundary.watch oneScript.state.kernel 0 0 .finish) l₁ l' ∨
      ∃ l₂ a, Boundary.Course boundedRules (Boundary.watch oneScript.state.kernel 0 0 .finish) l₁ l₂ ∧
        Boundary.Course boundedRules (Boundary.watch oneScript.state.kernel 0 0 .finish) l₂ l' ∧ l₂.focus = some (0, .finish a) ∧
        ((∃ o, l₂.state.kernel.outcome? 1 = some o ∧ Boundary.Received o a) ∨
          (a = .error (.taskCancelled "") ∧
            ∃ l₃ n, Boundary.Requested boundedRules (Boundary.watch oneScript.state.kernel 0 0 .finish) l₁ l₃ n l₂.state.kernel) ∨
          (a = .error (.error .runtime "cancelled too often") ∧
            Boundary.patience + l₁.state.kernel.cancelsOf 0 ≤ l₂.state.kernel.cancelsOf 0 + 1)) := by
  have hreach : Reachable boundedRules [] oneScript := by
    refine reachable_entered ?_ _ _
    rintro a ⟨h, -⟩
    cases h
  have hf : oneScript.focus = some (0, bounded "function f() error('no') end" .finish) := rfl
  have hm : ∃ l₁, Move boundedRules oneScript [] l₁ := by
    refine ⟨_, .node hf ?_ rfl⟩
    rw [bounded, Boundary.run_eq]
    exact .spawn _ _ _ fun a h => by cases h.1
  obtain ⟨l₁, hm⟩ := hm
  exact ⟨l₁, hm, (failing_scripts hreach hf hm rfl).2.2.1⟩

/-- The error that a script ends with behind its boundary, and whether it ends the execution. -/
def endOf (script : String) : String × Bool :=
  match (runMain oneExecution (do discard (Flow.ofKernel (·.newScope)); bounded script)).1 with
  | .ok _ => ("", true)
  | .error e => (e.name, e.endsExecution)

/-- A script that fails by itself ends its execution; one that fails reading a text that is no JSON does not. -/
theorem malformed_json_ends_nothing :
    endOf "function f() error('no') end" = ("ApplicationError", true) ∧
    endOf "function f() return json.loads('\x7b') end" = ("JSONDecodeError", false) := by
  decide +kernel

end ScriptService

end ScriptFlow
