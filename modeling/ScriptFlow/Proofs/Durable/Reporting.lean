import Mathlib
import ScriptFlow.Proofs.Durable.Boundary

/-!
# What the boundary of a workflow function reports

* `Boundary.Reports` — what the engine hears of the end of a function; `Boundary.Sheltered` — what a request does to a boundary that waits.
* `Boundary.reports_function` — **the boundary reports how its function ended**, unless a request came to it in the very wait in which the function
  ended.
* `Boundary.late_request_replaces_result` — such a request replaces what the function gave.
-/

namespace ScriptFlow

namespace Boundary

open Kernel Loop

variable {ε : Type}

/-- What the engine hears of the end of a workflow function. -/
inductive Reports : Outcome → Except Fault Data → Prop where
  | value (d : Data) : Reports (.value d) (.ok d)
  | cancelled : Reports .cancelled (.error (.taskCancelled ""))
  | interrupted (m : String) : Reports (.error (.taskCancelled m)) (.error (.taskCancelled ""))
  | canceled (m : String) : Reports (.error (.error .canceled m)) (.error (.taskCancelled m))
  | custom (reason : String) (details : List Data) : Reports (.error (.custom reason details))
      (.error (.application (Fault.custom reason details).message (some reason) details true))
  | library {e : Fault} (h : e.isLibrary = true) (hc : ∀ m, e ≠ .error .canceled m) (hn : ∀ r ds, e ≠ .custom r ds) :
      Reports (.error e) (.error (.application e.message (some e.name) [] true))
  /-- any other error goes on as it is -/
  | other {e : Fault} (h : e.isLibrary = false) (hm : ∀ m, e ≠ .taskCancelled m) : Reports (.error e) (.error e)

/-- The errors of a function as the engine knows them. -/
def reporting (cont : Except Fault Data → Proc (World ε)) : Except Fault Data → Proc (World ε)
  | .ok d => cont (.ok d)
  | .error e => cont (.error e.failure)

/-- The wait of a boundary that a task is about to run. -/
def watch (k : Kernel) (t : FutureId) (scope : ScopeId) (cont : Except Fault Data → Proc (World ε)) : Watch ε :=
  { task := t, function := k.futures.size, scope := scope, rounds := patience, cont := reporting cont }

theorem run_eq (scope : ScopeId) (function : Play ε Data) (cont : Except Fault Data → Proc (World ε)) : run scope function cont =
    .spawn false (fun _ => function .finish) fun f => waitFor scope f patience (reporting cont) := by
  have hrun : run scope function cont = .spawn false (fun _ => function .finish) fun f => waitFor scope f patience fun r =>
      (match r with
        | .ok d => return d
        | .error e => Flow.fail e.failure : Play ε Data) cont := rfl
  rw [hrun]
  congr 1
  funext f
  congr 1
  funext r
  cases r <;> rfl

theorem Reports.of_error (e : Fault) : Reports (.error e) (.error e.failure) := by
  have hlibrary : (∀ m, e ≠ .error .canceled m) → (∀ r ds, e ≠ .custom r ds) → (∀ m, e ≠ .taskCancelled m) →
      Reports (.error e) (.error e.failure) := by
    intro hc hn hm
    cases h : e.isLibrary with
    | true =>
      have hf : e.failure = .application e.message (some e.name) [] true := by
        unfold Fault.failure
        split
        · exact absurd rfl (hn _ _)
        · exact absurd rfl (hc _)
        · exact absurd rfl (hm _)
        · rw [if_pos h]
      rw [hf]
      exact .library h hc hn
    | false =>
      have hf : e.failure = e := by
        unfold Fault.failure
        split
        · exact absurd rfl (hn _ _)
        · exact absurd rfl (hc _)
        · exact absurd rfl (hm _)
        · rw [if_neg (by simp [h])]
      rw [hf]
      exact .other h hm
  cases e with
  | custom reason details => exact .custom reason details
  | taskCancelled m => exact .interrupted m
  | error kind m =>
    by_cases hk : kind = .canceled
    · subst hk
      exact .canceled m
    · exact hlibrary (fun _ he => hk (Fault.error.inj he).1) (by simp) (by simp)
  | _ => exact hlibrary (by simp) (by simp) (by simp)

/-- The end of a function is reported. -/
theorem Reports.of_outcome (o : Outcome) (cont : Except Fault Data → Proc (World ε)) :
    ∃ a, Reports o a ∧ reporting cont o.result = cont a := by
  cases o with
  | value d => exact ⟨_, .value d, rfl⟩
  | cancelled => exact ⟨_, .cancelled, rfl⟩
  | error e => exact ⟨_, .of_error e, rfl⟩

/-- What requests do to a boundary that sleeps. -/
structure Sheltered (k : Kernel) (g : Get) : Prop where
  /-- a request does not reach the function -/
  spared : (k.cancel g.task).future g.source = k.future g.source
  /-- it ends the wait -/
  heard : k.outcome? g.task = none → k.outcome? g.waiter = none → (k.cancel g.task).outcome? g.waiter = some .cancelled
  /-- a boundary does not sleep for ever if its function ends -/
  rest : k.ready = [] → k.outcome? g.source = none

theorem sheltered_of_shields {k : Kernel} {g : Get} (h : k.Shields g) (hne : g.source ≠ g.task) : Sheltered k g where
  spared := h.future_cancel_task hne h.ne.symm
  heard ht ho := h.toStands.outcome?_cancel_task ht ho
  rest hr := (h.toStands.open_of_rest hr).2

section Run

variable {R : Rules} {b : Watch ε} {l l' : Loop (World ε)} {log : List OwnerCall} {t : FutureId} {scope : ScopeId} {function : Play ε Data}
  {cont : Except Fault Data → Proc (World ε)}

/-- A boundary that is told of a request while its function runs cancels the scope and waits again. -/
theorem winds_down {n : Nat} {m : String} (hr : Run R l log l') (hf : l.focus = some (b.task, b.hearing n (.error (.taskCancelled m))))
    (ho : l.state.kernel.outcome? b.function = none) : l'.state.kernel = l.state.kernel ∨ ∃ log₁ log₂ l₁, Run R l log₁ l₁ ∧
      Run R l₁ log₂ l' ∧ l₁.state.kernel = l.state.kernel.cancelScope b.scope ∧ l₁.focus = some (b.task, b.round n) := by
  have hd : l.state.kernel.isDone b.function = false := by rw [isDone_eq, ho]; rfl
  rcases hr.access hf with rfl | ⟨log₁, log₂, hr₁, hr₂⟩
  · exact Or.inl rfl
  · have hf₁ : (l.accessed b.task fun st => (st, if st.kernel.isDone b.function then b.cont (.error (.taskCancelled m))
        else b.winding n)).focus = some (b.task, b.winding n) := by
      simp only [accessed, hd, Bool.false_eq_true, if_false]
    rcases hr₂.access hf₁ with rfl | ⟨log₃, log₄, hr₃, hr₄⟩
    · exact Or.inl rfl
    · exact Or.inr ⟨_, _, _, hr₁.trans hr₃, hr₄, rfl, rfl⟩

/-- The function becomes a task, and the boundary begins to wait for it. -/
theorem begins (hm : Move R l log l') {next : FutureId → Proc (World ε)}
    (hf : l.focus = some (t, .spawn false (fun _ => function .finish) next)) :
    l'.focus = some (t, next l.state.kernel.futures.size) ∧
    l'.state.kernel.futures.size = l.state.kernel.futures.size + 1 ∧
    ∃ next', l'.next? l.state.kernel.futures.size = some next' ∧ next' (.ok .null) = function .finish := by
  have hl := hm.of_focus hf
  simp only [advance] at hl
  subst hl
  refine ⟨rfl, ?_, fun | .ok _ => function .finish | .error e => .finish (.error e), ?_, rfl⟩
  · have hnew : (l.state.kernel.newTask false).1.futures.size = l.state.kernel.futures.size + 1 := by simp [newTask_fst]
    exact hnew
  · have hpark := next?_park ({ l with state := { l.state with kernel := (l.state.kernel.newTask false).1 }, focus := none })
      l.state.kernel.futures.size (fun | .ok _ => function .finish | .error e => .finish (.error e)) l.state.kernel.futures.size
    rw [if_pos rfl] at hpark
    exact hpark

/-- The function becomes a task, and the boundary attends to it to its end. -/
theorem course_of_run (hl : Reachable R log l) (hf : l.focus = some (t, run scope function cont)) {log₁ : List OwnerCall}
    {l₁ : Loop (World ε)} (hm : Move R l log₁ l₁) (hb : b = watch l.state.kernel t scope cont) :
    (∃ next, l₁.next? b.function = some next ∧ next (.ok .null) = function .finish) ∧
    ∀ l', Course R b l₁ l' → Attending R b l₁ l' ∨ ∃ l₂, Course R b l₁ l₂ ∧ Ended R b l₁ l₂ ∧ Course R b l₂ l' := by
  rw [run_eq] at hf
  obtain ⟨hf₁, hsize, hnext⟩ := begins hm hf
  subst hb
  refine ⟨hnext, fun l' hc => hc.attending (hm.effect.sound hl.sound) (attending_start hf₁ (Nat.two_pow_pos 62)) fun l₂ hc₂ => ?_⟩
  obtain ⟨_, hr⟩ := hc₂.run
  exact Nat.lt_of_lt_of_le (hsize ▸ Nat.lt_succ_self _) hr.size_le

/-- **The boundary reports how its function ended.** In every run the boundary attends to its function or has ended once: as the function did, unless a
request came to it in the very wait in which the function ended. No request reaches the function; one that comes while it runs cancels the scope of
its context. -/
theorem reports_function (hl : Reachable R log l) (hf : l.focus = some (t, run scope function cont)) {log₁ : List OwnerCall}
    {l₁ : Loop (World ε)} (hm : Move R l log₁ l₁)
    (hb : b = watch l.state.kernel t scope cont) :
    (∃ next, l₁.next? b.function = some next ∧ next (.ok .null) = function .finish) ∧
    (∀ l', Course R b l₁ l' → Attending R b l₁ l' ∨ ∃ l₂ a, Course R b l₁ l₂ ∧ Course R b l₂ l' ∧ l₂.focus = some (t, cont a) ∧
      ((∃ o, l₂.state.kernel.outcome? b.function = some o ∧ Reports o a) ∨
        (a = .error (.taskCancelled "") ∧ l₂.state.kernel.isDone b.function = true ∧ ∃ l₃ n, Requested R b l₁ l₃ n l₂.state.kernel) ∨
        (a = .error (.error .runtime "cancelled too often") ∧
          patience + l₁.state.kernel.cancelsOf t ≤ l₂.state.kernel.cancelsOf t + 1))) ∧
    (∀ (l' : Loop (World ε)) (k : Kernel) (n : Nat), Suspended (fun k' => k'.Shields (b.get k)) (b.get k) (b.hearing n) l' →
      Sheltered l'.state.kernel (b.get k)) ∧
    (∀ l' l'' log' n m, Run R l' log' l'' → l'.focus = some (t, b.hearing n (.error (.taskCancelled m))) →
      l'.state.kernel.outcome? b.function = none → scope < l'.state.kernel.scopes.scopes.size →
        l''.state.kernel = l'.state.kernel ∨ ∃ log₁ log₂ l₃, Run R l' log₁ l₃ ∧ Run R l₃ log₂ l'' ∧
          l₃.state.kernel = l'.state.kernel.cancelScope scope ∧ l₃.state.kernel.scopes.isCancelled scope = true ∧
          l₃.focus = some (t, b.round n)) := by
  obtain ⟨hnext, hcourse⟩ := course_of_run hl hf hm hb
  obtain ⟨task, htask⟩ := Option.isSome_iff_exists.mp (hl.sound.focus _ _ hf).1
  have htlt : t < l.state.kernel.futures.size := lt_size_of_task _ htask
  subst hb
  refine ⟨hnext, fun l' hc => ?_, fun l' k n hw => ?_, fun l' l'' log' n m hr hf' ho hlt => ?_⟩
  · rcases hcourse l' hc with ha | ⟨l₂, hc₁, ⟨_, hf₂, he⟩, hc₂⟩
    · exact Or.inl ha
    · right
      cases he with
      | @own o ho =>
        obtain ⟨a', hrep, hcont⟩ := Reports.of_outcome o cont
        have hend : l₂.focus = some (t, reporting cont o.result) := hf₂
        exact ⟨l₂, a', hc₁, hc₂, hend.trans (by rw [hcont]), Or.inl ⟨o, ho, hrep⟩⟩
      | replaced hr hd => exact ⟨l₂, _, hc₁, hc₂, hf₂, Or.inr (Or.inl ⟨rfl, hd, _, _, hr⟩)⟩
      | exhausted hp => exact ⟨l₂, _, hc₁, hc₂, hf₂, Or.inr (Or.inr ⟨rfl, hp⟩)⟩
  · exact sheltered_of_shields hw.kernel htlt.ne'
  · rcases winds_down hr hf' ho with h | ⟨log₁, log₂, l₃, hr₁, hr₂, hk, hf₃⟩
    · exact Or.inl h
    · exact Or.inr ⟨log₁, log₂, l₃, hr₁, hr₂, hk, hk ▸ l'.state.kernel.isCancelled_cancelScope hlt, hf₃⟩

end Run

/-- A task runs the boundary of a function that ends at once. -/
def oneBoundary : Loop (World Unit) := begun fun _ => run 0 (return .int 7) .finish

/-- Nobody but the boundary knows its first stand-in. -/
def oneBoundaryRules : Rules := { bars := fun a f => f = 3 ∧ a ≠ some 1, calls := fun _ => False }

/-- The hypotheses hold of the loop with one boundary. -/
theorem reports_function_of_oneBoundary : ∃ l₁, Move oneBoundaryRules oneBoundary [] l₁ ∧
    ∀ l', Course oneBoundaryRules (watch oneBoundary.state.kernel 1 0 .finish) l₁ l' →
      Attending oneBoundaryRules (watch oneBoundary.state.kernel 1 0 .finish) l₁ l' ∨
      ∃ l₂ a, Course oneBoundaryRules (watch oneBoundary.state.kernel 1 0 .finish) l₁ l₂ ∧
        Course oneBoundaryRules (watch oneBoundary.state.kernel 1 0 .finish) l₂ l' ∧ l₂.focus = some (1, .finish a) ∧
        ((∃ o, l₂.state.kernel.outcome? 2 = some o ∧ Reports o a) ∨
          (a = .error (.taskCancelled "") ∧ l₂.state.kernel.isDone 2 = true ∧
            ∃ l₃ n, Requested oneBoundaryRules (watch oneBoundary.state.kernel 1 0 .finish) l₁ l₃ n l₂.state.kernel) ∨
          (a = .error (.error .runtime "cancelled too often") ∧
            patience + l₁.state.kernel.cancelsOf 1 ≤ l₂.state.kernel.cancelsOf 1 + 1)) := by
  have hf : oneBoundary.focus = some (1, run 0 (return .int 7) .finish) := rfl
  have hreach : Reachable oneBoundaryRules [] oneBoundary := by
    refine reachable_begun_of ?_ _
    rintro a f hf ⟨rfl, -⟩
    exact absurd hf (by decide)
  have hm : ∃ l₁, Move oneBoundaryRules oneBoundary [] l₁ := by
    refine ⟨_, .node hf ?_ rfl⟩
    rw [run_eq]
    exact .spawn _ _ _ fun a h => by cases h.1
  obtain ⟨l₁, hm⟩ := hm
  exact ⟨l₁, hm, (reports_function hreach hf hm rfl).2.1⟩

/-- A boundary is asked to end after so many turns; its function takes three turns, and gives 7. -/
def lateRequest (turns : Nat) : Play Unit Data := do
  let scope ← Flow.ofKernel (·.newScope)
  let boundary ← Flow.spawn (run scope do
    Flow.turns 3
    return .int 7)
  Flow.turns turns
  Flow.modifyKernel (·.cancel boundary)
  Flow.await boundary

/-- What a function comes to: a number, or the name of an error. -/
def heard : Except Fault Data → String
  | .ok (.int n) => toString n
  | .ok _ => ""
  | .error e => e.name

/-- A request that comes when the function has ended, and the boundary has not gone on yet, replaces what the function gave. -/
theorem late_request_replaces_result :
    heard (runMain ({ engine := () } : World Unit) (lateRequest 3)).1 = "7" ∧
    heard (runMain ({ engine := () } : World Unit) (lateRequest 5)).1 = "CancelledError" ∧
    heard (runMain ({ engine := () } : World Unit) (lateRequest 7)).1 = "7" := by
  decide +kernel

end Boundary

end ScriptFlow
