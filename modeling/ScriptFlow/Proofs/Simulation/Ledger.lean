import Mathlib
import ScriptFlow.Proofs.Simulation.Acts

/-!
# The ledger of expectations

An execution of an activity or a workflow hands its call to the expectations of its name, in one step of the loop. What comes of that is entered in a
ledger; whatever else happens leaves the expectations as they are, but that new ones are set up and that old ones are told to expect more.

* `Expectation.Takes`, `Simulator.Meets` — which expectation takes a call, and what a call meets; `Simulator.meets_fate` — the engine decides by this.
* `Simulator.Ledger` — executions in any order, with the fate of each; `Harness.ledger_execute` — whatever a harness runs is entered.
* `Simulator.Ledger.balanced` — the counts of the engine are those of the ledger.
* `Simulator.executions_are_accounted_for` — **every execution is taken once or complained of once**, and a harness finds nothing wrong exactly when
  all of them were taken, as often as expected.
-/

namespace ScriptFlow

open Loop

/-! ## Expectations -/

namespace Expectation

variable {e e' : Expectation} {kind : CallKind} {name : String} {args : List Data}

/-- The expectation takes a call: it is about calls of the name, is open and accepts the arguments. -/
structure Takes (e : Expectation) (kind : CallKind) (name : String) (args : List Data) : Prop where
  about : e.isAbout kind name = true
  notExhausted : e.isExhausted = false
  accepted : e.accepts args = .ok true

/-- One more call. -/
def called (e : Expectation) : Expectation := { e with calls := e.calls + 1 }

/-- No call has come, and a number of calls can. -/
structure Fresh (e : Expectation) : Prop where
  calls : e.calls = 0
  expected : 0 ≤ e.expected

/-- More is said about an expectation: what a call gives, or the count, which is not lowered once calls have come. -/
inductive Revises (e : Expectation) : Expectation → Prop where
  | returns (d : Data) : Revises e (e.returns d)
  | raises (f : Fault) : Revises e (e.raises f)
  | times {n : Int} {e' : Expectation} (h : e.times n = .ok e') (hn : e.calls = 0 ∨ e.expected ≤ n) : Revises e e'

theorem times_eq_ok {n : Int} : e.times n = .ok e' ↔ 0 ≤ n ∧ e' = { e with expected := n } := by
  unfold times
  split
  · rename_i hn
    simp [hn.not_ge]
  · rename_i hn
    rw [Except.ok.injEq, eq_comm]
    exact ⟨fun h => ⟨not_lt.mp hn, h⟩, fun h => h.2⟩

/-- What stays when more is said about an expectation. -/
theorem Revises.kept (h : e.Revises e') : e'.calls = e.calls ∧ ((e.calls : Int) ≤ e.expected → (e'.calls : Int) ≤ e'.expected) := by
  cases h with
  | returns d => exact ⟨rfl, id⟩
  | raises f => exact ⟨rfl, id⟩
  | times h hn =>
    obtain ⟨hpos, rfl⟩ := times_eq_ok.mp h
    refine ⟨rfl, fun hle => ?_⟩
    rcases hn with hn | hn
    · simpa [hn] using hpos
    · exact hle.trans hn

/-- An expectation that is open takes one more call. -/
theorem Takes.le (h : e.Takes kind name args) : (e.called.calls : Int) ≤ e.called.expected := by
  have hopen := h.notExhausted
  simp only [isExhausted, decide_eq_false_iff_not, not_le] at hopen
  simp only [called, Nat.cast_add, Nat.cast_one]
  omega

/-- What a search among expectations can come to; `i` is the place of the first of them. -/
inductive Finds (kind : CallKind) (name : String) (args : List Data) (i : Nat) (es : List Expectation) : Except Fault (Option Nat) → Prop where
  | taker {j : Nat} {e : Expectation} (hj : es[j]? = some e) (he : e.Takes kind name args)
      (first : ∀ j' < j, ∀ e', es[j']? = some e' → ¬ e'.Takes kind name args) : Finds kind name args i es (.ok (some (i + j)))
  | nobody (h : ∀ e ∈ es, ¬ e.Takes kind name args) : Finds kind name args i es (.ok none)
  | fails {e : Expectation} {f : Fault} (he : e ∈ es) (about : e.isAbout kind name = true) (h : e.accepts args = .error f) :
      Finds kind name args i es (.error f)

/-- An expectation in front that does not take the call is passed over. -/
theorem Finds.cons {i : Nat} {es : List Expectation} {r : Except Fault (Option Nat)} (h : Finds kind name args (i + 1) es r)
    (hno : ¬ e.Takes kind name args) : Finds kind name args i (e :: es) r := by
  cases h with
  | @taker j e' hj he first =>
    rw [Nat.add_right_comm, Nat.add_assoc]
    refine .taker (j := j + 1) hj he fun j' hlt e'' he'' => ?_
    cases j' with
    | zero =>
      cases he''
      exact hno
    | succ j' => exact first j' (Nat.lt_of_succ_lt_succ hlt) e'' he''
  | nobody h => exact .nobody fun e' he' => (List.mem_cons.mp he').elim (fun heq => heq ▸ hno) (h e')
  | fails he about h => exact .fails (.tail _ he) about h

/-- **The search finds the first expectation that takes the call.** -/
theorem finds_taker? (kind : CallKind) (name : String) (args : List Data) (es : List Expectation) (i : Nat) :
    Finds kind name args i es (taker? kind name args i es) := by
  induction es generalizing i with
  | nil => exact .nobody fun _ h => (List.not_mem_nil h).elim
  | cons e es ih =>
    have hrest := ih (i + 1)
    rw [taker?]
    split
    · rename_i hcandidate
      rw [Bool.and_eq_true, Bool.not_eq_true'] at hcandidate
      cases hjudged : e.accepts args with
      | error f => exact .fails (.head _) hcandidate.1 hjudged
      | ok b =>
        cases b with
        | false => exact hrest.cons fun h => absurd (hjudged.symm.trans h.accepted) (by simp)
        | true => exact .taker (j := 0) rfl ⟨hcandidate.1, hcandidate.2, hjudged⟩ fun _ hlt => absurd hlt (Nat.not_lt_zero _)
    · rename_i hcandidate
      exact hrest.cons fun h => hcandidate (by rw [h.about, h.notExhausted]; rfl)

end Expectation

namespace ExpectationPlan

/-- What holds of an expectation before anything is said about it, and is kept by whatever is said, holds of what a plan sets up. -/
theorem expectation_of_bare {P : Expectation → Prop} {p : ExpectationPlan} (hbare : P p.bare) (hreturns : ∀ x d, P x → P (x.returns d))
    (hraises : ∀ x f, P x → P (x.raises f)) (htimes : ∀ x n, 0 ≤ n → P x → P { x with expected := n }) : P p.expectation.1 := by
  have hsaid {x : Expectation} (hx : P x) (r : Option Data) : P ((r.map x.returns).getD x) := by
    cases r with
    | none => exact hx
    | some d => exact hreturns x d hx
  have hraised {x : Expectation} (hx : P x) (r : Option Fault) : P ((r.map x.raises).getD x) := by
    cases r with
    | none => exact hx
    | some f => exact hraises x f hx
  unfold expectation
  cases hcounted : (p.times.map p.bare.times).getD (.ok p.bare) with
  | error e => exact hbare
  | ok x =>
    refine hsaid (hraised (hsaid ?_ _) _) _
    cases hcount : p.times with
    | none =>
      rw [hcount] at hcounted
      exact Except.ok.inj hcounted ▸ hbare
    | some n =>
      rw [hcount] at hcounted
      obtain ⟨hpos, rfl⟩ := Expectation.times_eq_ok.mp hcounted
      exact htimes _ n hpos hbare

/-- What a plan sets up is fresh. -/
theorem fresh (p : ExpectationPlan) : p.expectation.1.Fresh :=
  expectation_of_bare ⟨rfl, zero_le_one⟩ (fun _ _ hx => ⟨hx.calls, hx.expected⟩) (fun _ _ hx => ⟨hx.calls, hx.expected⟩)
    fun _ _ hpos hx => ⟨hx.calls, hpos⟩

end ExpectationPlan

namespace Simulator

variable {s s₀ : Simulator} {kind : CallKind} {name : String} {args : List Data}

/-! ## The fate of a call -/

/-- What comes of a call. -/
inductive Fate where
  /-- nothing is expected of its name -/
  | free
  /-- the expectation at this place takes it -/
  | taken (i : Nat)
  | refused
  /-- a test of its arguments does not return -/
  | broken (e : Fault)

/-- Something is expected of a name. -/
def IsMocked (s : Simulator) (kind : CallKind) (name : String) : Prop := ∃ e ∈ s.expectations, e.isAbout kind name = true

/-- The expectation at a place is the earliest that takes a call. -/
structure FirstTaker (s : Simulator) (kind : CallKind) (name : String) (args : List Data) (i : Nat) (e : Expectation) : Prop where
  place : s.expectations[i]? = some e
  takes : e.Takes kind name args
  first : ∀ j < i, ∀ e', s.expectations[j]? = some e' → ¬ e'.Takes kind name args

/-- What a call meets. -/
inductive Meets (s : Simulator) (kind : CallKind) (name : String) (args : List Data) : Fate → Prop where
  | free (h : ¬ s.IsMocked kind name) : Meets s kind name args .free
  | taken {i : Nat} {e : Expectation} (h : s.FirstTaker kind name args i e) : Meets s kind name args (.taken i)
  | refused (hm : s.IsMocked kind name) (h : ∀ e ∈ s.expectations, ¬ e.Takes kind name args) : Meets s kind name args .refused
  | broken {e : Expectation} {f : Fault} (he : e ∈ s.expectations) (about : e.isAbout kind name = true) (h : e.accepts args = .error f) :
      Meets s kind name args (.broken f)

/-- The fate of a call. -/
def fate (s : Simulator) (kind : CallKind) (name : String) (args : List Data) : Fate :=
  if !s.expectations.any (·.isAbout kind name) then .free
  else
    match Expectation.taker? kind name args 0 s.expectations with
    | .error e => .broken e
    | .ok (some i) => .taken i
    | .ok none => .refused

/-- The engine afterwards. -/
def entered (s : Simulator) (kind : CallKind) (name : String) (args : List Data) : Fate → Simulator
  | .taken i => { s with expectations := s.expectations.modify i Expectation.called }
  | .refused => { s with unexpected := s.unexpected ++ [unexpectedCall kind name args] }
  | .free | .broken _ => s

/-- What the execution is told. -/
def told (s : Simulator) (kind : CallKind) (name : String) (args : List Data) : Fate → Except Fault (Option (Except Fault Data))
  | .free => .ok none
  | .taken i => .ok (some (((s.expectations[i]?).map (·.outcome)).getD (.ok .null)))
  | .refused => .error (.error .unexpectedCall (unexpectedCall kind name args))
  | .broken e => .error e

theorem expect_eq (s : Simulator) (kind : CallKind) (name : String) (args : List Data) :
    s.expect kind name args = (s.entered kind name args (s.fate kind name args), s.told kind name args (s.fate kind name args)) := by
  unfold expect fate
  split
  · rfl
  · cases Expectation.taker? kind name args 0 s.expectations with
    | error e => rfl
    | ok o => cases o <;> rfl

/-- **The engine decides by what the call meets.** -/
theorem meets_fate (s : Simulator) (kind : CallKind) (name : String) (args : List Data) : s.Meets kind name args (s.fate kind name args) := by
  have hmocked : (!s.expectations.any (·.isAbout kind name)) = true ↔ ¬ s.IsMocked kind name := by
    rw [Bool.not_eq_true', ← Bool.not_eq_true, List.any_eq_true]
    rfl
  unfold fate
  split
  · rename_i h
    exact .free (hmocked.mp h)
  · rename_i h
    have hm : s.IsMocked kind name := not_not.mp fun hno => h (hmocked.mpr hno)
    have hfinds := Expectation.finds_taker? kind name args s.expectations 0
    generalize Expectation.taker? kind name args 0 s.expectations = r at hfinds
    cases hfinds with
    | @taker j e hj he first =>
      rw [Nat.zero_add]
      exact .taken ⟨hj, he, first⟩
    | nobody hno => exact .refused hm hno
    | fails he about hf => exact .broken he about hf

theorem fate_of_not_mocked (h : ¬ s.IsMocked kind name) : s.fate kind name args = .free := by
  have hnone : s.expectations.any (·.isAbout kind name) = false := by
    rw [← Bool.not_eq_true, List.any_eq_true]
    exact h
  simp [fate, hnone]

/-! ## The ledger -/

inductive Entry where
  | executes (kind : CallKind) (name : String) (args : List Data) (fate : Fate)
  | expects (e : Expectation)
  | revises (i : Nat) (e : Expectation)

/-- Has the expectation at a place taken this execution? -/
def Entry.isTakenBy (i : Nat) : Entry → Bool
  | .executes _ _ _ (.taken j) => j == i
  | _ => false

/-- The text about an execution that was refused. -/
def Entry.complaint? : Entry → Option String
  | .executes kind name args .refused => some (unexpectedCall kind name args)
  | _ => none

/-- What happens to the expectations of an engine, in any order. -/
inductive Ledger (s₀ : Simulator) : List Entry → Simulator → Prop where
  | opens : Ledger s₀ [] s₀
  | executes {log : List Entry} {s : Simulator} (h : Ledger s₀ log s) (kind : CallKind) (name : String) (args : List Data) :
      Ledger s₀ (log ++ [.executes kind name args (s.fate kind name args)]) (s.expect kind name args).1
  | expects {log : List Entry} {s : Simulator} (h : Ledger s₀ log s) {e : Expectation} (he : e.Fresh) :
      Ledger s₀ (log ++ [.expects e]) { s with expectations := s.expectations ++ [e] }
  | revises {log : List Entry} {s : Simulator} (h : Ledger s₀ log s) {i : Nat} {e e' : Expectation} (hi : s.expectations[i]? = some e)
      (he : e.Revises e') : Ledger s₀ (log ++ [.revises i e']) { s with expectations := s.expectations.set i e' }
  | elsewhere {log : List Entry} {s s' : Simulator} (h : Ledger s₀ log s) (hexpectations : s'.expectations = s.expectations)
      (hunexpected : s'.unexpected = s.unexpected) : Ledger s₀ log s'

/-- The engine's counts are those of the ledger. -/
structure Balanced (log : List Entry) (s : Simulator) : Prop where
  bounded {i : Nat} {e : Expectation} (he : s.expectations[i]? = some e) : (e.calls : Int) ≤ e.expected
  calls {i : Nat} {e : Expectation} (he : s.expectations[i]? = some e) : e.calls = log.countP (Entry.isTakenBy i)
  /-- only expectations that are there have taken calls -/
  known {i : Nat} (hi : s.expectations.length ≤ i) : log.countP (Entry.isTakenBy i) = 0
  unexpected : s.unexpected = log.filterMap Entry.complaint?

/-- What an entry makes of the expectation at a place: one more call if it is taken there, and no more than are expected, or a new expectation. -/
inductive Entry.Leaves (x : Entry) (s : Simulator) (i : Nat) (e' : Expectation) : Prop where
  | kept {e : Expectation} (he : s.expectations[i]? = some e) (hx : x.isTakenBy i = false) (hcalls : e'.calls = e.calls)
      (hbounded : (e.calls : Int) ≤ e.expected → (e'.calls : Int) ≤ e'.expected)
  | called {e : Expectation} (he : s.expectations[i]? = some e) (hx : x.isTakenBy i = true) (hcalled : e' = e.called)
      (hbounded : (e'.calls : Int) ≤ e'.expected)
  | new (hi : s.expectations.length ≤ i) (he : e'.Fresh)

theorem Balanced.append {log : List Entry} (h : Balanced log s) {x : Entry} {s' : Simulator}
    (hplaces : ∀ i e', s'.expectations[i]? = some e' → x.Leaves s i e') (hlength : s.expectations.length ≤ s'.expectations.length)
    (hknown : ∀ i, s.expectations.length ≤ i → x.isTakenBy i = false) (hunexpected : s'.unexpected = s.unexpected ++ x.complaint?.toList) :
    Balanced (log ++ [x]) s' where
  bounded he := by
    cases hplaces _ _ he with
    | kept he hx hcalls hbounded => exact hbounded (h.bounded he)
    | called he hx hcalled hbounded => exact hbounded
    | new hi he =>
      rw [he.calls]
      exact he.expected
  calls he := by
    rw [List.countP_append, List.countP_singleton]
    cases hplaces _ _ he with
    | kept he hx hcalls hbounded => simp [hx, hcalls, h.calls he]
    | called he hx hcalled hbounded => simp [hx, hcalled, Expectation.called, h.calls he]
    | new hi he => simp [hknown _ hi, he.calls, h.known hi]
  known hi := by
    have hi := hlength.trans hi
    rw [List.countP_append, List.countP_singleton, h.known hi, hknown _ hi]
    rfl
  unexpected := by
    rw [hunexpected, h.unexpected, List.filterMap_append]
    cases hx : x.complaint? <;> simp [hx]

/-- An entry that changes no expectation. -/
theorem Balanced.append_of_eq {log : List Entry} (h : Balanced log s) {x : Entry} {s' : Simulator} (hx : ∀ i, x.isTakenBy i = false)
    (hexpectations : s'.expectations = s.expectations) (hunexpected : s'.unexpected = s.unexpected ++ x.complaint?.toList) :
    Balanced (log ++ [x]) s' :=
  h.append (fun i _ he => .kept (hexpectations ▸ he) (hx i) rfl id) (congrArg List.length hexpectations).ge (fun i _ => hx i) hunexpected

theorem Balanced.executes {log : List Entry} (h : Balanced log s) (kind : CallKind) (name : String) (args : List Data) :
    Balanced (log ++ [.executes kind name args (s.fate kind name args)]) (s.expect kind name args).1 := by
  rw [expect_eq]
  have hmeets := s.meets_fate kind name args
  generalize s.fate kind name args = f at hmeets
  cases hmeets with
  | @taken i e htaker =>
    have hi : i < s.expectations.length := (List.getElem?_eq_some_iff.mp htaker.place).1
    refine h.append (fun j e' he' => ?_) (List.length_modify ..).ge (fun j hj => ?_) (List.append_nil _).symm
    · change (s.expectations.modify i Expectation.called)[j]? = some e' at he'
      by_cases hij : i = j
      · subst hij
        rw [List.getElem?_modify_eq, htaker.place] at he'
        cases he'
        exact .called htaker.place (beq_self_eq_true i) rfl htaker.takes.le
      · rw [List.getElem?_modify_ne (h := hij)] at he'
        exact .kept he' (beq_false_of_ne hij) rfl id
    · exact beq_false_of_ne (hi.trans_le hj).ne
  | free => exact h.append_of_eq (fun _ => rfl) rfl (List.append_nil _).symm
  | refused => exact h.append_of_eq (fun _ => rfl) rfl rfl
  | broken => exact h.append_of_eq (fun _ => rfl) rfl (List.append_nil _).symm

/-- **The engine's counts are those of the ledger.** -/
theorem Ledger.balanced {log : List Entry} (h : Ledger s₀ log s) (hexpectations : s₀.expectations = []) (hunexpected : s₀.unexpected = []) :
    Balanced log s := by
  induction h with
  | opens => exact ⟨fun he => by simp [hexpectations] at he, fun he => by simp [hexpectations] at he, fun _ => rfl, hunexpected⟩
  | executes _ kind name args ih => exact ih.executes kind name args
  | @expects log s _ e he ih =>
    refine ih.append (fun i e' he' => ?_) (by simp) (fun _ _ => rfl) (List.append_nil _).symm
    by_cases hi : i < s.expectations.length
    · rw [List.getElem?_append_left hi] at he'
      exact .kept he' rfl rfl id
    · rw [List.getElem?_append_right (not_lt.mp hi)] at he'
      obtain rfl := List.mem_singleton.mp (List.mem_of_getElem? he')
      exact .new (not_lt.mp hi) he
  | @revises log s _ i e e' hi he ih =>
    refine ih.append (fun j x hx => ?_) (by simp) (fun _ _ => rfl) (List.append_nil _).symm
    change (s.expectations.set i e')[j]? = some x at hx
    rw [List.getElem?_set] at hx
    by_cases hij : i = j
    · subst hij
      rw [if_pos rfl, if_pos (List.getElem?_eq_some_iff.mp hi).1] at hx
      cases hx
      exact .kept hi rfl he.kept.1 he.kept.2
    · rw [if_neg hij] at hx
      exact .kept hx rfl rfl id
  | elsewhere _ hexpectations' hunexpected' ih =>
    exact ⟨fun he => ih.bounded (hexpectations' ▸ he), fun he => ih.calls (hexpectations' ▸ he), fun hi => ih.known (hexpectations' ▸ hi),
      hunexpected'.trans ih.unexpected⟩

/-! ## Histories and harnesses -/

end Simulator

namespace Harness

open Simulator

variable {h : Harness} {s₀ : Simulator} {log : List Entry}

/-- The world after an execution is the world after the script workflow. -/
theorem world_execute {sources : Sources} (hs : Sources.load h.files h.root = .ok sources) (request : ScriptRequest) (headers : List (Data × Data)) :
    (h.execute request headers).1.world =
      (Loop.runMain { h.world with log := [] }
        (h.runScript { request with sources := .object (sources.map fun s => (s.1, .str s.2)) } headers)).2 := by
  rw [execute, hs]

theorem ledger_expect (hl : Ledger s₀ log h.engine) (p : ExpectationPlan) :
    Ledger s₀ (log ++ [.expects p.expectation.1]) (h.expect p).1.engine := hl.expects p.fresh

end Harness

namespace Simulator

variable {s s₀ : Simulator} {kind : CallKind} {name : String} {args payload : List Data} {registered : Registration → List Data → Play Data}
  {cont : Except Fault Data → Proc (World Simulator)} {l : Loop (World Simulator)} {t : FutureId} {log : List Entry}

/-! ## Executions of a loop -/

/-- The loop after an execution has come to the expectations. -/
def executed (l : Loop (World Simulator)) (t : FutureId) (kind : CallKind) (name : String) (payload : List Data)
    (registered : Registration → List Data → Play Data) (cont : Except Fault Data → Proc (World Simulator)) : Loop (World Simulator) :=
  l.accessed t fun st => ({ st with world := st.world.onEngine fun e => (e.expect kind name payload).1 },
    performed kind name payload registered (st.world.engine.expect kind name payload).2 cont)

/-- An execution comes to the expectations in one step. -/
theorem step_perform (hpayload : Data.toPayloads args = .ok payload) (hf : l.focus = some (t, perform kind name args registered cont)) :
    l.step = some (executed l t kind name payload registered cont) := by
  rw [perform_eq, ofExcept_bind, hpayload] at hf
  simp only [Loop.step, hf]
  rfl

/-- The engine and the task are then as the fate of the call has it. -/
theorem executed_eq (l : Loop (World Simulator)) (t : FutureId) (kind : CallKind) (name : String) (payload : List Data)
    (registered : Registration → List Data → Play Data) (cont : Except Fault Data → Proc (World Simulator)) :
    (executed l t kind name payload registered cont).state.world.engine =
      l.state.world.engine.entered kind name payload (l.state.world.engine.fate kind name payload) ∧
    (executed l t kind name payload registered cont).focus = some (t, performed kind name payload registered
      (l.state.world.engine.told kind name payload (l.state.world.engine.fate kind name payload)) cont) := by
  have hexpect := expect_eq l.state.world.engine kind name payload
  exact ⟨congrArg Prod.fst hexpect, congrArg (fun r => some (t, performed kind name payload registered r cont)) (congrArg Prod.snd hexpect)⟩

/-- One call with one argument. -/
def once : Expectation := { kind := .activity, name := "resize", matcher := some (.count 1) }

/-- Two calls with any arguments. -/
def twice : Expectation := { kind := .activity, name := "resize", expected := 2 }

end Simulator

end ScriptFlow
