import Mathlib
import ScriptFlow.Durable.Failure
import ScriptFlow.Proofs.Loop.Shielding

/-!
# The rounds of a boundary

The boundary of a workflow function waits behind a shield, and again after every request to cancel. Its rounds are followed from its beginning to its end, in every
order of the steps of the loop.

* `Boundary.Course` — runs in which nobody but the boundary knows its stand-ins.
* `Boundary.Attending` — where the boundary may be before its end; `Boundary.Ends` — what it ends with.
* `Boundary.Attending.move` — a move keeps the boundary attending, or ends it as it should; `Boundary.Course.attending` — so does a run.
-/

namespace ScriptFlow

namespace Boundary

open Kernel Loop

variable {ε : Type}

/-! ## The program of the boundary -/

/-- A wait of a task for a workflow function. -/
structure Watch (ε : Type) where
  task : FutureId
  function : FutureId
  scope : ScopeId
  /-- how many requests it bears -/
  rounds : Nat
  cont : Except Fault Data → Proc (World ε)

namespace Watch

variable (b : Watch ε)

/-- A round of the wait. -/
def round (n : Nat) : Proc (World ε) := waitFor b.scope b.function n b.cont

/-- The scope is about to be cancelled. -/
def winding (n : Nat) : Proc (World ε) :=
  .access fun st => ({ st with kernel := st.kernel.cancelScope b.scope }, b.round n)

/-- What the boundary does with what it is told. -/
def hearing (n : Nat) : Except Fault Data → Proc (World ε)
  | .error (.taskCancelled m) =>
    .access fun st => (st, if st.kernel.isDone b.function then b.cont (.error (.taskCancelled m)) else b.winding n)
  | r => b.cont r

theorem round_succ (n : Nat) : b.round (n + 1) =
    .access fun st => ({ st with kernel := (st.kernel.shield b.function).1 }, .await (st.kernel.shield b.function).2 (b.hearing n)) := by
  have hround : b.round (n + 1) = .access fun st => ({ st with kernel := (st.kernel.shield b.function).1 },
      .await (st.kernel.shield b.function).2 fun r => (match r with
        | .error (.taskCancelled m) => do
          if (← Flow.kernel).isDone b.function then Flow.fail (.taskCancelled m)
          else do
            Flow.modifyKernel (·.cancelScope b.scope)
            waitFor b.scope b.function n
        | r => Flow.ofExcept r : Play ε Data) b.cont) := rfl
  rw [hround]
  congr 1
  funext st
  congr 2
  funext r
  cases r with
  | ok d => rfl
  | error e =>
    cases e with
    | taskCancelled m =>
      simp only [hearing, kernel_bind]
      congr 1
      funext st
      congr 1
      split <;> rfl
    | _ => rfl

theorem hearing_of_not_cancelled (n : Nat) {r : Except Fault Data} (h : ∀ m, r ≠ .error (.taskCancelled m)) :
    b.hearing n r = b.cont r := by
  unfold hearing
  split
  · rename_i m
    exact absurd rfl (h m)
  · rfl

/-- The wait of a round. -/
def get (k : Kernel) : Get := k.newGet b.task b.function b.scope

/-- Every round but the first is paid for by a request. -/
def Paid (k₀ k : Kernel) (n : Nat) : Prop := b.rounds + k₀.cancelsOf b.task + (k.requested b.task).toNat ≤ n + k.cancelsOf b.task + 1

end Watch

/-! ## Runs of the boundary -/

/-- Runs in which nobody but the boundary knows its stand-ins. -/
inductive Course (R : Rules) (b : Watch ε) (l : Loop (World ε)) : Loop (World ε) → Prop where
  | refl : Course R b l l
  | tail {log l' l''} (h : Course R b l l')
      (hh : ∀ n, l'.focus = some (b.task, b.round (n + 1)) → l'.state.kernel.outcome? b.function = none →
        Hides R b.task l'.state.kernel.futures.size)
      (hm : Move R l' log l'') : Course R b l l''

/-- A round that began in a run. -/
structure Round (R : Rules) (b : Watch ε) (l₀ l₁ : Loop (World ε)) (n : Nat) : Prop where
  course : Course R b l₀ l₁
  focus : l₁.focus = some (b.task, b.round (n + 1))
  hidden : l₁.state.kernel.outcome? b.function = none → Hides R b.task l₁.state.kernel.futures.size
  paid : b.Paid l₀.state.kernel l₁.state.kernel (n + 1)

/-- A request has come to the boundary since it began to wait for a function that had not ended. -/
structure Requested (R : Rules) (b : Watch ε) (l₀ l₁ : Loop (World ε)) (n : Nat) (k : Kernel) : Prop extends Round R b l₀ l₁ n where
  unfinished : l₁.state.kernel.outcome? b.function = none
  asked : k.Asked (b.get l₁.state.kernel)

/-- Where a boundary may be before its end. -/
inductive Attending (R : Rules) (b : Watch ε) (l₀ l : Loop (World ε)) : Prop where
  | beginning {n} (hf : l.focus = some (b.task, b.round (n + 1))) (hp : b.Paid l₀.state.kernel l.state.kernel (n + 1))
  | shielded {l₁ n} (hr : Round R b l₀ l₁ n) (hk : l.state.kernel = (l₁.state.kernel.shield b.function).1)
      (hf : l.focus = some (b.task, .await (l₁.state.kernel.shield b.function).2 (b.hearing n)))
  | asleep {l₁ n} (hr : Round R b l₀ l₁ n) (ho : l₁.state.kernel.outcome? b.function = none)
      (hw : Suspended (fun k => k.Shields (b.get l₁.state.kernel)) (b.get l₁.state.kernel) (b.hearing n) l)
  /-- it was told of a cancellation: that of the function, or its own -/
  | told {n m} (hf : l.focus = some (b.task, b.hearing n (.error (.taskCancelled m))))
      (hwhy : (∃ o, l.state.kernel.outcome? b.function = some o ∧ o.result = .error (.taskCancelled m)) ∨
        ∃ l₁, Requested R b l₀ l₁ n l.state.kernel ∧ b.Paid l₀.state.kernel l.state.kernel n ∧
          l.state.kernel.requested b.task = false)
  | winding {n} (hf : l.focus = some (b.task, b.winding n)) (ho : l.state.kernel.outcome? b.function = none)
      (hp : b.Paid l₀.state.kernel l.state.kernel n) (hn : l.state.kernel.requested b.task = false)

/-- What a boundary ends with. -/
inductive Ends (R : Rules) (b : Watch ε) (l₀ l : Loop (World ε)) : Except Fault Data → Prop where
  /-- as its function ended -/
  | own {o} (ho : l.state.kernel.outcome? b.function = some o) : Ends R b l₀ l o.result
  /-- with a request that came in the wait in which the function ended -/
  | replaced {l₁ n m} (hr : Requested R b l₀ l₁ n l.state.kernel) (hd : l.state.kernel.isDone b.function = true) :
      Ends R b l₀ l (.error (.taskCancelled m))
  | exhausted (hp : b.rounds + l₀.state.kernel.cancelsOf b.task ≤ l.state.kernel.cancelsOf b.task + 1) :
      Ends R b l₀ l (.error (.error .runtime "cancelled too often"))

/-- The boundary has ended, once. -/
def Ended (R : Rules) (b : Watch ε) (l₀ l : Loop (World ε)) : Prop := ∃ a, l.focus = some (b.task, b.cont a) ∧ Ends R b l₀ l a

section Course

variable {R : Rules} {b : Watch ε} {l₀ l l' : Loop (World ε)} {log : List OwnerCall}

theorem Course.run (h : Course R b l l') : ∃ log, Run R l log l' := by
  induction h with
  | refl => exact ⟨[], .refl⟩
  | tail _ _ hm ih =>
    obtain ⟨log, hr⟩ := ih
    exact ⟨_, hr.tail hm⟩

theorem Course.trans {l'' : Loop (World ε)} (h : Course R b l l') (h' : Course R b l' l'') : Course R b l l'' := by
  induction h' with
  | refl => exact h
  | tail _ hh hm ih => exact ih.tail hh hm

theorem Course.sound (h : Course R b l l') (hs : Sound l) : Sound l' := by
  obtain ⟨log, hr⟩ := h.run
  exact hr.sound hs

/-! ### A move of the boundary -/

/-- The next round begins, or there is none. -/
theorem attending_round {n : Nat} (hf : l.focus = some (b.task, b.round n)) (hp : b.Paid l₀.state.kernel l.state.kernel n) :
    Attending R b l₀ l ∨ Ended R b l₀ l := by
  cases n with
  | zero =>
    refine Or.inr ⟨_, hf, .exhausted ?_⟩
    have hp : b.rounds + l₀.state.kernel.cancelsOf b.task + (l.state.kernel.requested b.task).toNat ≤
        0 + l.state.kernel.cancelsOf b.task + 1 := hp
    omega
  | succ n => exact Or.inl (.beginning hf hp)

/-- The boundary is told how its function ended. -/
theorem attending_own {n : Nat} {o : Outcome} (hf : l.focus = some (b.task, b.hearing n o.result))
    (ho : l.state.kernel.outcome? b.function = some o) : Attending R b l₀ l ∨ Ended R b l₀ l := by
  by_cases hc : ∃ m, o.result = .error (.taskCancelled m)
  · obtain ⟨m, hm⟩ := hc
    rw [hm] at hf
    exact Or.inl (.told hf (Or.inl ⟨o, ho, hm⟩))
  · rw [b.hearing_of_not_cancelled n fun m hm => hc ⟨m, hm⟩] at hf
    exact Or.inr ⟨_, hf, .own ho⟩

/-- A boundary that has its stand-in goes to sleep, unless the function has ended. -/
theorem Round.wait {l₁ : Loop (World ε)} {n : Nat} (hr : Round R b l₀ l₁ n) (hs : Sound l₁)
    (hlt : b.function < l₁.state.kernel.futures.size) (hk : l.state.kernel = (l₁.state.kernel.shield b.function).1)
    (hf : l.focus = some (b.task, .await (l₁.state.kernel.shield b.function).2 (b.hearing n))) (hm : Move R l log l') :
    Attending R b l₀ l' ∨ Ended R b l₀ l' := by
  have hl := hm.of_focus hf
  cases ho : l₁.state.kernel.outcome? b.function with
  | some o =>
    rw [shield_of_done ho] at hk hl
    have ho' : (l.state.kernel.future b.function).outcome = some o := by rw [hk]; exact ho
    simp only [advance, ho'] at hl
    subst hl
    exact attending_own rfl ho'
  | none =>
    have hstand : (l₁.state.kernel.shield b.function).2 = l₁.state.kernel.futures.size := by rw [shield_of_open ho]
    rw [hstand] at hl
    have ho' : (l.state.kernel.future l₁.state.kernel.futures.size).outcome = none := by rw [hk]; exact outcome?_shield ho
    simp only [advance, ho'] at hl
    obtain ⟨task, ht⟩ := Option.isSome_iff_exists.mp (hs.focus _ _ hr.focus).1
    have hkernel : l'.state.kernel = (l₁.state.kernel.shield b.function).1.waitFor b.task l₁.state.kernel.futures.size := by
      rw [hl, ← hk]
      rfl
    have hnext : l'.next? b.task = some (b.hearing n) := by
      rw [hl]
      exact (next?_park ({ l with focus := none } : Loop (World ε)) b.task (b.hearing n) b.task).trans (if_pos rfl)
    refine Or.inl (.asleep hr ho ⟨?_, hnext⟩)
    rw [hkernel]
    exact shields_waitFor ht hs.refs ho hlt

/-- The boundary is woken. -/
theorem Round.told {l₁ : Loop (World ε)} {n : Nat} (hr : Round R b l₀ l₁ n) (ho₁ : l₁.state.kernel.outcome? b.function = none)
    (hw : l.state.kernel.Shields (b.get l₁.state.kernel)) (ht : Told (b.get l₁.state.kernel) (b.hearing n) l l') :
    Attending R b l₀ l' ∨ Ended R b l₀ l' := by
  obtain ⟨⟨o, ho, hf⟩, hout, -, hcancels, hrequested⟩ := ht.leaves
  rcases hw.tells ho with ⟨ha, m, hm⟩ | ⟨ha, hm⟩
  · rw [hm] at hf
    have ha' : l'.state.kernel.Asked (b.get l₁.state.kernel) := by
      rw [Asked, hcancels]
      exact ha
    refine Or.inl (.told hf (Or.inr ⟨l₁, ⟨hr, ho₁, ha'⟩, ?_, hrequested⟩))
    -- the request was made before the round and not told, or in it
    have hpaid : b.rounds + l₀.state.kernel.cancelsOf b.task + (l₁.state.kernel.requested b.task).toNat ≤
      n + 1 + l₁.state.kernel.cancelsOf b.task + 1 := hr.paid
    have hcount : l₁.state.kernel.cancelsOf b.task ≤ l'.state.kernel.cancelsOf b.task := hw.counted.trans_eq hcancels.symm
    have hrequested' : l'.state.kernel.requested b.task = false := hrequested
    have hmore : l₁.state.kernel.requested b.task = true ∨ l₁.state.kernel.cancelsOf b.task < l'.state.kernel.cancelsOf b.task := ha'
    simp only [Watch.Paid, hrequested', Bool.toNat_false]
    rcases hmore with hmore | hmore
    · rw [hmore, Bool.toNat_true] at hpaid
      omega
    · omega
  · rw [hm] at hf
    have hsource : l.state.kernel.outcome? b.function = some o := by
      by_cases hc : o = .cancelled
      · subst hc
        exact ((hw.why ho).resolve_left id).resolve_left ha
      · exact hw.same o ho hc
    exact attending_own hf ((hout _).trans hsource)

/-- **A move keeps the boundary attending**, or ends it as it should. -/
theorem Attending.move (h : Attending R b l₀ l) (hs₀ : Sound l₀) (hc : Course R b l₀ l)
    (hlt : ∀ l₁, Course R b l₀ l₁ → b.function < l₁.state.kernel.futures.size)
    (hh : ∀ n, l.focus = some (b.task, b.round (n + 1)) → l.state.kernel.outcome? b.function = none →
      Hides R b.task l.state.kernel.futures.size) (hm : Move R l log l') : Attending R b l₀ l' ∨ Ended R b l₀ l' := by
  have hs : Sound l := hc.sound hs₀
  cases h with
  | @beginning n hf hp =>
    have hl := hm.of_focus hf
    rw [Watch.round_succ] at hl
    subst hl
    exact Or.inl (.shielded ⟨hc, hf, hh n hf, hp⟩ rfl rfl)
  | shielded hr hk hf => exact hr.wait (hr.course.sound hs₀) (hlt _ hr.course) hk hf hm
  | @asleep l₁ n hr ho hw =>
    rcases (upheld_shields _).effect hm.effect hs hw (hr.hidden ho) with hw' | ⟨ht, -⟩
    · exact Or.inl (.asleep hr ho hw')
    · exact hr.told ho hw.kernel ht
  | @told n m hf hwhy =>
    have hl := hm.of_focus hf
    subst hl
    by_cases hd : l.state.kernel.isDone b.function = true
    · right
      have hf' : (({ l with focus := none } : Loop (World ε)).advance b.task (b.hearing n (.error (.taskCancelled m)))).focus =
          some (b.task, b.cont (.error (.taskCancelled m))) := by
        simp only [Watch.hearing, advance, hd, if_true]
      rcases hwhy with ⟨o, ho, hr⟩ | ⟨l₁, hreq, -, -⟩
      · have hend : ∀ {l' : Loop (World ε)}, l'.state.kernel.outcome? b.function = some o →
            Ends R b l₀ l' (.error (.taskCancelled m)) := by
          intro l' h
          rw [← hr]
          exact .own h
        exact ⟨_, hf', hend ho⟩
      · exact ⟨_, hf', .replaced ⟨hreq.toRound, hreq.unfinished, hreq.asked⟩ hd⟩
    · have ho : l.state.kernel.outcome? b.function = none := by simpa [isDone_eq] using hd
      rcases hwhy with ⟨o, ho', -⟩ | ⟨l₁, -, hp, hn⟩
      · rw [ho] at ho'
        cases ho'
      · refine Or.inl (.winding (n := n) ?_ ho hp hn)
        simp only [Watch.hearing, advance, hd, Bool.false_eq_true, if_false]
  | @winding n hf ho hp hn =>
    have hl := hm.of_focus hf
    subst hl
    refine attending_round rfl ?_
    have hp : b.rounds + l₀.state.kernel.cancelsOf b.task + (l.state.kernel.requested b.task).toNat ≤
      n + l.state.kernel.cancelsOf b.task + 1 := hp
    rw [hn, Bool.toNat_false] at hp
    have hcount : l.state.kernel.cancelsOf b.task ≤ (l.state.kernel.cancelScope b.scope).cancelsOf b.task :=
      cancelsOf_grows (l.state.kernel.calm_cancelScope b.scope) b.task
    have hpaid : b.Paid l₀.state.kernel (l.state.kernel.cancelScope b.scope) n := by
      unfold Watch.Paid
      cases hreq : (l.state.kernel.cancelScope b.scope).requested b.task with
      | false =>
        rw [Bool.toNat_false]
        omega
      | true =>
        have hmore := (counts_cancelScope hreq).resolve_left (by simp [hn])
        rw [Bool.toNat_true]
        omega
    exact hpaid

theorem attending_start (hf : l.focus = some (b.task, b.round b.rounds)) (hr : 0 < b.rounds) : Attending R b l l := by
  obtain ⟨n, hn⟩ := Nat.exists_eq_succ_of_ne_zero hr.ne'
  have hbit : (l.state.kernel.requested b.task).toNat ≤ 1 := Bool.toNat_le _
  rw [hn] at hf
  refine .beginning hf ?_
  unfold Watch.Paid
  omega

/-- **A boundary ends at most once in a run**, and then as it should. -/
theorem Course.attending (hc : Course R b l₀ l) (hs₀ : Sound l₀) (h₀ : Attending R b l₀ l₀)
    (hlt : ∀ l₁, Course R b l₀ l₁ → b.function < l₁.state.kernel.futures.size) :
    Attending R b l₀ l ∨ ∃ l₁, Course R b l₀ l₁ ∧ Ended R b l₀ l₁ ∧ Course R b l₁ l := by
  induction hc with
  | refl => exact Or.inl h₀
  | @tail log l' l'' hc hh hm ih =>
    rcases ih with ha | ⟨l₁, hc₁, he, hc₂⟩
    · rcases ha.move hs₀ hc hlt hh hm with ha' | he
      · exact Or.inl ha'
      · exact Or.inr ⟨l'', hc.tail hh hm, he, .refl⟩
    · exact Or.inr ⟨l₁, hc₁, he, hc₂.tail hh hm⟩

end Course

end Boundary

end ScriptFlow
