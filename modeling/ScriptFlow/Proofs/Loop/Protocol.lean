import Mathlib
import ScriptFlow.Proofs.Loop.Serving

/-!
# Protocols

A protocol says which accesses to the state a task may make, one after the other. What a task owes by the accesses it has made is its duty; with some
duties the task may wait while others take their turns, with others it may not.

* `Proc.Obeys` — a program that keeps to a protocol from a duty on; `Flow.Obeys` — a part of a program that begins and ends without one, and so stays within
  the programs that keep to it (`Flow.Within`).
* `Loop.Tasked` — a loop all of whose tasks have programs of some kinds; `Loop.Tasked.step` — what a step does that is no access.
* `Loop.Conforms` — a loop all of whose tasks keep to the protocol, with the duty of each.
* `Loop.Conforms.step` — **a step of such a loop is an access that the protocol allows**, or leaves the world alone.
-/

namespace ScriptFlow

variable {σ S α β : Type}

structure Protocol (σ S : Type) where
  /-- no duty -/
  idle : S
  /-- the accesses that a task with a duty may make, and the duty that it has afterwards -/
  allows : S → (LoopState σ → LoopState σ × Proc σ) → (LoopState σ → S) → Prop
  /-- the duties with which a task may wait -/
  rests : S → Prop
  rests_idle : rests idle
  /-- no future is forgotten -/
  grows {s : S} {f : LoopState σ → LoopState σ × Proc σ} {after : LoopState σ → S} (h : allows s f after) (st : LoopState σ) :
    st.kernel.futures.size ≤ (f st).1.kernel.futures.size

/-- A program that keeps to a protocol. It ends without a duty, and what it starts begins without one. -/
inductive Proc.Obeys (C : Protocol σ S) : S → Proc σ → Prop where
  | finish (r : Except Fault Data) : Obeys C C.idle (.finish r)
  | access {s : S} {f : LoopState σ → LoopState σ × Proc σ} {after : LoopState σ → S} (here : C.allows s f after)
      (next : ∀ st, Obeys C (after st) (f st).2) : Obeys C s (.access f)
  | spawn {s : S} {watched : Bool} {body next : FutureId → Proc σ} (rests : C.rests s) (started : ∀ t, Obeys C C.idle (body t))
      (goesOn : ∀ t, Obeys C s (next t)) : Obeys C s (.spawn watched body next)
  | await {s : S} {f : FutureId} {next : Except Fault Data → Proc σ} (rests : C.rests s) (goesOn : ∀ r, Obeys C s (next r)) :
      Obeys C s (.await f next)
  | turn {s : S} {next : Except Fault Data → Proc σ} (rests : C.rests s) (goesOn : ∀ r, Obeys C s (next r)) : Obeys C s (.turn next)

namespace Proc.Obeys

variable {C : Protocol σ S} {s : S}

theorem of_access {f : LoopState σ → LoopState σ × Proc σ} (h : Obeys C s (.access f)) :
    ∃ after, C.allows s f after ∧ ∀ st, Obeys C (after st) (f st).2 := by
  cases h with
  | access here next => exact ⟨_, here, next⟩

theorem of_spawn {watched : Bool} {body next : FutureId → Proc σ} (h : Obeys C s (.spawn watched body next)) :
    C.rests s ∧ (∀ t, Obeys C C.idle (body t)) ∧ ∀ t, Obeys C s (next t) := by
  cases h with
  | spawn rests started goesOn => exact ⟨rests, started, goesOn⟩

theorem of_await {f : FutureId} {next : Except Fault Data → Proc σ} (h : Obeys C s (.await f next)) : C.rests s ∧ ∀ r, Obeys C s (next r) := by
  cases h with
  | await rests goesOn => exact ⟨rests, goesOn⟩

theorem of_turn {next : Except Fault Data → Proc σ} (h : Obeys C s (.turn next)) : C.rests s ∧ ∀ r, Obeys C s (next r) := by
  cases h with
  | turn rests goesOn => exact ⟨rests, goesOn⟩

end Proc.Obeys

/-- A part of a program that stays within a kind of programs if what comes after it does, and gives values of a kind. -/
def Flow.Within (K : Proc σ → Prop) (m : Flow σ α) (P : α → Prop := fun _ => True) : Prop :=
  ∀ cont : Except Fault α → Proc σ, (∀ r, (∀ a, r = .ok a → P a) → K (cont r)) → K (m cont)

namespace Flow.Within

variable {K : Proc σ → Prop} {P : α → Prop} {Q : β → Prop}

theorem ofExcept {r : Except Fault α} (h : ∀ a, r = .ok a → P a) : Within K (Flow.ofExcept r : Flow σ α) P := fun _ hcont => hcont r h

theorem result (r : Except Fault α) : Within K (Flow.ofExcept r : Flow σ α) := ofExcept fun _ _ => trivial

theorem pure {a : α} (h : P a) : Within K (Pure.pure a : Flow σ α) P := ofExcept fun _ ha => Except.ok.inj ha ▸ h

theorem fail (e : Fault) : Within K (Flow.fail e : Flow σ α) P := ofExcept (r := .error e) fun _ ha => nomatch ha

theorem bind {m : Flow σ α} {f : α → Flow σ β} (hm : Within K m P) (hf : ∀ a, P a → Within K (f a) Q) : Within K (m >>= f) Q :=
  fun _ hcont => hm _ fun
    | .ok a, ha => hf a (ha a rfl) _ hcont
    | .error _, _ => hcont _ fun _ h => nomatch h

theorem mono {m : Flow σ α} {P' : α → Prop} (hm : Within K m P) (h : ∀ a, P a → P' a) : Within K m P' :=
  fun _ hcont => hm _ fun r hr => hcont r fun a ha => h a (hr a ha)

theorem attempt {m : Flow σ α} (hm : Within K m P) : Within K (Flow.attempt m) fun r => ∀ a, r = .ok a → P a :=
  fun _ hcont => hm _ fun r hr => hcont (.ok r) fun _ ha => Except.ok.inj ha ▸ hr

theorem discard {m : Flow σ α} (hm : Within K m P) : Within K (discard m) := bind hm fun _ _ => pure trivial

end Flow.Within

/-- A part of a program that keeps to a protocol, whatever comes after it, and gives values of a kind. -/
def Flow.Obeys (C : Protocol σ S) (m : Flow σ α) (P : α → Prop := fun _ => True) : Prop :=
  ∀ cont : Except Fault α → Proc σ, (∀ r, (∀ a, r = .ok a → P a) → (cont r).Obeys C C.idle) → (m cont).Obeys C C.idle

namespace Flow.Obeys

variable {C : Protocol σ S} {P : α → Prop} {Q : β → Prop}

theorem iff_within {m : Flow σ α} : Obeys C m P ↔ Within (Proc.Obeys C C.idle) m P := Iff.rfl

theorem ofExcept {r : Except Fault α} (h : ∀ a, r = .ok a → P a) : Obeys C (Flow.ofExcept r : Flow σ α) P := iff_within.mpr (.ofExcept h)

theorem pure {a : α} (h : P a) : Obeys C (Pure.pure a : Flow σ α) P := iff_within.mpr (.pure h)

theorem fail (e : Fault) : Obeys C (Flow.fail e : Flow σ α) P := iff_within.mpr (.fail e)

theorem bind {m : Flow σ α} {f : α → Flow σ β} (hm : Obeys C m P) (hf : ∀ a, P a → Obeys C (f a) Q) : Obeys C (m >>= f) Q :=
  iff_within.mpr (.bind (iff_within.mp hm) fun a ha => iff_within.mp (hf a ha))

theorem mono {m : Flow σ α} {P' : α → Prop} (hm : Obeys C m P) (h : ∀ a, P a → P' a) : Obeys C m P' :=
  iff_within.mpr ((iff_within.mp hm).mono h)

theorem attempt {m : Flow σ α} (hm : Obeys C m P) : Obeys C (Flow.attempt m) fun r => ∀ a, r = .ok a → P a :=
  iff_within.mpr (iff_within.mp hm).attempt

theorem modifyGet {f : LoopState σ → α × LoopState σ}
    (h : ∀ next : α → Proc σ, C.allows C.idle (fun st => let (a, st) := f st; (st, next a)) fun _ => C.idle) (hP : ∀ st, P (f st).1) :
    Obeys C (Flow.modifyGet f) P :=
  fun cont hcont => .access (h fun a => cont (.ok a)) fun st => hcont _ fun _ ha => Except.ok.inj ha ▸ hP st

theorem await (f : FutureId) : Obeys C (Flow.await f) := fun _ hcont => .await C.rests_idle fun r => hcont r fun _ _ => trivial

theorem turn : Obeys C (Flow.turn : Flow σ Unit) := fun _ hcont => .turn C.rests_idle fun
  | .ok _ => hcont _ fun _ _ => trivial
  | .error _ => hcont _ fun _ _ => trivial

theorem spawn {body : Flow σ Data} (h : Obeys C body) : Obeys C (Flow.spawn body) :=
  fun _ hcont => .spawn C.rests_idle (fun _ => h _ fun r _ => .finish r) fun _ => hcont _ fun _ _ => trivial

theorem spawnWatched {body : FutureId → Flow σ Data} (h : ∀ t, Obeys C (body t)) : Obeys C (Flow.spawnWatched body) :=
  fun _ hcont => .spawn C.rests_idle (fun t => h t _ fun r _ => .finish r) fun _ => hcont _ fun _ _ => trivial

end Flow.Obeys

namespace Loop

variable {l l' : Loop σ} {t : FutureId}

/-! ## Tasks and the kinds of their programs -/

section Tasked

variable {K W K' W' : FutureId → Proc σ → Prop}

/-- The task under way has a program of its kind, and tasks that wait go on with programs of a kind. -/
structure Tasked (K W : FutureId → Proc σ → Prop) (l : Loop σ) : Prop where
  running {t : FutureId} {p : Proc σ} (h : l.focus = some (t, p)) : t < l.state.kernel.futures.size ∧ l.next? t = none ∧ K t p
  parked {t : FutureId} {next : Except Fault Data → Proc σ} (h : l.next? t = some next) :
    t < l.state.kernel.futures.size ∧ ∀ r, W t (next r)

/-- What programs of a kind do next when they make no access: then their tasks may wait. New tasks have numbers that were not in use. -/
structure Lasting (n : Nat) (K W : FutureId → Proc σ → Prop) : Prop where
  goesOn {t : FutureId} {p : Proc σ} (h : W t p) : K t p
  starts {t : FutureId} {watched : Bool} {body next : FutureId → Proc σ} (h : K t (.spawn watched body next)) {u : FutureId} (hu : n ≤ u) :
    (∀ x, W u (body x)) ∧ ∀ e, W u (.finish (.error e))
  spawn {t : FutureId} {watched : Bool} {body next : FutureId → Proc σ} (h : K t (.spawn watched body next)) (x : FutureId) : W t (next x)
  await {t f : FutureId} {next : Except Fault Data → Proc σ} (h : K t (.await f next)) (r : Except Fault Data) : W t (next r)
  turn {t : FutureId} {next : Except Fault Data → Proc σ} (h : K t (.turn next)) (r : Except Fault Data) : W t (next r)

/-- A loop without tasks. -/
theorem Tasked.empty (state : LoopState σ) : ({ state := state } : Loop σ).Tasked K W where
  running hp := nomatch hp
  parked {t next} hn := by simp [next?] at hn

/-- Tasks go on with what they had before them, or start. -/
theorem Tasked.goesOn (h : l.Tasked K W) (hsize : l.state.kernel.futures.size ≤ l'.state.kernel.futures.size)
    (hrunning : ∀ t p, l'.focus = some (t, p) → t < l'.state.kernel.futures.size ∧ l'.next? t = none ∧ K t p)
    (hparked : ∀ t next, l'.next? t = some next → l.next? t = some next ∨ t < l'.state.kernel.futures.size ∧ ∀ r, W t (next r)) : l'.Tasked K W where
  running hp := hrunning _ _ hp
  parked hn := (hparked _ _ hn).elim (fun hn => ⟨(h.parked hn).1.trans_le hsize, (h.parked hn).2⟩) id

/-- A task goes on with an access, after which its program may be of another kind. -/
theorem Tasked.accessed (h : l.Tasked K W) {f : LoopState σ → LoopState σ × Proc σ} (hf : l.focus = some (t, .access f))
    (hsize : l.state.kernel.futures.size ≤ (f l.state).1.kernel.futures.size) (hnext : K' t (f l.state).2)
    (hothers : ∀ u p, u ≠ t → W u p → W' u p) : (l.accessed t f).Tasked K' W' := by
  obtain ⟨hlt, hnone, -⟩ := h.running hf
  refine ⟨fun hp => ?_, fun {u next} hn => ?_⟩
  · cases hp
    exact ⟨hlt.trans_le hsize, hnone, hnext⟩
  · obtain ⟨hu, hparked⟩ := h.parked hn
    have hne : u ≠ t := fun heq => by
      rw [heq] at hn
      exact absurd (hn.symm.trans hnone) (by simp)
    exact ⟨hu.trans_le hsize, fun r => hothers _ _ hne (hparked r)⟩

/-- What becomes of a loop without an access: the world stays, no future is forgotten, and the task under way could wait. -/
structure Quiet (K W : FutureId → Proc σ → Prop) (l l' : Loop σ) : Prop where
  world : l'.state.world = l.state.world
  size : l.state.kernel.futures.size ≤ l'.state.kernel.futures.size
  tasked : l'.Tasked K W
  waits {t : FutureId} {p : Proc σ} (h : l'.focus = some (t, p)) : W t p

theorem Quiet.of_focus_none (hworld : l'.state.world = l.state.world) (hsize : l.state.kernel.futures.size ≤ l'.state.kernel.futures.size)
    (h : l'.Tasked K W) (hf : l'.focus = none) : Quiet K W l l' := ⟨hworld, hsize, h, fun hp => by cases hf.symm.trans hp⟩

theorem Quiet.of_focus {p : Proc σ} (hworld : l'.state.world = l.state.world) (hsize : l.state.kernel.futures.size ≤ l'.state.kernel.futures.size)
    (h : l'.Tasked K W) (hf : l'.focus = some (t, p)) (hp : W t p) : Quiet K W l l' := ⟨hworld, hsize, h, fun hq => by cases hf.symm.trans hq; exact hp⟩

/-- A task that waits is taken up. -/
theorem Tasked.resume (h : l.Tasked K W) (hK : ∀ t p, W t p → K t p) (input : Except Fault Data) (hf : l.focus = none) :
    Quiet K W l (l.resume t input) := by
  cases hn : l.next? t with
  | none =>
    rw [resume_of_none hn]
    exact .of_focus_none rfl le_rfl h hf
  | some next =>
    rw [resume_of_some hn]
    obtain ⟨hlt, hnext⟩ := h.parked hn
    have hsize : (l.state.kernel.enterTask t input).1.futures.size = l.state.kernel.futures.size := by simp [Kernel.enterTask]
    refine .of_focus rfl hsize.ge (h.goesOn hsize.ge (fun u p hp => ?_) fun u next' hn' => ?_) rfl (hnext _)
    · cases hp
      exact ⟨hlt.trans_le hsize.ge, (next?_takenUp ..).trans (if_pos rfl), hK _ _ (hnext _)⟩
    · rw [next?_takenUp] at hn'
      split at hn'
      · cases hn'
      · exact .inl hn'

/-- The task under way waits. -/
theorem Tasked.park (h : l.Tasked K W) {next : Except Fault Data → Proc σ} {k : Kernel → Kernel} (hlt : t < l.state.kernel.futures.size)
    (hk : l.state.kernel.futures.size ≤ (k l.state.kernel).futures.size) (hnext : ∀ r, W t (next r)) :
    ({ (l.park t next).withKernel k with focus := none } : Loop σ).Tasked K W := by
  refine h.goesOn hk (fun u p hp => by cases hp) fun u next' hn => ?_
  rw [show ({ (l.park t next).withKernel k with focus := none } : Loop σ).next? u = (l.park t next).next? u from rfl, next?_park] at hn
  split at hn
  · rename_i hu
    cases hn
    exact .inr ⟨hu ▸ hlt.trans_le hk, hu ▸ hnext⟩
  · exact .inl hn

theorem size_start (l : Loop σ) (watched : Bool) (body : FutureId → Proc σ) :
    l.state.kernel.futures.size < (l.start watched body).1.state.kernel.futures.size := by
  change l.state.kernel.futures.size < (l.state.kernel.newTask watched).1.futures.size
  rw [Kernel.newTask_fst, Kernel.futures_queue, Kernel.size_newFuture]
  exact Nat.lt_succ_self _

/-- What waits when a task has been added: what waited before, and the new task. -/
theorem Tasked.parked_start (watched : Bool) {body : FutureId → Proc σ}
    (hbody : ∀ x, W l.state.kernel.futures.size (body x)) (hcancelled : ∀ e, W l.state.kernel.futures.size (.finish (.error e)))
    {u : FutureId} {next : Except Fault Data → Proc σ} (hn : (l.start watched body).1.next? u = some next) :
    l.next? u = some next ∨ u < (l.start watched body).1.state.kernel.futures.size ∧ ∀ r, W u (next r) := by
  by_cases hu : u = l.state.kernel.futures.size
  · subst hu
    cases (next?_start_self l watched body).symm.trans hn
    refine .inr ⟨size_start l watched body, fun r => ?_⟩
    cases r with
    | ok d => exact hbody _
    | error e => exact hcancelled e
  · exact .inl ((next?_start_of_ne l watched body hu).symm.trans hn)

/-- A task is added from outside. -/
theorem Tasked.start (h : l.Tasked K W) (watched : Bool) {body : FutureId → Proc σ}
    (hbody : ∀ x, W l.state.kernel.futures.size (body x)) (hcancelled : ∀ e, W l.state.kernel.futures.size (.finish (.error e))) :
    (l.start watched body).1.Tasked K W := by
  have hsize := size_start l watched body
  refine h.goesOn hsize.le (fun u p hp => ?_) fun _ _ hn => Tasked.parked_start watched hbody hcancelled hn
  obtain ⟨hlt, hnone, hp⟩ := h.running (show l.focus = some (u, p) from hp)
  exact ⟨hlt.trans hsize, (next?_start_of_ne l watched body hlt.ne).trans hnone, hp⟩

/-- The task under way starts another one. -/
theorem Tasked.spawn (h : l.Tasked K W) {watched : Bool} {body : FutureId → Proc σ} {p : Proc σ} (hlt : t < l.state.kernel.futures.size)
    (hnone : l.next? t = none) (hbody : ∀ x, W l.state.kernel.futures.size (body x)) (hcancelled : ∀ e, W l.state.kernel.futures.size (.finish (.error e)))
    (hp : K t p) : ({ (l.start watched body).1 with focus := some (t, p) } : Loop σ).Tasked K W := by
  have hsize := size_start l watched body
  refine h.goesOn hsize.le (fun u q hq => ?_) fun u next hn => Tasked.parked_start watched hbody hcancelled hn
  cases hq
  exact ⟨hlt.trans hsize, (next?_start_of_ne l watched body hlt.ne).trans hnone, hp⟩

/-- A job is done while no task is under way. -/
theorem Tasked.takeJob (h : l.Tasked K W) (hK : ∀ t p, W t p → K t p) (hf : l.focus = none) (j : Job) : Quiet K W l (l.takeJob j) := by
  unfold Loop.takeJob
  split
  · exact h.resume hK _ hf
  · split
    · exact h.resume hK _ hf
    · exact .of_focus_none rfl le_rfl h hf
  · rename_i source c _
    have hsize := (l.state.kernel.grows_runCallback source c).size
    exact .of_focus_none rfl hsize (h.goesOn hsize (fun u p hp => by cases hf.symm.trans hp) fun u next hn => .inl hn) hf

/-- **A step that is no access** leaves the world alone, and all tasks go on with programs of their kinds. -/
theorem Tasked.step (h : l.Tasked K W) (hK : Lasting l.state.kernel.futures.size K W) (hno : ∀ t f, l.focus ≠ some (t, .access f))
    (hs : l.step = some l') : Quiet K W l l' := by
  cases hf : l.focus with
  | some tp =>
    obtain ⟨t, p⟩ := tp
    obtain ⟨hlt, hnone, hp⟩ := h.running hf
    simp only [Loop.step, hf, Option.some.injEq] at hs
    subst hs
    cases p with
    | access f => exact absurd hf (hno _ _)
    | finish r =>
      have hsize := (l.state.kernel.calm_finishTask t r).size
      exact .of_focus_none rfl hsize (h.goesOn hsize (fun u p hp => by cases hp) fun u next hn => .inl hn) rfl
    | spawn watched body next =>
      obtain ⟨hbody, hcancelled⟩ := hK.starts hp le_rfl
      exact .of_focus rfl (size_start l watched body).le (h.spawn hlt hnone hbody hcancelled (hK.goesOn (hK.spawn hp _))) rfl (hK.spawn hp _)
    | await f next =>
      have hnext := hK.await hp
      simp only [advance]
      split
      · refine .of_focus rfl le_rfl (h.goesOn le_rfl (fun u p hp => ?_) fun u next' hn => .inl hn) rfl (hnext _)
        cases hp
        exact ⟨hlt, hnone, hK.goesOn (hnext _)⟩
      · have hsize : l.state.kernel.futures.size ≤ (l.state.kernel.waitFor t f).futures.size := by
          simpa using (l.state.kernel.grows_waitFor t f).size
        exact .of_focus_none rfl hsize (h.park (k := (·.waitFor t f)) hlt hsize hnext) rfl
    | turn next =>
      exact .of_focus_none rfl le_rfl (h.park (k := (·.queue [.resume t (.ok .null)])) hlt le_rfl (hK.turn hp)) rfl
  | none =>
    simp only [Loop.step, hf] at hs
    split at hs
    · cases hs
    · rename_i j rest hready
      simp only [Option.some.injEq] at hs
      subst hs
      have hdequeued : (l.withKernel fun k => { k with ready := rest }).Tasked K W :=
        h.goesOn le_rfl (fun u p hp => by cases hf.symm.trans hp) fun u next hn => .inl hn
      have hquiet := hdequeued.takeJob (fun _ _ => hK.goesOn) hf j
      exact ⟨hquiet.world, hquiet.size, hquiet.tasked, hquiet.waits⟩

end Tasked

/-! ## Tasks that keep to a protocol -/

variable {C : Protocol σ S} {duty : FutureId → S}

/-- A loop whose tasks keep to a protocol, each with a duty. -/
structure Conforms (C : Protocol σ S) (duty : FutureId → S) (l : Loop σ) : Prop where
  running {t : FutureId} {p : Proc σ} (h : l.focus = some (t, p)) : t < l.state.kernel.futures.size ∧ l.next? t = none ∧ p.Obeys C (duty t)
  parked {t : FutureId} {next : Except Fault Data → Proc σ} (h : l.next? t = some next) :
    t < l.state.kernel.futures.size ∧ C.rests (duty t) ∧ ∀ r, (next r).Obeys C (duty t)
  unborn {t : FutureId} (h : l.state.kernel.futures.size ≤ t) : duty t = C.idle

/-- The task under way may wait. -/
def Rests (C : Protocol σ S) (duty : FutureId → S) (l : Loop σ) : Prop := ∀ t p, l.focus = some (t, p) → C.rests (duty t)

theorem conforms_iff : l.Conforms C duty ↔
    l.Tasked (fun t p => p.Obeys C (duty t)) (fun t p => C.rests (duty t) ∧ p.Obeys C (duty t)) ∧
      ∀ t, l.state.kernel.futures.size ≤ t → duty t = C.idle := by
  constructor
  · refine fun h => ⟨⟨h.running, fun hn => ?_⟩, fun t => h.unborn⟩
    obtain ⟨hlt, hrests, hnext⟩ := h.parked hn
    exact ⟨hlt, fun r => ⟨hrests, hnext r⟩⟩
  · refine fun h => ⟨h.1.running, fun hn => ?_, fun ht => h.2 _ ht⟩
    obtain ⟨hlt, hnext⟩ := h.1.parked hn
    exact ⟨hlt, (hnext (.ok .null)).1, fun r => (hnext r).2⟩

/-- A task goes on with an access. -/
theorem Conforms.accessed (h : l.Conforms C duty) {f : LoopState σ → LoopState σ × Proc σ} {after : LoopState σ → S}
    (hf : l.focus = some (t, .access f)) (ha : C.allows (duty t) f after) (hnext : ∀ st, (f st).2.Obeys C (after st)) :
    (l.accessed t f).Conforms C (Function.update duty t (after l.state)) := by
  obtain ⟨htasked, hunborn⟩ := conforms_iff.mp h
  have hgrows := C.grows ha l.state
  refine conforms_iff.mpr ⟨htasked.accessed hf hgrows ?_ fun u p hu hp => ?_, fun u hu => ?_⟩
  · rw [Function.update_self]
    exact hnext _
  · rwa [Function.update_of_ne hu]
  · rw [Function.update_of_ne ((h.running hf).1.trans_le (hgrows.trans hu)).ne']
    exact hunborn _ (hgrows.trans hu)

/-- Tasks go on with what they had before them, or start. -/
theorem Conforms.goesOn (h : l.Conforms C duty) (hsize : l.state.kernel.futures.size ≤ l'.state.kernel.futures.size)
    (hrunning : ∀ t p, l'.focus = some (t, p) → t < l'.state.kernel.futures.size ∧ l'.next? t = none ∧ p.Obeys C (duty t))
    (hparked : ∀ t next, l'.next? t = some next → l.next? t = some next ∨
      t < l'.state.kernel.futures.size ∧ C.rests (duty t) ∧ ∀ r, (next r).Obeys C (duty t)) : l'.Conforms C duty := by
  obtain ⟨htasked, hunborn⟩ := conforms_iff.mp h
  refine conforms_iff.mpr ⟨htasked.goesOn hsize hrunning fun t next hn => ?_, fun t ht => hunborn _ (hsize.trans ht)⟩
  exact (hparked t next hn).imp_right fun ⟨hlt, hrests, hnext⟩ => ⟨hlt, fun r => ⟨hrests, hnext r⟩⟩

/-- A task is added from outside. -/
theorem Conforms.start (h : l.Conforms C duty) (watched : Bool) {body : FutureId → Proc σ} (hbody : ∀ u, (body u).Obeys C C.idle) :
    (l.start watched body).1.Conforms C duty := by
  obtain ⟨htasked, hunborn⟩ := conforms_iff.mp h
  have hidle : duty l.state.kernel.futures.size = C.idle := hunborn _ le_rfl
  refine conforms_iff.mpr ⟨htasked.start watched (fun x => ?_) fun e => ?_, fun t ht => hunborn _ ((size_start l watched body).le.trans ht)⟩
  · rw [hidle]
    exact ⟨C.rests_idle, hbody x⟩
  · rw [hidle]
    exact ⟨C.rests_idle, .finish _⟩

/-- A loop without tasks. -/
theorem Conforms.empty (state : LoopState σ) : ({ state := state } : Loop σ).Conforms C fun _ => C.idle :=
  conforms_iff.mpr ⟨.empty state, fun _ _ => rfl⟩

theorem Conforms.lasting (h : l.Conforms C duty) :
    Lasting l.state.kernel.futures.size (fun t p => p.Obeys C (duty t)) fun t p => C.rests (duty t) ∧ p.Obeys C (duty t) where
  goesOn h := h.2
  starts {_ _ _ _} hp {_} hu := by
    obtain ⟨-, hstarted, -⟩ := hp.of_spawn
    rw [h.unborn hu]
    exact ⟨fun x => ⟨C.rests_idle, hstarted x⟩, fun e => ⟨C.rests_idle, .finish _⟩⟩
  spawn hp x := ⟨hp.of_spawn.1, hp.of_spawn.2.2 x⟩
  await hp r := ⟨hp.of_await.1, hp.of_await.2 r⟩
  turn hp r := ⟨hp.of_turn.1, hp.of_turn.2 r⟩

/-- A task that makes no access may wait. -/
theorem Conforms.rests (h : l.Conforms C duty) (hno : ∀ t f, l.focus ≠ some (t, .access f)) : Rests C duty l := fun t p hp => by
  obtain ⟨-, -, hobeys⟩ := h.running hp
  cases p with
  | access f => exact absurd hp (hno _ _)
  | finish r =>
    generalize duty t = s at hobeys
    cases hobeys
    exact C.rests_idle
  | spawn => exact hobeys.of_spawn.1
  | await => exact hobeys.of_await.1
  | turn => exact hobeys.of_turn.1

/-- **A step of a loop that conforms** is an access that the protocol allows, or the world stays as it is and the task under way may wait. -/
theorem Conforms.step (h : l.Conforms C duty) (hs : l.step = some l') :
    (∃ t f after, l.focus = some (t, .access f) ∧ C.allows (duty t) f after ∧ l' = l.accessed t f ∧
      l'.Conforms C (Function.update duty t (after l.state))) ∨
    ((∀ t f, l.focus ≠ some (t, .access f)) ∧ l'.state.world = l.state.world ∧ l'.Conforms C duty ∧ Rests C duty l ∧ Rests C duty l') := by
  by_cases hf : ∃ t f, l.focus = some (t, .access f)
  · obtain ⟨t, f, hf⟩ := hf
    obtain ⟨-, -, hobeys⟩ := h.running hf
    obtain rfl : l.accessed t f = l' := by simpa [Loop.step, hf, advance, Loop.accessed] using hs
    obtain ⟨after, hallows, hnext⟩ := hobeys.of_access
    exact .inl ⟨t, f, after, hf, hallows, rfl, h.accessed hf hallows hnext⟩
  · have hno (t : FutureId) (f : LoopState σ → LoopState σ × Proc σ) : l.focus ≠ some (t, .access f) := fun hf' => hf ⟨t, f, hf'⟩
    obtain ⟨htasked, hunborn⟩ := conforms_iff.mp h
    have hquiet := htasked.step h.lasting hno hs
    exact .inr ⟨hno, hquiet.world, conforms_iff.mpr ⟨hquiet.tasked, fun u hu => hunborn _ (hquiet.size.trans hu)⟩, h.rests hno,
      fun _ _ hp => (hquiet.waits hp).1⟩

/-- A task that has not ended: it is under way or waits. -/
def Lives (l : Loop σ) (t : FutureId) : Prop := (∃ p, l.focus = some (t, p)) ∨ (l.next? t).isSome

theorem Lives.resume (h : (l.next? t).isSome) (u : FutureId) (input : Except Fault Data) : (l.resume u input).Lives t := by
  cases hn : l.next? u with
  | none =>
    rw [resume_of_none hn]
    exact .inr h
  | some next =>
    rw [resume_of_some hn, Lives, next?_takenUp]
    by_cases htu : t = u
    · rw [htu]
      exact .inl ⟨_, rfl⟩
    · rw [if_neg htu]
      exact .inr h

theorem Lives.takeJob (h : (l.next? t).isSome) (j : Job) : (l.takeJob j).Lives t := by
  unfold Loop.takeJob
  split
  · exact .resume h _ _
  · split
    · exact .resume h _ _
    · exact .inr h
  · exact .inr h

theorem isSome_next?_start (h : (l.next? t).isSome) (watched : Bool) (body : FutureId → Proc σ) :
    ((l.start watched body).1.next? t).isSome := by
  by_cases ht : t = l.state.kernel.futures.size
  · rw [ht, next?_start_self]
    rfl
  · rwa [next?_start_of_ne l watched body ht]

section Lives

variable {u : FutureId} {p q : Proc σ}

/-- The task under way goes on. -/
theorem Lives.goesOn (h : l.Lives t) (hf : l.focus = some (u, p)) (hf' : l'.focus = some (u, q))
    (hn : (l.next? t).isSome → (l'.next? t).isSome) : l'.Lives t := by
  rcases h with ⟨p', hp'⟩ | h
  · cases hf.symm.trans hp'
    exact .inl ⟨q, hf'⟩
  · exact .inr (hn h)

/-- The task under way waits. -/
theorem Lives.park (h : l.Lives t) (hf : l.focus = some (u, p)) (next : Except Fault Data → Proc σ)
    (hn : ∀ x, l'.next? x = (l.park u next).next? x) : l'.Lives t := by
  rw [Lives, hn, next?_park]
  rcases h with ⟨p', hp'⟩ | h
  · cases hf.symm.trans hp'
    rw [if_pos rfl]
    exact .inr rfl
  · split
    · exact .inr rfl
    · exact .inr h

/-- **A task lives until it finishes.** -/
theorem Lives.step (h : l.Lives t) (hs : l.step = some l') : l'.Lives t ∨ ∃ r, l.focus = some (t, .finish r) := by
  cases hf : l.focus with
  | some up =>
    obtain ⟨u, p⟩ := up
    simp only [Loop.step, hf, Option.some.injEq] at hs
    subst hs
    cases p with
    | finish r =>
      rcases h with ⟨q, hq⟩ | h
      · cases hf.symm.trans hq
        exact .inr ⟨r, rfl⟩
      · exact .inl (.inr h)
    | access f => exact .inl (h.goesOn hf rfl id)
    | spawn watched body next => exact .inl (h.goesOn hf rfl fun h => isSome_next?_start h watched body)
    | await f next =>
      simp only [advance]
      split
      · exact .inl (h.goesOn hf rfl id)
      · exact .inl (h.park hf next fun _ => rfl)
    | turn next => exact .inl (h.park hf next fun _ => rfl)
  | none =>
    have hwaits : (l.next? t).isSome := h.resolve_left <| by
      rintro ⟨q, hq⟩
      cases hf.symm.trans hq
    simp only [Loop.step, hf] at hs
    split at hs
    · cases hs
    · simp only [Option.some.injEq] at hs
      subst hs
      exact .inl (Lives.takeJob (l := l.withKernel _) hwaits _)

end Lives

theorem step_of_access {f : LoopState σ → LoopState σ × Proc σ} (hf : l.focus = some (t, .access f)) : l.step = some (l.accessed t f) := by
  rw [Loop.step, hf]
  rfl

/-- The loops that steps lead to. -/
def Steps : Loop σ → Loop σ → Prop := Relation.ReflTransGen fun l l' => l.step = some l'

theorem steps_runWhile (continues : Loop σ → Bool) (n : Nat) (l : Loop σ) : Steps l (runWhile continues n l) := by
  induction n generalizing l with
  | zero => exact .refl
  | succ n ih =>
    unfold runWhile
    split
    · split
      · rename_i l' hs
        exact .head hs (ih l')
      · exact .refl
    · exact .refl

/-- The loop of a program that runs alone. -/
def ofProgram (world : σ) (body : Flow σ Data) : Loop σ := (({ state := { world := world } } : Loop σ).start false fun _ => body .finish).1

theorem conforms_ofProgram (world : σ) {body : Flow σ Data} (h : Flow.Obeys C body) : (ofProgram world body).Conforms C fun _ => C.idle :=
  (Conforms.empty { world := world }).start false fun _ => h _ fun r _ => .finish r

/-- Running a program is running its loop until the task of the program has ended. -/
theorem world_runMain (world : σ) (body : Flow σ Data) : (runMain world body).2 = ((ofProgram world body).runUntil 0).state.world := by
  unfold runMain
  dsimp only
  split <;> rfl

/-- Running a program takes steps of its loop. -/
theorem steps_runMain (world : σ) (body : Flow σ Data) : ∃ l, Steps (ofProgram world body) l ∧ (runMain world body).2 = l.state.world :=
  ⟨_, steps_runWhile _ Loop.steps _, world_runMain world body⟩

end Loop

end ScriptFlow
