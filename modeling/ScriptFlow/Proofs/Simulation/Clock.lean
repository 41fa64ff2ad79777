import Mathlib
import ScriptFlow.Proofs.Simulation.Timely
import ScriptFlow.Proofs.Simulation.Waking

/-!
# The clock of the simulated engine

Pauses overlap: each computes its wake-up time when it begins, and moves the clock when it ends, which may be past that time by then. In the record of a run a pause
leaves a mark where it has computed its wake-up time, and another where it moves the clock.

* `Simulator.Marks` — the marks of a step; `Simulator.Passages` — runs with their marks; `Simulator.Engaged` — everything that can become of an engine.
* `Simulator.Chronicle` — a record that is in order: every pause begins at the time that the clock shows, and what completes is what the task began last.
* `Simulator.Punctual` — the invariant; `Simulator.OnTime.node` — a node keeps it.
* `Simulator.clock_is_latest_wake_up` — **the clock shows the latest wake-up time of the completed pauses**, whatever the order of all steps is.
-/

namespace ScriptFlow

namespace Simulator

open Kernel Loop

variable {p : Proc (World Simulator)} {ctx ctx' : Context} {seconds : Float} {wake wake' : Int} {cont cont' : Except Fault Unit → Proc (World Simulator)}
  {st : LoopState (World Simulator)} {d : Data}

/-! ## Pauses in a run -/

theorem wakeTime_eq_ok {clock : Int} (h : wakeTime clock seconds = .ok wake) : ∃ us, Span.ofSeconds seconds = .ok us ∧ wake = clock + us := by
  unfold wakeTime at h
  cases hspan : Span.ofSeconds seconds with
  | error e =>
    rw [hspan] at h
    cases h
  | ok us =>
    rw [hspan] at h
    change Instant.after clock us = .ok wake at h
    unfold Instant.after at h
    dsimp only at h
    split at h
    · exact ⟨us, rfl, (Except.ok.inj h).symm⟩
    · cases h

/-- A pause: who made it and when, for how many seconds, and when it is over. -/
structure Pause where
  task : FutureId
  begun : Int
  seconds : Float
  wake : Int

/-- What pauses leave in the record of a run. -/
inductive Mark where
  /-- a task knows its wake-up time, and is about to sleep -/
  | began (x : Pause)
  /-- the pause of a task did not fail -/
  | completed (t : FutureId) (wake : Int)

/-- The task that leaves the mark. -/
def Mark.task : Mark → FutureId
  | .began x => x.task
  | .completed t _ => t

/-- A time is the latest of the start and the wake-up times of the completed pauses. -/
def IsLatest (log : List Mark) (clock : Int) : Prop := IsGreatest {i | i = 0 ∨ ∃ t, Mark.completed t i ∈ log} clock

/-- A pause is what its task began last. -/
def BegunLast (log : List Mark) (x : Pause) : Prop := ∃ before after, log = before ++ .began x :: after ∧ ∀ m ∈ after, m.task ≠ x.task

/-- Every pause begins at the latest time so far and adds its microseconds to this, and what completes is the pause that the task began last. -/
inductive Chronicle : List Mark → Prop where
  | nil : Chronicle []
  | began {log : List Mark} {x : Pause} {us : Int} (h : Chronicle log) (hbegun : IsLatest log x.begun)
      (hspan : Span.ofSeconds x.seconds = .ok us) (hwake : x.wake = x.begun + us) : Chronicle (log ++ [.began x])
  | completed {log : List Mark} {x : Pause} (h : Chronicle log) (hlast : BegunLast log x) : Chronicle (log ++ [.completed x.task x.wake])

section Chronicle

variable {log marks : List Mark} {clock : Int} {x : Pause} {t : FutureId}

theorem isLatest_nil : IsLatest [] 0 := ⟨.inl rfl, fun i hi => by
  obtain rfl | ⟨t, ht⟩ := hi
  · exact le_rfl
  · cases ht⟩

theorem IsLatest.began (h : IsLatest log clock) (x : Pause) : IsLatest (log ++ [.began x]) clock := by
  simpa [IsLatest] using h

/-- Times do not go back. -/
theorem IsLatest.le {clock' : Int} (h : IsLatest log clock) (h' : IsLatest (log ++ marks) clock') : clock ≤ clock' :=
  h'.2 (h.1.imp_right fun ⟨t, ht⟩ => ⟨t, List.mem_append_left _ ht⟩)

/-- Only a completed pause moves the clock. -/
theorem IsLatest.eq {clock' : Int} (h : IsLatest log clock) (h' : IsLatest (log ++ marks) clock')
    (hmarks : ∀ t wake, .completed t wake ∉ marks) : clock' = clock := by
  refine le_antisymm (h.2 (h'.1.imp_right fun ⟨t, ht⟩ => ⟨t, ?_⟩)) (h.le h')
  exact (List.mem_append.mp ht).resolve_right (hmarks t clock')

theorem IsLatest.completed (h : IsLatest log clock) (t : FutureId) (wake : Int) :
    IsLatest (log ++ [.completed t wake]) (max clock wake) := by
  refine ⟨?_, fun i hi => ?_⟩
  · obtain hle | hle := le_total clock wake
    · rw [max_eq_right hle]
      exact .inr ⟨t, by simp⟩
    · rw [max_eq_left hle]
      exact h.1.imp_right fun ⟨u, hu⟩ => ⟨u, List.mem_append_left _ hu⟩
  · obtain rfl | ⟨u, hu⟩ := hi
    · exact le_max_of_le_left (h.2 (.inl rfl))
    · obtain hu | hu := List.mem_append.mp hu
      · exact le_max_of_le_left (h.2 (.inr ⟨u, hu⟩))
      · cases List.mem_singleton.mp hu
        exact le_max_right _ _

theorem begunLast_concat (log : List Mark) (x : Pause) : BegunLast (log ++ [.began x]) x := ⟨log, [], rfl, fun _ hm => nomatch hm⟩

theorem BegunLast.append (h : BegunLast log x) (hmarks : ∀ m ∈ marks, m.task ≠ x.task) : BegunLast (log ++ marks) x := by
  obtain ⟨before, after, rfl, hafter⟩ := h
  refine ⟨before, after ++ marks, by simp, fun m hm => ?_⟩
  exact (List.mem_append.mp hm).elim (hafter m) (hmarks m)

end Chronicle

/-- The marks that a step leaves. -/
inductive Marks (l : Loop (World Simulator)) : List Mark → Prop where
  | began {t : FutureId} {ctx : Context} {seconds : Float} {wake : Int} {cont : Except Fault Unit → Proc (World Simulator)}
      (hf : l.focus = some (t, settingOut ctx seconds cont)) (hw : wakeTime l.state.world.engine.clock seconds = .ok wake) :
      Marks l [.began ⟨t, l.state.world.engine.clock, seconds, wake⟩]
  | completed {t : FutureId} {wake : Int} {cont : Except Fault Unit → Proc (World Simulator)} (hf : l.focus = some (t, advancing wake cont)) :
      Marks l [.completed t wake]
  | silent (hbegan : ∀ t ctx seconds cont wake, l.focus = some (t, settingOut ctx seconds cont) →
      wakeTime l.state.world.engine.clock seconds ≠ .ok wake) (hcompleted : ∀ t wake cont, l.focus ≠ some (t, advancing wake cont)) : Marks l []

/-- Something that happens on a simulated engine, with the marks that it leaves. -/
inductive Passage (R : Rules) (l : Loop (World Simulator)) : List Mark → Loop (World Simulator) → Prop where
  | job {l'} (hf : l.focus = none) (hs : l.step = some l') : Passage R l [] l'
  | node {t p calls l' marks} (hf : l.focus = some (t, p)) (hp : Allows R t l.state p calls) (hs : l.step = some l') (hm : Marks l marks) :
      Passage R l marks l'
  | start (watched : Bool) {body : FutureId → Proc (World Simulator)} (hf : l.focus = none) (hR : ∀ a, ¬ R.bars a l.state.kernel.futures.size)
      (h : ∀ t, Timely (body t)) : Passage R l [] (l.start watched body).1
  | outside {calls k} (world : World Simulator) (hf : l.focus = none) (hk : Acts (R.bars none) R.calls l.state.kernel calls k)
      (h : world.engine.clock = l.state.world.engine.clock) : Passage R l [] { l with state := { kernel := k, world := world } }
  /-- the next loop on the same engine -/
  | again : Passage R l [] { state := { world := l.state.world } }

inductive Passages (R : Rules) (l : Loop (World Simulator)) : List Mark → Loop (World Simulator) → Prop where
  | refl : Passages R l [] l
  | tail {log marks l' l''} (h : Passages R l log l') (hp : Passage R l' marks l'') : Passages R l (log ++ marks) l''

/-- A task that goes on leaves marks, or none. -/
theorem exists_marks (l : Loop (World Simulator)) : ∃ marks, Marks l marks := by
  by_cases hbegan : ∃ t ctx seconds cont wake, l.focus = some (t, settingOut ctx seconds cont) ∧
      wakeTime l.state.world.engine.clock seconds = .ok wake
  · obtain ⟨t, ctx, seconds, cont, wake, hf, hw⟩ := hbegan
    exact ⟨_, .began hf hw⟩
  · by_cases hcompleted : ∃ t wake cont, l.focus = some (t, advancing wake cont)
    · obtain ⟨t, wake, cont, hf⟩ := hcompleted
      exact ⟨_, .completed hf⟩
    · exact ⟨[], .silent (fun t ctx seconds cont wake hf hw => hbegan ⟨t, ctx, seconds, cont, wake, hf, hw⟩)
        fun t wake cont hf => hcompleted ⟨t, wake, cont, hf⟩⟩

/-- **Every step is a passage.** -/
theorem exists_passage {R : Rules} {l l' : Loop (World Simulator)} {calls : List OwnerCall} (hm : Move R l calls l') (hs : l.step = some l') :
    ∃ marks, Passage R l marks l' := by
  obtain ⟨marks, hmarks⟩ := exists_marks l
  cases hm with
  | job hf => exact ⟨[], .job hf hs⟩
  | node hf hp => exact ⟨marks, .node hf hp hs hmarks⟩
  | outside _ hf => exact ⟨[], .job hf hs⟩
  | start _ _ hf => exact ⟨[], .job hf hs⟩

/-- What can become of a simulated engine. -/
def Engaged (R : Rules) (log : List Mark) (l : Loop (World Simulator)) : Prop :=
  ∃ world : World Simulator, world.engine.clock = 0 ∧ Passages R { state := { world := world } } log l

/-- Where a pause may be between its first step and its last. -/
inductive Stage (wake : Int) : Proc (World Simulator) → Prop where
  | turning (ctx : Context) {cont : Except Fault Unit → Proc (World Simulator)} (h : ∀ r, Timely (cont r)) : Stage wake (.turn (waking ctx wake cont))
  | woken (ctx : Context) {cont : Except Fault Unit → Proc (World Simulator)} (d : Data) (h : ∀ r, Timely (cont r)) :
      Stage wake (waking ctx wake cont (.ok d))
  | advancing {cont : Except Fault Unit → Proc (World Simulator)} (h : ∀ r, Timely (cont r)) : Stage wake (advancing wake cont)

/-- A task leaves the clock to pauses, and may be in the one that it began last. -/
def OnTime (log : List Mark) (t : FutureId) (p : Proc (World Simulator)) : Prop :=
  Timely p ∨ ∃ x, BegunLast log x ∧ x.task = t ∧ Stage x.wake p

section OnTime

variable {log marks : List Mark} {l l' : Loop (World Simulator)} {t u : FutureId}

theorem OnTime.append (h : OnTime log u p) (hmarks : ∀ m ∈ marks, m.task ≠ u) : OnTime (log ++ marks) u p := by
  obtain h | ⟨x, hx, rfl, hstage⟩ := h
  · exact .inl h
  · exact .inr ⟨x, hx.append hmarks, rfl, hstage⟩

theorem waking_ne_settingOut (hw : wakeTime st.world.engine.clock seconds = .ok wake') :
    waking ctx wake cont (.ok d) ≠ settingOut ctx' seconds cont' := fun h => by
  have hturns : nextOf { st with kernel := {} } (settingOut ctx' seconds cont') = .turn (waking ctx' wake' cont') := nextOf_settingOut hw
  rw [← h] at hturns
  cases hturns

theorem nextOf_waking_cases (st : LoopState (World Simulator)) (ctx : Context) (wake : Int) (cont : Except Fault Unit → Proc (World Simulator))
    (d : Data) : nextOf st (waking ctx wake cont (.ok d)) = cont (.error contextCancelled) ∨
      nextOf st (waking ctx wake cont (.ok d)) = advancing wake cont := by
  by_cases hc : st.kernel.scopes.isCancelled ctx.scope = true
  · exact .inl (if_pos hc)
  · exact .inr (if_neg hc)

/-- A pause that sets out comes to its turn. -/
theorem OnTime.setsOut (h : OnTime log t (settingOut ctx seconds cont)) (hw : wakeTime st.world.engine.clock seconds = .ok wake) :
    ∃ ctx' cont', (∀ r, Timely (cont' r)) ∧ nextOf st (settingOut ctx seconds cont) = .turn (waking ctx' wake cont') := by
  obtain h | ⟨x, -, -, hstage⟩ := h
  · obtain hnext | ⟨ctx', seconds', cont', wake', hp, hw', goesOn⟩ := h.nextOf st
    · rw [nextOf_settingOut hw] at hnext
      exact absurd hnext not_timely_turn_waking
    · have hturns : Proc.turn (waking ctx wake cont) = .turn (waking ctx' wake' cont') := by
        rw [← nextOf_settingOut hw, ← nextOf_settingOut hw', hp]
      rw [nextOf_settingOut hw, hturns, waking_inj (congrFun (Proc.turn.inj hturns) (.ok .null))]
      exact ⟨ctx', cont', goesOn, rfl⟩
  · exfalso
    generalize hp : settingOut ctx seconds cont = p at hstage
    cases hstage with
    | turning => cases hp
    | woken => exact waking_ne_settingOut hw hp.symm
    | advancing => exact not_keepsClock_advancing (hp ▸ keepsClock_settingOut ctx seconds cont)

/-- A pause that moves the clock is the one that its task began last. -/
theorem OnTime.moves (h : OnTime log t (advancing wake cont)) : ∃ x, BegunLast log x ∧ x.task = t ∧ x.wake = wake ∧ Timely (cont (.ok ())) := by
  obtain h | ⟨x, hx, ht, hstage⟩ := h
  · exact absurd h not_timely_advancing
  · generalize hp : advancing wake cont = p at hstage
    cases hstage with
    | turning => cases hp
    | woken ctx d => exact absurd (hp ▸ keepsClock_waking ctx x.wake _ d) not_keepsClock_advancing
    | @advancing cont' goesOn =>
      have hcont : cont (.ok ()) = cont' (.ok ()) := congrArg (nextOf (showing 0)) hp
      exact ⟨x, hx, ht, (advancing_inj hp).symm, hcont ▸ goesOn (.ok ())⟩

/-- Every other node leaves the clock alone. -/
theorem OnTime.quiet (h : OnTime log t p)
    (hbegan : ∀ ctx seconds cont wake, p = settingOut ctx seconds cont → wakeTime st.world.engine.clock seconds ≠ .ok wake)
    (hcompleted : ∀ wake cont, p ≠ advancing wake cont) : clockPast st p = st.world.engine.clock ∧ OnTime log t (nextOf st p) := by
  obtain h | ⟨x, hx, ht, hstage⟩ := h
  · refine ⟨h.keepsClock st, ?_⟩
    obtain hnext | ⟨ctx, seconds, cont, wake, hp, hw, -⟩ := h.nextOf st
    · exact .inl hnext
    · exact absurd hw (hbegan _ _ _ _ hp)
  · cases hstage with
    | turning ctx goesOn => exact ⟨rfl, .inr ⟨x, hx, ht, .turning ctx goesOn⟩⟩
    | @woken ctx cont d goesOn =>
      refine ⟨rfl, ?_⟩
      obtain hnext | hnext := nextOf_waking_cases st ctx x.wake cont d
      · exact hnext ▸ .inl (goesOn _)
      · exact hnext ▸ .inr ⟨x, hx, ht, .advancing goesOn⟩
    | advancing => exact absurd rfl (hcompleted _ _)

/-- **A node of a program that is on time** leaves its marks where they belong, the clock at the latest time, and the program on time. -/
theorem OnTime.node (h : OnTime log t p) (hf : l.focus = some (t, p)) (hm : Marks l marks) (hlog : Chronicle log)
    (hclock : IsLatest log l.state.world.engine.clock) : Chronicle (log ++ marks) ∧ (∀ m ∈ marks, m.task = t) ∧
      IsLatest (log ++ marks) (clockPast l.state p) ∧ OnTime (log ++ marks) t (nextOf l.state p) := by
  cases hm with
  | began hf' hw =>
    cases hf.symm.trans hf'
    obtain ⟨us, hspan, hwake⟩ := wakeTime_eq_ok hw
    obtain ⟨ctx', cont', goesOn, hnext⟩ := h.setsOut hw
    refine ⟨.began hlog hclock hspan hwake, by simp [Mark.task], hclock.began _, ?_⟩
    exact hnext ▸ .inr ⟨_, begunLast_concat log _, rfl, .turning ctx' goesOn⟩
  | completed hf' =>
    cases hf.symm.trans hf'
    obtain ⟨x, hx, rfl, rfl, goesOn⟩ := h.moves
    exact ⟨.completed hlog hx, by simp [Mark.task], hclock.completed _ _, .inl goesOn⟩
  | silent hbegan hcompleted =>
    obtain ⟨hsame, hnext⟩ : clockPast l.state p = l.state.world.engine.clock ∧ OnTime log t (nextOf l.state p) :=
      h.quiet (fun ctx seconds cont wake hp => hbegan t ctx seconds cont wake (hp ▸ hf)) fun wake cont hp => hcompleted t wake cont (hp ▸ hf)
    rw [List.append_nil, hsame]
    exact ⟨hlog, fun m hm => (List.not_mem_nil hm).elim, hclock, hnext⟩

theorem OnTime.spawn {watched : Bool} {body next : FutureId → Proc (World Simulator)} (h : OnTime log t (.spawn watched body next)) :
    (∀ u, Timely (body u)) ∧ ∀ u, OnTime log t (next u) := by
  obtain h | ⟨x, -, -, hstage⟩ := h
  · cases h with
    | spawn started goesOn => exact ⟨started, fun u => .inl (goesOn u)⟩
    | pause hp => cases hp
  · generalize hp : Proc.spawn watched body next = p at hstage
    cases hstage <;> cases hp

theorem OnTime.await {f : FutureId} {next : Except Fault Data → Proc (World Simulator)} (h : OnTime log t (.await f next)) (r : Except Fault Data) :
    OnTime log t (next r) := by
  obtain h | ⟨x, -, -, hstage⟩ := h
  · cases h with
    | await goesOn => exact .inl (goesOn r)
    | pause hp => cases hp
  · generalize hp : Proc.await f next = p at hstage
    cases hstage <;> cases hp

theorem OnTime.turn {next : Except Fault Data → Proc (World Simulator)} (h : OnTime log t (.turn next)) (r : Except Fault Data) :
    OnTime log t (next r) := by
  obtain h | ⟨x, hx, ht, hstage⟩ := h
  · cases h with
    | turn goesOn => exact .inl (goesOn r)
    | pause hp => cases hp
  · generalize hp : Proc.turn next = p at hstage
    cases hstage with
    | turning ctx goesOn =>
      cases hp
      cases r with
      | ok d => exact .inr ⟨x, hx, ht, .woken ctx d goesOn⟩
      | error e => exact .inl (goesOn (.error e))
    | woken => cases hp
    | advancing => cases hp

end OnTime

/-! ## Runs -/

/-- The record of a run so far is in order, the clock shows the latest time, and all tasks are on time. -/
structure Punctual (log : List Mark) (l : Loop (World Simulator)) : Prop where
  sound : Sound l
  chronicle : Chronicle log
  latest : IsLatest log l.state.world.engine.clock
  running {t : FutureId} {p : Proc (World Simulator)} (h : l.focus = some (t, p)) : OnTime log t p
  parked {t : FutureId} {next : Except Fault Data → Proc (World Simulator)} (h : l.next? t = some next) (r : Except Fault Data) :
    OnTime log t (next r)

section Punctual

variable {R : Rules} {log marks : List Mark} {l l' : Loop (World Simulator)} {t : FutureId}

theorem Punctual.fresh (world : World Simulator) (hlog : Chronicle log) (hlatest : IsLatest log world.engine.clock) :
    Punctual log { state := { world := world } } where
  sound := .empty world
  chronicle := hlog
  latest := hlatest
  running h := nomatch h
  parked h := nomatch h

/-- No task goes on, or a task goes on that waited. -/
theorem Punctual.beside (h : Punctual log l) (hs : Sound l') (hclock : l'.state.world.engine.clock = l.state.world.engine.clock)
    (hrunning : ∀ t p, l'.focus = some (t, p) → OnTime log t p)
    (hparked : ∀ t next, l'.next? t = some next → l.next? t = some next ∨ ∀ r, OnTime log t (next r)) : Punctual log l' where
  sound := hs
  chronicle := h.chronicle
  latest := hclock ▸ h.latest
  running hf := hrunning _ _ hf
  parked hn := (hparked _ _ hn).elim h.parked id

/-- The task under way goes on. -/
theorem Punctual.advanced (h : Punctual log l) (hf : l.focus = some (t, p)) (hm : Marks l marks) (hs : Sound l')
    (hclock : l'.state.world.engine.clock = clockPast l.state p)
    (hrunning : OnTime (log ++ marks) t (nextOf l.state p) → ∀ u q, l'.focus = some (u, q) → OnTime (log ++ marks) u q)
    (hparked : OnTime (log ++ marks) t (nextOf l.state p) →
      ∀ u next, l'.next? u = some next → l.next? u = some next ∨ ∀ r, OnTime (log ++ marks) u (next r)) : Punctual (log ++ marks) l' := by
  obtain ⟨hlog, hmine, hlatest, hnext⟩ := (h.running hf).node hf hm h.chronicle h.latest
  refine ⟨hs, hlog, hclock ▸ hlatest, fun hp => hrunning hnext _ _ hp, fun {u next} hn r => ?_⟩
  obtain hn | honTime := hparked hnext u next hn
  · -- the task under way does not wait, so the marks are not those of a task that does
    have hne : u ≠ t := fun hut => by
      rw [hut, (h.sound.focus t p hf).2] at hn
      cases hn
    exact (h.parked hn r).append fun m hm' => (hmine m hm').trans_ne hne.symm
  · exact honTime r

theorem parked_park {next next' : Except Fault Data → Proc (World Simulator)} {u : FutureId} (h : ∀ r, OnTime log t (next r))
    (hn : (l.park t next).next? u = some next') : l.next? u = some next' ∨ ∀ r, OnTime log u (next' r) := by
  rw [next?_park] at hn
  split at hn
  · rename_i hu
    cases hn
    exact .inr (hu ▸ h)
  · exact .inl hn

/-- What waits when a task has been added: what waited before, and the new task. -/
theorem parked_start (log : List Mark) (l : Loop (World Simulator)) (watched : Bool) {body : FutureId → Proc (World Simulator)}
    (hbody : ∀ t, Timely (body t)) (u : FutureId) (next : Except Fault Data → Proc (World Simulator))
    (hn : (l.start watched body).1.next? u = some next) : l.next? u = some next ∨ ∀ r, OnTime log u (next r) := by
  by_cases hu : u = l.state.kernel.futures.size
  · subst hu
    cases (next?_start_self l watched body).symm.trans hn
    refine .inr fun r => .inl ?_
    cases r with
    | ok d => exact hbody _
    | error e => exact .finish _
  · exact .inl ((next?_start_of_ne l watched body hu).symm.trans hn)

theorem Punctual.resume (h : Punctual log l) (input : Except Fault Data) (hs : Sound (l.resume t input)) : Punctual log (l.resume t input) := by
  cases hn : l.next? t with
  | none =>
    rw [resume_of_none hn]
    exact h
  | some next =>
    rw [resume_of_some hn] at hs ⊢
    refine h.beside hs rfl (fun u q hq => ?_) fun u next' hn' => ?_
    · cases hq
      exact h.parked hn _
    · rw [next?_takenUp] at hn'
      split at hn'
      · cases hn'
      · exact .inl hn'

theorem Punctual.takeJob (h : Punctual log l) (hf : l.focus = none) (j : Job) (hs : Sound (l.takeJob j)) : Punctual log (l.takeJob j) := by
  cases j with
  | resume t input => exact h.resume input hs
  | callback source c =>
    cases c with
    | wake t =>
      cases ho : (l.state.kernel.future source).outcome with
      | some o =>
        simp only [Loop.takeJob, ho] at hs ⊢
        exact h.resume _ hs
      | none =>
        simp only [Loop.takeJob, ho]
        exact h
    | _ => exact h.beside hs rfl (fun t p hp => by cases hf.symm.trans hp) fun t next hn => .inl hn

theorem Punctual.job (h : Punctual log l) (hf : l.focus = none) (hstep : l.step = some l') (hs : Sound l') : Punctual log l' := by
  simp only [Loop.step, hf] at hstep
  split at hstep
  · cases hstep
  · rename_i j rest hready
    cases hstep
    have hdequeued : Punctual log (l.withKernel fun k => { k with ready := rest }) :=
      h.beside (h.sound.dequeue hready) rfl (fun t p hp => by cases hf.symm.trans hp) fun t next hn => .inl hn
    exact hdequeued.takeJob hf j hs

/-- **A node leaves everything in order.** -/
theorem Punctual.node {calls : List OwnerCall} (h : Punctual log l) (hf : l.focus = some (t, p)) (hp : Allows R t l.state p calls)
    (hs : l.step = some l') (hm : Marks l marks) : Punctual (log ++ marks) l' := by
  have he : Effect R l calls l' := (Move.node hf hp hs).effect
  have hsound : Sound l' := he.sound h.sound
  cases he with
  | idle hf' => cases hf'.symm.trans hf
  | resumed hf' => cases hf'.symm.trans hf
  | called hf' => cases hf'.symm.trans hf
  | outside _ hf' => cases hf'.symm.trans hf
  | started _ _ hf' => cases hf'.symm.trans hf
  | finished hf' =>
    cases hf'.symm.trans hf
    exact h.advanced hf hm hsound rfl (fun _ u q hq => nomatch hq) fun _ u next hn => .inl hn
  | accessed hf' =>
    cases hf'.symm.trans hf
    exact h.advanced hf hm hsound rfl (fun hnext u q hq => by cases hq; exact hnext) fun _ u next hn => .inl hn
  | spawned hf' =>
    cases hf'.symm.trans hf
    exact h.advanced hf hm hsound rfl (fun hnext u q hq => by cases hq; exact hnext.spawn.2 _)
      fun hnext u next hn => parked_start _ l _ hnext.spawn.1 u next hn
  | passed hf' =>
    cases hf'.symm.trans hf
    exact h.advanced hf hm hsound rfl (fun hnext u q hq => by cases hq; exact hnext.await _) fun _ u next hn => .inl hn
  | blocked hf' =>
    cases hf'.symm.trans hf
    exact h.advanced hf hm hsound rfl (fun _ u q hq => nomatch hq) fun hnext u next hn => parked_park hnext.await hn
  | yielded hf' =>
    cases hf'.symm.trans hf
    exact h.advanced hf hm hsound rfl (fun _ u q hq => nomatch hq) fun hnext u next hn => parked_park hnext.turn hn

theorem Passage.punctual (hp : Passage R l marks l') (h : Punctual log l) : Punctual (log ++ marks) l' := by
  cases hp with
  | job hf hs =>
    rw [List.append_nil]
    exact h.job hf hs ((Move.job (R := R) hf hs).effect.sound h.sound)
  | node hf hp hs hm => exact h.node hf hp hs hm
  | start watched hf hR hbody =>
    rw [List.append_nil]
    refine h.beside ((Move.start watched _ hf hR).effect.sound h.sound) rfl (fun t p hp => ?_) fun t next hn => parked_start log l watched hbody t next hn
    cases hf.symm.trans hp
  | outside world hf hk hclock =>
    rw [List.append_nil]
    refine h.beside ((Move.outside world hf hk).effect.sound h.sound) hclock (fun t p hp => ?_) fun t next hn => .inl hn
    cases hf.symm.trans hp
  | again =>
    rw [List.append_nil]
    exact .fresh _ h.chronicle h.latest

theorem Passages.punctual (hp : Passages R l marks l') (h : Punctual log l) : Punctual (log ++ marks) l' := by
  induction hp with
  | refl => simpa using h
  | tail _ hp ih =>
    rw [← List.append_assoc]
    exact hp.punctual ih

/-- **In every run the clock shows the latest time, and the record is in order.** -/
theorem Engaged.punctual (h : Engaged R log l) : Punctual log l := by
  obtain ⟨world, hclock, hp⟩ := h
  have hfresh : Punctual [] { state := { world := world } } := .fresh world .nil (hclock ▸ isLatest_nil)
  exact hp.punctual hfresh

end Punctual

/-! ## A pause from its call to its end -/

/-- What a pause comes to at its call: its wake-up time, or the error that ends it at once. -/
def attempted (l : Loop (World Simulator)) (ctx : Context) (duration : Data) : Except Fault Int := do
  let seconds ← checkedSeconds duration
  l.state.kernel.scopes.check ctx.scope
  wakeTime l.state.world.engine.clock seconds

/-- What a pause comes to after its turn, which a request to the task may have ended. -/
def heeded (l : Loop (World Simulator)) (ctx : Context) : Except Fault Data → Except Fault Unit
  | .ok _ => l.state.kernel.scopes.check ctx.scope
  | .error e => .error e

section Calls

variable {R : Rules} {log marks : List Mark} {l l' : Loop (World Simulator)} {t : FutureId} {duration : Data} {e : Fault}

theorem attempted_of_error (hd : checkedSeconds duration = .error e) : attempted l ctx duration = .error e := by
  rw [attempted, hd]
  rfl

theorem attempted_of_cancelled (hd : checkedSeconds duration = .ok seconds) (hc : l.state.kernel.scopes.isCancelled ctx.scope = true) :
    attempted l ctx duration = .error contextCancelled := by
  simp [attempted, hd, Forest.check, hc, bind, Except.bind]

theorem attempted_of_not_cancelled (hd : checkedSeconds duration = .ok seconds) (hc : l.state.kernel.scopes.isCancelled ctx.scope = false) :
    attempted l ctx duration = wakeTime l.state.world.engine.clock seconds := by
  simp [attempted, hd, Forest.check, hc, bind, Except.bind]

/-- A pause that fails at its call leaves the state as it is. -/
theorem proceeds_of_attempted_error (hf : l.focus = some (t, sleep ctx duration cont)) (h : attempted l ctx duration = .error e) :
    ∃ i l', Proceeds l i l' ∧ l'.focus = some (t, cont (.error e)) ∧ l'.state = l.state := by
  cases hd : checkedSeconds duration with
  | error e' =>
    cases (attempted_of_error hd).symm.trans h
    rw [sleep_of_error ctx hd] at hf
    exact ⟨0, l, .refl l, hf, rfl⟩
  | ok seconds =>
    rw [sleep_eq ctx hd] at hf
    cases hc : l.state.kernel.scopes.isCancelled ctx.scope with
    | true =>
      cases (attempted_of_cancelled hd hc).symm.trans h
      exact ⟨1, _, .access hf (.refl _), focus_of_cancelled hc, rfl⟩
    | false =>
      rw [attempted_of_not_cancelled hd hc] at h
      exact ⟨2, _, .access hf (.access (focus_of_not_cancelled hc) (.refl _)), by simp [accessed, h], rfl⟩

/-- The node of a pause that neither looks at the clock nor moves it leaves no mark. -/
theorem marks_nil (hf : l.focus = some (t, p)) (hkeeps : KeepsClock p)
    (hnext : ∀ next, nextOf { l.state with kernel := {} } p ≠ .turn next) : Marks l [] := by
  refine .silent (fun t' ctx seconds cont wake hf' hw => ?_) fun t' wake cont hf' => ?_
  · cases hf.symm.trans hf'
    exact hnext _ (nextOf_settingOut hw)
  · cases hf.symm.trans hf'
    exact not_keepsClock_advancing hkeeps

theorem passage_access {F : LoopState (World Simulator) → LoopState (World Simulator) × Proc (World Simulator)}
    (hf : l.focus = some (t, .access F)) (hkernel : (F l.state).1.kernel = l.state.kernel) (hm : Marks l marks) :
    Passage R l marks (l.accessed t F) := by
  have hallowed : Allows R t l.state (.access F) [] := .access (by rw [hkernel]; exact .refl)
  exact .node hf hallowed (step_of_access hf) hm

theorem passage_turn {next : Except Fault Data → Proc (World Simulator)} (hf : l.focus = some (t, .turn next)) :
    Passage R l [] (l.yielded t next) := by
  refine .node hf (.turn next) ?_ (.silent (fun _ _ _ _ _ hf' _ => by cases hf.symm.trans hf') fun _ _ _ hf' => by cases hf.symm.trans hf')
  rw [Loop.step, hf]
  rfl

/-- A pause that does not fail at its call sleeps, and leaves a mark. -/
theorem passages_of_attempted_ok (hf : l.focus = some (t, sleep ctx duration cont)) (h : attempted l ctx duration = .ok wake) :
    ∃ seconds, checkedSeconds duration = .ok seconds ∧
      Passages R l [.began ⟨t, l.state.world.engine.clock, seconds, wake⟩] (l.yielded t (waking ctx wake cont)) := by
  cases hd : checkedSeconds duration with
  | error e => cases (attempted_of_error hd).symm.trans h
  | ok seconds =>
    rw [sleep_eq ctx hd] at hf
    cases hc : l.state.kernel.scopes.isCancelled ctx.scope with
    | true => cases (attempted_of_cancelled hd hc).symm.trans h
    | false =>
      rw [attempted_of_not_cancelled hd hc] at h
      refine ⟨seconds, rfl, ?_⟩
      have hchecked := (Passages.refl (R := R)).tail (passage_access hf rfl (marks_nil hf (fun _ => rfl) fun _ hn => by cases hn))
      have hset := hchecked.tail (passage_access (focus_of_not_cancelled hc) rfl (.began (focus_of_not_cancelled hc) h))
      exact hset.tail (passage_turn (by simp [accessed, h]))

theorem heeded_of_cancelled (hc : l.state.kernel.scopes.isCancelled ctx.scope = true) : heeded l ctx (.ok d) = .error contextCancelled := by
  simp [heeded, Forest.check, hc]

theorem heeded_of_not_cancelled (hc : l.state.kernel.scopes.isCancelled ctx.scope = false) : heeded l ctx (.ok d) = .ok () := by
  simp [heeded, Forest.check, hc]

/-- A pause that fails after its turn leaves the state as it is. -/
theorem proceeds_of_heeded_error {r : Except Fault Data} (hf : l.focus = some (t, waking ctx wake cont r)) (h : heeded l ctx r = .error e) :
    ∃ i l', Proceeds l i l' ∧ l'.focus = some (t, cont (.error e)) ∧ l'.state = l.state := by
  cases r with
  | error e' =>
    cases h
    exact ⟨0, l, .refl l, hf, rfl⟩
  | ok d =>
    cases hc : l.state.kernel.scopes.isCancelled ctx.scope with
    | true =>
      cases (heeded_of_cancelled hc).symm.trans h
      exact ⟨1, _, .access hf (.refl _), focus_of_cancelled hc, rfl⟩
    | false => cases (heeded_of_not_cancelled hc).symm.trans h

/-- A pause that does not fail moves the clock, and leaves a mark. -/
theorem passages_of_heeded_ok {r : Except Fault Data} (hf : l.focus = some (t, waking ctx wake cont r)) (h : heeded l ctx r = .ok ()) :
    ∃ l', Passages R l [.completed t wake] l' ∧ l'.focus = some (t, cont (.ok ())) ∧
      l'.state.world.engine.clock = max l.state.world.engine.clock wake := by
  cases r with
  | error e => cases h
  | ok d =>
    cases hc : l.state.kernel.scopes.isCancelled ctx.scope with
    | true => cases (heeded_of_cancelled hc).symm.trans h
    | false =>
      have hchecked := (Passages.refl (R := R)).tail (passage_access hf rfl (marks_nil hf (fun _ => rfl) fun _ hn => by cases hn))
      exact ⟨_, hchecked.tail (passage_access (focus_of_not_cancelled hc) rfl (.completed (focus_of_not_cancelled hc))), rfl, rfl⟩

end Calls

/-- **The clock shows the latest wake-up time** of the pauses that are completed, if any is after the start, and every record is in order. So it does not
go back, and only pauses that complete move it; what is read from it is not before the wake-up time of any of these. A pause that fails, be it at its call or
after its turn, leaves the state as it is; any other sleeps with a mark, and moves the clock with another. -/
theorem clock_is_latest_wake_up {R : Rules} {log : List Mark} {l : Loop (World Simulator)} (lib : Library Simulator) (h : Engaged R log l) :
    IsLatest log l.state.world.engine.clock ∧ Chronicle log ∧
    (∀ calls l', Move R l calls l' → l.step = some l' → ∃ marks, Passage R l marks l') ∧
    (∀ marks l', Passages R l marks l' → l.state.world.engine.clock ≤ l'.state.world.engine.clock ∧
      ((∀ t wake, .completed t wake ∉ marks) → l'.state.world.engine.clock = l.state.world.engine.clock)) ∧
    (∀ t wake, .completed t wake ∈ log → wake ≤ l.state.world.engine.clock) ∧
    (∀ t ctx cont, l.focus = some (t, (primitives lib).now ctx cont) →
      ∃ l', Proceeds l 1 l' ∧ l'.focus = some (t, cont (.ok (.instant l.state.world.engine.clock)))) ∧
    (∀ t ctx duration cont, l.focus = some (t, (primitives lib).sleep ctx duration cont) →
      (∀ e, attempted l ctx duration = .error e → ∃ i l', Proceeds l i l' ∧ l'.focus = some (t, cont (.error e)) ∧ l'.state = l.state) ∧
      ∀ wake, attempted l ctx duration = .ok wake → ∃ seconds, checkedSeconds duration = .ok seconds ∧
        Passages R l [.began ⟨t, l.state.world.engine.clock, seconds, wake⟩] (l.yielded t (waking ctx wake cont))) ∧
    (∀ t ctx wake cont r, l.focus = some (t, waking ctx wake cont r) →
      (∀ e, heeded l ctx r = .error e → ∃ i l', Proceeds l i l' ∧ l'.focus = some (t, cont (.error e)) ∧ l'.state = l.state) ∧
      (heeded l ctx r = .ok () → ∃ l', Passages R l [.completed t wake] l' ∧ l'.focus = some (t, cont (.ok ())) ∧
        l'.state.world.engine.clock = max l.state.world.engine.clock wake)) ∧
    (Library.Timely lib → TimelyPrimitives (primitives lib)) := by
  have hpunctual := h.punctual
  refine ⟨hpunctual.latest, hpunctual.chronicle, fun calls l' => exists_passage, fun marks l' hp => ?_, fun t wake hmem => ?_, fun t ctx cont hf => ?_,
    fun t ctx duration cont hf => ⟨fun e => proceeds_of_attempted_error hf, fun wake => passages_of_attempted_ok hf⟩,
    fun t ctx wake cont r hf => ⟨fun e => proceeds_of_heeded_error hf, passages_of_heeded_ok hf⟩, timely_primitives⟩
  · have hlater := (hp.punctual hpunctual).latest
    exact ⟨hpunctual.latest.le hlater, hpunctual.latest.eq hlater⟩
  · exact hpunctual.latest.2 (.inr ⟨t, hmem⟩)
  · exact ⟨_, .access hf (.refl _), rfl⟩

/-! ### Five seconds -/

theorem Passages.trans {R : Rules} {l l' l'' : Loop (World Simulator)} {log marks : List Mark} (h : Passages R l log l')
    (h' : Passages R l' marks l'') : Passages R l (log ++ marks) l'' := by
  induction h' with
  | refl => simpa using h
  | tail _ hp ih =>
    rw [← List.append_assoc]
    exact ih.tail hp

theorem Engaged.passages {R : Rules} {l l' : Loop (World Simulator)} {log marks : List Mark} (h : Engaged R log l)
    (hp : Passages R l marks l') : Engaged R (log ++ marks) l' := by
  obtain ⟨world, hclock, hlog⟩ := h
  exact ⟨world, hclock, hlog.trans hp⟩

/-- A first task of an engine that begins to run, beside a scope. -/
theorem engaged_entered {R : Rules} (hR : ∀ a, ¬ R.bars a 0) {world : World Simulator} (hclock : world.engine.clock = 0)
    {body : FutureId → Proc (World Simulator)} (hbody : ∀ t, Timely (body t)) : Engaged R [] (Loop.entered world body) := by
  have hscope : Acts (R.bars none) R.calls ({} : Kernel) [] ({} : Kernel).newScope.1 := Acts.refl.act .newScope
  have hout := (Passages.refl (R := R) (l := { state := { world := world } })).tail (.outside world rfl hscope rfl)
  exact ⟨world, hclock, (hout.tail (.start false rfl hR hbody)).tail (.job rfl rfl)⟩

/-- A task that pauses for five seconds. -/
def fiveSeconds : FutureId → Proc (World Simulator) := fun _ => sleep { scope := 0 } (.int 5) fun _ => .finish (.ok .null)

theorem timely_fiveSeconds (t : FutureId) : Timely (fiveSeconds t) := IsTimely.sleep _ _ _ fun _ => .finish _

/-- The task sleeps. -/
def asleep : Loop (World Simulator) :=
  (Loop.entered { engine := {} } fiveSeconds).yielded 0 (waking { scope := 0 } 5000000 fun _ => .finish (.ok .null))

/-- When the pause is over the clock shows the fifth second. -/
theorem clock_is_latest_wake_up_of_fiveSeconds : ∃ seconds l, checkedSeconds (.int 5) = .ok seconds ∧
    Engaged oneSideEffectRules [.began ⟨0, 0, seconds, 5000000⟩, .completed 0 5000000] l ∧ l.state.world.engine.clock = 5000000 ∧
      TimelyPrimitives (primitives oneLibrary) := by
  have hentered : Engaged oneSideEffectRules [] (Loop.entered { engine := {} } fiveSeconds) :=
    engaged_entered (fun _ h => by cases h.1) rfl timely_fiveSeconds
  have hfirst : (firstWake (.int 5)).toOption = some 5000000 := by decide +kernel
  obtain ⟨seconds, hd, hw⟩ := exists_of_firstWake hfirst
  have hattempted : attempted (Loop.entered { engine := {} } fiveSeconds) { scope := 0 } (.int 5) = .ok 5000000 :=
    (attempted_of_not_cancelled hd rfl).trans hw
  obtain ⟨seconds', hd', hbegan⟩ := passages_of_attempted_ok (R := oneSideEffectRules) (t := 0) rfl hattempted
  have hwoken : Passage oneSideEffectRules asleep [] (runWhile (fun _ => true) 1 asleep) := .job rfl rfl
  obtain ⟨l, hcompleted, -, -⟩ := passages_of_heeded_ok (R := oneSideEffectRules) (l := runWhile (fun _ => true) 1 asleep) (t := 0) rfl rfl
  have hl : Engaged oneSideEffectRules [.began ⟨0, 0, seconds', 5000000⟩, .completed 0 5000000] l :=
    hentered.passages ((hbegan.tail hwoken).trans hcompleted)
  obtain ⟨⟨hshown, hlatest⟩, -, -, -, -, -, -, -, htimely⟩ := clock_is_latest_wake_up oneLibrary hl
  refine ⟨seconds', l, hd', hl, le_antisymm ?_ (hlatest (.inr ⟨0, by simp⟩)), htimely timely_oneLibrary⟩
  obtain hstart | ⟨t, hmem⟩ := hshown
  · simp [hstart]
  · have hwake : t = 0 ∧ l.state.world.engine.clock = 5000000 := by simpa using hmem
    exact hwake.2.le

end Simulator

end ScriptFlow
