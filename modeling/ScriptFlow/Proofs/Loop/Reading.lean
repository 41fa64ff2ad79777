import Mathlib
import ScriptFlow.Proofs.Loop.Sleeping
import ScriptFlow.Proofs.Loop.Waiting

/-!
# Reading under a scope

* `Loop.Waiting` — a task sleeps in a wait under a scope; `Loop.Told` — the move that wakes it, with what it is told.
* `Loop.Run.waiting` — a task that sleeps goes on sleeping, or is woken once.
* `Loop.Reads` — where a task may be between the beginning and the end of a read; `Loop.Answers` — what a read ends with.
* `Loop.reads_awaitUnder` — **a read ends once**, with what it should.
-/

namespace ScriptFlow

namespace Loop

variable {σ : Type}

open Kernel

/-- A task sleeps in a wait under a scope. -/
structure Waiting (g : Get) (next : Except Fault Data → Proc σ) (l : Loop σ) : Prop where
  waits : l.state.kernel.Waits g
  parked : l.next? g.task = some next

/-- Nobody but the task itself knows a future. -/
structure Hides (R : Rules) (t w : FutureId) : Prop where
  bars : ∀ a, a ≠ some t → R.bars a w
  calls : ¬ R.calls w

/-- The move that wakes the task of a wait. -/
structure Told (g : Get) (next : Except Fault Data → Proc σ) (l l' : Loop σ) : Prop where
  idle : l.focus = none
  told : ∃ rest o, l.state.kernel.ready = .callback g.waiter (.wake g.task) :: rest ∧ l.state.kernel.outcome? g.waiter = some o ∧
    l' = l.takenUp ((l.dequeued rest).enterTask g.task o.result).1 g.task (next ((l.dequeued rest).enterTask g.task o.result).2)

/-- A task sleeps in a wait of which more is known. -/
structure Suspended (I : Kernel → Prop) (g : Get) (next : Except Fault Data → Proc σ) (l : Loop σ) : Prop where
  kernel : I l.state.kernel
  parked : l.next? g.task = some next

/-- What is known of a wait holds on while nobody touches the stand-in but its own references. -/
structure Upheld (g : Get) (I : Kernel → Prop) : Prop where
  stands {k} (h : I k) : ∃ gone, k.Stands g gone
  keep {k k'} (h : I k) (hs : ∀ gone, k.Stands g gone → k'.Stands g gone) (hscopes : k'.scopes = k.scopes)
    (hopen : k'.outcome? g.waiter = none → k.outcome? g.waiter = none) : I k'
  offCancel {k x} (h : I k) (s : ScopeId) (hx : x = g.waiter → k.outcome? x ≠ none) : I (k.offCancel s x)
  acts {k k' bars calls log} (h : I k) (hb : bars g.waiter) (hc : ¬ calls g.waiter) (hd : Acts bars calls k log k') : I k'

section Suspended

variable {R : Rules} {I : Kernel → Prop} {g : Get} {next : Except Fault Data → Proc σ} {l l' : Loop σ} {log : List OwnerCall}

/-- What wakes a task that waits is the callback of its stand-in. -/
theorem Sound.wakes_iff (hs : Sound l) {gone : Prop} (h : l.state.kernel.Stands g gone) {j : Job} {rest : List Job}
    (hr : l.state.kernel.ready = j :: rest) (hj : j.wakes g.task = true) : j = .callback g.waiter (.wake g.task) := by
  by_contra hne
  have hone := hs.once g.task
  rw [wakeUps_dequeue _ hr, hj, if_pos rfl] at hone
  have hzero : ({ l.state.kernel with ready := rest } : Kernel).wakeUps g.task = 0 := Nat.le_zero.mp (Nat.le_of_succ_le_succ hone)
  have hdue := h.wake.dequeue hr hne
  exact not_wakes_of_wakeUps hzero hdue.holds rfl

theorem next?_start_of_ne (l : Loop σ) (watched : Bool) (body : FutureId → Proc σ) {x : FutureId} (hx : x ≠ l.state.kernel.futures.size) :
    (l.start watched body).1.next? x = l.next? x := by
  have hstart : (l.start watched body).1.next? x = _ :=
    next?_park { l with state := { l.state with kernel := (l.state.kernel.newTask watched).1 } } l.state.kernel.futures.size _ x
  rw [hstart, if_neg hx]
  rfl

/-- The task under way is not one that sleeps. -/
theorem Sound.focus_ne (hs : Sound l) {gone : Prop} (h : l.state.kernel.Stands g gone) (hn : l.next? g.task = some next) {t : FutureId}
    {p : Proc σ} (hf : l.focus = some (t, p)) : t ≠ g.task ∧ t ≠ g.waiter := by
  obtain ⟨ht, hnone⟩ := hs.focus t p hf
  refine ⟨?_, ?_⟩
  · rintro rfl
    rw [hn] at hnone
    cases hnone
  · obtain ⟨task, ht⟩ := Option.isSome_iff_exists.mp ht
    exact h.task_ne ht

theorem Upheld.dequeue (hI : Upheld g I) {k : Kernel} (h : I k) {j : Job} {rest : List Job} (hr : k.ready = j :: rest)
    (hwake : j ≠ .callback g.waiter (.wake g.task)) (hrelay : k.outcome? g.waiter = none → j ≠ .callback g.source (.relay g.waiter)) :
    I { k with ready := rest } :=
  hI.keep h (fun _ hs => hs.dequeue hr hwake hrelay) rfl id

theorem Upheld.runCallback (hI : Upheld g I) {k : Kernel} (h : I k) {x : FutureId} {c : Callback} {rest : List Job}
    (hr : k.ready = .callback x c :: rest) (hdone : ∀ y c, .callback y c ∈ k.ready → k.outcome? y ≠ none) (hc : ∀ t, c ≠ .wake t) :
    I (({ k with ready := rest } : Kernel).runCallback x c) := by
  by_cases hu : ∃ s, c = .unlink s
  · obtain ⟨s, rfl⟩ := hu
    exact hI.offCancel (hI.dequeue h hr (by simp) (by simp)) s fun _ => hdone x (.unlink s) (by simp [hr])
  · refine hI.keep h (fun _ hs => hs.runCallback hr hdone hc) ?_ fun ho => ?_
    · exact scopes_runCallback _ x fun s he => hu ⟨s, he⟩
    · exact (grows_runCallback ({ k with ready := rest } : Kernel) x c).open_of_open ho

/-- **A task that sleeps goes on sleeping**, or its stand-in wakes it. -/
theorem Upheld.effect (hI : Upheld g I) (he : Effect R l log l') (hs : Sound l) (h : Suspended I g next l) (hh : Hides R g.task g.waiter) :
    Suspended I g next l' ∨ (Told g next l l' ∧ log = []) := by
  obtain ⟨gone, hstands⟩ := hI.stands h.kernel
  have hnot : ∀ {j : Job} {rest : List Job} {x : FutureId}, l.state.kernel.ready = j :: rest → j.wakes x = true → x ≠ g.task →
      I (l.dequeued rest) := by
    intro j rest x hr hj hx
    refine hI.dequeue h.kernel hr ?_ ?_
    · rintro rfl
      exact hx (by simpa [Job.wakes] using Eq.symm (by simpa [Job.wakes] using hj))
    · rintro _ rfl
      simp [Job.wakes] at hj
  cases he with
  | @idle j rest t hf hr hj hn =>
    have ht : t ≠ g.task := by
      rintro rfl
      rcases hn with hn | ⟨x, rfl, ho⟩
      · rw [h.parked] at hn
        cases hn
      · exact hs.queued x (.wake g.task) (by simp [hr]) ho
    exact Or.inl ⟨hnot hr hj ht, h.parked⟩
  | @resumed j rest t next' input hf hr hn hj =>
    by_cases ht : t = g.task
    · subst ht
      have hjob := hs.wakes_iff hstands hr hj.wakes
      have hnext : next' = next := Option.some.inj (hn.symm.trans h.parked)
      subst hjob hnext
      rcases hj with hj | ⟨x, o, hj, ho, rfl⟩
      · cases hj
      · obtain ⟨rfl, -⟩ := Job.callback.inj hj
        exact Or.inr ⟨⟨hf, rest, o, hr, ho, rfl⟩, rfl⟩
    · refine Or.inl ⟨hI.keep (hnot hr hj.wakes ht) (fun _ hst => hst.enterTask ht input) rfl fun ho => ?_, ?_⟩
      · exact (calm_enterTask _ t input).open_of_open ho
      · rw [next?_takenUp, if_neg (Ne.symm ht)]
        exact h.parked
  | called hf hr hc => exact Or.inl ⟨hI.runCallback h.kernel hr hs.queued hc, h.parked⟩
  | @finished t r hf =>
    obtain ⟨o, ho⟩ := l.state.kernel.finishTask_eq t r
    refine Or.inl ⟨hI.keep h.kernel (fun _ hst => hst.finishTask (hs.focus_ne hstands h.parked hf).2 r) ?_ fun hn => ?_, h.parked⟩
    · exact (congrArg Kernel.scopes ho).trans (scopes_resolve ..)
    · exact (l.state.kernel.calm_finishTask t r).open_of_open hn
  | @accessed t f log hf ha =>
    have ht := (hs.focus_ne hstands h.parked hf).1
    exact Or.inl ⟨hI.acts h.kernel (hh.bars _ fun he => ht (Option.some.inj he)) hh.calls ha, h.parked⟩
  | @spawned t watched body next' hf hb =>
    refine Or.inl ⟨hI.keep h.kernel (fun _ hst => hst.newTask watched) rfl fun ho => ?_, ?_⟩
    · exact (l.state.kernel.grows_newTask watched).open_of_open ho
    · exact (next?_start_of_ne l watched body hstands.task_lt.ne).trans h.parked
  | @passed t f next' o hf ho => exact Or.inl ⟨h.kernel, h.parked⟩
  | @blocked t f next' hf ho hlt hsp =>
    obtain ⟨ht, htw⟩ := hs.focus_ne hstands h.parked hf
    have hfw : f ≠ g.waiter := by
      rintro rfl
      have hd := hsp (hh.bars _ fun he => ht (Option.some.inj he))
      rw [isDone_eq, ho] at hd
      cases hd
    refine Or.inl ⟨hI.keep h.kernel (fun _ hst => hst.waitFor ht htw hfw) (scopes_waitFor ..) fun hn => ?_, ?_⟩
    · have hn := (l.state.kernel.grows_waitFor t f).open_of_open hn
      rwa [outcome?_addCallback] at hn
    · exact (next?_park l t next' g.task).trans (by rw [if_neg (Ne.symm ht)]; exact h.parked)
  | @yielded t next' hf =>
    obtain ⟨ht, htw⟩ := hs.focus_ne hstands h.parked hf
    refine Or.inl ⟨hI.keep h.kernel (fun _ hst => hst.queueResume htw _) rfl id, ?_⟩
    exact (next?_park l t next' g.task).trans (by rw [if_neg (Ne.symm ht)]; exact h.parked)
  | outside world hf ha => exact Or.inl ⟨hI.acts h.kernel (hh.bars _ (by simp)) hh.calls ha, h.parked⟩
  | started watched body hf hb =>
    refine Or.inl ⟨hI.keep h.kernel (fun _ hst => hst.newTask watched) rfl fun ho => ?_, ?_⟩
    · exact (l.state.kernel.grows_newTask watched).open_of_open ho
    · exact (next?_start_of_ne l watched body hstands.task_lt.ne).trans h.parked

/-- A task that sleeps is woken at most once in a run. -/
theorem Upheld.run (hI : Upheld g I) (hr : Run R l log l') (hs : Sound l) (h : Suspended I g next l) (hh : Hides R g.task g.waiter) :
    Suspended I g next l' ∨ ∃ log₁ log₂ l₁ l₂, Run R l log₁ l₁ ∧ Suspended I g next l₁ ∧ Told g next l₁ l₂ ∧ Move R l₁ [] l₂ ∧
      Run R l₂ log₂ l' := by
  have hkept : ∀ {l l' : Loop σ} {log : List OwnerCall}, Move R l log l' → Sound l ∧ Suspended I g next l →
      (Sound l' ∧ Suspended I g next l') ∨ (Told g next l l' ∧ log = []) :=
    fun hm h => (hI.effect hm.effect h.1 h.2 hh).imp (⟨hm.effect.sound h.1, ·⟩) id
  rcases hr.woken hkept ⟨hs, h⟩ with hw | ⟨log₁, log₂, l₁, l₂, hr₁, hw, ht, hm, hr₂⟩
  · exact Or.inl hw.2
  · exact Or.inr ⟨log₁, log₂, l₁, l₂, hr₁, hw.2, ht, hm, hr₂⟩

end Suspended

/-! ## Waiting under a scope -/

section Waiting

variable {R : Rules} {g : Get} {next : Except Fault Data → Proc σ} {l l' : Loop σ} {log : List OwnerCall}

theorem upheld_waits (g : Get) : Upheld g fun k => k.Waits g where
  stands h := ⟨_, h.toStands⟩
  keep h hs hscopes hopen := h.keep (hs _ h.toStands) hscopes hopen
  offCancel h s hx := h.offCancel s hx
  acts h hb hc hd := hd.waits h hb hc

theorem suspended_waits : Suspended (fun k => k.Waits g) g next l ↔ Waiting g next l :=
  ⟨fun h => ⟨h.kernel, h.parked⟩, fun h => ⟨h.waits, h.parked⟩⟩

theorem Effect.waiting (he : Effect R l log l') (hs : Sound l) (h : Waiting g next l) (hh : Hides R g.task g.waiter) :
    Waiting g next l' ∨ (Told g next l l' ∧ log = []) := by
  simpa only [suspended_waits] using (upheld_waits g).effect he hs (suspended_waits.mpr h) hh

theorem Run.waiting (hr : Run R l log l') (hs : Sound l) (h : Waiting g next l) (hh : Hides R g.task g.waiter) :
    Waiting g next l' ∨ ∃ log₁ log₂ l₁ l₂, Run R l log₁ l₁ ∧ Waiting g next l₁ ∧ Told g next l₁ l₂ ∧ Move R l₁ [] l₂ ∧
      Run R l₂ log₂ l' := by
  simpa only [suspended_waits] using (upheld_waits g).run hr hs (suspended_waits.mpr h) hh

end Waiting

end Loop

namespace Kernel

/-! ## What a read ends with -/

/-- What a read ends with that slept, as things stand then. -/
inductive Answers (k : Kernel) (g : Get) : Except Fault Data → Prop where
  /-- what the future ended with came to the stand-in -/
  | own {o} (ha : ¬ k.Asked g) (hw : k.outcome? g.waiter = some o) (ho : k.outcome? g.source = some o) (hc : o ≠ .cancelled) :
      Answers k g (k.endOfWait g.scope g.source o.result)
  | cancelled (ha : ¬ k.Asked g) (hw : k.outcome? g.waiter = some .cancelled)
      (hs : k.scopes.isCancelled g.scope = true ∨ k.outcome? g.source = some .cancelled) : Answers k g (.error contextCancelled)
  /-- the task itself was asked to end -/
  | asked {m} (ha : k.Asked g) : Answers k g (k.endOfWait g.scope g.source (.error (.taskCancelled m)))

/-- What a read ends with that began in one kernel, in another. -/
inductive ReadEnd (k₀ k : Kernel) (t f : FutureId) (s : ScopeId) : Except Fault Data → Prop where
  /-- the scope was cancelled when the read began -/
  | refused (hs : k₀.scopes.isCancelled s = true) : ReadEnd k₀ k t f s (.error contextCancelled)
  /-- the future was decided when the read began -/
  | known {o} (hs : k₀.scopes.isCancelled s = false) (ho : k₀.outcome? f = some o) : ReadEnd k₀ k t f s (k₀.endOfWait s f o.result)
  | slept {a} (hs : k₀.scopes.isCancelled s = false) (ho : k₀.outcome? f = none) (h : k.Answers (k₀.newGet t f s) a) :
      ReadEnd k₀ k t f s a

theorem endOfWait_congr {k k' : Kernel} {s : ScopeId} {f : FutureId} (hs : k'.scopes.isCancelled s = k.scopes.isCancelled s)
    (hf : k'.outcome? f = k.outcome? f) (r : Except Fault Data) : k'.endOfWait s f r = k.endOfWait s f r := by
  have hw : k'.wasCancelled f = k.wasCancelled f := by
    rw [Bool.eq_iff_iff, wasCancelled_eq, wasCancelled_eq, hf]
  unfold endOfWait
  rw [hs, hw]

/-- A cancellation that comes from the scope or from the future is that of the context. -/
theorem endOfWait_taskCancelled {k : Kernel} {s : ScopeId} {f : FutureId}
    (h : k.scopes.isCancelled s = true ∨ k.outcome? f = some .cancelled) (m : String) :
    k.endOfWait s f (.error (.taskCancelled m)) = .error contextCancelled := by
  have hc : (k.scopes.isCancelled s || k.wasCancelled f) = true := by
    rw [Bool.or_eq_true, wasCancelled_eq]
    exact h
  simp [endOfWait, hc]

theorem enterTask_snd_of_requested {k : Kernel} {t : FutureId} (h : k.requested t = true) (input : Except Fault Data) :
    ∃ m, (k.enterTask t input).2 = .error (.taskCancelled m) := by
  have h : ((k.task? t).map (·.cancelRequested)).getD false = true := h
  rw [enterTask_snd, if_pos h]
  split
  · exact ⟨_, rfl⟩
  · exact ⟨_, rfl⟩

theorem enterTask_snd_of_not_requested {k : Kernel} {t : FutureId} (h : k.requested t = false) (input : Except Fault Data) :
    (k.enterTask t input).2 = input := by
  rw [enterTask_snd, if_neg]
  exact Bool.eq_false_iff.mp h

/-- What the task of a wait is told: a cancellation if it was asked to end, and else what came to the stand-in. -/
theorem Stands.tells {k : Kernel} {g : Get} {gone : Prop} (h : k.Stands g gone) {o : Outcome} (ho : k.outcome? g.waiter = some o) :
    (k.Asked g ∧ ∃ m, (k.enterTask g.task o.result).2 = .error (.taskCancelled m)) ∨
    (¬ k.Asked g ∧ (k.enterTask g.task o.result).2 = o.result) := by
  by_cases ha : k.Asked g
  · refine Or.inl ⟨ha, ?_⟩
    by_cases hr : k.requested g.task = true
    · exact enterTask_snd_of_requested hr _
    · have hc := (h.told ha).resolve_right hr
      rw [ho] at hc
      cases hc
      exact ⟨"", enterTask_snd_of_not_requested (by simpa using hr) _⟩
  · have hr : k.requested g.task = false := by
      rw [Bool.eq_false_iff]
      exact fun hr => ha (h.requested hr)
    exact Or.inr ⟨ha, enterTask_snd_of_not_requested hr _⟩

/-- What the task of a wait under a scope is told, and what that makes of the read. -/
theorem Waits.answers {k : Kernel} {g : Get} (h : k.Waits g) {o : Outcome} (ho : k.outcome? g.waiter = some o) :
    k.Answers g (k.endOfWait g.scope g.source (k.enterTask g.task o.result).2) := by
  rcases h.toStands.tells ho with ⟨ha, m, hm⟩ | ⟨ha, hm⟩
  · rw [hm]
    exact .asked ha
  · rw [hm]
    by_cases hc : o = .cancelled
    · subst hc
      have hwhy := (h.why ho).imp id (fun hw => hw.resolve_left ha)
      rw [Outcome.result, endOfWait_taskCancelled hwhy]
      exact .cancelled ha ho hwhy
    · exact .own ha ho (h.same o ho hc) hc

/-- The end of a read depends on little. -/
theorem Answers.congr {k k' : Kernel} {g : Get} {a : Except Fault Data} (h : k.Answers g a)
    (hc : k'.cancelsOf g.task = k.cancelsOf g.task) (ho : ∀ x, k'.outcome? x = k.outcome? x)
    (hs : k'.scopes.isCancelled g.scope = k.scopes.isCancelled g.scope) : k'.Answers g a := by
  have hasked : k'.Asked g ↔ k.Asked g := by simp only [Asked, hc]
  cases h with
  | own ha hw hf hn =>
    rw [← endOfWait_congr hs (ho g.source)]
    exact .own (hasked.not.mpr ha) ((ho _).trans hw) ((ho _).trans hf) hn
  | cancelled ha hw hwhy =>
    refine .cancelled (hasked.not.mpr ha) ((ho _).trans hw) ?_
    rwa [hs, ho]
  | asked ha =>
    rw [← endOfWait_congr hs (ho g.source)]
    exact .asked (hasked.mpr ha)

end Kernel

namespace Loop

variable {σ : Type}

open Kernel

/-! ## Reads -/

/-- A read after its scope was checked. -/
def shielding (s : ScopeId) (f : FutureId) : Flow σ Data := do
  let waiter ← Flow.ofKernel (·.shield f)
  Flow.modifyKernel (·.onCancel s waiter)
  Flow.leave s f waiter (← Flow.attempt (Flow.await waiter))

/-- A read that has a stand-in. -/
def registering (s : ScopeId) (f w : FutureId) : Flow σ Data := do
  Flow.modifyKernel (·.onCancel s w)
  Flow.leave s f w (← Flow.attempt (Flow.await w))

/-- A read that is over. -/
def leaving (s : ScopeId) (w : FutureId) (a : Except Fault Data) : Flow σ Data := do
  Flow.modifyKernel (·.offCancel s w)
  Flow.ofExcept a

theorem bind_apply {α β : Type} (m : Flow σ α) (f : α → Flow σ β) (cont : Except Fault β → Proc σ) : (m >>= f) cont = m fun
    | .ok a => f a cont
    | .error e => cont (.error e) := rfl

theorem ofExcept_bind {α β : Type} (r : Except Fault α) (f : α → Flow σ β) (cont : Except Fault β → Proc σ) :
    (Flow.ofExcept r >>= f) cont = match r with
      | .ok a => f a cont
      | .error e => cont (.error e) := by
  cases r <;> rfl

theorem kernel_bind {α : Type} (f : Kernel → Flow σ α) (cont : Except Fault α → Proc σ) :
    (Flow.kernel >>= f) cont = .access fun st => (st, f st.kernel cont) := rfl

theorem check_bind (k : Kernel) (s : ScopeId) {α : Type} (m : Flow σ α) (cont : Except Fault α → Proc σ) :
    ((Flow.ofExcept (k.scopes.check s) : Flow σ Unit) >>= fun _ => m) cont =
      if k.scopes.isCancelled s then cont (.error contextCancelled) else m cont := by
  unfold Forest.check
  split <;> rfl

theorem awaitUnder_eq (s : ScopeId) (f : FutureId) (cont : Except Fault Data → Proc σ) : Flow.awaitUnder s f cont =
    .access fun st => (st, if st.kernel.scopes.isCancelled s then cont (.error contextCancelled) else shielding s f cont) := by
  have hbind : (Flow.awaitUnder s f : Flow σ Data) =
      Flow.kernel >>= fun k => Flow.ofExcept (k.scopes.check s) >>= fun _ => shielding s f := rfl
  rw [hbind, kernel_bind]
  simp only [check_bind]

theorem shielding_eq (s : ScopeId) (f : FutureId) (cont : Except Fault Data → Proc σ) : shielding s f cont =
    .access fun st => ({ st with kernel := (st.kernel.shield f).1 }, registering s f (st.kernel.shield f).2 cont) := rfl

theorem leave_eq (s : ScopeId) (f w : FutureId) (r : Except Fault Data) (cont : Except Fault Data → Proc σ) : Flow.leave s f w r cont =
    .access fun st => (st, leaving s w (st.kernel.endOfWait s f r) cont) := rfl

/-- Where a task may be between the beginning and the end of a read. -/
inductive Reads (t f : FutureId) (s : ScopeId) (cont : Except Fault Data → Proc σ) (l : Loop σ) : Prop where
  | asking (h : l.focus = some (t, Flow.awaitUnder s f cont))
  | shielding (h : l.focus = some (t, shielding s f cont))
  | registering {w} (h : l.focus = some (t, registering s f w cont))
  | waiting {w} (h : l.focus = some (t, .await w fun r => Flow.leave s f w r cont))
  | asleep {g : Get} (ht : g.task = t) (hf : g.source = f) (hs : g.scope = s)
      (h : Waiting g (fun r => Flow.leave s f g.waiter r cont) l)
  | told {w r} (h : l.focus = some (t, Flow.leave s f w r cont))
  | leaving {w a} (h : l.focus = some (t, leaving s w a cont))

/-- In every run the read is not over yet, or it has ended once, and then as it should. -/
def ReadsTo (R : Rules) (l : Loop σ) (t f : FutureId) (s : ScopeId) (cont : Except Fault Data → Proc σ)
    (ends : Loop σ → Except Fault Data → Prop) : Prop :=
  ∀ log l', Run R l log l' → Reads t f s cont l' ∨
    ∃ log₁ log₂ l₁ a, Run R l log₁ l₁ ∧ l₁.focus = some (t, cont a) ∧ ends l₁ a ∧ Run R l₁ log₂ l'

/-- What the move leaves that wakes a task. -/
theorem Told.leaves {g : Get} {next : Except Fault Data → Proc σ} {l l' : Loop σ} (h : Told g next l l') :
    (∃ o, l.state.kernel.outcome? g.waiter = some o ∧ l'.focus = some (g.task, next (l.state.kernel.enterTask g.task o.result).2)) ∧
    (∀ x, l'.state.kernel.outcome? x = l.state.kernel.outcome? x) ∧ l'.state.kernel.scopes = l.state.kernel.scopes ∧
    l'.state.kernel.cancelsOf g.task = l.state.kernel.cancelsOf g.task ∧ l'.state.kernel.requested g.task = false := by
  obtain ⟨rest, o, -, ho, rfl⟩ := h.told
  have htask : ((l.dequeued rest).enterTask g.task o.result).1.task? g.task =
      (l.state.kernel.task? g.task).map fun task => { task with waitsFor := none, cancelRequested := false, started := true } := by
    rw [enterTask_fst, task?_updateTask, if_pos rfl]
    rfl
  refine ⟨⟨o, ho, rfl⟩, fun x => ?_, rfl, ?_, ?_⟩
  · exact outcome?_updateTask ..
  · have hcancels : ((l.dequeued rest).enterTask g.task o.result).1.cancelsOf g.task = l.state.kernel.cancelsOf g.task := by
      rw [cancelsOf, htask, Option.map_map]
      rfl
    exact hcancels
  · have hrequested : ((l.dequeued rest).enterTask g.task o.result).1.requested g.task = false := by
      rw [Kernel.requested, htask]
      cases l.state.kernel.task? g.task <;> rfl
    exact hrequested

/-- The task of a wait goes on with an answer of the read. -/
theorem Told.answers {g : Get} {next : Except Fault Data → Proc σ} {l l' : Loop σ} (h : Told g next l l')
    (hw : l.state.kernel.Waits g) : ∃ r, l'.focus = some (g.task, next r) ∧
      l'.state.kernel.Answers g (l'.state.kernel.endOfWait g.scope g.source r) := by
  obtain ⟨⟨o, ho, hf⟩, hout, hscopes, hcancels, -⟩ := h.leaves
  have hsame : l'.state.kernel.scopes.isCancelled g.scope = l.state.kernel.scopes.isCancelled g.scope := by rw [hscopes]
  refine ⟨_, hf, ?_⟩
  rw [endOfWait_congr hsame (hout _)]
  exact (hw.answers ho).congr hcancels hout hsame

section Reads

variable {R : Rules} {l l' : Loop σ} {log : List OwnerCall} {t : FutureId}

theorem Run.head (hr : Run R l log l') : l' = l ∨ ∃ log₁ log₂ l₁, Move R l log₁ l₁ ∧ Run R l₁ log₂ l' := by
  induction hr with
  | refl => exact Or.inl rfl
  | @tail _ log' l₁ l₂ hr hm ih =>
    rcases ih with rfl | ⟨log₁, log₂, l₃, hm', hr'⟩
    · exact Or.inr ⟨log', [], l₂, hm, .refl⟩
    · exact Or.inr ⟨log₁, log₂ ++ log', l₃, hm', hr'.tail hm⟩

/-- A task under way is not interrupted. -/
theorem Move.of_focus {p : Proc σ} (hm : Move R l log l') (hf : l.focus = some (t, p)) :
    l' = ({ l with focus := none } : Loop σ).advance t p := by
  cases hm with
  | job hn _ => rw [hf] at hn; cases hn
  | outside _ hn _ => rw [hf] at hn; cases hn
  | start _ _ hn _ => rw [hf] at hn; cases hn
  | node hf' _ hs =>
    obtain ⟨rfl, rfl⟩ := Prod.mk.inj (Option.some.inj (hf.symm.trans hf'))
    simpa [step, hf] using hs.symm

/-- The loop after a task has reached the state. -/
def accessed (l : Loop σ) (t : FutureId) (F : LoopState σ → LoopState σ × Proc σ) : Loop σ :=
  { l with state := (F l.state).1, focus := some (t, (F l.state).2) }

theorem Run.access {F : LoopState σ → LoopState σ × Proc σ} (hr : Run R l log l') (hf : l.focus = some (t, .access F)) :
    l' = l ∨ ∃ log₁ log₂, Run R l log₁ (l.accessed t F) ∧ Run R (l.accessed t F) log₂ l' := by
  rcases hr.head with rfl | ⟨log₁, log₂, l₁, hm, hr'⟩
  · exact Or.inl rfl
  · have hl : l₁ = l.accessed t F := hm.of_focus hf
    subst hl
    exact Or.inr ⟨log₁, log₂, Run.single hm, hr'⟩

/-- The loop after a task has gone to sleep. -/
def asleep (l : Loop σ) (t f : FutureId) (next : Except Fault Data → Proc σ) : Loop σ :=
  { (l.park t next).withKernel (·.waitFor t f) with focus := none }

theorem kernel_asleep (l : Loop σ) (t f : FutureId) (next : Except Fault Data → Proc σ) :
    (l.asleep t f next).state.kernel = l.state.kernel.waitFor t f := rfl

theorem next?_asleep (l : Loop σ) (t f : FutureId) (next : Except Fault Data → Proc σ) : (l.asleep t f next).next? t = some next :=
  (next?_park l t next t).trans (if_pos rfl)

/-- A task that waits for a future goes on if it is decided, and else sleeps. -/
theorem Run.await {f : FutureId} {next : Except Fault Data → Proc σ} (hr : Run R l log l') (hf : l.focus = some (t, .await f next)) :
    l' = l ∨ ∃ log₁ log₂ l₁, Run R l log₁ l₁ ∧ Run R l₁ log₂ l' ∧
      ((∃ o, l.state.kernel.outcome? f = some o ∧ l₁ = { l with focus := some (t, next o.result) }) ∨
       (l.state.kernel.outcome? f = none ∧ l₁ = l.asleep t f next)) := by
  rcases hr.head with rfl | ⟨log₁, log₂, l₁, hm, hr'⟩
  · exact Or.inl rfl
  · refine Or.inr ⟨log₁, log₂, l₁, Run.single hm, hr', ?_⟩
    have hl := hm.of_focus hf
    cases ho : l.state.kernel.outcome? f with
    | some o =>
      have ho' : (l.state.kernel.future f).outcome = some o := ho
      refine Or.inl ⟨o, rfl, hl.trans ?_⟩
      simp only [advance, ho']
    | none =>
      have ho' : (l.state.kernel.future f).outcome = none := ho
      refine Or.inr ⟨rfl, hl.trans ?_⟩
      simp only [advance, ho']
      rfl

/-- A read that slept comes to its end. -/
theorem Run.leave {s : ScopeId} {f w : FutureId} {r : Except Fault Data} {cont : Except Fault Data → Proc σ} (hr : Run R l log l')
    (hf : l.focus = some (t, Flow.leave s f w r cont)) : Reads t f s cont l' ∨ ∃ log₁ log₂ l₁, Run R l log₁ l₁ ∧
      l₁.focus = some (t, cont (l.state.kernel.endOfWait s f r)) ∧ l₁.state.kernel = l.state.kernel.offCancel s w ∧ Run R l₁ log₂ l' := by
  rcases hr.access (hf.trans (by rw [leave_eq])) with rfl | ⟨log₁, log₂, hr₁, hr₂⟩
  · exact Or.inl (.told hf)
  · rcases hr₂.access (F := fun st => ({ st with kernel := st.kernel.offCancel s w }, cont (l.state.kernel.endOfWait s f r))) rfl with
      rfl | ⟨log₃, log₄, hr₃, hr₄⟩
    · exact Or.inl (.leaving rfl)
    · exact Or.inr ⟨_, _, _, hr₁.trans hr₃, rfl, rfl, hr₄⟩

/-- The loop of a task that waits for a stand-in. -/
def shielded (l : Loop σ) (t f : FutureId) (s : ScopeId) (cont : Except Fault Data → Proc σ) : Loop σ :=
  { l with
    state := { l.state with kernel := l.state.kernel.shieldUnder f s }
    focus := some (t, .await (l.state.kernel.shield f).2 fun r => Flow.leave s f (l.state.kernel.shield f).2 r cont) }

theorem kernel_shielded (l : Loop σ) (t f : FutureId) (s : ScopeId) (cont : Except Fault Data → Proc σ) :
    (l.shielded t f s cont).state.kernel = l.state.kernel.shieldUnder f s := rfl

section Began

variable {s : ScopeId} {f : FutureId} {cont : Except Fault Data → Proc σ}

/-- A read has got its stand-in, or it has failed. -/
theorem Run.shielded (hr : Run R l log l') (hf : l.focus = some (t, Flow.awaitUnder s f cont)) :
    Reads t f s cont l' ∨ ∃ log₁ log₂,
      (l.state.kernel.scopes.isCancelled s = true ∧
        ∃ l₁, Run R l log₁ l₁ ∧ l₁.focus = some (t, cont (.error contextCancelled)) ∧ Run R l₁ log₂ l') ∨
      (l.state.kernel.scopes.isCancelled s = false ∧ Run R l log₁ (l.shielded t f s cont) ∧ Run R (l.shielded t f s cont) log₂ l') := by
  rcases hr.access (hf.trans (by rw [awaitUnder_eq])) with rfl | ⟨log₁, log₂, hr₁, hr₂⟩
  · exact Or.inl (.asking hf)
  by_cases hc : l.state.kernel.scopes.isCancelled s = true
  · exact Or.inr ⟨log₁, log₂, Or.inl ⟨hc, _, hr₁, by simp [accessed, hc], hr₂⟩⟩
  have hc : l.state.kernel.scopes.isCancelled s = false := by simpa using hc
  rcases hr₂.access (t := t) (F := fun st => ({ st with kernel := (st.kernel.shield f).1 },
    registering s f (st.kernel.shield f).2 cont)) (by simp [accessed, hc, shielding_eq]) with rfl | ⟨log₃, log₄, hr₃, hr₄⟩
  · exact Or.inl (.shielding (by simp [accessed, hc]))
  rcases hr₄.access (t := t) (F := fun st => ({ st with kernel := st.kernel.onCancel s (l.state.kernel.shield f).2 },
    .await (l.state.kernel.shield f).2 fun r => Flow.leave s f (l.state.kernel.shield f).2 r cont)) rfl with
    rfl | ⟨log₅, log₆, hr₅, hr₆⟩
  · exact Or.inl (.registering rfl)
  · exact Or.inr ⟨_, _, Or.inr ⟨hc, (hr₁.trans hr₃).trans hr₅, hr₆⟩⟩

/-- A read of a future that is decided. -/
theorem reads_known {o : Outcome} (hc : l.state.kernel.scopes.isCancelled s = false) (ho : l.state.kernel.outcome? f = some o) :
    ReadsTo R (l.shielded t f s cont) t f s cont fun l₁ a => ReadEnd l.state.kernel l₁.state.kernel t f s a := by
  intro log l' hr
  have hstand : (l.state.kernel.shield f).2 = f := by rw [shield_of_done ho]
  have hkernel : (l.shielded t f s cont).state.kernel = l.state.kernel.withScopes (l.state.kernel.scopes.on s f).1 := by
    rw [kernel_shielded, shieldUnder, shield_of_done ho, onCancel_of_not_cancelled _ hc]
  have hout : (l.shielded t f s cont).state.kernel.outcome? f = some o := by
    rw [hkernel]
    exact ho
  have hend : ∀ r, (l.shielded t f s cont).state.kernel.endOfWait s f r = l.state.kernel.endOfWait s f r := by
    refine endOfWait_congr ?_ (hout.trans ho.symm)
    rw [hkernel]
    exact Forest.isCancelled_on ..
  rcases hr.await rfl with rfl | ⟨log₁, log₂, l₁, hr₁, hr₂, ⟨o', ho', rfl⟩ | ⟨ho', -⟩⟩
  · exact Or.inl (.waiting rfl)
  · rw [hstand, hout] at ho'
    cases ho'
    rcases hr₂.leave rfl with hreads | ⟨log₃, log₄, l₂, hr₃, hf₂, -, hr₄⟩
    · exact Or.inl hreads
    · have hknown : ReadEnd l.state.kernel l₂.state.kernel t f s ((l.shielded t f s cont).state.kernel.endOfWait s f o.result) := by
        rw [hend]
        exact .known hc ho
      exact Or.inr ⟨_, _, l₂, _, hr₁.trans hr₃, hf₂, hknown, hr₄⟩
  · rw [hstand, hout] at ho'
    cases ho'

/-- A read that sleeps. -/
theorem Waiting.reads {g : Get} (h : Waiting g (fun r => Flow.leave g.scope g.source g.waiter r cont) l) (hs : Sound l)
    (hh : Hides R g.task g.waiter) :
    ReadsTo R l g.task g.source g.scope cont fun l₁ a => l₁.state.kernel.Answers g a := by
  intro log l' hr
  rcases hr.waiting hs h hh with hw | ⟨log₁, log₂, l₁, l₂, hr₁, hw, hm, hmove, hr₂⟩
  · exact Or.inl (.asleep rfl rfl rfl hw)
  · obtain ⟨r, hf₂, ha⟩ := hm.answers hw.waits
    rcases hr₂.leave hf₂ with hreads | ⟨log₃, log₄, l₃, hr₃, hf₃, hk₃, hr₄⟩
    · exact Or.inl hreads
    · have ha' : l₃.state.kernel.Answers g (l₂.state.kernel.endOfWait g.scope g.source r) := by
        rw [hk₃]
        exact ha.congr rfl (fun _ => rfl) (by simp [offCancel])
      exact Or.inr ⟨_, _, l₃, _, (hr₁.tail hmove).trans hr₃, hf₃, ha', hr₄⟩

/-- A read of a future that is open. -/
theorem reads_slept (hs : Sound l) (hsound : Sound (l.shielded t f s cont)) (hc : l.state.kernel.scopes.isCancelled s = false)
    (ho : l.state.kernel.outcome? f = none) {task : Task} (ht : l.state.kernel.task? t = some task)
    (hlt : f < l.state.kernel.futures.size) (hslt : s < l.state.kernel.scopes.scopes.size)
    (hh : Hides R t l.state.kernel.futures.size) :
    ReadsTo R (l.shielded t f s cont) t f s cont fun l₁ a => ReadEnd l.state.kernel l₁.state.kernel t f s a := by
  intro log l' hr
  have hstand : (l.state.kernel.shield f).2 = l.state.kernel.futures.size := by rw [shield_of_open ho]
  rcases hr.await rfl with rfl | ⟨log₁, log₂, l₁, hr₁, hr₂, ⟨o', ho', -⟩ | ⟨-, h₁⟩⟩
  · exact Or.inl (.waiting rfl)
  · -- the stand-in is new, so it is open
    rw [hstand, kernel_shielded, outcome?_shieldUnder ho hc] at ho'
    cases ho'
  · have hkernel : l₁.state.kernel = (l.state.kernel.shieldUnder f s).waitFor t l.state.kernel.futures.size := by
      rw [h₁, kernel_asleep, kernel_shielded, hstand]
    have hnext : l₁.next? t = some fun r => Flow.leave s f l.state.kernel.futures.size r cont := by
      rw [h₁, next?_asleep, hstand]
    have hw : Waiting (l.state.kernel.newGet t f s) (fun r => Flow.leave s f l.state.kernel.futures.size r cont) l₁ := by
      refine ⟨?_, hnext⟩
      rw [hkernel]
      exact waits_waitFor ht hs.refs ho hlt hc hslt
    rcases Waiting.reads hw (hr₁.sound hsound) hh log₂ l' hr₂ with hreads | ⟨log₃, log₄, l₂, a, hr₃, hf₂, ha, hr₄⟩
    · exact Or.inl hreads
    · exact Or.inr ⟨_, _, l₂, a, hr₁.trans hr₃, hf₂, .slept hc ho ha, hr₄⟩

end Began

/-- **A read ends once**, with what it should. -/
theorem reads_awaitUnder {s : ScopeId} {f : FutureId} {cont : Except Fault Data → Proc σ} (hs : Sound l)
    (hf : l.focus = some (t, Flow.awaitUnder s f cont)) (hlt : f < l.state.kernel.futures.size)
    (hslt : s < l.state.kernel.scopes.scopes.size) (hh : Hides R t l.state.kernel.futures.size) :
    ReadsTo R l t f s cont fun l₁ a => ReadEnd l.state.kernel l₁.state.kernel t f s a := by
  intro log l' hr
  obtain ⟨task, ht⟩ := Option.isSome_iff_exists.mp (hs.focus t _ hf).1
  rcases hr.shielded hf with hreads | ⟨log₁, log₂, ⟨hc, l₁, hr₁, hf₁, hr₂⟩ | ⟨hc, hr₁, hr₂⟩⟩
  · exact Or.inl hreads
  · exact Or.inr ⟨log₁, log₂, l₁, _, hr₁, hf₁, .refused hc, hr₂⟩
  · have hreads : ReadsTo R (l.shielded t f s cont) t f s cont fun l₁ a => ReadEnd l.state.kernel l₁.state.kernel t f s a := by
      cases ho : l.state.kernel.outcome? f with
      | some o => exact reads_known hc ho
      | none => exact reads_slept hs (hr₁.sound hs) hc ho ht hlt hslt hh
    rcases hreads log₂ l' hr₂ with hreads | ⟨log₃, log₄, l₁, a, hr₃, hf₁, hend, hr₄⟩
    · exact Or.inl hreads
    · exact Or.inr ⟨_, _, l₁, a, hr₁.trans hr₃, hf₁, hend, hr₄⟩

end Reads

end Loop

end ScriptFlow
