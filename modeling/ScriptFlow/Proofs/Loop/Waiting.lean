import Mathlib
import ScriptFlow.Proofs.Loop.Sound

/-!
# Waiting under a scope

A task that waits for a future under a scope waits for a stand-in of its own, which is decided by the future, by the scope or with the task itself, and by
nothing else. The invariant is kept by everything that can happen to a kernel while nobody else touches the stand-in.

* `Kernel.Stands` — the stand-in between the future and the task, whatever the scope does; turns of the loop keep it.
* `Kernel.Waits` — the same with the scope: while the stand-in is open, its scope is not cancelled and will cancel it.
* `Kernel.Acts.waits`, `Kernel.Waits.cancelScope` — whatever actors do keeps it.
* `Kernel.stands_waitFor`, `Kernel.waits_waitFor` — how a wait begins.
-/

namespace ScriptFlow

/-- A wait for a future under a scope. -/
structure Get where
  task : FutureId
  source : FutureId
  /-- the stand-in -/
  waiter : FutureId
  scope : ScopeId
  /-- how often the task had been asked to end before -/
  cancels : Nat
  /-- had it been asked, and not been told? -/
  pending : Bool

/-- The references through which the stand-in may change. -/
def Get.refs (g : Get) : List Ref :=
  [.pending g.source (.relay g.waiter), .pending g.waiter (.unrelay g.source g.waiter), .registered g.scope g.waiter,
    .waiting g.task g.waiter]

namespace Kernel

/-- What a task waits for. -/
def waitsOn (k : Kernel) (t : FutureId) : Option FutureId := (k.task? t).bind (·.waitsFor)

/-- Will a task be told of a cancellation when it next runs? -/
def requested (k : Kernel) (t : FutureId) : Bool := ((k.task? t).map (·.cancelRequested)).getD false

/-- How often a task was asked to end. -/
def cancelsOf (k : Kernel) (t : FutureId) : Nat := ((k.task? t).map (·.cancels)).getD 0

/-- Was the task itself asked to end, during the wait or shortly before? -/
def Asked (k : Kernel) (g : Get) : Prop := g.pending = true ∨ g.cancels < k.cancelsOf g.task

/-- The stand-in between a future and a task; `gone` says that the scope has given it up. -/
structure Stands (k : Kernel) (g : Get) (gone : Prop) : Prop where
  ne : g.waiter ≠ g.source
  lt : g.waiter < k.futures.size
  plain : k.task? g.waiter = none
  waits : k.waitsOn g.task = some g.waiter
  counted : g.cancels ≤ k.cancelsOf g.task
  requested : k.requested g.task = true → k.Asked g
  told : k.Asked g → k.outcome? g.waiter = some .cancelled ∨ k.requested g.task = true
  refs : k.outcome? g.waiter = none → ∀ r, k.Holds r → g.waiter ∈ r.touches → r ∈ g.refs
  wake : k.Due g.waiter (.wake g.task)
  relay : k.outcome? g.waiter = none → k.Due g.source (.relay g.waiter)
  why : k.outcome? g.waiter = some .cancelled → gone ∨ k.Asked g ∨ k.outcome? g.source = some .cancelled
  same : ∀ o, k.outcome? g.waiter = some o → o ≠ .cancelled → k.outcome? g.source = some o

section Stands

variable {k k' : Kernel} {g : Get} {gone gone' : Prop} {new : Ref → Prop} {spent : FutureId → Callback → Prop}

theorem Stands.gone_mono (h : k.Stands g gone) (ho : gone → gone') : k.Stands g gone' :=
  { h with why := fun hc => (h.why hc).imp ho id }

theorem Stands.task_ne (h : k.Stands g gone) {x : FutureId} {task : Task} (hx : k.task? x = some task) : x ≠ g.waiter := by
  rintro rfl
  rw [h.plain] at hx
  cases hx

/-- A change that leaves the task alone; the stand-in may be decided for a reason. -/
theorem Stands.grows (h : k.Stands g gone) (hg : Grows new spent k k')
    (hnew : k'.outcome? g.waiter = none → ∀ r, new r → g.waiter ∈ r.touches → r ∈ g.refs)
    (hwake : ¬ spent g.waiter (.wake g.task)) (hrelay : k'.outcome? g.waiter = none → ¬ spent g.source (.relay g.waiter))
    (htask : k'.task? g.task = k.task? g.task) (hover : gone → gone')
    (hout : ∀ o, k'.outcome? g.waiter = some o → k.outcome? g.waiter = some o ∨
      (o = .cancelled ∧ (gone' ∨ k'.outcome? g.source = some .cancelled)) ∨ (o ≠ .cancelled ∧ k'.outcome? g.source = some o)) :
    k'.Stands g gone' := by
  have hasked : k'.Asked g ↔ k.Asked g := by simp only [Asked, cancelsOf, htask]
  have hreq : k'.requested g.task = k.requested g.task := by simp only [Kernel.requested, htask]
  refine ⟨h.ne, Nat.lt_of_lt_of_le h.lt hg.size, hg.plain _ h.lt h.plain, ?_, ?_, ?_, ?_, ?_, hg.due _ _ hwake h.wake, ?_, ?_, ?_⟩
  · simpa only [waitsOn, htask] using h.waits
  · simpa only [cancelsOf, htask] using h.counted
  · rw [hreq, hasked]
    exact h.requested
  · rw [hreq, hasked]
    exact fun ha => (h.told ha).imp (hg.outcome _ _) id
  · intro ho r hr hw
    rcases hg.refs r hr with hr | hr
    · exact h.refs (hg.open_of_open ho) r hr hw
    · exact hnew ho r hr hw
  · intro ho
    exact hg.due _ _ (hrelay ho) (h.relay (hg.open_of_open ho))
  · intro ho
    rw [hasked]
    rcases hout _ ho with hc | ⟨-, hc⟩ | ⟨hc, -⟩
    · exact (h.why hc).imp hover (Or.imp id (hg.outcome _ _))
    · exact hc.imp id Or.inr
    · exact absurd rfl hc
  · intro o ho hn
    rcases hout _ ho with hc | ⟨hc, -⟩ | ⟨-, hc⟩
    · exact hg.outcome _ _ (h.same o hc hn)
    · exact absurd hc hn
    · exact hc

/-- A change that leaves the task and the stand-in alone. -/
theorem Stands.calm (h : k.Stands g gone) (hg : Calm k k') (htask : k'.task? g.task = k.task? g.task)
    (hout : k'.outcome? g.waiter = k.outcome? g.waiter) : k'.Stands g gone :=
  h.grows hg (fun _ _ => False.elim) id (fun _ => id) htask id fun _ ho => Or.inl (hout ▸ ho)

theorem Stands.resolve (h : k.Stands g gone) {x : FutureId} (hx : x = g.waiter → k.outcome? x ≠ none) (o : Outcome) :
    (k.resolve x o).Stands g gone := by
  refine h.calm (calm_resolve k x o) (by simp) ?_
  rw [outcome?_resolve, if_neg]
  rintro ⟨he, -, ho⟩
  exact hx he.symm ho

/-- The stand-in is decided as the future is, or given up. -/
theorem Stands.resolve_waiter (h : k.Stands g gone) {o : Outcome}
    (hc : o = .cancelled → gone' ∨ k.outcome? g.source = some .cancelled) (ho : o ≠ .cancelled → k.outcome? g.source = some o)
    (hover : gone → gone') : (k.resolve g.waiter o).Stands g gone' := by
  have hg := calm_resolve k g.waiter o
  refine h.grows hg (fun _ _ => False.elim) id (fun _ => id) (by simp) hover fun o' ho' => ?_
  rw [outcome?_resolve] at ho'
  split at ho'
  · right
    cases ho'
    by_cases hn : o = .cancelled
    · exact Or.inl ⟨hn, (hc hn).imp id (hg.outcome _ _)⟩
    · exact Or.inr ⟨hn, hg.outcome _ _ (ho hn)⟩
  · exact Or.inl ho'

theorem Stands.noteCancel (h : k.Stands g gone) {x : FutureId} (hx : x ≠ g.task) : (k.noteCancel x).Stands g gone :=
  h.calm (calm_noteCancel k x) (by rw [task?_noteCancel, if_neg hx.symm]) (by simp)

theorem Stands.updateTask (h : k.Stands g gone) {x : FutureId} (hx : x ≠ g.task) {u : Task → Task} (hg : Calm k (k.updateTask x u)) :
    (k.updateTask x u).Stands g gone :=
  h.calm hg (by rw [task?_updateTask, if_neg hx.symm]) (by simp)

/-- The task is asked to end and will be told of it. -/
theorem Stands.ask (h : k.Stands g gone) : ((k.noteCancel g.task).requestCancel g.task).Stands g gone := by
  have hg : Calm k ((k.noteCancel g.task).requestCancel g.task) := (calm_noteCancel k g.task).trans (calm_requestCancel _ _)
  have hout : ∀ x, ((k.noteCancel g.task).requestCancel g.task).outcome? x = k.outcome? x := fun x => by simp [requestCancel]
  have htask : ((k.noteCancel g.task).requestCancel g.task).task? g.task =
      (k.task? g.task).map fun task => { task with cancels := task.cancels + 1, cancelRequested := true } := by
    simp [requestCancel, task?_updateTask, task?_noteCancel, Function.comp_def]
  have hsome : ∃ task, k.task? g.task = some task := by
    have hw := h.waits
    cases ht : k.task? g.task with
    | none => simp [waitsOn, ht] at hw
    | some task => exact ⟨task, rfl⟩
  obtain ⟨task, ht⟩ := hsome
  have hasked : ((k.noteCancel g.task).requestCancel g.task).Asked g := by
    right
    have := h.counted
    simp only [cancelsOf, htask, ht, Option.map_some, Option.getD_some] at this ⊢
    omega
  refine ⟨h.ne, Nat.lt_of_lt_of_le h.lt hg.size, hg.plain _ h.lt h.plain, ?_, ?_, fun _ => hasked, fun _ => Or.inr ?_, ?_,
    hg.due _ _ id h.wake, ?_, fun _ => Or.inr (Or.inl hasked), ?_⟩
  · have := h.waits
    simpa [waitsOn, htask, ht] using this
  · have := h.counted
    simp only [cancelsOf, htask, ht, Option.map_some, Option.getD_some] at this ⊢
    omega
  · simp [Kernel.requested, htask, ht]
  · intro ho r hr hw
    exact h.refs ((hout _).symm.trans ho) r ((hg.refs r hr).resolve_right id) hw
  · exact fun ho => hg.due _ _ id (h.relay ((hout _).symm.trans ho))
  · intro o ho hn
    rw [hout] at *
    exact h.same o ho hn

/-- The task is asked to end, and its stand-in is cancelled for it. -/
theorem Stands.ask_through (h : k.Stands g gone) (ho : k.outcome? g.waiter = none) :
    ((k.noteCancel g.task).resolve g.waiter .cancelled).Stands g gone := by
  have hg : Calm k ((k.noteCancel g.task).resolve g.waiter .cancelled) := (calm_noteCancel k g.task).trans (calm_resolve _ _ _)
  have hw : ((k.noteCancel g.task).resolve g.waiter .cancelled).outcome? g.waiter = some .cancelled := by
    simp [outcome?_resolve, h.lt, ho]
  have htask : ((k.noteCancel g.task).resolve g.waiter .cancelled).task? g.task =
      (k.task? g.task).map fun task => { task with cancels := task.cancels + 1 } := by
    simp [task?_noteCancel]
  obtain ⟨task, ht, hwt⟩ : ∃ task, k.task? g.task = some task ∧ task.waitsFor = some g.waiter :=
    Option.bind_eq_some_iff.mp h.waits
  have hasked : ((k.noteCancel g.task).resolve g.waiter .cancelled).Asked g := by
    right
    have := h.counted
    simp only [cancelsOf, htask, ht, Option.map_some, Option.getD_some] at this ⊢
    omega
  refine ⟨h.ne, Nat.lt_of_lt_of_le h.lt hg.size, hg.plain _ h.lt h.plain, ?_, ?_, fun _ => hasked, fun _ => Or.inl hw, ?_,
    hg.due _ _ id h.wake, ?_, fun _ => Or.inr (Or.inl hasked), ?_⟩
  · simp [waitsOn, htask, ht, hwt]
  · have := h.counted
    simp only [cancelsOf, htask, ht, Option.map_some, Option.getD_some] at this ⊢
    omega
  · rw [hw]
    exact fun hn => by cases hn
  · rw [hw]
    exact fun hn => by cases hn
  · intro o ho' hn
    rw [hw] at ho'
    exact absurd (Option.some.inj ho').symm hn

/-- While the stand-in is open, its task alone waits for it. -/
theorem Stands.eq_task (h : k.Stands g gone) (ho : k.outcome? g.waiter = none) {x : FutureId} (hx : k.Holds (.waiting x g.waiter)) :
    x = g.task := by
  have hr := h.refs ho _ hx (by simp [Ref.touches])
  simpa [Get.refs] using hr

/-- A cancellation of something else keeps the stand-in; one that comes to the task asks it to end. -/
theorem Cancels.stands {x : FutureId} (hc : Cancels k x k') (h : k.Stands g gone) (hx : x = g.waiter → k.outcome? x ≠ none) :
    k'.Stands g gone := by
  induction hc with
  | done => exact h
  | plain => exact h.resolve hx _
  | @asked k x task ho ht =>
    by_cases hxt : x = g.task
    · rw [hxt]
      exact h.ask
    · exact (h.noteCancel hxt).updateTask hxt (calm_requestCancel _ _)
  | @through k x task w k' ho ht hw hwo hc ih =>
    by_cases hxt : x = g.task
    · -- the task itself: what it waits for is the stand-in, which ends the wait
      subst hxt
      have hwe : w = g.waiter := by
        have hw' := h.waits
        rw [waitsOn, ht] at hw'
        exact Option.some.inj (hw.symm.trans hw')
      subst hwe
      have hplain : (k.noteCancel g.task).task? g.waiter = none := by
        rw [task?_noteCancel, if_neg (h.task_ne ht).symm]
        exact h.plain
      cases hc with
      | done hd => simp [hwo] at hd
      | plain => exact h.ask_through hwo
      | asked _ ht' => rw [hplain] at ht'; cases ht'
      | through _ ht' _ _ _ => rw [hplain] at ht'; cases ht'
    · refine ih (h.noteCancel hxt) ?_
      rintro rfl
      exact absurd (h.eq_task hwo ⟨task, ht, hw⟩) hxt

theorem Stands.cancel (h : k.Stands g gone) {x : FutureId} (hx : x = g.waiter → k.outcome? x ≠ none) : (k.cancel x).Stands g gone :=
  (k.cancel_cancels x).stands h hx

/-- Cancelling a task that waits for a stand-in cancels the stand-in. -/
theorem Stands.outcome?_cancel_task (h : k.Stands g gone) (ht : k.outcome? g.task = none) (ho : k.outcome? g.waiter = none) :
    (k.cancel g.task).outcome? g.waiter = some .cancelled := by
  obtain ⟨task, htask, hw⟩ : ∃ task, k.task? g.task = some task ∧ task.waitsFor = some g.waiter := Option.bind_eq_some_iff.mp h.waits
  obtain ⟨n, hn⟩ : ∃ n, k.futures.size = n + 1 := Nat.exists_eq_succ_of_ne_zero (Nat.ne_of_gt (Nat.zero_lt_of_lt h.lt))
  have hwo : (k.noteCancel g.task).outcome? g.waiter = none := by simpa using ho
  have hplain : (k.noteCancel g.task).task? g.waiter = none := by
    rw [task?_noteCancel, if_neg (h.task_ne htask).symm]
    exact h.plain
  rw [Kernel.cancel, cancelWithin_of_waiting _ ht htask hw, hn, cancelWithin_of_plain _ hwo hplain, if_pos rfl, outcome?_resolve, if_pos]
  exact ⟨rfl, by simpa using h.lt, hwo⟩

/-- The scope gives the stand-in up. -/
theorem Stands.cancel_waiter (h : k.Stands g gone) (hover : gone → gone') (hw : gone') : (k.cancel g.waiter).Stands g gone' := by
  by_cases ho : k.outcome? g.waiter = none
  · have hc : k.cancel g.waiter = k.resolve g.waiter .cancelled := by
      rw [Kernel.cancel, cancelWithin_of_plain _ ho h.plain]
    rw [hc]
    exact h.resolve_waiter (fun _ => Or.inl hw) (fun hn => absurd rfl hn) hover
  · exact (h.cancel fun _ => ho).gone_mono hover

theorem Stands.cancelAll (h : k.Stands g gone) (fs : List FutureId) (hgone : gone → gone')
    (hw : g.waiter ∈ fs → gone' ∨ k.outcome? g.waiter ≠ none) : (k.cancelAll fs).Stands g gone' := by
  induction fs generalizing k gone with
  | nil => exact h.gone_mono hgone
  | cons x rest ih =>
    have hrest : g.waiter ∈ rest → gone' ∨ (k.cancel x).outcome? g.waiter ≠ none :=
      fun hm => (hw (List.mem_cons_of_mem _ hm)).imp id (k.cancel_cancels x).calm.done_of_done
    by_cases hx : x = g.waiter
    · subst hx
      rcases hw (by simp) with hg | hd
      · exact ih (h.cancel_waiter hgone hg) id hrest
      · exact ih (h.cancel fun _ => hd) hgone hrest
    · exact ih (h.cancel fun he => absurd he hx) hgone hrest

theorem Stands.task_lt (h : k.Stands g gone) : g.task < k.futures.size := by
  obtain ⟨task, ht, -⟩ := Option.bind_eq_some_iff.mp h.waits
  exact lt_size_of_task k ht

/-- A change that makes references which do not concern the stand-in, and leaves the task and the stand-in alone. -/
theorem Stands.beside (h : k.Stands g gone) (hg : Grows new (fun _ _ => False) k k') (hnew : ∀ r, new r → g.waiter ∉ r.touches)
    (htask : k'.task? g.task = k.task? g.task) (hout : k'.outcome? g.waiter = k.outcome? g.waiter) : k'.Stands g gone :=
  h.grows hg (fun _ r hr hw => absurd hw (hnew r hr)) id (fun _ => id) htask id fun _ ho => Or.inl (hout ▸ ho)

theorem Stands.offCancel (h : k.Stands g gone) (s : ScopeId) (x : FutureId) : (k.offCancel s x).Stands g gone :=
  h.calm (k.calm_offCancel s x) rfl rfl

/-! ### Jobs -/

/-- The first job is taken, and it is not what the wait hangs on. -/
theorem Stands.dequeue (h : k.Stands g gone) {j : Job} {rest : List Job} (hr : k.ready = j :: rest)
    (hwake : j ≠ .callback g.waiter (.wake g.task)) (hrelay : k.outcome? g.waiter = none → j ≠ .callback g.source (.relay g.waiter)) :
    ({ k with ready := rest } : Kernel).Stands g gone := by
  refine { h with refs := ?_, wake := h.wake.dequeue hr hwake, relay := ?_ }
  · exact fun ho r hh hw => h.refs ho r (holds_of_dequeued k hr hh) hw
  · exact fun ho => (h.relay ho).dequeue hr (hrelay ho)

/-- With nothing left to do, the stand-in is open, and so is the future behind it. -/
theorem Stands.open_of_rest (h : k.Stands g gone) (hr : k.ready = []) :
    k.outcome? g.waiter = none ∧ k.outcome? g.source = none := by
  have hopen : k.outcome? g.waiter = none := by
    rcases h.wake with ⟨ho, -⟩ | ⟨-, hm⟩
    · exact ho
    · simp [hr] at hm
  refine ⟨hopen, ?_⟩
  rcases h.relay hopen with ⟨ho, -⟩ | ⟨-, hm⟩
  · exact ho
  · simp [hr] at hm

/-- Deciding a future leaves the first job where it was. -/
theorem resolve_dequeued {j : Job} {rest : List Job} (hr : k.ready = j :: rest) (x : FutureId) (o : Outcome) :
    ∃ js, (k.resolve x o).ready = j :: js ∧ ({ k with ready := rest } : Kernel).resolve x o = { k.resolve x o with ready := js } := by
  have hd : ({ k with ready := rest } : Kernel).isDone x = k.isDone x := rfl
  unfold Kernel.resolve
  rw [hd]
  split
  · exact ⟨rest, hr, rfl⟩
  · exact ⟨rest ++ (k.future x).callbacks.map (.callback x), by simp [queue, update, hr], rfl⟩

/-- A queued callback runs, which may be the one that tells the stand-in. -/
theorem Stands.runCallback (h : k.Stands g gone) {x : FutureId} {c : Callback} {rest : List Job} (hr : k.ready = .callback x c :: rest)
    (hdone : ∀ y c, .callback y c ∈ k.ready → k.outcome? y ≠ none) (hc : ∀ t, c ≠ .wake t) :
    (({ k with ready := rest } : Kernel).runCallback x c).Stands g gone := by
  have hx : k.outcome? x ≠ none := hdone x c (by simp [hr])
  have hheld : k.Holds (.pending x c) := Or.inr (by simp [hr])
  have hknown : k.outcome? g.waiter = none → g.waiter ∈ c.touches x →
      (x = g.source ∧ c = .relay g.waiter) ∨ (x = g.waiter ∧ c = .unrelay g.source g.waiter) := by
    intro ho hw
    simpa [Get.refs] using h.refs ho _ hheld hw
  have hwake : Job.callback x c ≠ .callback g.waiter (.wake g.task) := by
    intro he
    exact hc _ (Job.callback.inj he).2
  by_cases hrelay : k.outcome? g.waiter = none ∧ x = g.source ∧ c = .relay g.waiter
  · -- the future tells the stand-in how it ended
    obtain ⟨ho, rfl, rfl⟩ := hrelay
    obtain ⟨o, hso⟩ := Option.ne_none_iff_exists'.mp hx
    obtain ⟨js, hready, hres⟩ := resolve_dequeued hr g.waiter o
    have hrun : ({ k with ready := rest } : Kernel).runCallback g.source (.relay g.waiter) =
        ({ k with ready := rest } : Kernel).resolve g.waiter o := by
      have hso' : (({ k with ready := rest } : Kernel).future g.source).outcome = some o := hso
      have ho' : ({ k with ready := rest } : Kernel).outcome? g.waiter = none := ho
      have hplain' : ({ k with ready := rest } : Kernel).task? g.waiter = none := h.plain
      simp only [Kernel.runCallback, hso']
      cases o with
      | cancelled => rw [Kernel.cancel, cancelWithin_of_plain _ ho' hplain']
      | value d => rfl
      | error e => rfl
    rw [hrun, hres]
    have hstands : (k.resolve g.waiter o).Stands g gone :=
      h.resolve_waiter (fun hc => Or.inr (hc ▸ hso)) (fun _ => hso) id
    refine hstands.dequeue hready hwake fun hn => ?_
    simp [outcome?_resolve, h.lt, ho] at hn
  · have h₀ : ({ k with ready := rest } : Kernel).Stands g gone := by
      refine h.dequeue hr hwake fun ho he => hrelay ⟨ho, ?_⟩
      obtain ⟨rfl, rfl⟩ := Job.callback.inj he
      exact ⟨rfl, rfl⟩
    have htouch : g.waiter ∈ c.touches x → k.outcome? g.waiter ≠ none := by
      intro hw ho
      rcases hknown ho hw with hk | ⟨rfl, -⟩
      · exact hrelay ⟨ho, hk⟩
      · exact hx ho
    cases c with
    | wake t => exact absurd rfl (hc t)
    | forward f =>
      have hf : f = g.waiter → k.outcome? f ≠ none := fun he => he ▸ htouch (by simp [Callback.touches, he])
      simp only [Kernel.runCallback, Kernel.forward]
      split
      · exact h₀
      · exact h₀.resolve hf _
      · exact h₀.resolve hf _
    | unlink s => exact h₀.offCancel s x
    | relay w =>
      have hw : w = g.waiter → k.outcome? w ≠ none := fun he => he ▸ htouch (by simp [Callback.touches, he])
      simp only [Kernel.runCallback]
      split
      · exact h₀
      · exact h₀.cancel hw
      · exact h₀.resolve hw _
    | unrelay inner w =>
      simp only [Kernel.runCallback]
      split
      · exact h₀
      · have hgrows : Grows (fun _ => False) (fun y c => y = inner ∧ c = .relay w) ({ k with ready := rest } : Kernel)
            (({ k with ready := rest } : Kernel).removeCallback inner (.relay w)) := grows_removeCallback _ inner ⟨rfl, rfl⟩
        refine h₀.grows hgrows (fun _ _ => False.elim) (by simp) ?_ (by simp) id fun _ ho => Or.inl (by simpa using ho)
        rintro ho ⟨-, he⟩
        have hww : g.waiter = w := by simpa using he
        have ho' : ({ k with ready := rest } : Kernel).outcome? g.waiter = none := by simpa using ho
        exact htouch (by simp [Callback.touches, hww]) ho'

/-! ### Other tasks -/

theorem Stands.enterTask (h : k.Stands g gone) {x : FutureId} (hx : x ≠ g.task) (input : Except Fault Data) :
    (k.enterTask x input).1.Stands g gone :=
  h.updateTask hx (k.calm_enterTask x input)

theorem Stands.finishTask (h : k.Stands g gone) {x : FutureId} (hx : x ≠ g.waiter) (r : Except Fault Data) :
    (k.finishTask x r).Stands g gone := by
  obtain ⟨o, ho⟩ := k.finishTask_eq x r
  rw [ho]
  exact h.resolve (fun he => absurd he hx) o

theorem Stands.newTask (h : k.Stands g gone) (watched : Bool) : (k.newTask watched).1.Stands g gone := by
  have hlt := h.task_lt
  refine h.beside (k.grows_newTask watched) ?_ ?_ ?_
  · rintro r rfl hw
    exact h.lt.ne (by simpa [Ref.touches] using hw)
  · simp [newTask_fst, task?, future_newFuture, hlt.ne]
  · simp [newTask_fst, outcome?, future_newFuture, h.lt.ne]

theorem Stands.queueResume (h : k.Stands g gone) {x : FutureId} (hx : x ≠ g.waiter) (input : Except Fault Data) :
    (k.queue [.resume x input]).Stands g gone := by
  have hg : Grows (fun r => r = .resume x) (fun _ _ => False) k (k.queue [.resume x input]) := k.grows_queue_resume x input rfl
  refine h.beside hg ?_ rfl rfl
  rintro r rfl hw
  exact hx (Eq.symm (by simpa [Ref.touches] using hw))

/-- Another task waits for something else. -/
theorem Stands.waitFor (h : k.Stands g gone) {x f : FutureId} (hx : x ≠ g.task) (hxw : x ≠ g.waiter) (hf : f ≠ g.waiter) :
    (k.waitFor x f).Stands g gone := by
  have hset : (k.awaiting x f).Stands g gone := by
    have hg : Grows (fun r => r = .pending f (.wake x) ∨ r = .waiting x f) (fun _ _ => False) k (k.awaiting x f) := by
      refine (grows_addCallback k f (Or.inl rfl)).trans (grows_updateTask _ x ?_ fun _ => Nat.le_refl _)
      rintro a w ⟨⟩
      exact Or.inr (Or.inr rfl)
    refine h.beside hg ?_ (by rw [task?_awaiting, if_neg hx.symm]) (by simp [awaiting])
    rintro r (rfl | rfl) hw
    · exact hxw (Eq.symm (by simpa [Ref.touches, Callback.touches] using hw))
    · exact hf (Eq.symm (by simpa [Ref.touches] using hw))
  have hcan : ((k.awaiting x f).cancel f).Stands g gone := hset.cancel fun he => absurd he hf
  cases ht : k.task? x with
  | none =>
    rw [waitFor_of_not_requested k (by simp [ht])]
    exact hset
  | some task =>
    cases hc : task.cancelRequested with
    | false =>
      rw [waitFor_of_not_requested k (by simp [ht, hc])]
      exact hset
    | true =>
      rw [waitFor_of_requested k ht hc]
      split
      · exact hcan.updateTask hx (grows_updateTask _ x (fun _ _ h => Or.inl h) fun _ => Nat.le_refl _)
      · exact hcan

/-- A task that was asked to end before it began to wait is told through its stand-in. -/
theorem Stands.tell (h : k.Stands g gone) (hp : g.pending = true) (ho : k.outcome? g.waiter = none) :
    ((k.resolve g.waiter .cancelled).updateTask g.task fun task => { task with cancelRequested := false }).Stands g gone := by
  have hstands : (k.resolve g.waiter .cancelled).Stands g True :=
    h.resolve_waiter (fun _ => Or.inl trivial) (fun hn => absurd rfl hn) fun _ => trivial
  have hw : ((k.resolve g.waiter .cancelled).updateTask g.task fun task => { task with cancelRequested := false }).outcome? g.waiter =
      some .cancelled := by
    simp [outcome?_resolve, h.lt, ho]
  have hgrow : Calm (k.resolve g.waiter .cancelled)
      ((k.resolve g.waiter .cancelled).updateTask g.task fun task => { task with cancelRequested := false }) :=
    grows_updateTask _ _ (fun _ _ hr => Or.inl hr) fun _ => Nat.le_refl _
  obtain ⟨task, ht, hwt⟩ : ∃ task, (k.resolve g.waiter .cancelled).task? g.task = some task ∧ task.waitsFor = some g.waiter :=
    Option.bind_eq_some_iff.mp hstands.waits
  refine ⟨h.ne, ?_, ?_, ?_, ?_, fun _ => Or.inl hp, fun _ => Or.inl hw, ?_, hgrow.due _ _ id hstands.wake, ?_,
    fun _ => Or.inr (Or.inl (Or.inl hp)), ?_⟩
  · exact Nat.lt_of_lt_of_le hstands.lt hgrow.size
  · exact hgrow.plain _ hstands.lt hstands.plain
  · simp only [waitsOn, task?_updateTask, if_pos, ht, Option.map_some, Option.bind_some]
    exact hwt
  · have hc := hstands.counted
    simpa [cancelsOf, task?_updateTask, ht] using hc
  all_goals rw [hw]
  · exact fun hn => by cases hn
  · exact fun hn => by cases hn
  · exact fun o he hn => absurd (Option.some.inj he).symm hn

end Stands

/-- A wait under a scope. -/
structure Waits (k : Kernel) (g : Get) : Prop extends Stands k g (k.scopes.isCancelled g.scope = true) where
  scope : k.outcome? g.waiter = none → k.scopes.isCancelled g.scope = false ∧ g.waiter ∈ (k.scopes.scope g.scope).callbacks

section Waits

variable {k k' : Kernel} {g : Get}

/-- A change that leaves the scopes alone. -/
theorem Waits.keep (h : k.Waits g) (hs : k'.Stands g (k.scopes.isCancelled g.scope = true)) (hscopes : k'.scopes = k.scopes)
    (hopen : k'.outcome? g.waiter = none → k.outcome? g.waiter = none) : k'.Waits g := by
  refine { toStands := ?_, scope := ?_ }
  · rwa [hscopes]
  · rw [hscopes]
    exact fun ho => h.scope (hopen ho)

theorem Waits.cancel (h : k.Waits g) {x : FutureId} (hx : x = g.waiter → k.outcome? x ≠ none) : (k.cancel x).Waits g :=
  h.keep (h.toStands.cancel hx) (k.cancel_cancels x).scopes fun ho => (k.cancel_cancels x).calm.open_of_open ho

theorem Waits.resolve (h : k.Waits g) {x : FutureId} (hx : x = g.waiter → k.outcome? x ≠ none) (o : Outcome) : (k.resolve x o).Waits g :=
  h.keep (h.toStands.resolve hx o) (by simp) fun ho => (calm_resolve k x o).open_of_open ho

/-- A change of the forest alone, which does not concern the scope. -/
theorem Waits.withScopes (h : k.Waits g) {f : Forest FutureId} {new : Ref → Prop}
    (hg : Grows new (fun _ _ => False) k (k.withScopes f)) (hnew : k.outcome? g.waiter = none → ∀ r, new r → g.waiter ∉ r.touches)
    (hmono : k.scopes.isCancelled g.scope = true → f.isCancelled g.scope = true)
    (hkeep : k.outcome? g.waiter = none → k.scopes.isCancelled g.scope = false → g.waiter ∈ (k.scopes.scope g.scope).callbacks →
      f.isCancelled g.scope = false ∧ g.waiter ∈ (f.scope g.scope).callbacks) : (k.withScopes f).Waits g := by
  have hs : (k.withScopes f).Stands g (k.scopes.isCancelled g.scope = true) :=
    h.toStands.grows hg (fun ho r hr hw => absurd hw (hnew ho r hr)) id (fun _ => id) rfl id fun _ ho => Or.inl ho
  exact { toStands := hs.gone_mono hmono, scope := fun ho => hkeep ho (h.scope ho).1 (h.scope ho).2 }

theorem Waits.onCancel (h : k.Waits g) (s : ScopeId) {x : FutureId} (hx : x = g.waiter → k.outcome? x ≠ none) :
    (k.onCancel s x).Waits g := by
  by_cases hc : k.scopes.isCancelled s = true
  · rw [k.onCancel_of_cancelled hc]
    exact h.cancel hx
  · have hc : k.scopes.isCancelled s = false := by simpa using hc
    have hg : Grows (fun r => r = .registered s x) (fun _ _ => False) k (k.onCancel s x) := k.grows_onCancel rfl
    rw [k.onCancel_of_not_cancelled hc] at hg ⊢
    refine h.withScopes hg ?_ (by simp) ?_
    · rintro ho r rfl hw
      obtain rfl : g.waiter = x := by simpa [Ref.touches] using hw
      exact hx rfl ho
    · intro _ hcs hm
      rw [Forest.isCancelled_on, Forest.callbacks_on]
      refine ⟨hcs, ?_⟩
      split
      · exact List.mem_append_left _ hm
      · exact hm

theorem Waits.offCancel (h : k.Waits g) (s : ScopeId) {x : FutureId} (hx : x = g.waiter → k.outcome? x ≠ none) :
    (k.offCancel s x).Waits g := by
  refine h.withScopes (f := k.scopes.remove s x) (k.calm_offCancel s x) (fun _ _ => False.elim) (by simp) ?_
  intro ho hcs hm
  rw [Forest.isCancelled_remove, Forest.callbacks_remove]
  refine ⟨hcs, ?_⟩
  split
  · refine (List.mem_erase_of_ne ?_).mpr hm
    rintro rfl
    exact hx rfl ho
  · exact hm

/-- Cancelling a scope: the stand-in is given up if it was open and its scope is cancelled, and else nothing is done to it. -/
theorem Waits.cancelScope (h : k.Waits g) (s : ScopeId) : (k.cancelScope s).Waits g := by
  obtain ⟨f, fired, hs, he⟩ := k.cancelScope_sweeps s
  have hfired : g.waiter ∈ fired → f.isCancelled g.scope = true ∨ k.outcome? g.waiter ≠ none := by
    intro hm
    by_cases hd : k.outcome? g.waiter = none
    · rcases hs.of_mem_fired hm with hf | ⟨x, hx, -, hx'⟩
      · cases List.mem_singleton.mp hf
      · -- it is registered at its own scope only
        have hr := h.refs hd (.registered x g.waiter) hx (by simp [Ref.touches])
        have hxs : x = g.scope := by simpa [Get.refs] using hr
        exact Or.inl (hxs ▸ hx')
    · exact Or.inr hd
  have hall := h.toStands.cancelAll fired (fun hc => hs.isCancelled_mono hc) hfired
  have hgrows : Calm (k.cancelAll fired) ((k.cancelAll fired).withScopes f) := by
    refine grows_scopes _ fun x y hy => Or.inl ?_
    rw [scopes_cancelAll]
    exact hs.mem_callbacks hy
  rw [he]
  refine { toStands := hall.calm hgrows rfl rfl, scope := fun ho => ?_ }
  obtain ⟨hc, hm⟩ := h.scope ((k.calm_cancelAll fired).open_of_open ho)
  rcases hs.scope_eq_or g.scope with hsame | ⟨-, -, -, hall'⟩
  · refine ⟨?_, ?_⟩
    · simpa [Kernel.withScopes, Forest.isCancelled, hsame] using hc
    · simpa [Kernel.withScopes, hsame] using hm
  · exact absurd ho (outcome?_cancelAll_of_mem h.lt h.plain (hall' _ hm))

/-- Operations of an actor that keeps away from the stand-in. -/
theorem Does.waits {bars : FutureId → Prop} (hd : Does bars k k') (h : k.Waits g) (hb : bars g.waiter) : k'.Waits g := by
  have htlt : g.task < k.futures.size := by
    obtain ⟨task, ht, -⟩ := Option.bind_eq_some_iff.mp h.waits
    exact lt_size_of_task k ht
  cases hd with
  | create o =>
    refine h.keep (h.toStands.calm (calm_newFuture k rfl (by simp)) ?_ ?_) rfl fun ho => ?_
    · simp [task?, future_newFuture, htlt.ne]
    · simp [outcome?, future_newFuture, h.lt.ne]
    · simpa [outcome?, future_newFuture, h.lt.ne] using ho
  | resolve o hf => exact h.resolve (hf.decided hb) o
  | promise => exact h.keep (h.toStands.calm (calm_setChained k _) (by simp) (by simp)) rfl fun ho => by simpa using ho
  | @listen x c hg hw hc =>
    have hgrows : Grows (fun r => r = .pending x c) (fun _ _ => False) k (k.addCallback x c) := grows_addCallback k x rfl
    refine h.keep (h.toStands.grows hgrows ?_ id (fun _ => id) (by simp) id fun _ ho => Or.inl (by simpa using ho)) (by simp)
      fun ho => by simpa using ho
    rintro ho r rfl hwr
    exact absurd (by simpa using ho) ((hc _ hwr).2.decided hb rfl)
  | cancel hf => exact h.cancel (hf.decided hb)
  | newScope =>
    exact h.withScopes (f := k.scopes.new.1) k.calm_newScope (fun _ _ => False.elim) (by simp) (by simpa using fun _ hc hm => ⟨hc, hm⟩)
  | @childScope p hp =>
    refine h.withScopes (f := (k.scopes.child p).1) (k.calm_childScope p) (fun _ _ => False.elim) ?_ ?_
    · intro hc
      rwa [Forest.isCancelled_child, if_neg (k.scopes.lt_size_of_cancelled hc).ne]
    · intro _ hc hm
      have hlt : g.scope ≠ k.scopes.scopes.size := by
        intro he
        simp [he, Forest.scope_of_size_le k.scopes (Nat.le_refl _)] at hm
      rw [Forest.isCancelled_child, if_neg hlt, Forest.callbacks_child]
      exact ⟨hc, hm⟩
  | cancelScope s => exact h.cancelScope s
  | register s hlt hf => exact h.onCancel s (hf.decided hb)
  | unregister s hf => exact h.offCancel s (hf.decided hb)
  | notices ns => exact h.keep (h.toStands.calm (k.calm_notices ns) rfl rfl) rfl id

theorem Waits.afterCall (h : k.Waits g) {f : FutureId} (hf : f ≠ g.waiter) (a : Settling) : (k.afterCall f a).Waits g := by
  rcases k.afterCall_cases f a with ⟨he, -⟩ | ⟨-, -, ⟨o, he⟩ | ⟨x, -, he⟩⟩
  · rwa [he]
  · rw [he]
    exact h.resolve (fun hx => absurd hx hf) o
  · have hgrows : Grows (fun r => r = .pending x (.forward f)) (fun _ _ => False) k (k.afterCall f a) := by
      rw [he]
      exact (Grows.of_calm (calm_setChained k f)).trans (grows_addCallback _ x rfl)
    rw [he] at hgrows ⊢
    refine h.keep (h.toStands.grows hgrows ?_ id (fun _ => id) (by simp) id fun _ ho => Or.inl (by simpa using ho)) (by simp)
      fun ho => by simpa using ho
    rintro _ r rfl hw
    exact absurd (by simpa [Ref.touches, Callback.touches] using hw) hf.symm

/-- **Whatever an actor does** that keeps away from the stand-in, the wait goes on as it should. -/
theorem Acts.waits {bars calls : FutureId → Prop} {log : List OwnerCall} (ha : Acts bars calls k log k') (h : k.Waits g)
    (hb : bars g.waiter) (hc : ¬ calls g.waiter) : k'.Waits g := by
  induction ha with
  | refl => exact h
  | act _ hd ih => exact hd.waits ih hb
  | call _ hf _ _ ih =>
    refine ih.afterCall ?_ _
    rintro rfl
    exact hc hf

end Waits

/-! ## How a wait begins -/

/-- The wait of a task for a future under a scope, with a new stand-in. -/
def newGet (k : Kernel) (t f : FutureId) (s : ScopeId) : Get :=
  { task := t, source := f, waiter := k.futures.size, scope := s, cancels := k.cancelsOf t, pending := k.requested t }

@[simp] theorem newGet_task (k : Kernel) (t f : FutureId) (s : ScopeId) : (k.newGet t f s).task = t := rfl

@[simp] theorem newGet_source (k : Kernel) (t f : FutureId) (s : ScopeId) : (k.newGet t f s).source = f := rfl

@[simp] theorem newGet_waiter (k : Kernel) (t f : FutureId) (s : ScopeId) : (k.newGet t f s).waiter = k.futures.size := rfl

@[simp] theorem newGet_scope (k : Kernel) (t f : FutureId) (s : ScopeId) : (k.newGet t f s).scope = s := rfl

/-- A stand-in that is cancelled with a scope. -/
def shieldUnder (k : Kernel) (f : FutureId) (s : ScopeId) : Kernel := (k.shield f).1.onCancel s (k.shield f).2

section Begin

variable {k : Kernel} {t f : FutureId} {s : ScopeId}

theorem shield_of_open (ho : k.outcome? f = none) : k.shield f =
    ((k.newFuture.1.addCallback f (.relay k.futures.size)).addCallback k.futures.size (.unrelay f k.futures.size), k.futures.size) := by
  simp [shield, isDone_eq, ho, newFuture]

theorem shield_of_done {o : Outcome} (ho : k.outcome? f = some o) : k.shield f = (k, f) := by
  simp [shield, isDone_eq, ho]

theorem shieldUnder_of_open (ho : k.outcome? f = none) (hs : k.scopes.isCancelled s = false) : k.shieldUnder f s =
    ((k.newFuture.1.addCallback f (.relay k.futures.size)).addCallback k.futures.size (.unrelay f k.futures.size)).withScopes
      (k.scopes.on s k.futures.size).1 := by
  rw [shieldUnder, shield_of_open ho, onCancel_of_not_cancelled _ (by simpa using hs)]
  simp

/-- A new stand-in is open. -/
theorem outcome?_shield (ho : k.outcome? f = none) : (k.shield f).1.outcome? k.futures.size = none := by
  rw [shield_of_open ho, outcome?_addCallback, outcome?_addCallback, outcome?, future_newFuture, if_pos rfl]

theorem outcome?_shieldUnder (ho : k.outcome? f = none) (hs : k.scopes.isCancelled s = false) :
    (k.shieldUnder f s).outcome? k.futures.size = none := by
  have hfuture : ∀ (k' : Kernel) (F : Forest FutureId), (k'.withScopes F).outcome? k.futures.size = k'.outcome? k.futures.size :=
    fun _ _ => rfl
  have hopen := outcome?_shield ho
  rw [shield_of_open ho] at hopen
  rw [shieldUnder_of_open ho hs, hfuture, hopen]

/-- The tasks are the same when there is a stand-in. -/
theorem task?_shield (ho : k.outcome? f = none) {x : FutureId} (hx : x ≠ k.futures.size) : (k.shield f).1.task? x = k.task? x := by
  rw [shield_of_open ho, task?_addCallback, task?_addCallback, task?, future_newFuture, if_neg hx]
  rfl

section Stands

variable {F : Forest FutureId} {gone : Prop}

/-- A task begins to wait for a stand-in, which is registered at most where it should be; a cancellation that the task was not told of has not come
to the stand-in yet. -/
theorem stands_awaiting {task : Task} (ht : k.task? t = some task) (hrefs : ∀ r, k.Holds r → ∀ x ∈ r.touches, x < k.futures.size)
    (ho : k.outcome? f = none) (hlt : f < k.futures.size)
    (hF : ∀ x y, y ∈ (F.scope x).callbacks → y ∈ (k.scopes.scope x).callbacks ∨ (x = s ∧ y = k.futures.size)) :
    (((k.shield f).1.withScopes F).awaiting t k.futures.size).Stands (k.newGet t f s) gone := by
  have htlt : t < k.futures.size := lt_size_of_task k ht
  -- the references that are made, one after the other
  let new (r : Ref) : Prop := r ∈ (k.newGet t f s).refs ∨ r = .pending k.futures.size (.wake t)
  obtain ⟨k₁, hk₁⟩ : ∃ k₁, k₁ = k.newFuture.1.addCallback f (.relay k.futures.size) := ⟨_, rfl⟩
  obtain ⟨k₂, hk₂⟩ : ∃ k₂, k₂ = k₁.addCallback k.futures.size (.unrelay f k.futures.size) := ⟨_, rfl⟩
  obtain ⟨k₃, hk₃⟩ : ∃ k₃, k₃ = k₂.withScopes F := ⟨_, rfl⟩
  obtain ⟨k₄, hk₄⟩ : ∃ k₄, k₄ = k₃.addCallback k.futures.size (.wake t) := ⟨_, rfl⟩
  have hend : ((k.shield f).1.withScopes F).awaiting t k.futures.size =
      k₄.updateTask t fun task => { task with waitsFor := some k.futures.size } := by
    rw [awaiting, shield_of_open ho, hk₄, hk₃, hk₂, hk₁]
  have hsize₁ : k₁.futures.size = k.futures.size + 1 := by simp [hk₁]
  have hsize₃ : k₃.futures.size = k.futures.size + 1 := by simp [hk₃, hk₂, hsize₁, withScopes]
  have hscopes₂ : k₂.scopes = k.scopes := by simp [hk₂, hk₁]
  have hgrow₁ : Grows new (fun _ _ => False) k k₁ := by
    rw [hk₁]
    exact (Grows.of_calm (calm_newFuture k rfl (by simp))).trans (grows_addCallback _ f (by simp [new, Get.refs, newGet]))
  have hgrow₂ : Grows new (fun _ _ => False) k₁ k₂ := by
    rw [hk₂]
    exact grows_addCallback k₁ _ (by simp [new, Get.refs, newGet])
  have hgrow₃ : Grows new (fun _ _ => False) k₂ k₃ := by
    rw [hk₃]
    refine grows_scopes k₂ fun x y hy => ?_
    rw [hscopes₂]
    refine (hF x y hy).imp id ?_
    rintro ⟨rfl, rfl⟩
    simp [new, Get.refs, newGet]
  have hgrow₄ : Grows new (fun _ _ => False) k₃ k₄ := by
    rw [hk₄]
    exact grows_addCallback k₃ _ (by simp [new])
  have hgrow₅ : Grows new (fun _ _ => False) k₄ (k₄.updateTask t fun task => { task with waitsFor := some k.futures.size }) := by
    refine grows_updateTask k₄ t ?_ fun _ => Nat.le_refl _
    rintro a w ⟨⟩
    exact Or.inr (by simp [new, Get.refs, newGet])
  have hgrow := (((hgrow₁.trans hgrow₂).trans hgrow₃).trans hgrow₄).trans hgrow₅
  have hrelay := ((hgrow₂.trans hgrow₃).trans hgrow₄).trans hgrow₅
  have hfuture : ∀ x, k₃.future x = k₂.future x := fun x => future_congr (by simp [hk₃, withScopes]) x
  have hout : ∀ x, (k₄.updateTask t fun task => { task with waitsFor := some k.futures.size }).outcome? x =
      k.newFuture.1.outcome? x := by
    intro x
    rw [outcome?_updateTask, hk₄, outcome?_addCallback, outcome?, hfuture, ← outcome?, hk₂, outcome?_addCallback, hk₁,
      outcome?_addCallback]
  have htask : ∀ x, k₄.task? x = k.newFuture.1.task? x := by
    intro x
    rw [hk₄, task?_addCallback, task?, hfuture, ← task?, hk₂, task?_addCallback, hk₁, task?_addCallback]
  have htask' : (k₄.updateTask t fun task => { task with waitsFor := some k.futures.size }).task? t =
      some { task with waitsFor := some k.futures.size } := by
    rw [task?_updateTask, if_pos rfl, htask, task?, future_newFuture, if_neg htlt.ne, ← task?, ht]
    rfl
  have hopen : (k₄.updateTask t fun task => { task with waitsFor := some k.futures.size }).outcome? k.futures.size = none := by
    rw [hout, outcome?, future_newFuture, if_pos rfl]
  rw [hend]
  refine ⟨hlt.ne', ?_, ?_, ?_, ?_, ?_, ?_, ?_, ?_, ?_, ?_, ?_⟩
  · have hsize := hrelay.size
    rw [hsize₁] at hsize
    exact hsize
  · rw [newGet, task?_updateTask, if_neg htlt.ne', htask, task?, future_newFuture, if_pos rfl]
  · simp [newGet, waitsOn, htask']
  · simp [newGet, cancelsOf, htask', ht]
  · intro hreq
    left
    simpa [newGet, Kernel.requested, htask', ht] using hreq
  · rintro (hp | hp)
    · right
      simpa [newGet, Kernel.requested, htask', ht] using hp
    · simp [newGet, cancelsOf, htask', ht] at hp
  · intro _ r hr hw
    rcases hgrow.refs r hr with hr | hr | rfl
    · exact absurd (hrefs r hr _ hw) (Nat.lt_irrefl _)
    · exact hr
    · exact absurd (by simpa [Ref.touches, Callback.touches, newGet] using hw) htlt.ne'
  · refine hgrow₅.due _ _ id ?_
    rw [hk₄]
    exact due_addCallback k₃ (by simp [hsize₃]) _
  · intro _
    refine hrelay.due _ _ id ?_
    rw [hk₁]
    exact due_addCallback _ (by simpa [newGet] using Nat.lt_succ_of_lt hlt) _
  · intro hc
    rw [newGet, hopen] at hc
    cases hc
  · intro o hc
    rw [newGet, hopen] at hc
    cases hc

/-- A task begins to wait for a stand-in. A cancellation that it was not told of ends the wait at once. -/
theorem stands_waitFor {task : Task} (ht : k.task? t = some task) (hrefs : ∀ r, k.Holds r → ∀ x ∈ r.touches, x < k.futures.size)
    (ho : k.outcome? f = none) (hlt : f < k.futures.size)
    (hF : ∀ x y, y ∈ (F.scope x).callbacks → y ∈ (k.scopes.scope x).callbacks ∨ (x = s ∧ y = k.futures.size)) :
    (((k.shield f).1.withScopes F).waitFor t k.futures.size).Stands (k.newGet t f s) gone := by
  have hset : (((k.shield f).1.withScopes F).awaiting t k.futures.size).Stands (k.newGet t f s) gone :=
    stands_awaiting ht hrefs ho hlt hF
  have htask : ((k.shield f).1.withScopes F).task? t = some task := (task?_shield ho (lt_size_of_task k ht).ne).trans ht
  cases hc : task.cancelRequested with
  | false =>
    rw [waitFor_of_not_requested _ (by simp [htask, hc])]
    exact hset
  | true =>
    have ho' : (((k.shield f).1.withScopes F).awaiting t k.futures.size).outcome? k.futures.size = none := by
      rw [awaiting, outcome?_updateTask, outcome?_addCallback]
      exact outcome?_shield ho
    have hpending : (k.newGet t f s).pending = true := by simp [newGet, Kernel.requested, ht, hc]
    have htold := hset.tell hpending ho'
    rw [waitFor_of_requested _ htask hc, cancelWithin_of_plain _ ho' hset.plain, if_pos rfl]
    simpa only [newGet_waiter, newGet_task] using htold

end Stands

/-- A task begins to wait under a scope. -/
theorem waits_waitFor {task : Task} (ht : k.task? t = some task) (hrefs : ∀ r, k.Holds r → ∀ x ∈ r.touches, x < k.futures.size)
    (ho : k.outcome? f = none) (hlt : f < k.futures.size) (hs : k.scopes.isCancelled s = false) (hslt : s < k.scopes.scopes.size) :
    ((k.shieldUnder f s).waitFor t k.futures.size).Waits (k.newGet t f s) := by
  have heq : k.shieldUnder f s = (k.shield f).1.withScopes (k.scopes.on s k.futures.size).1 := by
    rw [shieldUnder_of_open ho hs, shield_of_open ho]
  have hF : ∀ x y, y ∈ ((k.scopes.on s k.futures.size).1.scope x).callbacks →
      y ∈ (k.scopes.scope x).callbacks ∨ (x = s ∧ y = k.futures.size) := by
    intro x y hy
    rw [Forest.callbacks_on] at hy
    split at hy
    · rename_i hx
      exact (List.mem_append.mp hy).imp id fun hy => ⟨hx.1, List.mem_singleton.mp hy⟩
    · exact Or.inl hy
  rw [heq]
  refine { toStands := stands_waitFor ht hrefs ho hlt hF, scope := fun _ => ?_ }
  rw [scopes_waitFor]
  simp [newGet, withScopes, Forest.callbacks_on, hs, hslt]

end Begin

end Kernel

end ScriptFlow
