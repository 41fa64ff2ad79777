import Mathlib
import ScriptFlow.Proofs.Loop.Settling

/-!
# Futures and their owners

An owner decides a future by calls, and nobody else does anything to it but read it.

* `accepted` — the calls on a future that were not refused; `Heard` — every call was answered as it should be.
* `Kernel.Acts.settled`, `Loop.Effect.settled` — what a step keeps; `Loop.Run.settled` — what a run keeps, calls and turns in any order.
* `Loop.Promised` — futures that were promised to others, which may be promised themselves.
* `Loop.futures_are_decided_once` — **a future is decided once**, by the first call, and everybody reads the same.
-/

namespace ScriptFlow

/-- The calls on a future that were not refused. -/
def accepted (log : List OwnerCall) (f : FutureId) : List Settling :=
  (log.filter fun c => c.future == f && c.answer.isNone).map (·.settling)

/-- Was every call on a future answered as it should be, after the calls before it? -/
def Heard (log : List OwnerCall) (f : FutureId) : Prop :=
  ∀ (i : Nat) (c : OwnerCall), log[i]? = some c → c.future = f → c.answer = c.settling.verdict (accepted (log.take i) f)

/-- Only its owner does anything to a future. -/
structure Rules.Owned (R : Rules) (f : FutureId) : Prop where
  bars : ∀ a, R.bars a f
  calls : R.calls f

section Calls

variable {log : List OwnerCall} {f : FutureId}

theorem accepted_append (log log' : List OwnerCall) (f : FutureId) : accepted (log ++ log') f = accepted log f ++ accepted log' f := by
  simp [accepted]

theorem accepted_of_ne {c : OwnerCall} (h : c.future ≠ f) : accepted [c] f = [] := by
  simp [accepted, h]

theorem accepted_own (f : FutureId) (a : Settling) (e : Option Fault) : accepted [⟨f, a, e⟩] f = if e.isNone then [a] else [] := by
  cases e <;> simp [accepted]

theorem Heard.nil : Heard [] f := by
  intro i c hi
  simp at hi

theorem Heard.snoc (h : Heard log f) {c : OwnerCall} (hc : c.future = f → c.answer = c.settling.verdict (accepted log f)) :
    Heard (log ++ [c]) f := by
  intro i d hi hd
  rcases Nat.lt_trichotomy i log.length with hlt | rfl | hgt
  · rw [List.getElem?_append_left hlt] at hi
    rw [List.take_append_of_le_length hlt.le]
    exact h i d hi hd
  · rw [List.getElem?_concat_length, Option.some.injEq] at hi
    subst hi
    rw [List.take_left]
    exact hc hd
  · have hnone : (log ++ [c])[i]? = none := List.getElem?_eq_none (by simpa using hgt)
    rw [hnone] at hi
    cases hi

end Calls

namespace Kernel

variable {bars calls : FutureId → Prop} {k k' : Kernel} {before log : List OwnerCall} {f : FutureId}

/-- **Operations and calls** leave a future to its owner. -/
theorem Acts.settled (ha : Acts bars calls k log k') (hb : bars f) (hs : k.Settled f (accepted before f)) (hh : Heard before f) :
    k'.Settled f (accepted (before ++ log) f) ∧ Heard (before ++ log) f := by
  induction ha with
  | refl => simpa using ⟨hs, hh⟩
  | act _ hd ih => exact ⟨ih.1.of_unsettled hd.grows.outcome fun _ hu => hd.unsettled hu hb, ih.2⟩
  | @call log k' x a _ _ hlt ha ih =>
    obtain ⟨hs, hh⟩ := ih
    rw [← List.append_assoc]
    by_cases hx : f = x
    · subst hx
      rw [accepted_append, accepted_own]
      exact ⟨hs.own_call hlt ha, hh.snoc fun _ => answer_eq_verdict hs.isSettable a⟩
    · rw [accepted_append, accepted_of_ne fun he => hx he.symm, List.append_nil]
      have hg : Grows (fun _ => True) (fun _ _ => False) k' (k'.afterCall x a) := k'.grows_afterCall x a fun _ _ => trivial
      exact ⟨hs.of_unsettled hg.outcome fun _ hu => hu.afterCall hx a, hh.snoc fun he => absurd he.symm hx⟩

/-- The promise is kept when its callback runs. -/
theorem outcome?_forward {g : FutureId} {o : Outcome} (hg : k.outcome? g = some o) (hf : k.outcome? f = none) (hlt : f < k.futures.size) :
    (k.runCallback g (.forward f)).outcome? f = some o.passed := by
  have hg : (k.future g).outcome = some o := hg
  cases o <;> simp only [runCallback, forward, hg, Outcome.passed] <;> rw [outcome?_resolve, if_pos ⟨rfl, hlt, hf⟩]

/-- **A callback** leaves a future to its owner, or keeps the promise. -/
theorem Settled.runCallback {g : FutureId} {c : Callback} {rest : List Job} {taken : List Settling} (hs : k.Settled f taken)
    (hr : k.ready = .callback g c :: rest) (hg : k.outcome? g ≠ none) (hlt : ∀ r, k.Holds r → ∀ x ∈ r.touches, x < k.futures.size) :
    (({ k with ready := rest } : Kernel).runCallback g c).Settled f taken := by
  have hout : ∀ x o, k.outcome? x = some o → (({ k with ready := rest } : Kernel).runCallback g c).outcome? x = some o :=
    (grows_runCallback { k with ready := rest } g c).outcome
  have hheld : k.Holds (.pending g c) := by
    refine Or.inr ?_
    rw [hr]
    exact List.mem_cons_self
  by_cases hc : c = .forward f
  · subst hc
    cases hs with
    | given ha ho => exact .given ha (hout _ _ ho)
    | kept hg ho => exact .kept (hout _ _ hg) (hout _ _ ho)
    | fresh hu =>
      obtain ⟨x, hx, -⟩ := hu.refs _ hheld (by simp [Ref.touches, Callback.touches])
      cases hx
    | promised hu =>
      obtain ⟨x, hx, he⟩ := hu.refs _ hheld (by simp [Ref.touches, Callback.touches])
      cases hx
      obtain ⟨rfl, -⟩ := Ref.pending.inj he
      obtain ⟨o, ho⟩ := Option.ne_none_iff_exists'.mp hg
      have hf : f < k.futures.size := hlt _ hheld f (by simp [Ref.touches, Callback.touches])
      exact .kept (hout _ _ ho) (outcome?_forward (k := { k with ready := rest }) ho hu.undone hf)
  · refine hs.of_unsettled hout fun source hu => ?_
    have hother : ∀ x, Job.callback g c ≠ .callback x (.forward f) := by
      rintro x he
      exact hc (Job.callback.inj he).2
    have hrest := hu.dequeue hr hother
    have htouch : f ∈ c.touches g → ∃ s, c = .unlink s := by
      intro hm
      obtain ⟨x, -, he⟩ := hu.refs _ hheld hm
      exact absurd (Ref.pending.inj he).2 hc
    refine hrest.runCallback hc htouch fun w hw => hrest.not_leads ?_
    rintro rfl
    obtain ⟨s, hs⟩ := htouch (by simp [hw, Callback.touches])
    rw [hw] at hs
    cases hs

end Kernel

namespace Loop

open Kernel

section Runs

variable {σ : Type} {R : Rules} {l l' : Loop σ} {before log : List OwnerCall} {f g : FutureId}

/-- The task under way is no future of an owner, unless that is decided. -/
theorem Sound.focus_ne_unsettled (hs : Sound l) {t : FutureId} {p : Proc σ} (hf : l.focus = some (t, p)) {source : Option FutureId}
    (hu : l.state.kernel.Unsettled f source) : f ≠ t :=
  hu.ne_of_task (hs.focus t p hf).1

/-- **A move** leaves a future to its owner. -/
theorem Effect.settled (he : Effect R l log l') (hl : Sound l) (ho : R.Owned f) (hs : l.state.kernel.Settled f (accepted before f))
    (hh : Heard before f) : l'.state.kernel.Settled f (accepted (before ++ log) f) ∧ Heard (before ++ log) f := by
  have hquiet : log = [] → l'.state.kernel.Settled f (accepted before f) →
      l'.state.kernel.Settled f (accepted (before ++ log) f) ∧ Heard (before ++ log) f := by
    rintro rfl hs'
    rw [List.append_nil]
    exact ⟨hs', hh⟩
  have hopen : ∀ {x source} {a : Option FutureId}, l.state.kernel.Unsettled f source → l.state.kernel.Spares (R.bars a) x → f ≠ x := by
    rintro x source a hu hx rfl
    have hd := hx (ho.bars a)
    rw [isDone_eq, hu.undone] at hd
    cases hd
  have hdequeue : ∀ {j rest source}, l.state.kernel.ready = j :: rest → (∀ g, j ≠ .callback g (.forward f)) →
      l.state.kernel.Unsettled f source → (l.dequeued rest).Unsettled f source := fun hr hj hu => hu.dequeue hr hj
  have hwakes : ∀ {j : Job} {t : FutureId}, j.wakes t = true → ∀ g, j ≠ .callback g (.forward f) := by
    rintro _ t hj g rfl
    simp [Job.wakes] at hj
  have hfresh : (∀ a, ¬ R.bars a l.state.kernel.futures.size) → f ≠ l.state.kernel.futures.size := by
    rintro hb rfl
    exact hb none (ho.bars none)
  cases he with
  | @idle j rest t hf hr hj hn =>
    exact hquiet rfl (hs.of_unsettled (fun _ _ h => h) fun _ hu => hdequeue hr (hwakes hj) hu)
  | @resumed j rest t next input hf hr hn hj =>
    refine hquiet rfl (hs.of_unsettled ((l.dequeued rest).calm_enterTask t input).outcome fun source hu => ?_)
    have ht : f ≠ t := hu.ne_of_task (hl.tasks t (by simp [hn]))
    exact (hdequeue hr (hwakes hj.wakes) hu).updateTask ht ((l.dequeued rest).calm_enterTask t input)
  | @called g c rest hf hr hc =>
    exact hquiet rfl (hs.runCallback hr (hl.queued g c (by simp [hr])) hl.refs)
  | @finished t r hf =>
    refine hquiet rfl (hs.of_unsettled (l.state.kernel.calm_finishTask t r).outcome fun source hu => ?_)
    exact hu.finishTask (hl.focus_ne_unsettled hf hu) r
  | accessed hf ha => exact ha.settled (ho.bars _) hs hh
  | @spawned t watched body next hf hb =>
    exact hquiet rfl (hs.of_unsettled (l.state.kernel.grows_newTask watched).outcome fun source hu => hu.newTask (hfresh hb) watched)
  | passed => exact hquiet rfl hs
  | @blocked t x next hf hx hlt hsp =>
    have hlisten : Grows (fun _ => True) (fun _ _ => False) l.state.kernel (l.state.kernel.addCallback x (.wake t)) :=
      grows_addCallback _ x trivial
    have hg := hlisten.trans ((l.state.kernel.grows_waitFor t x).mono (fun _ _ => trivial) fun _ _ h => h)
    refine hquiet rfl (hs.of_unsettled hg.outcome fun source hu => ?_)
    exact hu.waitFor (hl.focus_ne_unsettled hf hu) (hopen hu hsp)
  | @yielded t next hf =>
    refine hquiet rfl (hs.of_unsettled (fun _ _ h => h) fun source hu => ?_)
    exact hu.queueResume (hl.focus_ne_unsettled hf hu) _
  | outside world hf ha => exact ha.settled (ho.bars _) hs hh
  | started watched body hf hb =>
    exact hquiet rfl (hs.of_unsettled (l.state.kernel.grows_newTask watched).outcome fun source hu => hu.newTask (hfresh hb) watched)

/-- **A run** leaves a future to its owner. -/
theorem Run.settled (hr : Run R l log l') (hl : Sound l) (ho : R.Owned f) (hs : l.state.kernel.Settled f (accepted before f))
    (hh : Heard before f) : l'.state.kernel.Settled f (accepted (before ++ log) f) ∧ Heard (before ++ log) f := by
  induction hr with
  | refl => simpa using ⟨hs, hh⟩
  | tail hr hm ih =>
    rw [← List.append_assoc]
    exact hm.effect.settled (hr.sound hl) ho ih.1 ih.2

theorem settled_empty (f : FutureId) : ({} : Kernel).Settled f [] := by
  refine .fresh ⟨rfl, rfl, rfl, fun r hr _ => ?_, by simp⟩
  cases r with
  | pending g c => simp [Holds, listed, future] at hr
  | resume t => simp [Holds] at hr
  | registered s x => simp [Holds] at hr
  | waiting x g => simp [Holds, task?, future] at hr

theorem Reachable.settled (h : Reachable R log l) (ho : R.Owned f) :
    l.state.kernel.Settled f (accepted log f) ∧ Heard log f := by
  obtain ⟨world, hr⟩ := h
  have hrun : l.state.kernel.Settled f (accepted ([] ++ log) f) ∧ Heard ([] ++ log) f :=
    hr.settled (Sound.empty world) ho (settled_empty f) Heard.nil
  rwa [List.nil_append] at hrun

/-! ## Promises -/

/-- Was a future promised to another, directly or through others? -/
def Promised (R : Rules) (log : List OwnerCall) (f g : FutureId) : Prop :=
  Relation.TransGen (fun a b => R.Owned a ∧ accepted log a = [.chain (.future b)]) f g

/-- A future that was promised has got what the other ended with, and nothing else. -/
theorem outcome_of_promised_to (h : Reachable R log l) (ho : R.Owned f) (hp : accepted log f = [.chain (.future g)]) {o : Outcome}
    (hf : l.state.kernel.outcome? f = some o) : ∃ o', l.state.kernel.outcome? g = some o' ∧ o = o'.passed := by
  have hs := (h.settled ho).1
  rw [hp] at hs
  cases hs with
  | promised hu =>
    rw [hu.undone] at hf
    cases hf
  | given ha => cases ha
  | kept hg hf' =>
    rw [hf] at hf'
    exact ⟨_, hg, Option.some.inj hf'⟩

theorem Promised.outcome (h : Reachable R log l) (hp : Promised R log f g) {o : Outcome} (hf : l.state.kernel.outcome? f = some o) :
    ∃ o', l.state.kernel.outcome? g = some o' ∧ o = o'.passed := by
  induction hp with
  | single hp => exact outcome_of_promised_to h hp.1 hp.2 hf
  | tail _ hp ih =>
    obtain ⟨o₁, ho₁, rfl⟩ := ih
    obtain ⟨o₂, ho₂, rfl⟩ := outcome_of_promised_to h hp.1 hp.2 ho₁
    exact ⟨o₂, ho₂, by rw [Outcome.passed_passed]⟩

/-- When nothing is left to do, a promise to a future that is decided has been kept. -/
theorem outcome_of_promised_from (h : Reachable R log l) (ho : R.Owned f) (hp : accepted log f = [.chain (.future g)])
    (hr : l.state.kernel.ready = []) {o : Outcome} (hg : l.state.kernel.outcome? g = some o) :
    l.state.kernel.outcome? f = some o.passed := by
  have hs := (h.settled ho).1
  rw [hp] at hs
  cases hs with
  | promised hu =>
    rcases hu.due g rfl with ⟨hn, -⟩ | ⟨-, hm⟩
    · rw [hg] at hn
      cases hn
    · simp [hr] at hm
  | given ha => cases ha
  | kept hg' hf =>
    rw [hg] at hg'
    cases hg'
    exact hf

theorem Promised.kept (h : Reachable R log l) (hp : Promised R log f g) (hr : l.state.kernel.ready = []) {o : Outcome}
    (hg : l.state.kernel.outcome? g = some o) : l.state.kernel.outcome? f = some o.passed := by
  induction hp using Relation.TransGen.head_induction_on with
  | single hp => exact outcome_of_promised_from h hp.1 hp.2 hr hg
  | head hp _ ih =>
    have hf := outcome_of_promised_from h hp.1 hp.2 hr ih
    rwa [Outcome.passed_passed] at hf

/-! ## Decisions -/

/-- What is true of a future that its owner decides, after these calls. -/
structure Decided (R : Rules) (log : List OwnerCall) (l : Loop σ) (f : FutureId) : Prop where
  once : (accepted log f).length ≤ 1
  heard : Heard log f
  /-- what a call would be told now -/
  next : ∀ a, l.state.kernel.answer f a = a.verdict (accepted log f)
  undecided : accepted log f = [] → l.state.kernel.outcome? f = none
  direct : ∀ a o, accepted log f = [a] → a.outcome? = some o → l.state.kernel.outcome? f = some o
  promised : ∀ g o, Promised R log f g → l.state.kernel.outcome? f = some o → ∃ o', l.state.kernel.outcome? g = some o' ∧ o = o'.passed
  kept : ∀ g o, Promised R log f g → l.state.kernel.ready = [] → l.state.kernel.outcome? g = some o →
    l.state.kernel.outcome? f = some o.passed
  lasts : ∀ o log' l', l.state.kernel.outcome? f = some o → Run R l log' l' → l'.state.kernel.outcome? f = some o

theorem Reachable.decided (h : Reachable R log l) (ho : R.Owned f) : Decided R log l f where
  once := by
    have hs := (h.settled ho).1
    generalize accepted log f = taken at hs
    cases hs <;> simp
  heard := (h.settled ho).2
  next := answer_eq_verdict (h.settled ho).1.isSettable
  undecided := by
    intro he
    have hs := (h.settled ho).1
    rw [he] at hs
    cases hs with
    | fresh hu => exact hu.undone
  direct := by
    intro a o he hao
    have hs := (h.settled ho).1
    rw [he] at hs
    cases hs with
    | given ha hf =>
      rw [hao] at ha
      rw [hf, ha]
    | promised => cases hao
    | kept => cases hao
  promised g o hp hf := hp.outcome h hf
  kept g o hp hr hg := hp.kept h hr hg
  lasts o log' l' hf hr := hr.outcome? hf

end Runs

theorem Promise.decoding_none {ε : Type} (cont : Except Fault Data → Proc (World ε)) : Promise.decoding none cont = cont := by
  funext r
  cases r <;> rfl

/-- **A future is decided once.** Of the calls of its owner the first is accepted and every other is refused and changes nothing; what is no future is refused as a
source and leaves the future settable. The outcome is what the accepted call gave, or what the future ended with that it was promised to, through any number
of promises. It never changes, and whoever reads it under a scope that is not cancelled gets it. -/
theorem futures_are_decided_once {ε : Type} {R : Rules} {log : List OwnerCall} {l : Loop (World ε)} {f : FutureId} (hl : Reachable R log l)
    (ho : R.Owned f) :
    Decided R log l f ∧
    (∀ (k : Kernel) (a : Settling), k.answer f a ≠ none → k.afterCall f a = k) ∧
    (∀ t ctx cont, l.focus = some (t, ({ source := f } : Promise).await ctx none cont) → f < l.state.kernel.futures.size →
      ctx.scope < l.state.kernel.scopes.scopes.size → Hides R t l.state.kernel.futures.size →
      ReadsTo R l t f ctx.scope cont fun l₁ a => ¬ Broken l.state.kernel l₁.state.kernel t f ctx.scope →
        l.state.kernel.scopes.isCancelled ctx.scope = false → l₁.state.kernel.scopes.isCancelled ctx.scope = false →
        ∃ o, l₁.state.kernel.outcome? f = some o ∧ a = o.seen) ∧
    ∀ g next, g.source = f → Waiting g next l → l.state.kernel.ready = [] → l.state.kernel.outcome? f = none := by
  refine ⟨hl.decided ho, fun k a h => afterCall_of_refused h, ?_, ?_⟩
  · intro t ctx cont hf hlt hslt hh
    rw [Promise.await_eq, Promise.decoding_none] at hf
    refine (reads_awaitUnder hl.sound hf hlt hslt hh).mono fun log₁ l₁ a hr hend hb hc hc' => ?_
    exact hend.seen_of_open hb (fun o ho => hr.outcome? ho) hc hc'
  · rintro g next rfl hw hr
    exact (Waiting.of_rest hw hr).1

/-- Two futures that only their owners touch. -/
def twoOwners : Rules := { bars := fun _ f => f < 2, calls := fun f => f < 2 }

theorem owned_twoOwners {f : FutureId} (h : f < 2) : twoOwners.Owned f := ⟨fun _ => h, h⟩

/-- One future is promised to the other and asked for twice more, before the other gets its value. -/
def twoFutures : Kernel :=
  ((((({} : Kernel).newFuture {}).1.newFuture {}).1.afterCall 0 (.chain (.future 1))).afterCall 0 (.value (.int 5))).afterCall 0
    (.chain (.other "int")) |>.afterCall 1 (.value (.int 7))

def twoFuturesLog : List OwnerCall :=
  [⟨0, .chain (.future 1), none⟩, ⟨0, .value (.int 5), some alreadyResolved⟩,
    ⟨0, .chain (.other "int"), some (.error .wrongType "cannot chain int")⟩, ⟨1, .value (.int 7), none⟩]

/-- The loop when the promise has been kept. -/
def twoFuturesLater : Loop (World Unit) :=
  (({ state := { kernel := twoFutures, world := { engine := () } } } : Loop (World Unit)).withKernel fun k => { k with ready := [] }).takeJob
    (.callback 1 (.forward 0))

theorem acts_twoFutures : Acts (twoOwners.bars none) twoOwners.calls ({} : Kernel) twoFuturesLog twoFutures := by
  have hmade : Acts (twoOwners.bars none) twoOwners.calls ({} : Kernel) [] ((({} : Kernel).newFuture {}).1.newFuture {}).1 :=
    (Acts.refl.act (.create none fun _ => rfl)).act (.create none fun _ => rfl)
  have hchain := hmade.call (f := 0) (a := .chain (.future 1)) (by decide : 0 < 2) (by decide) (by decide : 1 < 2)
  have hvalue := hchain.call (f := 0) (a := .value (.int 5)) (by decide : 0 < 2) (by decide) trivial
  have hother := hvalue.call (f := 0) (a := .chain (.other "int")) (by decide : 0 < 2) (by decide) trivial
  exact hother.call (f := 1) (a := .value (.int 7)) (by decide : 1 < 2) (by decide) trivial

theorem futures_are_decided_once_of_twoFutures : Reachable twoOwners twoFuturesLog twoFuturesLater ∧ twoOwners.Owned 0 ∧
    Decided twoOwners twoFuturesLog twoFuturesLater 0 ∧ accepted twoFuturesLog 0 = [.chain (.future 1)] ∧
    twoFuturesLater.state.kernel.outcome? 0 = some (.value (.int 7)) := by
  have hout : Move twoOwners ({ state := { world := { engine := () } } } : Loop (World Unit)) twoFuturesLog
      { state := { kernel := twoFutures, world := { engine := () } } } :=
    .outside ({ engine := () } : World Unit) rfl acts_twoFutures
  have hjob : Move twoOwners { state := { kernel := twoFutures, world := { engine := () } } } [] twoFuturesLater := .job rfl rfl
  have hl : Reachable twoOwners twoFuturesLog twoFuturesLater := ⟨{ engine := () }, (Run.single hout).tail hjob⟩
  have ho : twoOwners.Owned 0 := owned_twoOwners (by decide)
  exact ⟨hl, ho, (futures_are_decided_once hl ho).1, rfl, rfl⟩

end Loop

end ScriptFlow
