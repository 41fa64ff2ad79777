import Mathlib
import ScriptFlow.Trial.Lives

/-!
# Pools and waiters in the life of a worker

A worker is started, stopped and run, and the runs that were begun go on whenever something happens in them (`WorkerCourse`). Its pool of threads is given up by a stop
that completes and by nothing else, so a run that ends in another way leaves the pool where it is; and a worker whose poller could not be made starts again with
another pool, while nobody shuts the first one down.

* `WorkerLife.Start` — all that a start can do. A worker that has its poller is left as it is.
* `WorkerCourse.pools_step`, `WorkerCourse.waiters_step` — what a move does to the pools and to the waiters, with `pools_play` and `waiters_play` for all courses.
* `WorkerCourse.holds_iff` — a pool is held exactly when no stop was completed since it was made.
* `WorkerCourse.life_runThrough` — a run of a worker, as the program of the worker has it, is part of a course.
* `WorkerCourse.pools_and_waiters` — **when nothing is left behind**, for all courses, after all runs.
-/

namespace ScriptFlow

namespace RunPhase

/-- Does a run wait for a stop event? -/
def isWatching : RunPhase → Bool
  | polling watches => watches
  | _ => false

/-- Does something that happens in a run complete its stop? -/
def isStoppedBy : RunPhase → RunEvent → Bool
  | stopping _, .shutDown => true
  | _, _ => false

/-- Is a run cancelled while it waits for a stop event? -/
def isAbandonedBy : RunPhase → RunEvent → Bool
  | polling watches, .cancelled => watches
  | _, _ => false

/-- Does a run take its wait for the stop event back when something happens? -/
def isRelievedBy (p : RunPhase) (e : RunEvent) : Bool := p.isWatching && !(p.next e).isWatching && !p.isAbandonedBy e

/-- A run that waits for a stop event goes on to wait, takes the wait back, or is abandoned. -/
theorem isWatching_next (p : RunPhase) (e : RunEvent) :
    p.isWatching.toNat = (p.next e).isWatching.toNat + (p.isRelievedBy e).toNat + (p.isAbandonedBy e).toNat := by
  rcases p with (_ | _) | (_ | _) | _ | _ <;> cases e <;> simp [isRelievedBy, isWatching, next, isAbandonedBy]

end RunPhase

namespace WorkerLife

variable {l : WorkerLife}

/-! ## Starting -/

/-- Does a start get as far as making a pool? -/
def makesPool (l : WorkerLife) (plan : EnginePlan) : Bool :=
  l.poller.isNone && (l.ensureClient plan).2.isOk && (poolSize l.config).isOk

/-- All that a start can do to the poller, the pools and the waiters. -/
inductive Start (l : WorkerLife) (plan : EnginePlan) : WorkerLife × Except Fault Unit → Prop where
  /-- the worker has its poller -/
  | again (hp : l.poller.isSome) (hm : l.makesPool plan = false) : Start l plan (l, .ok ())
  /-- there is no client, or no pool of the size that is asked for -/
  | refused {l' : WorkerLife} (e : Fault) (hm : l.makesPool plan = false) (hpoller : l'.poller = l.poller) (hpool : l'.pool = l.pool)
      (hmade : l'.made = l.made) (hreleased : l'.released = l.released) (hwaiters : l'.waiters = l.waiters) : Start l plan (l', .error e)
  /-- there is a pool, and then the poller cannot be made -/
  | pollerFailed {l' : WorkerLife} (e : Fault) (hm : l.makesPool plan = true) (he : plan.pollerError = some e) (hpoller : l'.poller = none)
      (hpool : l'.pool.isSome) (hmade : l'.made = l.made + 1) (hreleased : l'.released = l.released) (hwaiters : l'.waiters = l.waiters) :
      Start l plan (l', .error e)
  | made {l' : WorkerLife} (hm : l.makesPool plan = true) (he : plan.pollerError = none) (hnone : l.poller = none) (hpoller : l'.poller = some false)
      (hpool : l'.pool.isSome) (hmade : l'.made = l.made + 1) (hreleased : l'.released = l.released) (hwaiters : l'.waiters = l.waiters) :
      Start l plan (l', .ok ())

/-- Connecting changes only the client and what the engine and the log have seen. -/
theorem ensureClient_eq (l : WorkerLife) (plan : EnginePlan) :
    ∃ client seen r, l.ensureClient plan = ({ l with client := client, seen := seen }, r) := by
  unfold ensureClient
  split
  · exact ⟨_, _, _, rfl⟩
  · split <;> exact ⟨_, _, _, rfl⟩

theorem start_of_started (h : l.poller.isSome) (plan : EnginePlan) : l.start plan = (l, .ok ()) := by
  rw [start, if_pos h]

theorem start_spec (l : WorkerLife) (plan : EnginePlan) : Start l plan (l.start plan) := by
  by_cases hp : l.poller.isSome
  · rw [start_of_started hp]
    exact .again hp (by simp [makesPool, Option.isNone_eq_false_iff.mpr hp])
  have hnone : l.poller = none := by simpa using hp
  obtain ⟨client, seen, r, hc⟩ := l.ensureClient_eq plan
  have hmakes : l.makesPool plan = (r.isOk && (poolSize l.config).isOk) := by simp [makesPool, hnone, hc]
  have hconfig : ({ l with client := client, seen := seen } : WorkerLife).config = l.config := rfl
  rw [start, if_neg hp, hc]
  cases r with
  | error e => exact .refused e (by simp [hmakes, Except.isOk, Except.toBool]) rfl rfl rfl rfl rfl
  | ok name =>
    simp only [hconfig]
    cases hs : poolSize l.config with
    | error e => exact .refused e (by simp [hmakes, hs, Except.isOk, Except.toBool]) rfl rfl rfl rfl rfl
    | ok threads =>
      have hm : l.makesPool plan = true := by simp [hmakes, hs, Except.isOk, Except.toBool]
      cases he : plan.pollerError with
      | some e => exact .pollerFailed e hm he hnone rfl rfl rfl rfl
      | none => exact .made hm he hnone rfl rfl rfl rfl rfl

theorem waiters_start (l : WorkerLife) (plan : EnginePlan) : (l.start plan).1.waiters = l.waiters := by
  have h := l.start_spec plan
  generalize l.start plan = r at h
  cases h with
  | again => rfl
  | refused _ _ _ _ _ _ hwaiters => exact hwaiters
  | pollerFailed _ _ _ _ _ _ _ hwaiters => exact hwaiters
  | made _ _ _ _ _ _ _ hwaiters => exact hwaiters

@[simp] theorem waiters_watch (l : WorkerLife) (watches : Bool) : (l.watch watches).waiters = l.waiters + watches.toNat := by
  cases watches <;> rfl

/-! ## Stopping -/

@[simp] theorem isSome_pool_releasePool (l : WorkerLife) : l.releasePool.pool.isSome = false := by
  unfold releasePool
  split <;> simp_all

@[simp] theorem made_releasePool (l : WorkerLife) : l.releasePool.made = l.made := by
  unfold releasePool
  split <;> rfl

@[simp] theorem released_releasePool (l : WorkerLife) : l.releasePool.released = l.released + l.pool.isSome.toNat := by
  unfold releasePool
  split <;> simp_all

@[simp] theorem waiters_releasePool (l : WorkerLife) : l.releasePool.waiters = l.waiters := by
  unfold releasePool
  split <;> rfl

/-- To shut the poller down changes no pool and no waiter. -/
theorem shutPoller_eq (l : WorkerLife) :
    ∃ poller seen, poller.isSome = l.poller.isSome ∧ l.shutPoller = { l with poller := poller, seen := seen } := by
  unfold shutPoller
  split
  · exact ⟨some true, _, by simp_all, rfl⟩
  · exact ⟨l.poller, l.seen, rfl, rfl⟩

@[simp] theorem waiters_shutPoller (l : WorkerLife) : l.shutPoller.waiters = l.waiters := by
  obtain ⟨_, _, -, hl⟩ := l.shutPoller_eq
  rw [hl]

/-! ## Running -/

theorem react_of_isStoppedBy {p : RunPhase} {e : RunEvent} (h : p.isStoppedBy e = true) (l : WorkerLife) : l.react p e = l.releasePool := by
  unfold RunPhase.isStoppedBy at h
  split at h
  · rfl
  · cases h

/-- Whatever does not complete the stop changes no pool. -/
theorem react_eq {p : RunPhase} {e : RunEvent} (h : p.isStoppedBy e = false) (l : WorkerLife) :
    ∃ poller waiters seen, poller.isSome = l.poller.isSome ∧ l.react p e = { l with poller := poller, waiters := waiters, seen := seen } := by
  unfold react
  split
  · exact ⟨_, _, _, rfl, rfl⟩
  · exact ⟨_, _, _, rfl, rfl⟩
  · generalize hl : info _ _ = l₁
    obtain ⟨poller, seen, hp, he⟩ := l₁.shutPoller_eq
    subst hl
    exact ⟨poller, _, seen, hp, he⟩
  · cases h
  · exact ⟨_, _, _, rfl, rfl⟩
  · exact ⟨_, _, _, rfl, rfl⟩

end WorkerLife

/-! ## Courses -/

/-- A worker and the runs that were begun, in the order in which they were begun. -/
structure WorkerCourse where
  life : WorkerLife
  runs : List RunPhase := []

/-- A call on a worker, or something that happens in one of its runs. -/
inductive WorkerMove where
  | start (plan : EnginePlan)
  | stop
  | run (plan : EnginePlan) (watches : Bool)
  | event (run : Nat) (e : RunEvent)

namespace WorkerMove

/-- The plan of a move that starts the worker. -/
def starting? : WorkerMove → Option EnginePlan
  | start plan | run plan _ => some plan
  | stop | event _ _ => none

end WorkerMove

namespace WorkerCourse

def step (c : WorkerCourse) : WorkerMove → WorkerCourse
  | .start plan => { c with life := (c.life.start plan).1 }
  | .stop => { c with life := c.life.stop }
  | .run plan watches =>
    match c.life.start plan with
    | (l, .error _) => { c with life := l }
    | (l, .ok ()) => { life := l.watch watches, runs := c.runs ++ [.polling watches] }
  | .event i e =>
    match c.runs[i]? with
    | some p => { life := c.life.react p e, runs := c.runs.set i (p.next e) }
    | none => c

def play (c : WorkerCourse) (ms : List WorkerMove) : WorkerCourse := ms.foldl step c

/-- Has every run ended? -/
def Rests (c : WorkerCourse) : Prop := ∀ p ∈ c.runs, p.outcome?.isSome

/-- The runs that wait for a stop event. -/
def watching (c : WorkerCourse) : Nat := c.runs.countP RunPhase.isWatching

/-- Does a move make a pool? -/
def makes (c : WorkerCourse) (m : WorkerMove) : Bool :=
  match m.starting? with
  | some plan => c.life.makesPool plan
  | none => false

/-- Does a move put a new pool in the place of another one? -/
def replaces (c : WorkerCourse) (m : WorkerMove) : Bool := c.life.pool.isSome && c.makes m

/-- Does a move complete a stop? -/
def completesStop (c : WorkerCourse) : WorkerMove → Bool
  | .stop => true
  | .event i e => (c.runs[i]?.map (·.isStoppedBy e)).getD false
  | _ => false

/-- Does a move cancel a run that waits for its stop event? -/
def abandons (c : WorkerCourse) : WorkerMove → Bool
  | .event i e => (c.runs[i]?.map (·.isAbandonedBy e)).getD false
  | _ => false

/-- How many moves do something? -/
def count (what : WorkerCourse → WorkerMove → Bool) (c : WorkerCourse) : List WorkerMove → Nat
  | [] => 0
  | m :: rest => (what c m).toNat + count what (c.step m) rest

variable {c : WorkerCourse} {m : WorkerMove} {ms : List WorkerMove}

/-! ### What a move does to the pools -/

structure PoolsStep (c : WorkerCourse) (m : WorkerMove) (l : WorkerLife) : Prop where
  made : l.made = c.life.made + (c.makes m).toNat
  released : l.released = c.life.released + (c.life.pool.isSome && c.completesStop m).toNat
  holds : l.pool.isSome = (c.makes m || c.life.pool.isSome && !c.completesStop m)

theorem poolsStep_of_start {plan : EnginePlan} (hm : m.starting? = some plan) (hs : c.completesStop m = false) :
    PoolsStep c m (c.life.start plan).1 := by
  have hmakes : c.makes m = c.life.makesPool plan := by simp [makes, hm]
  have h := c.life.start_spec plan
  generalize c.life.start plan = r at h
  cases h with
  | again hp hm => exact ⟨by simp [hmakes, hm], by simp [hs], by simp [hmakes, hm, hs]⟩
  | refused e hm hpoller hpool hmade hreleased hwaiters =>
    exact ⟨by simp [hmakes, hm, hmade], by simp [hs, hreleased], by simp [hmakes, hm, hs, hpool]⟩
  | pollerFailed e hm he hpoller hpool hmade hreleased hwaiters =>
    exact ⟨by simp [hmakes, hm, hmade], by simp [hs, hreleased], by simp [hmakes, hm, hpool]⟩
  | made hm he hnone hpoller hpool hmade hreleased hwaiters =>
    exact ⟨by simp [hmakes, hm, hmade], by simp [hs, hreleased], by simp [hmakes, hm, hpool]⟩

theorem poolsStep_of_same {l : WorkerLife} (hm : m.starting? = none) (hs : c.completesStop m = false) (hmade : l.made = c.life.made)
    (hreleased : l.released = c.life.released) (hpool : l.pool = c.life.pool) : PoolsStep c m l := by
  have hmakes : c.makes m = false := by simp [makes, hm]
  exact ⟨by simp [hmakes, hmade], by simp [hs, hreleased], by simp [hmakes, hs, hpool]⟩

theorem poolsStep_of_released {l : WorkerLife} (hm : m.starting? = none) (hs : c.completesStop m = true) (hmade : l.made = c.life.made)
    (hreleased : l.released = c.life.released) (hpool : l.pool = c.life.pool) : PoolsStep c m l.releasePool := by
  have hmakes : c.makes m = false := by simp [makes, hm]
  exact ⟨by simp [hmakes, hmade], by simp [hs, hreleased, hpool], by simp [hmakes, hs]⟩

/-- **What a move does to the pools.** -/
theorem pools_step (c : WorkerCourse) (m : WorkerMove) : PoolsStep c m (c.step m).life := by
  cases m with
  | start plan => exact poolsStep_of_start rfl rfl
  | stop =>
    obtain ⟨poller, seen, -, hl⟩ := c.life.shutPoller_eq
    change PoolsStep c .stop c.life.shutPoller.releasePool
    rw [hl]
    exact poolsStep_of_released rfl rfl rfl rfl rfl
  | run plan watches =>
    have h : PoolsStep c (.run plan watches) (c.life.start plan).1 := poolsStep_of_start rfl rfl
    rw [step]
    split
    · next l e hr => rwa [hr] at h
    · next l hr =>
      rw [hr] at h
      unfold WorkerLife.watch
      split
      · exact ⟨h.made, h.released, h.holds⟩
      · exact h
  | event i e =>
    rw [step]
    split
    · next p hp =>
      have hstop : c.completesStop (.event i e) = p.isStoppedBy e := by simp [completesStop, hp]
      cases h : p.isStoppedBy e with
      | true =>
        rw [WorkerLife.react_of_isStoppedBy h]
        exact poolsStep_of_released rfl (hstop.trans h) rfl rfl rfl
      | false =>
        obtain ⟨poller, waiters, seen, -, hl⟩ := WorkerLife.react_eq h c.life
        rw [hl]
        exact poolsStep_of_same rfl (hstop.trans h) rfl rfl rfl
    · next hp => exact poolsStep_of_same rfl (by simp [completesStop, hp]) rfl rfl rfl

/-! ### What a move does to the waiters -/

theorem waiters_react (l : WorkerLife) (p : RunPhase) (e : RunEvent) : (l.react p e).waiters = l.waiters - (p.isRelievedBy e).toNat := by
  rcases p with (_ | _) | _ | _ | _ <;> cases e <;>
    simp [WorkerLife.react, RunPhase.isRelievedBy, RunPhase.isWatching, RunPhase.next, RunPhase.isAbandonedBy, WorkerLife.call, WorkerLife.info]

theorem watching_set {i : Nat} {p : RunPhase} (hp : c.runs[i]? = some p) (q : RunPhase) :
    (c.runs.set i q).countP RunPhase.isWatching + p.isWatching.toNat = c.watching + q.isWatching.toNat := by
  obtain ⟨hi, rfl⟩ := List.getElem?_eq_some_iff.mp hp
  have hpos : c.runs[i].isWatching.toNat ≤ c.watching := by
    cases h : c.runs[i].isWatching with
    | false => exact Nat.zero_le _
    | true => exact List.countP_pos_iff.mpr ⟨_, List.getElem_mem hi, h⟩
  rw [List.countP_set hi, ← watching]
  cases h : c.runs[i].isWatching <;> cases q.isWatching <;> simp_all

/-- **What a move does to the waiters**: all but the abandoned ones wait for a run that is still polling. -/
theorem waiters_step {n : Nat} (h : c.life.waiters = c.watching + n) (m : WorkerMove) :
    (c.step m).life.waiters = (c.step m).watching + (n + (c.abandons m).toNat) := by
  cases m with
  | start plan => simpa [step, watching, abandons, WorkerLife.waiters_start] using h
  | stop => simpa [step, watching, abandons, WorkerLife.stop] using h
  | run plan watches =>
    have hs := c.life.waiters_start plan
    rw [step]
    split
    · next l e hr =>
      rw [hr] at hs
      simpa [watching, abandons, ← hs] using h
    · next l hr =>
      have hl : l.waiters = c.life.waiters := by simpa [hr] using hs
      have hrun : [RunPhase.polling watches].countP RunPhase.isWatching = watches.toNat := by cases watches <;> rfl
      simp only [watching, List.countP_append, hrun, abandons, WorkerLife.waiters_watch, hl, Bool.toNat_false] at h ⊢
      omega
  | event i e =>
    rw [step]
    split
    · next p hp =>
      have hset := watching_set hp (p.next e)
      have hnext := p.isWatching_next e
      have habandons : c.abandons (.event i e) = p.isAbandonedBy e := by simp [abandons, hp]
      simp only [watching, waiters_react, habandons] at h hset ⊢
      omega
    · next hp => simpa [watching, abandons, hp] using h

/-! ### Whole courses -/

@[simp] theorem play_nil (c : WorkerCourse) : c.play [] = c := rfl

@[simp] theorem play_cons (c : WorkerCourse) (m : WorkerMove) (ms : List WorkerMove) : c.play (m :: ms) = (c.step m).play ms := rfl

/-- Every pool that was made is shut down, held, or was replaced. -/
theorem pools_play {n : Nat} (h : c.life.made = c.life.released + c.life.pool.isSome.toNat + n) (ms : List WorkerMove) :
    (c.play ms).life.made = (c.play ms).life.released + (c.play ms).life.pool.isSome.toNat + (n + count replaces c ms) := by
  induction ms generalizing c n with
  | nil => exact h
  | cons m ms ih =>
    have hs := c.pools_step m
    have hstep : (c.step m).life.made = (c.step m).life.released + (c.step m).life.pool.isSome.toNat + (n + (c.replaces m).toNat) := by
      rw [hs.made, hs.released, hs.holds, replaces, h]
      -- no move both makes a pool and gives one up
      have hboth : c.makes m = true → c.completesStop m = false := by cases m <;> simp [makes, completesStop, WorkerMove.starting?]
      cases hm : c.makes m with
      | true => cases c.life.pool.isSome <;> simp [hboth hm] <;> omega
      | false => cases c.life.pool.isSome <;> cases c.completesStop m <;> simp
    simpa [count, Nat.add_assoc] using ih hstep

/-- Every wait is that of a run that is still polling, or was abandoned. -/
theorem waiters_play {n : Nat} (h : c.life.waiters = c.watching + n) (ms : List WorkerMove) :
    (c.play ms).life.waiters = (c.play ms).watching + (n + count abandons c ms) := by
  induction ms generalizing c n with
  | nil => exact h
  | cons m ms ih => simpa [count, Nat.add_assoc] using ih (waiters_step h m)

/-- A pool is held exactly when no stop was completed since it was there. -/
theorem holds_iff (c : WorkerCourse) (ms : List WorkerMove) :
    (c.play ms).life.pool.isSome = true ↔ (c.life.pool.isSome = true ∧ count completesStop c ms = 0) ∨
      ∃ before m after, ms = before ++ m :: after ∧ (c.play before).makes m = true ∧ count completesStop ((c.play before).step m) after = 0 := by
  induction ms generalizing c with
  | nil => simp [count]
  | cons m ms ih =>
    have hs := (c.pools_step m).holds
    rw [play_cons, ih (c.step m), hs, Bool.or_eq_true, Bool.and_eq_true, Bool.not_eq_true']
    constructor
    · rintro (⟨hmakes | ⟨hheld, hstop⟩, hcount⟩ | ⟨before, m', after, rfl, hmakes, hcount⟩)
      · exact Or.inr ⟨[], m, ms, rfl, hmakes, hcount⟩
      · exact Or.inl ⟨hheld, by simp [count, hstop, hcount]⟩
      · exact Or.inr ⟨m :: before, m', after, rfl, hmakes, hcount⟩
    · rintro (⟨hheld, hcount⟩ | ⟨before, m', after, he, hmakes, hcount⟩)
      · rw [count, Nat.add_eq_zero_iff, Bool.toNat_eq_zero] at hcount
        exact Or.inl ⟨Or.inr ⟨hheld, hcount.1⟩, hcount.2⟩
      · cases before with
        | nil =>
          obtain ⟨rfl, rfl⟩ := List.cons.inj he
          exact Or.inl ⟨Or.inl hmakes, hcount⟩
        | cons first before =>
          obtain ⟨rfl, rfl⟩ := List.cons.inj he
          exact Or.inr ⟨before, m', after, rfl, hmakes, hcount⟩

/-- No pool is held exactly when a stop was completed after every making of one. -/
theorem holds_none_iff (h : c.life.pool = none) (ms : List WorkerMove) :
    (c.play ms).life.pool.isSome = false ↔
      ∀ before m after, ms = before ++ m :: after → (c.play before).makes m = true → 0 < count completesStop ((c.play before).step m) after := by
  have hbare : ¬ (c.life.pool.isSome = true ∧ count completesStop c ms = 0) := by simp [h]
  rw [← Bool.not_eq_true, c.holds_iff ms, or_iff_right hbare]
  constructor
  · exact fun hno before m after he hm => Nat.pos_of_ne_zero fun hz => hno ⟨before, m, after, he, hm, hz⟩
  · rintro hall ⟨before, m, after, he, hm, hz⟩
    exact (hall before m after he hm).ne' hz

/-! ### Pollers that can be made -/

/-- A worker that holds a pool has its poller. -/
def Ready (c : WorkerCourse) : Prop := c.life.pool.isSome = true → c.life.poller.isSome = true

theorem Ready.step (h : c.Ready) (hm : ∀ plan, m.starting? = some plan → plan.pollerError = none) : (c.step m).Ready := by
  have hstart : ∀ plan, m.starting? = some plan → (c.life.start plan).1.pool.isSome = true → (c.life.start plan).1.poller.isSome = true := by
    intro plan hp
    have hs := c.life.start_spec plan
    generalize c.life.start plan = r at hs
    cases hs with
    | again => exact h
    | refused e _ hpoller hpool => simpa [Ready, hpoller, hpool] using h
    | pollerFailed e _ he => simp [hm plan hp] at he
    | made _ _ _ hpoller => simp [hpoller]
  cases m with
  | start plan => exact hstart plan rfl
  | stop => simp [Ready, WorkerCourse.step, WorkerLife.stop]
  | run plan watches =>
    have hr := hstart plan rfl
    rw [WorkerCourse.step]
    split
    · next l e hl => simpa [Ready, hl] using hr
    · next l hl =>
      rw [hl] at hr
      cases watches <;> exact hr
  | event i e =>
    rw [WorkerCourse.step]
    split
    · next p hp =>
      cases hs : p.isStoppedBy e with
      | true => simp [Ready, WorkerLife.react_of_isStoppedBy hs]
      | false =>
        obtain ⟨poller, waiters, seen, hpoller, hl⟩ := WorkerLife.react_eq hs c.life
        simpa [Ready, hl, hpoller] using h
    · next hp => exact h

theorem Ready.replaces_eq_false (h : c.Ready) (m : WorkerMove) : c.replaces m = false := by
  rw [replaces, Bool.and_eq_false_imp]
  intro hpool
  unfold makes
  split
  · simp [WorkerLife.makesPool, Option.isNone_eq_false_iff.mpr (h hpool)]
  · rfl

/-- If every poller can be made no pool is ever replaced. -/
theorem Ready.count_replaces_eq_zero (h : c.Ready)
    (hms : ∀ m ∈ ms, ∀ plan, m.starting? = some plan → plan.pollerError = none) : count replaces c ms = 0 := by
  induction ms generalizing c with
  | nil => rfl
  | cons m ms ih =>
    rw [List.forall_mem_cons] at hms
    simp [count, h.replaces_eq_false, ih (h.step hms.1) hms.2]

/-! ### What is left behind -/

/-- A worker before anything has happened. -/
def fresh (w : DurableWorker) (client : Option String) : WorkerCourse := { life := { worker := w, client := client } }

/-- Has a worker shut down every pool that it made, and does nobody wait for a stop event? -/
structure Tidy (c : WorkerCourse) : Prop where
  released : c.life.released = c.life.made
  pool : c.life.pool.isSome = false
  waiters : c.life.waiters = 0

instance : Decidable c.Rests := inferInstanceAs (Decidable (∀ p ∈ c.runs, _))

instance : Decidable c.Tidy :=
  decidable_of_iff (c.life.released = c.life.made ∧ c.life.pool.isSome = false ∧ c.life.waiters = 0)
    ⟨fun h => ⟨h.1, h.2.1, h.2.2⟩, fun h => ⟨h.1, h.2, h.3⟩⟩

theorem Rests.watching_eq_zero (h : c.Rests) : c.watching = 0 := by
  refine List.countP_eq_zero.mpr fun p hp hw => ?_
  have := h p hp
  cases p <;> simp_all [RunPhase.isWatching, RunPhase.outcome?]

theorem Rests.tidy_iff {lost left : Nat} (h : c.Rests) (hpools : c.life.made = c.life.released + c.life.pool.isSome.toNat + lost)
    (hwaiters : c.life.waiters = c.watching + left) : c.Tidy ↔ lost = 0 ∧ left = 0 ∧ c.life.pool.isSome = false := by
  rw [h.watching_eq_zero, Nat.zero_add] at hwaiters
  constructor
  · rintro ⟨hreleased, hpool, hwait⟩
    rw [hpool, hreleased] at hpools
    exact ⟨by simpa using hpools, hwaiters.symm.trans hwait, hpool⟩
  · rintro ⟨rfl, rfl, hpool⟩
    rw [hpool] at hpools
    exact ⟨hpools.symm, hpool, hwaiters⟩

/-! ### Runs as courses -/

theorem play_events (l : WorkerLife) (runs : List RunPhase) (p : RunPhase) (es : List RunEvent) :
    WorkerCourse.play ⟨l, runs ++ [p]⟩ (es.map (.event runs.length)) = ⟨(l.attend p es).1, runs ++ [(l.attend p es).2]⟩ := by
  induction es generalizing l p with
  | nil => rfl
  | cons e es ih =>
    have hstep : step ⟨l, runs ++ [p]⟩ (.event runs.length e) = ⟨l.react p e, runs ++ [p.next e]⟩ := by simp [step]
    rw [List.map_cons, play_cons, hstep, ih]
    rfl

theorem play_events_of_none {i : Nat} (h : c.runs[i]? = none) (es : List RunEvent) : c.play (es.map (.event i)) = c := by
  induction es with
  | nil => rfl
  | cons e es ih =>
    have hstep : c.step (.event i e) = c := by simp [step, h]
    rw [List.map_cons, play_cons, hstep, ih]

/-- A run and what happens in it are moves of a course. -/
theorem life_runThrough (c : WorkerCourse) (plan : EnginePlan) (watches : Bool) (happens : WorkerLife → List RunEvent) :
    (c.life.runThrough plan watches happens).1 =
      (c.play (.run plan watches :: (happens (c.life.start plan).1).map (.event c.runs.length))).life := by
  rw [WorkerLife.runThrough, play_cons]
  cases h : c.life.start plan with
  | mk l r =>
    cases r with
    | error e =>
      have hstep : c.step (.run plan watches) = { c with life := l } := by simp [step, h]
      rw [hstep, play_events_of_none (by simp)]
    | ok u =>
      have hstep : c.step (.run plan watches) = ⟨l.watch watches, c.runs ++ [.polling watches]⟩ := by simp [step, h]
      rw [hstep, play_events]

/-- The steps of a trial are moves of a course. -/
theorem life_perform (c : WorkerCourse) (plan : EnginePlan) (s : LifeStep) :
    ∃ ms, (LifeStep.perform plan c.life s).1 = (c.play ms).life := by
  cases s with
  | start => exact ⟨[.start plan], rfl⟩
  | stop => exact ⟨[.stop], rfl⟩
  | run stop => exact ⟨_, c.life_runThrough plan stop.watches _⟩

/-- **When a worker leaves nothing behind.** Whatever is called on a new worker, and whatever happens in its runs: every pool that was made is shut down, held, or was
replaced when the worker was started again after its poller could not be made, and every wait for a stop event is that of a run that is still polling or was abandoned
when its run was cancelled. A pool is held exactly when no stop was completed since it was made: the end of a poller, its failure and a cancellation leave it where it
is. So once all runs are over nothing is left exactly when no pool was replaced, no wait was abandoned and a stop was completed after every making of a pool. If every
poller can be made no pool is replaced, and a worker that has its poller is left by a start as it is. -/
theorem pools_and_waiters (w : DurableWorker) (client : Option String) (ms : List WorkerMove) :
    ((fresh w client).play ms).life.made =
      ((fresh w client).play ms).life.released + ((fresh w client).play ms).life.pool.isSome.toNat + count replaces (fresh w client) ms ∧
    ((fresh w client).play ms).life.waiters = ((fresh w client).play ms).watching + count abandons (fresh w client) ms ∧
    (((fresh w client).play ms).life.pool.isSome = true ↔
      ∃ before m after, ms = before ++ m :: after ∧ ((fresh w client).play before).makes m = true ∧
        count completesStop (((fresh w client).play before).step m) after = 0) ∧
    (((fresh w client).play ms).Rests →
      (((fresh w client).play ms).Tidy ↔ count replaces (fresh w client) ms = 0 ∧ count abandons (fresh w client) ms = 0 ∧
        ∀ before m after, ms = before ++ m :: after → ((fresh w client).play before).makes m = true →
          0 < count completesStop (((fresh w client).play before).step m) after)) ∧
    ((∀ m ∈ ms, ∀ plan, m.starting? = some plan → plan.pollerError = none) → count replaces (fresh w client) ms = 0) ∧
    (∀ plan, ((fresh w client).play ms).life.poller.isSome = true →
      ((fresh w client).play ms).life.start plan = (((fresh w client).play ms).life, .ok ())) := by
  have hpools := pools_play (c := fresh w client) (n := 0) rfl ms
  have hwaiters := waiters_play (c := fresh w client) (n := 0) rfl ms
  rw [Nat.zero_add] at hpools hwaiters
  have hbare : ¬ ((fresh w client).life.pool.isSome = true ∧ count completesStop (fresh w client) ms = 0) := fun h => nomatch h.1
  refine ⟨hpools, hwaiters, ((fresh w client).holds_iff ms).trans (or_iff_right hbare), fun hrests => ?_, Ready.count_replaces_eq_zero nofun,
    fun plan hp => WorkerLife.start_of_started hp plan⟩
  rw [hrests.tidy_iff hpools hwaiters, holds_none_iff rfl]

/-- A worker with the default configuration that is given its client. -/
def plain : WorkerCourse := fresh { config := {} } (some "client")

/-- Courses after which something is left behind: the poller ends by itself, or it fails; the run is cancelled while it waits for its stop event; the poller cannot be
made, also if the next run is stopped on request. -/
def untidyCourses : List (List WorkerMove) := [
  [.run {} false, .event 0 (.pollerEnds (.ok ()))],
  [.run {} true, .event 0 (.pollerEnds (.error (.error .runtime "poller failed")))],
  [.run {} true, .event 0 .cancelled],
  [.start { pollerError := some (.error .runtime "no poller") }],
  [.run { pollerError := some (.error .runtime "no poller") } true, .run {} true, .event 0 .stopRequested, .event 0 .shutDown,
    .event 0 (.pollerEnds (.ok ()))]]

theorem leaves_pools_behind : (untidyCourses.all fun ms => (plain.play ms).Rests ∧ ¬ (plain.play ms).Tidy) = true := by
  decide +kernel

/-- A run that is stopped on request leaves nothing behind. -/
example : (plain.play [.run {} true, .event 0 .stopRequested, .event 0 .shutDown, .event 0 (.pollerEnds (.ok ()))]).Tidy := by
  decide +kernel

end WorkerCourse

end ScriptFlow
