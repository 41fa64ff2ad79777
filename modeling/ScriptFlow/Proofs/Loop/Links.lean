import Mathlib
import ScriptFlow.Proofs.Loop.Turns

/-!
# Links between futures and scopes

A future that is linked to a scope is registered there, and has a callback that will take the registration back when the future has come to its end. Whoever waits under a scope
registers a stand-in there, and takes the registration back on leaving.

* `Kernel.Neutral` — a change that registers nothing and takes nothing back; it may decide futures, whose callbacks are queued, and cancel scopes, which forget what was
  registered on them. All operations but linking, unlinking, entering and leaving are neutral.
* `Kernel.Accounts` — the registrations of every scope are accounted for: one for each link whose callback has not run, one for each stay.
* `Kernel.Accounts.neutral`, `Kernel.Accounts.link`, `Kernel.Accounts.unlink`, `Kernel.Accounts.enter`, `Kernel.Accounts.leave` — **every operation keeps the account**.
-/

namespace ScriptFlow

/-- Is a job the callback that unlinks a future from a scope? -/
def Job.unlinks (s : ScopeId) (f : FutureId) : Job → Bool
  | .callback g c => g == f && c == .unlink s
  | .resume .. => false

theorem Job.unlinks_eq_false {s : ScopeId} {f : FutureId} {j : Job} (h : j ≠ .callback f (.unlink s)) : j.unlinks s f = false := by
  cases j with
  | resume t input => rfl
  | callback g c => simpa [unlinks] using h

namespace Kernel

/-- The callbacks of a future that will unlink it from a scope. -/
def listedUnlinks (k : Kernel) (s : ScopeId) (f : FutureId) : Nat := (k.listed f).count (.unlink s)

/-- The queued callbacks that will unlink a future from a scope. -/
def queuedUnlinks (k : Kernel) (s : ScopeId) (f : FutureId) : Nat := k.ready.countP (·.unlinks s f)

/-! ## Neutral changes -/

/-- What may become of a future and its callbacks that unlink it: nothing, or the future is decided and the callbacks are queued. -/
inductive Develops (k k' : Kernel) (f : FutureId) : Prop where
  | same (done : k'.isDone f = k.isDone f) (listed : ∀ s, k'.listedUnlinks s f = k.listedUnlinks s f)
      (queued : ∀ s, k'.queuedUnlinks s f = k.queuedUnlinks s f)
  | decided (before : k.isDone f = false) (after : k'.isDone f = true) (listed : ∀ s, k'.listedUnlinks s f = 0)
      (queued : ∀ s, k'.queuedUnlinks s f = k.queuedUnlinks s f + k.listedUnlinks s f)

/-- What may become of a scope: nothing, or it is cancelled and forgets its callbacks. -/
inductive Retires (k k' : Kernel) (s : ScopeId) : Prop where
  | same (cancelled : k'.scopes.isCancelled s = k.scopes.isCancelled s) (callbacks : (k'.scopes.scope s).callbacks = (k.scopes.scope s).callbacks)
  | cancelled (after : k'.scopes.isCancelled s = true) (callbacks : (k'.scopes.scope s).callbacks = [])

/-- A change that registers nothing and takes nothing back. -/
structure Neutral (k k' : Kernel) : Prop where
  size : k.futures.size ≤ k'.futures.size
  futures (f : FutureId) : Develops k k' f
  scopes (s : ScopeId) : Retires k k' s

section Neutral

variable {k k' k'' : Kernel}

theorem Develops.trans {f : FutureId} (h : Develops k k' f) (h' : Develops k' k'' f) : Develops k k'' f := by
  cases h with
  | same done listed queued =>
    cases h' with
    | same done' listed' queued' =>
      exact .same (done'.trans done) (fun s => (listed' s).trans (listed s)) fun s => (queued' s).trans (queued s)
    | decided before after listed' queued' =>
      exact .decided (done.symm.trans before) after listed' fun s => by rw [queued', queued, listed]
  | decided before after listed queued =>
    cases h' with
    | same done' listed' queued' =>
      exact .decided before (done'.trans after) (fun s => (listed' s).trans (listed s)) fun s => (queued' s).trans (queued s)
    | decided before' => exact absurd (before'.symm.trans after) Bool.false_ne_true

theorem Retires.trans {s : ScopeId} (h : Retires k k' s) (h' : Retires k' k'' s) : Retires k k'' s := by
  cases h' with
  | cancelled after callbacks => exact .cancelled after callbacks
  | same cancelled' callbacks' =>
    cases h with
    | same cancelled callbacks => exact .same (cancelled'.trans cancelled) (callbacks'.trans callbacks)
    | cancelled after callbacks => exact .cancelled (cancelled'.trans after) (callbacks'.trans callbacks)

theorem Neutral.trans (h : Neutral k k') (h' : Neutral k' k'') : Neutral k k'' :=
  ⟨h.size.trans h'.size, fun f => (h.futures f).trans (h'.futures f), fun s => (h.scopes s).trans (h'.scopes s)⟩

/-- What is decided stays decided. -/
theorem Neutral.isDone (h : Neutral k k') {f : FutureId} (hf : k.isDone f = true) : k'.isDone f = true := by
  cases h.futures f with
  | same done => exact done.trans hf
  | decided _ after => exact after

theorem Retires.of_eq (h : k'.scopes = k.scopes) (s : ScopeId) : Retires k k' s := .same (by rw [h]) (by rw [h])

/-- A change that leaves outcomes, lists, queue and scopes alone. -/
theorem Neutral.of_cells (hsize : k.futures.size ≤ k'.futures.size) (hready : k'.ready = k.ready) (hdone : ∀ f, k'.isDone f = k.isDone f)
    (hlisted : ∀ f, k'.listed f = k.listed f) (hscopes : k'.scopes = k.scopes) : Neutral k k' where
  size := hsize
  futures f := .same (hdone f) (fun s => by rw [listedUnlinks, hlisted, listedUnlinks]) fun s => by rw [queuedUnlinks, hready, queuedUnlinks]
  scopes := .of_eq hscopes

end Neutral

section Elementary

variable (k : Kernel)

@[simp] theorem neutral_refl : Neutral k k := .of_cells le_rfl rfl (fun _ => rfl) (fun _ => rfl) rfl

theorem neutral_updateTask (t : FutureId) (g : Task → Task) : Neutral k (k.updateTask t g) :=
  .of_cells (size_updateTask ..).ge rfl (fun f => by rw [isDone_eq, outcome?_updateTask, isDone_eq]) (listed_updateTask k t g) rfl

theorem neutral_noteCancel (t : FutureId) : Neutral k (k.noteCancel t) :=
  .of_cells (size_noteCancel ..).ge (ready_noteCancel ..) (fun f => by rw [isDone_eq, outcome?_noteCancel, isDone_eq]) (listed_noteCancel k t) (scopes_noteCancel ..)

theorem neutral_setChained (f : FutureId) : Neutral k (k.setChained f) :=
  .of_cells (size_setChained ..).ge rfl (fun x => by rw [isDone_eq, outcome?_setChained, isDone_eq]) (listed_setChained k f) rfl

theorem countP_unlinks_callbacks (f x : FutureId) (s : ScopeId) (cs : List Callback) :
    (cs.map (Job.callback f)).countP (·.unlinks s x) = if x = f then cs.count (.unlink s) else 0 := by
  rw [List.countP_map]
  split
  · rename_i hx
    refine List.countP_congr fun c _ => ?_
    simp [Job.unlinks, hx]
  · rename_i hx
    refine List.countP_eq_zero.mpr fun c _ => ?_
    simp [Job.unlinks, Ne.symm hx]

/-- A future is decided, and its callbacks are queued. -/
theorem neutral_resolve (f : FutureId) (o : Outcome) : Neutral k (k.resolve f o) := by
  by_cases hd : k.isDone f = true
  · rw [resolve_of_isDone k hd]
    exact k.neutral_refl
  have hopen : k.isDone f = false := by simpa using hd
  have hnone : k.outcome? f = none := k.isDone_eq_false.mp hopen
  have hqueued (s : ScopeId) (x : FutureId) :
      (k.resolve f o).queuedUnlinks s x = k.queuedUnlinks s x + if x = f then (k.listed f).count (.unlink s) else 0 := by
    rw [queuedUnlinks, ready_resolve, if_neg hd, List.countP_append, countP_unlinks_callbacks, queuedUnlinks]
  refine ⟨(size_resolve ..).ge, fun x => ?_, .of_eq (scopes_resolve ..)⟩
  by_cases hx : x = f ∧ f < k.futures.size
  · obtain ⟨rfl, hlt⟩ := hx
    refine .decided hopen ?_ (fun s => ?_) fun s => ?_
    · rw [isDone_eq, outcome?_resolve, if_pos ⟨rfl, hlt, hnone⟩]
      rfl
    · rw [listedUnlinks, listed_resolve, if_pos ⟨rfl, hlt, hnone⟩]
      rfl
    · rw [hqueued, if_pos rfl, listedUnlinks]
  · have hother : ¬(x = f ∧ f < k.futures.size ∧ k.outcome? f = none) := fun h => hx ⟨h.1, h.2.1⟩
    refine .same ?_ (fun s => ?_) fun s => ?_
    · rw [isDone_eq, outcome?_resolve, if_neg hother, isDone_eq]
    · rw [listedUnlinks, listed_resolve, if_neg hother, listedUnlinks]
    · rw [hqueued]
      split
      · -- a future that does not exist has no callbacks
        rename_i hxf
        have hge := Nat.le_of_not_lt fun hlt => hx ⟨hxf, hlt⟩
        rw [listed, k.future_of_size_le hge]
        rfl
      · rfl

theorem neutral_addCallback (f : FutureId) {c : Callback} (hc : ∀ s, c ≠ .unlink s) : Neutral k (k.addCallback f c) := by
  have hcount (s : ScopeId) : [c].count (.unlink s) = 0 := List.count_eq_zero.mpr fun h => hc s (List.mem_singleton.mp h).symm
  have hjob (s : ScopeId) (x : FutureId) : (Job.callback f c).unlinks s x = false := by simp [Job.unlinks, hc s]
  refine ⟨(size_addCallback ..).ge, fun x => .same ?_ (fun s => ?_) fun s => ?_, .of_eq (scopes_addCallback ..)⟩
  · rw [isDone_eq, outcome?_addCallback, isDone_eq]
  · rw [listedUnlinks, listed_addCallback]
    split
    · rw [List.count_append, hcount, Nat.add_zero, listedUnlinks]
    · rfl
  · rw [queuedUnlinks, ready_addCallback, List.countP_append]
    split
    · rw [List.countP_singleton, hjob, if_neg Bool.false_ne_true, Nat.add_zero, queuedUnlinks]
    · rfl

theorem neutral_removeCallback (f : FutureId) {c : Callback} (hc : ∀ s, c ≠ .unlink s) : Neutral k (k.removeCallback f c) := by
  refine ⟨(size_removeCallback ..).ge, fun x => .same ?_ (fun s => ?_) fun s => rfl, .of_eq rfl⟩
  · rw [isDone_eq, outcome?_removeCallback, isDone_eq]
  · rw [listedUnlinks, listed_removeCallback]
    split
    · exact List.count_filter (by simp [(hc s).symm])
    · rfl

theorem neutral_newFuture {cell : FutureCell} (hc : cell.callbacks = []) : Neutral k (k.newFuture cell).1 := by
  refine ⟨(size_newFuture ..).ge.trans' (Nat.le_succ _), fun x => ?_, .of_eq rfl⟩
  have hlisted (s : ScopeId) : (k.newFuture cell).1.listedUnlinks s x = k.listedUnlinks s x := by
    rw [listedUnlinks, listed_newFuture k hc, listedUnlinks]
  have hdone : (k.newFuture cell).1.isDone x = if x = k.futures.size then cell.outcome.isSome else k.isDone x := by
    rw [isDone_eq, outcome?, future_newFuture]
    split <;> rfl
  by_cases hx : x = k.futures.size
  · have hempty : k.future x = {} := k.future_of_size_le hx.ge
    have hopen : k.isDone x = false := by
      rw [isDone, hempty]
      rfl
    rw [if_pos hx] at hdone
    cases ho : cell.outcome.isSome with
    | false => exact .same (by rw [hdone, ho, hopen]) hlisted fun _ => rfl
    | true =>
      have hnone (s : ScopeId) : k.listedUnlinks s x = 0 := by
        rw [listedUnlinks, listed, hempty]
        rfl
      exact .decided hopen (by rw [hdone, ho]) (fun s => by rw [hlisted, hnone]) fun s => by rw [hnone]; rfl
  · rw [if_neg hx] at hdone
    exact .same hdone hlisted fun _ => rfl

theorem neutral_queue_resume (t : FutureId) (input : Except Fault Data) : Neutral k (k.queue [.resume t input]) :=
  ⟨le_rfl, fun _ => .same rfl (fun _ => rfl) fun s => by rw [queuedUnlinks, ready_queue, List.countP_append]; rfl, .of_eq rfl⟩

/-- A job is taken that unlinks nothing. -/
theorem neutral_dequeue {j : Job} {rest : List Job} (h : k.ready = j :: rest) (hj : ∀ s f, j.unlinks s f = false) : Neutral k { k with ready := rest } :=
  ⟨le_rfl, fun f => .same rfl (fun _ => rfl) fun s => by rw [queuedUnlinks, queuedUnlinks, h, List.countP_cons_of_neg (by simp [hj])], .of_eq rfl⟩

/-! ### Scopes -/

theorem neutral_scopes {f : Forest FutureId} (h : ∀ s, Retires k (k.withScopes f) s) : Neutral k (k.withScopes f) :=
  ⟨le_rfl, fun _ => .same rfl (fun _ => rfl) fun _ => rfl, h⟩

theorem neutral_newScope : Neutral k k.newScope.1 :=
  k.neutral_scopes (f := k.scopes.new.1) fun s => .same (Forest.isCancelled_new ..) (by rw [withScopes, Forest.scope_new])

/-- A scope below another one: below a cancelled scope it is cancelled from the start. -/
theorem neutral_childScope (p : ScopeId) : Neutral k (k.childScope p).1 := by
  refine k.neutral_scopes (f := (k.scopes.child p).1) fun s => ?_
  have hcallbacks := Forest.callbacks_child k.scopes p s
  by_cases hs : s = k.scopes.scopes.size ∧ k.scopes.isCancelled p = true
  · refine .cancelled ?_ ?_
    · rw [withScopes, Forest.isCancelled_child, if_pos hs.1, hs.2]
    · rw [withScopes, hcallbacks, hs.1, Forest.scope_of_size_le _ le_rfl]
  · refine .same ?_ hcallbacks
    rw [withScopes, Forest.isCancelled_child]
    split
    · rename_i hsize
      have hparent : k.scopes.isCancelled p = false := Bool.eq_false_iff.mpr fun hp => hs ⟨hsize, hp⟩
      rw [hparent, hsize, Forest.isCancelled, Forest.scope_of_size_le _ le_rfl]
    · rfl

theorem Cancels.neutral {k k' : Kernel} {f : FutureId} (h : Cancels k f k') : Neutral k k' := by
  induction h with
  | done => exact neutral_refl _
  | plain => exact neutral_resolve ..
  | asked => exact (neutral_noteCancel ..).trans (neutral_updateTask ..)
  | through _ _ _ _ _ ih => exact (neutral_noteCancel ..).trans ih

theorem neutral_cancel (f : FutureId) : Neutral k (k.cancel f) := (k.cancel_cancels f).neutral

theorem neutral_cancelAll (fs : List FutureId) : Neutral k (k.cancelAll fs) := by
  induction fs generalizing k with
  | nil => exact k.neutral_refl
  | cons f fs ih => exact (k.neutral_cancel f).trans (ih _)

theorem neutral_cancelScope (s : ScopeId) : Neutral k (k.cancelScope s) := by
  obtain ⟨forest, fired, hsweeps, heq⟩ := k.cancelScope_sweeps s
  rw [heq]
  refine (k.neutral_cancelAll fired).trans (neutral_scopes _ fun x => ?_)
  rcases hsweeps.scope_eq_or x with h | ⟨-, hcancelled, hcallbacks, -⟩
  · refine .same ?_ ?_
    · rw [withScopes, Forest.isCancelled, h, scopes_cancelAll, Forest.isCancelled]
    · rw [withScopes, h, scopes_cancelAll]
  · exact .cancelled hcancelled hcallbacks

/-- A future that is linked to a cancelled scope is cancelled at once. -/
theorem neutral_link_of_cancelled {s : ScopeId} (h : k.scopes.isCancelled s = true) (f : FutureId) : Neutral k (k.link s f) := by
  unfold link
  simp only [h, Bool.not_true, Bool.false_eq_true, if_false]
  rw [k.onCancel_of_cancelled h]
  exact k.neutral_cancel f

/-! ### Waiting and tasks -/

theorem neutral_shield (f : FutureId) : Neutral k (k.shield f).1 := by
  unfold shield
  split
  · exact k.neutral_refl
  · exact ((k.neutral_newFuture rfl).trans (neutral_addCallback _ f (by simp))).trans (neutral_addCallback _ _ (by simp))

theorem neutral_afterCall (f : FutureId) (a : Settling) : Neutral k (k.afterCall f a) := by
  rcases k.afterCall_cases f a with ⟨heq, -⟩ | ⟨-, -, ⟨o, heq⟩ | ⟨g, -, heq⟩⟩
  · rw [heq]
    exact k.neutral_refl
  · rw [heq]
    exact k.neutral_resolve f o
  · rw [heq]
    exact (k.neutral_setChained f).trans (neutral_addCallback _ g (by simp))

/-- Callbacks that unlink nothing register nothing either. -/
theorem neutral_runCallback (g : FutureId) {c : Callback} (hc : ∀ s, c ≠ .unlink s) : Neutral k (k.runCallback g c) := by
  cases c with
  | wake t => exact k.neutral_refl
  | forward f =>
    simp only [runCallback, forward]
    split
    · exact k.neutral_refl
    · exact k.neutral_resolve ..
    · exact k.neutral_resolve ..
  | unlink s => exact absurd rfl (hc s)
  | relay w =>
    simp only [runCallback]
    split
    · exact k.neutral_refl
    · exact k.neutral_cancel w
    · exact k.neutral_resolve ..
  | unrelay inner w =>
    simp only [runCallback]
    split
    · exact k.neutral_refl
    · exact k.neutral_removeCallback inner (by simp)

theorem neutral_newTask (watched : Bool) : Neutral k (k.newTask watched).1 := by
  rw [newTask_fst]
  exact (k.neutral_newFuture rfl).trans (neutral_queue_resume ..)

theorem neutral_enterTask (t : FutureId) (input : Except Fault Data) : Neutral k (k.enterTask t input).1 := by
  rw [enterTask_fst]
  exact k.neutral_updateTask t _

theorem neutral_finishTask (t : FutureId) (r : Except Fault Data) : Neutral k (k.finishTask t r) := by
  obtain ⟨o, h⟩ := k.finishTask_eq t r
  rw [h]
  exact k.neutral_resolve t o

/-- A task that was asked to end passes the request on to what it waits for. -/
theorem neutral_waitFor (t f : FutureId) : Neutral k (k.waitFor t f) := by
  have hset : Neutral k (k.awaiting t f) := (k.neutral_addCallback f (by simp)).trans (neutral_updateTask ..)
  cases hk : k.task? t with
  | none =>
    rw [waitFor_of_not_requested k (by simp [hk])]
    exact hset
  | some task =>
    cases hc : task.cancelRequested with
    | false =>
      rw [waitFor_of_not_requested k (by simp [hk, hc])]
      exact hset
    | true =>
      have hcancel := hset.trans ((k.awaiting t f).neutral_cancel f)
      unfold cancel at hcancel
      rw [waitFor_of_requested k hk hc]
      split
      · exact hcancel.trans (neutral_updateTask ..)
      · exact hcancel

end Elementary

/-! ## The account -/

/-- Registrations are accounted for, by the futures that were linked to scopes before these were cancelled, and by the stays under scopes. -/
structure Accounts (k : Kernel) (links : List (ScopeId × FutureId)) (stays : ScopeId → FutureId → Nat) : Prop where
  /-- one registration for each callback that will unlink the future, and for each stay -/
  registered {s : ScopeId} (h : k.scopes.isCancelled s = false) (f : FutureId) :
    (k.scopes.scope s).callbacks.count f = k.listedUnlinks s f + k.queuedUnlinks s f + stays s f
  cancelled {s : ScopeId} (h : k.scopes.isCancelled s = true) : (k.scopes.scope s).callbacks = []
  /-- an open future has one callback for each of its links -/
  opened {f : FutureId} (h : k.isDone f = false) (s : ScopeId) : k.listedUnlinks s f = links.count (s, f) ∧ k.queuedUnlinks s f = 0
  /-- the callbacks of a decided future are queued, or have run -/
  decided {f : FutureId} (h : k.isDone f = true) (s : ScopeId) : k.listedUnlinks s f = 0 ∧ k.queuedUnlinks s f ≤ links.count (s, f)

namespace Accounts

variable {k k' : Kernel} {links : List (ScopeId × FutureId)} {stays stays' : ScopeId → FutureId → Nat} {s : ScopeId} {f : FutureId}

/-- **A neutral change keeps the account.** -/
theorem neutral (h : k.Accounts links stays) (hn : Neutral k k') : k'.Accounts links stays where
  registered {s} hs f := by
    have htotal : k'.listedUnlinks s f + k'.queuedUnlinks s f = k.listedUnlinks s f + k.queuedUnlinks s f := by
      cases hn.futures f with
      | same _ listed queued => rw [listed, queued]
      | decided _ _ listed queued => rw [listed, queued, Nat.zero_add, Nat.add_comm]
    cases hn.scopes s with
    | same cancelled callbacks => rw [callbacks, h.registered (cancelled.symm.trans hs), htotal]
    | cancelled after => exact absurd (after.symm.trans hs) (by simp)
  cancelled {s} hs := by
    cases hn.scopes s with
    | same cancelled callbacks => rw [callbacks, h.cancelled (cancelled.symm.trans hs)]
    | cancelled _ callbacks => exact callbacks
  opened {f} hf s := by
    cases hn.futures f with
    | same done listed queued =>
      rw [listed, queued]
      exact h.opened (done.symm.trans hf) s
    | decided _ after => exact absurd (after.symm.trans hf) (by simp)
  decided {f} hf s := by
    cases hn.futures f with
    | same done listed queued =>
      rw [listed, queued]
      exact h.decided (done.symm.trans hf) s
    | decided before _ listed queued =>
      obtain ⟨hlisted, hqueued⟩ := h.opened before s
      rw [listed, queued, hlisted, hqueued, Nat.zero_add]
      exact ⟨rfl, le_rfl⟩

/-- One more where something is the same. -/
theorem count_concat_ite {α : Type} [BEq α] [LawfulBEq α] [DecidableEq α] (xs : List α) (a b : α) : (xs ++ [b]).count a = xs.count a + if b = a then 1 else 0 := by
  rw [List.count_append, List.count_singleton]
  simp only [beq_iff_eq]

/-- A registration is added to a scope. -/
theorem count_on {s : ScopeId} (hs : s < k.scopes.scopes.size) (hcancelled : k.scopes.isCancelled s = false) (f : FutureId) (x : ScopeId) (g : FutureId) :
    ((k.scopes.on s f).1.scope x).callbacks.count g = (k.scopes.scope x).callbacks.count g + if (s, f) = (x, g) then 1 else 0 := by
  rw [Forest.callbacks_on]
  by_cases hx : x = s
  · rw [if_pos ⟨hx, hs, hcancelled⟩, count_concat_ite]
    simp [hx]
  · rw [if_neg fun h => hx h.1, if_neg fun h => hx (Prod.mk.inj h).1.symm, Nat.add_zero]

/-- A registration is taken from a scope. -/
theorem count_remove (s : ScopeId) (f : FutureId) (x : ScopeId) (g : FutureId) :
    ((k.scopes.remove s f).scope x).callbacks.count g = (k.scopes.scope x).callbacks.count g - if (s, f) = (x, g) then 1 else 0 := by
  rw [Forest.callbacks_remove]
  by_cases hx : x = s
  · rw [if_pos hx, List.count_erase]
    simp [hx]
  · rw [if_neg hx, if_neg fun h => hx (Prod.mk.inj h).1.symm, Nat.sub_zero]

theorem link_of_not_cancelled (hs : k.scopes.isCancelled s = false) (f : FutureId) :
    k.link s f = (k.withScopes (k.scopes.on s f).1).addCallback f (.unlink s) := by
  unfold link
  simp only [hs, k.onCancel_of_not_cancelled hs]
  rfl

theorem listedUnlinks_link (hs : k.scopes.isCancelled s = false) (f : FutureId) (x : ScopeId) (g : FutureId) : (k.link s f).listedUnlinks x g =
    k.listedUnlinks x g + if (s, f) = (x, g) ∧ f < k.futures.size ∧ k.isDone f = false then 1 else 0 := by
  rw [link_of_not_cancelled hs, listedUnlinks, listed_addCallback]
  change (if g = f ∧ f < k.futures.size ∧ k.outcome? f = none then k.listed g ++ [.unlink s] else k.listed g).count (.unlink x) = _
  simp only [← isDone_eq_false]
  by_cases hg : g = f ∧ f < k.futures.size ∧ k.isDone f = false
  · rw [if_pos hg, count_concat_ite, listedUnlinks]
    simp [hg]
  · rw [if_neg hg, if_neg fun h => hg ⟨(Prod.mk.inj h.1).2.symm, h.2⟩]
    rfl

theorem queuedUnlinks_link (hs : k.scopes.isCancelled s = false) (f : FutureId) (x : ScopeId) (g : FutureId) : (k.link s f).queuedUnlinks x g =
    k.queuedUnlinks x g + if (s, f) = (x, g) ∧ k.isDone f = true then 1 else 0 := by
  rw [link_of_not_cancelled hs, queuedUnlinks, ready_addCallback, List.countP_append]
  change k.queuedUnlinks x g + (if k.isDone f = true then [Job.callback f (.unlink s)] else []).countP (·.unlinks x g) = _
  split
  · rename_i hd
    rw [List.countP_singleton]
    simp [Job.unlinks, hd, and_comm]
  · rename_i hd
    rw [if_neg fun h => hd h.2]
    rfl

/-- **A future that is linked to a scope** is registered once more, and will be unlinked once more. -/
theorem link (h : k.Accounts links stays) (hs : s < k.scopes.scopes.size) (hf : f < k.futures.size) (hcancelled : k.scopes.isCancelled s = false) :
    (k.link s f).Accounts (links ++ [(s, f)]) stays := by
  have hscopes : (k.link s f).scopes = (k.scopes.on s f).1 := by
    rw [link_of_not_cancelled hcancelled, scopes_addCallback]
    rfl
  have hdone (g : FutureId) : (k.link s f).isDone g = k.isDone g := by
    rw [link_of_not_cancelled hcancelled, isDone_eq, outcome?_addCallback]
    rfl
  have hlisted := listedUnlinks_link hcancelled f
  have hqueued := queuedUnlinks_link hcancelled f
  refine ⟨fun {x} hx g => ?_, fun {x} hx => ?_, fun {g} hg x => ?_, fun {g} hg x => ?_⟩
  · rw [hscopes, Forest.isCancelled_on] at hx
    rw [hscopes, count_on hs hcancelled, h.registered hx, hlisted, hqueued]
    by_cases hd : k.isDone f = true
    · simp [hd]
      omega
    · simp only [Bool.not_eq_true] at hd
      simp [hd, hf]
      omega
  · rw [hscopes, Forest.isCancelled_on] at hx
    have hne : x ≠ s := fun heq => by simp [heq, hcancelled] at hx
    rw [hscopes, Forest.callbacks_on, if_neg fun h => hne h.1, h.cancelled hx]
  · rw [hdone] at hg
    obtain ⟨hl, hq⟩ := h.opened hg x
    rw [hlisted, hqueued, hl, hq, count_concat_ite]
    by_cases heq : (s, f) = (x, g)
    · obtain ⟨rfl, rfl⟩ := Prod.mk.inj heq
      simp [hf, hg]
    · simp [heq]
  · rw [hdone] at hg
    obtain ⟨hl, hq⟩ := h.decided hg x
    rw [hlisted, hqueued, hl, count_concat_ite]
    by_cases heq : (s, f) = (x, g)
    · obtain ⟨rfl, rfl⟩ := Prod.mk.inj heq
      simpa [hg] using hq
    · simpa [heq] using hq

/-- **Whoever comes to wait under a scope** is registered there, if it is not cancelled. -/
theorem enter (h : k.Accounts links stays) (hs : s < k.scopes.scopes.size)
    (hstays : ∀ x g, stays' x g = stays x g + if (s, f) = (x, g) then 1 else 0) : (k.onCancel s f).Accounts links stays' := by
  cases hcancelled : k.scopes.isCancelled s with
  | true =>
    rw [k.onCancel_of_cancelled hcancelled]
    have hn := h.neutral (k.neutral_cancel f)
    refine { hn with registered := fun {x} hx g => ?_ }
    have hne : s ≠ x := by
      rintro rfl
      rw [(k.cancel_cancels f).scopes] at hx
      exact absurd (hcancelled.symm.trans hx) (by simp)
    rw [hn.registered hx, hstays, if_neg fun heq => hne (Prod.mk.inj heq).1, Nat.add_zero]
  | false =>
    rw [k.onCancel_of_not_cancelled hcancelled]
    refine ⟨fun {x} hx g => ?_, fun {x} hx => ?_, h.opened, h.decided⟩
    · have hx : k.scopes.isCancelled x = false := (Forest.isCancelled_on ..).symm.trans hx
      have hcount := count_on hs hcancelled f x g
      rw [h.registered hx] at hcount
      rw [hstays, ← Nat.add_assoc]
      exact hcount
    · have hx : k.scopes.isCancelled x = true := (Forest.isCancelled_on ..).symm.trans hx
      have hne : x ≠ s := fun heq => by simp [heq, hcancelled] at hx
      exact (Forest.callbacks_on ..).trans ((if_neg fun h => hne h.1).trans (h.cancelled hx))

/-- **Whoever leaves a scope** takes the registration back. -/
theorem leave (h : k.Accounts links stays) (hstays : ∀ x g, stays x g = stays' x g + if (s, f) = (x, g) then 1 else 0) :
    (k.offCancel s f).Accounts links stays' := by
  refine ⟨fun {x} hx g => ?_, fun {x} hx => ?_, h.opened, h.decided⟩
  · have hx : k.scopes.isCancelled x = false := (Forest.isCancelled_remove ..).symm.trans hx
    have hcount := count_remove (k := k) s f x g
    rw [h.registered hx, hstays, ← Nat.add_assoc, Nat.add_sub_cancel] at hcount
    exact hcount
  · have hx : k.scopes.isCancelled x = true := (Forest.isCancelled_remove ..).symm.trans hx
    refine (Forest.callbacks_remove ..).trans ?_
    rw [h.cancelled hx]
    split <;> rfl

/-- **A future that has come to its end is unlinked**, when its callback runs. -/
theorem unlink {rest : List Job} (h : k.Accounts links stays) (hready : k.ready = .callback f (.unlink s) :: rest) :
    (({ k with ready := rest } : Kernel).offCancel s f).Accounts links stays := by
  have hqueued (x : ScopeId) (g : FutureId) :
      k.queuedUnlinks x g = (({ k with ready := rest } : Kernel).offCancel s f).queuedUnlinks x g + if (s, f) = (x, g) then 1 else 0 := by
    rw [queuedUnlinks, hready, List.countP_cons]
    refine congrArg (rest.countP (·.unlinks x g) + ·) ?_
    simp [Job.unlinks, and_comm]
  refine ⟨fun {x} hx g => ?_, fun {x} hx => ?_, fun {g} hg x => ?_, fun {g} hg x => ?_⟩
  · have hx : k.scopes.isCancelled x = false := (Forest.isCancelled_remove ..).symm.trans hx
    have hcount := count_remove (k := k) s f x g
    rw [h.registered hx, hqueued] at hcount
    refine hcount.trans ?_
    change _ = k.listedUnlinks x g + _ + _
    omega
  · have hx : k.scopes.isCancelled x = true := (Forest.isCancelled_remove ..).symm.trans hx
    refine (Forest.callbacks_remove ..).trans ?_
    change (if x = s then (k.scopes.scope x).callbacks.erase f else (k.scopes.scope x).callbacks) = []
    rw [h.cancelled hx]
    split <;> rfl
  · obtain ⟨hl, hq⟩ := h.opened (f := g) hg x
    have hone := hqueued x g
    exact ⟨hl, by omega⟩
  · obtain ⟨hl, hq⟩ := h.decided (f := g) hg x
    have hone := hqueued x g
    exact ⟨hl, by omega⟩

end Accounts

end Kernel

end ScriptFlow
