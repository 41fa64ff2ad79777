import Mathlib
import ScriptFlow.Proofs.Loop.Futures

/-!
# What the kernel refers to

Callbacks, resumptions, registrations and waits refer to futures, and through such a reference alone a later turn does something to a future.

* `Kernel.Holds` — the references that a kernel holds; `Ref.touches` — the futures that a reference may change.
* `Kernel.wakeUps` — how often a task is going to be resumed as things stand.
* `Kernel.Grows` — a change that undoes nothing: outcomes stay, what is due stays due but for what was spent, and new references are of a known kind.
-/

namespace ScriptFlow

/-- The futures that a callback of a future may change. -/
def Callback.touches (source : FutureId) : Callback → List FutureId
  | .wake t => [t]
  | .forward f => [f]
  | .unlink _ => [source]
  | .relay w => [w]
  | .unrelay _ w => [w]

/-- A way in which a kernel refers to futures. -/
inductive Ref where
  | pending (source : FutureId) (c : Callback)
  | resume (task : FutureId)
  | registered (s : ScopeId) (f : FutureId)
  | waiting (task f : FutureId)

namespace Ref

/-- The futures that may change through a reference. -/
def touches : Ref → List FutureId
  | pending g c => c.touches g
  | resume t => [t]
  | registered _ f => [f]
  | waiting _ f => [f]

/-- Does a reference resume a task? -/
def Wakes (x : FutureId) : Ref → Prop
  | pending _ c => c = .wake x
  | resume t => t = x
  | _ => False

end Ref

/-- Does a job resume a task? -/
def Job.wakes (x : FutureId) : Job → Bool
  | .resume t _ => t == x
  | .callback _ c => c == .wake x

namespace Kernel

/-- A callback is going to run. -/
def Due (k : Kernel) (g : FutureId) (c : Callback) : Prop :=
  (k.outcome? g = none ∧ c ∈ k.listed g) ∨ (k.outcome? g ≠ none ∧ .callback g c ∈ k.ready)

def Holds (k : Kernel) : Ref → Prop
  | .pending g c => c ∈ k.listed g ∨ .callback g c ∈ k.ready
  | .resume t => ∃ input, .resume t input ∈ k.ready
  | .registered s f => f ∈ (k.scopes.scope s).callbacks
  | .waiting x f => ∃ task, k.task? x = some task ∧ task.waitsFor = some f

theorem Due.holds {k : Kernel} {g : FutureId} {c : Callback} (h : k.Due g c) : k.Holds (.pending g c) := by
  rcases h with ⟨-, h⟩ | ⟨-, h⟩
  · exact Or.inl h
  · exact Or.inr h

/-- How often a task waits in a list of callbacks. -/
def listedWakes (k : Kernel) (x : FutureId) : Nat := ∑ g ∈ Finset.range k.futures.size, (k.listed g).count (.wake x)

def queuedWakes (k : Kernel) (x : FutureId) : Nat := k.ready.countP (·.wakes x)

def wakeUps (k : Kernel) (x : FutureId) : Nat := k.listedWakes x + k.queuedWakes x

/-- A change that undoes nothing but what was spent. -/
structure Grows (new : Ref → Prop) (spent : FutureId → Callback → Prop) (k k' : Kernel) : Prop where
  size : k.futures.size ≤ k'.futures.size
  outcome : ∀ f o, k.outcome? f = some o → k'.outcome? f = some o
  due : ∀ g c, ¬ spent g c → k.Due g c → k'.Due g c
  plain : ∀ f, f < k.futures.size → k.task? f = none → k'.task? f = none
  task : ∀ x a, k.task? x = some a → ∃ a', k'.task? x = some a' ∧ a.cancels ≤ a'.cancels
  refs : ∀ r, k'.Holds r → k.Holds r ∨ new r
  wakes : ∀ x, (∀ r, new r → ¬ r.Wakes x) → k'.wakeUps x ≤ k.wakeUps x
  queue : ∃ js, k'.ready = k.ready ++ js ∧ ∀ g c, .callback g c ∈ js → k'.outcome? g ≠ none

/-- Nothing new, nothing spent. -/
abbrev Calm (k k' : Kernel) : Prop := Grows (fun _ => False) (fun _ _ => False) k k'

namespace Grows

variable {new new' : Ref → Prop} {spent spent' : FutureId → Callback → Prop} {k k' k'' : Kernel}

theorem refl (k : Kernel) : Grows new spent k k :=
  ⟨Nat.le_refl _, fun _ _ h => h, fun _ _ _ h => h, fun _ _ h => h, fun _ a h => ⟨a, h, Nat.le_refl _⟩, fun _ h => Or.inl h,
    fun _ _ => Nat.le_refl _, [], (List.append_nil _).symm, fun _ _ h => by cases h⟩

theorem done_of_done (h : Grows new spent k k') {f : FutureId} (hf : k.outcome? f ≠ none) : k'.outcome? f ≠ none := by
  obtain ⟨o, ho⟩ := Option.ne_none_iff_exists'.mp hf
  rw [h.outcome f o ho]
  exact Option.some_ne_none o

theorem trans (h : Grows new spent k k') (h' : Grows new spent k' k'') : Grows new spent k k'' := by
  refine ⟨h.size.trans h'.size, fun f o ho => h'.outcome f o (h.outcome f o ho), ?_, ?_, ?_, ?_,
    fun x hx => (h'.wakes x hx).trans (h.wakes x hx), ?_⟩
  · exact fun g c hs hd => h'.due g c hs (h.due g c hs hd)
  · exact fun f hf ht => h'.plain f (Nat.lt_of_lt_of_le hf h.size) (h.plain f hf ht)
  · intro x a ha
    obtain ⟨a', ha', hc⟩ := h.task x a ha
    obtain ⟨a'', ha'', hc'⟩ := h'.task x a' ha'
    exact ⟨a'', ha'', hc.trans hc'⟩
  · intro r hr
    rcases h'.refs r hr with hr | hr
    · exact h.refs r hr
    · exact Or.inr hr
  · obtain ⟨js, hjs, hd⟩ := h.queue
    obtain ⟨js', hjs', hd'⟩ := h'.queue
    refine ⟨js ++ js', by rw [hjs', hjs, List.append_assoc], fun g c hm => ?_⟩
    exact (List.mem_append.mp hm).elim (fun hm => h'.done_of_done (hd g c hm)) (hd' g c)

theorem mono (h : Grows new spent k k') (hnew : ∀ r, new r → new' r) (hspent : ∀ g c, spent g c → spent' g c) :
    Grows new' spent' k k' :=
  ⟨h.size, h.outcome, fun g c hs => h.due g c fun hc => hs (hspent g c hc), h.plain, h.task, fun r hr => (h.refs r hr).imp id (hnew r),
    fun x hx => h.wakes x fun r hr => hx r (hnew r hr), h.queue⟩

theorem of_calm (h : Calm k k') : Grows new spent k k' := h.mono (fun _ hr => hr.elim) fun _ _ hc => hc.elim

theorem isDone (h : Grows new spent k k') {f : FutureId} (hf : k.isDone f = true) : k'.isDone f = true := by
  rw [isDone_eq, Option.isSome_iff_exists] at *
  obtain ⟨o, ho⟩ := hf
  exact ⟨o, h.outcome f o ho⟩

theorem open_of_open (h : Grows new spent k k') {f : FutureId} (hf : k'.outcome? f = none) : k.outcome? f = none := by
  cases ho : k.outcome? f with
  | none => rfl
  | some o => rw [h.outcome f o ho] at hf; cases hf

/-- A change that leaves outcomes, lists and queue alone. -/
theorem of_cells (hsize : k'.futures.size = k.futures.size) (hready : k'.ready = k.ready)
    (houtcome : ∀ x, k'.outcome? x = k.outcome? x) (hlisted : ∀ x, k'.listed x = k.listed x)
    (htask : ∀ x a, k.task? x = some a →
      ∃ a', k'.task? x = some a' ∧ (∀ w, a'.waitsFor = some w → a.waitsFor = some w ∨ new (.waiting x w)) ∧ a.cancels ≤ a'.cancels)
    (hplain : ∀ x, k.task? x = none → k'.task? x = none)
    (hscopes : ∀ s f, k'.Holds (.registered s f) → k.Holds (.registered s f) ∨ new (.registered s f)) : Grows new spent k k' := by
  refine ⟨hsize.ge, ?_, ?_, fun f _ => hplain f, ?_, ?_, ?_, [], by simp [hready], by simp⟩
  · intro f o ho
    rwa [houtcome]
  · intro g c _ hd
    simpa only [Due, houtcome, hlisted, hready] using hd
  · intro x a ha
    obtain ⟨a', ha', -, hc⟩ := htask x a ha
    exact ⟨a', ha', hc⟩
  · intro r hr
    cases r with
    | pending g c => exact Or.inl (by simpa only [Holds, hlisted, hready] using hr)
    | resume t => exact Or.inl (by simpa only [Holds, hready] using hr)
    | registered s f => exact hscopes s f hr
    | waiting x f =>
      obtain ⟨a', ha', hw⟩ := hr
      cases ha : k.task? x with
      | none => simp [hplain x ha] at ha'
      | some a =>
        obtain ⟨b, hb, hbw, -⟩ := htask x a ha
        rw [ha'] at hb
        cases hb
        exact (hbw f hw).imp (fun hw => ⟨a, ha, hw⟩) id
  · intro x _
    simp only [wakeUps, listedWakes, queuedWakes, hsize, hlisted, hready]
    exact Nat.le_refl _

end Grows

/-! ## Elementary changes -/

section Elementary

variable (k : Kernel)

theorem grows_updateTask {new : Ref → Prop} {spent : FutureId → Callback → Prop} (t : FutureId) {g : Task → Task}
    (hw : ∀ a w, (g a).waitsFor = some w → a.waitsFor = some w ∨ new (.waiting t w)) (hc : ∀ a, a.cancels ≤ (g a).cancels) :
    Grows new spent k (k.updateTask t g) := by
  refine Grows.of_cells (by simp) rfl (by simp) (by simp) ?_ ?_ fun s f h => Or.inl h
  · intro x a ha
    rw [task?_updateTask, ha]
    split
    · rename_i hx
      exact ⟨g a, rfl, hx ▸ hw a, hc a⟩
    · exact ⟨a, rfl, fun _ h => Or.inl h, Nat.le_refl _⟩
  · intro x hx
    rw [task?_updateTask, hx]
    split <;> rfl

theorem calm_requestCancel (t : FutureId) : Calm k (k.requestCancel t) :=
  k.grows_updateTask t (fun _ _ h => Or.inl h) fun _ => Nat.le_refl _

theorem calm_noteCancel (t : FutureId) : Calm k (k.noteCancel t) := by
  obtain ⟨ns, h⟩ := k.noteCancel_eq t
  rw [h]
  refine (k.grows_updateTask t (g := fun task => { task with cancels := task.cancels + 1 }) (fun _ _ h => Or.inl h)
    fun _ => Nat.le_succ _).trans ?_
  exact Grows.of_cells rfl rfl (fun _ => rfl) (fun _ => rfl) (fun _ a ha => ⟨a, ha, fun _ h => Or.inl h, Nat.le_refl _⟩) (fun _ h => h)
    fun _ _ h => Or.inl h

theorem calm_setChained (f : FutureId) : Calm k (k.setChained f) :=
  Grows.of_cells (by simp) rfl (by simp) (by simp) (fun x a ha => ⟨a, by simpa using ha, fun _ h => Or.inl h, Nat.le_refl _⟩) (by simp)
    fun _ _ h => Or.inl h

/-- A change of the forest that registers nothing new. -/
theorem grows_scopes {new : Ref → Prop} {spent : FutureId → Callback → Prop} {f : Forest FutureId}
    (h : ∀ s x, x ∈ (f.scope s).callbacks → x ∈ (k.scopes.scope s).callbacks ∨ new (.registered s x)) :
    Grows new spent k { k with scopes := f } :=
  Grows.of_cells rfl rfl (fun _ => rfl) (fun _ => rfl) (fun _ a ha => ⟨a, ha, fun _ h => Or.inl h, Nat.le_refl _⟩) (fun _ h => h) h

theorem calm_notices (ns : List FutureId) : Calm k { k with notices := ns } :=
  Grows.of_cells rfl rfl (fun _ => rfl) (fun _ => rfl) (fun _ a ha => ⟨a, ha, fun _ h => Or.inl h, Nat.le_refl _⟩) (fun _ h => h)
    fun _ _ h => Or.inl h

/-- The lists of callbacks change at one future. -/
theorem listedWakes_eq (k k' : Kernel) {f : FutureId} (x : FutureId) (hf : f < k.futures.size) (hsize : k'.futures.size = k.futures.size)
    (h : ∀ g, g ≠ f → k'.listed g = k.listed g) :
    k'.listedWakes x + (k.listed f).count (.wake x) = k.listedWakes x + (k'.listed f).count (.wake x) := by
  have hmem : f ∈ Finset.range k.futures.size := Finset.mem_range.mpr hf
  have hrest : ∀ g ∈ (Finset.range k.futures.size).erase f, (k'.listed g).count (.wake x) = (k.listed g).count (.wake x) := by
    intro g hg
    rw [h g (Finset.ne_of_mem_erase hg)]
  unfold listedWakes
  rw [hsize, ← Finset.add_sum_erase _ _ hmem, ← Finset.add_sum_erase (Finset.range k.futures.size) _ hmem,
    Finset.sum_congr rfl hrest]
  ring

theorem countP_wakes_callbacks (f x : FutureId) (cs : List Callback) :
    (cs.map (Job.callback f)).countP (·.wakes x) = cs.count (.wake x) := by
  rw [List.countP_map]
  rfl

theorem calm_resolve (f : FutureId) (o : Outcome) : Calm k (k.resolve f o) := by
  by_cases hd : k.isDone f = true
  · rw [resolve_of_isDone k hd]
    exact Grows.refl k
  have hn : k.outcome? f = none := by simpa [isDone_eq] using hd
  have hready : (k.resolve f o).ready = k.ready ++ (k.listed f).map (.callback f) := by simp [ready_resolve, hd]
  refine ⟨by simp, ?_, ?_, ?_, ?_, ?_, ?_, (k.listed f).map (.callback f), hready, ?_⟩
  · intro g o' ho
    rw [outcome?_resolve]
    split
    · rename_i hg
      rw [hg.1, hn] at ho
      cases ho
    · exact ho
  · intro g c _ hdue
    unfold Due at *
    rw [outcome?_resolve, listed_resolve, hready]
    by_cases hg : g = f
    · subst hg
      have hc : c ∈ k.listed g := by simpa [hn] using hdue
      simp [hn, hc, lt_size_of_listed k hc]
    · rcases hdue with ⟨ho, hc⟩ | ⟨ho, hc⟩
      · simp [hg, ho, hc]
      · simp [hg, ho, hc]
  · intro g _ ht
    simpa using ht
  · intro x a ha
    exact ⟨a, by simpa using ha, Nat.le_refl _⟩
  · intro r hr
    left
    cases r with
    | pending g c =>
      simp only [Holds, listed_resolve, hready, List.mem_append, List.mem_map, Job.callback.injEq] at hr ⊢
      rcases hr with hr | hr | ⟨c', hc', rfl, rfl⟩
      · split at hr
        · cases hr
        · exact Or.inl hr
      · exact Or.inr hr
      · exact Or.inl hc'
    | resume t => simpa [Holds, hready] using hr
    | registered s x => simpa [Holds] using hr
    | waiting x g => simpa [Holds] using hr
  · intro x _
    simp only [wakeUps, queuedWakes, hready, List.countP_append, countP_wakes_callbacks]
    by_cases hlt : f < k.futures.size
    · have hsum := listedWakes_eq k (k.resolve f o) x hlt (by simp) fun g hg => by simp [listed_resolve, hg]
      have hempty : (k.resolve f o).listed f = [] := by simp [listed_resolve, hlt, hn]
      rw [hempty, List.count_nil] at hsum
      omega
    · have hsame : (k.resolve f o).listedWakes x = k.listedWakes x := by simp [listedWakes, listed_resolve, hlt]
      have hnone : k.listed f = [] := by simp [listed, future_of_size_le k (Nat.le_of_not_lt hlt)]
      simp [hsame, hnone]
  · intro g c hm
    obtain ⟨c', hc', he⟩ := List.mem_map.mp hm
    obtain ⟨rfl, -⟩ := Job.callback.inj he
    simp [outcome?_resolve, hn, lt_size_of_listed k hc']

/-- A new future, which nobody knows yet. -/
theorem calm_newFuture {cell : FutureCell} (hc : cell.callbacks = []) (hw : ∀ a, cell.task = some a → a.waitsFor = none) :
    Calm k (k.newFuture cell).1 := by
  have hold : ∀ x, x < k.futures.size → (k.newFuture cell).1.future x = k.future x := by
    intro x hx
    simp [future_newFuture, hx.ne]
  refine ⟨by simp, ?_, ?_, ?_, ?_, ?_, ?_, [], by simp, by simp⟩
  · intro f o ho
    rw [outcome?, hold f (lt_size_of_outcome k ho)]
    exact ho
  · intro g c _ hd
    have hg : g < k.futures.size := by
      rcases hd with ⟨-, hd⟩ | ⟨hd, -⟩
      · exact lt_size_of_listed k hd
      · obtain ⟨o, ho⟩ := Option.ne_none_iff_exists'.mp hd
        exact lt_size_of_outcome k ho
    unfold Due at *
    simpa only [outcome?, listed_newFuture k hc, hold g hg, ready_newFuture] using hd
  · intro f hf ht
    rwa [task?, hold f hf]
  · intro x a ha
    exact ⟨a, by rw [task?, hold x (lt_size_of_task k ha)]; exact ha, Nat.le_refl _⟩
  · intro r hr
    left
    cases r with
    | pending g c => simpa only [Holds, listed_newFuture k hc, ready_newFuture] using hr
    | resume t => simpa [Holds] using hr
    | registered s x => simpa [Holds] using hr
    | waiting x g =>
      obtain ⟨a, ha, hwa⟩ := hr
      by_cases hx : x = k.futures.size
      · simp only [task?, future_newFuture, hx, if_true] at ha
        rw [hw a ha] at hwa
        cases hwa
      · exact ⟨a, by simpa [task?, future_newFuture, hx] using ha, hwa⟩
  · intro x _
    simp only [wakeUps, listedWakes, queuedWakes, size_newFuture, ready_newFuture, Finset.sum_range_succ, listed_newFuture k hc]
    simp [listed, future_of_size_le k (Nat.le_refl _)]

/-- A callback is added: it is due. -/
theorem due_addCallback {f : FutureId} (hf : f < k.futures.size) (c : Callback) : (k.addCallback f c).Due f c := by
  unfold Due
  cases ho : k.outcome? f with
  | none => simp [ho, hf, listed_addCallback]
  | some o => simp [ho, ready_addCallback, isDone_eq]

theorem grows_addCallback {new : Ref → Prop} {spent : FutureId → Callback → Prop} (f : FutureId) {c : Callback}
    (hnew : new (.pending f c)) : Grows new spent k (k.addCallback f c) := by
  refine ⟨by simp, ?_, ?_, ?_, ?_, ?_, ?_, _, k.ready_addCallback f c, ?_⟩
  · intro g o ho
    simpa using ho
  · intro g c' _ hd
    unfold Due at *
    rw [outcome?_addCallback, listed_addCallback, ready_addCallback]
    rcases hd with ⟨ho, hc⟩ | ⟨ho, hc⟩
    · left
      refine ⟨ho, ?_⟩
      split
      · exact List.mem_append_left _ hc
      · exact hc
    · exact Or.inr ⟨ho, List.mem_append_left _ hc⟩
  · intro g _ ht
    simpa using ht
  · intro x a ha
    exact ⟨a, by simpa using ha, Nat.le_refl _⟩
  · intro r hr
    cases r with
    | pending g c' =>
      by_cases he : g = f ∧ c' = c
      · rw [he.1, he.2]
        exact Or.inr hnew
      · left
        simp only [Holds, listed_addCallback, ready_addCallback, List.mem_append] at hr ⊢
        refine hr.imp (fun hr => ?_) fun hr => ?_
        · split at hr
          · rename_i hg
            exact (List.mem_append.mp hr).resolve_right fun hm => he ⟨hg.1, List.mem_singleton.mp hm⟩
          · exact hr
        · refine hr.resolve_right fun hm => ?_
          split at hm
          · exact he (by simpa using hm)
          · cases hm
    | resume t =>
      left
      obtain ⟨input, hi⟩ := hr
      refine ⟨input, ?_⟩
      rw [ready_addCallback] at hi
      refine (List.mem_append.mp hi).resolve_right fun hm => ?_
      split at hm <;> simp at hm
    | registered s x => exact Or.inl (by simpa [Holds] using hr)
    | waiting x g => exact Or.inl (by simpa [Holds] using hr)
  · intro x hx
    have hc : c ≠ .wake x := hx _ hnew
    have hcount : [c].count (.wake x) = 0 := List.count_eq_zero.mpr (by simpa using hc.symm)
    have hlist : ∀ g, ((k.addCallback f c).listed g).count (.wake x) = (k.listed g).count (.wake x) := by
      intro g
      rw [listed_addCallback]
      split
      · rw [List.count_append, hcount, Nat.add_zero]
      · rfl
    have hjob : (Job.callback f c).wakes x = false := by simpa [Job.wakes] using hc
    simp only [wakeUps, listedWakes, queuedWakes, size_addCallback, hlist, ready_addCallback, List.countP_append]
    split <;> simp [hjob]
  · intro g c' hm
    split at hm
    · rename_i hd
      obtain ⟨rfl, -⟩ := Job.callback.inj (List.mem_singleton.mp hm)
      simpa [isDone_eq, Option.isSome_iff_ne_none] using hd
    · cases hm

/-- Whatever is added resumes a task once at most. -/
theorem wakeUps_addCallback_le (f x : FutureId) (c : Callback) : (k.addCallback f c).wakeUps x ≤ k.wakeUps x + 1 := by
  simp only [wakeUps, queuedWakes, ready_addCallback, List.countP_append]
  by_cases hd : f < k.futures.size ∧ k.outcome? f = none
  · have hsum := listedWakes_eq k (k.addCallback f c) x hd.1 (by simp) fun g hg => by
      simp [listed_addCallback, hg]
    have hone : ((k.addCallback f c).listed f).count (.wake x) ≤ (k.listed f).count (.wake x) + 1 := by
      rw [listed_addCallback, if_pos ⟨rfl, hd⟩, List.count_append]
      exact Nat.add_le_add_left (List.count_le_length (l := [c])) _
    have hopen : k.isDone f = false := k.isDone_eq_false.mpr hd.2
    simp only [hopen, Bool.false_eq_true, if_false, List.countP_nil]
    omega
  · have hsame : (k.addCallback f c).listedWakes x = k.listedWakes x := by
      unfold listedWakes
      rw [size_addCallback]
      refine Finset.sum_congr rfl fun g _ => ?_
      rw [listed_addCallback, if_neg fun h => hd h.2]
    have hone : (if k.isDone f = true then [Job.callback f c] else []).countP (·.wakes x) ≤ 1 := by
      split
      · exact List.countP_le_length
      · simp
    omega

/-- A callback is removed: it is spent. -/
theorem grows_removeCallback {new : Ref → Prop} {spent : FutureId → Callback → Prop} (f : FutureId) {c : Callback}
    (hs : spent f c) : Grows new spent k (k.removeCallback f c) := by
  have hsub : ∀ g, (k.removeCallback f c).listed g ⊆ k.listed g := by
    intro g
    rw [listed_removeCallback]
    split
    · exact List.filter_subset_self _
    · exact List.Subset.refl _
  refine ⟨by simp, ?_, ?_, ?_, ?_, ?_, ?_, [], by simp, by simp⟩
  · intro g o ho
    simpa using ho
  · intro g c' hg hd
    unfold Due at *
    rw [outcome?_removeCallback, listed_removeCallback, ready_removeCallback]
    refine hd.imp (fun hd => ⟨hd.1, ?_⟩) id
    split
    · rename_i hgf
      refine List.mem_filter.mpr ⟨hd.2, ?_⟩
      simp only [bne_iff_ne, ne_eq]
      rintro rfl
      exact hg (hgf ▸ hs)
    · exact hd.2
  · intro g _ ht
    simpa using ht
  · intro x a ha
    exact ⟨a, by simpa using ha, Nat.le_refl _⟩
  · intro r hr
    left
    cases r with
    | pending g c' => exact hr.imp (fun h => hsub g h) id
    | resume t => simpa [Holds] using hr
    | registered s x => simpa [Holds] using hr
    | waiting x g => simpa [Holds] using hr
  · intro x _
    simp only [wakeUps, listedWakes, queuedWakes, size_removeCallback, ready_removeCallback]
    refine Nat.add_le_add_right (Finset.sum_le_sum fun g _ => ?_) _
    rw [listed_removeCallback]
    split
    · exact (List.filter_sublist).count_le _
    · exact Nat.le_refl _

/-- A task is queued. -/
theorem grows_queue_resume {new : Ref → Prop} {spent : FutureId → Callback → Prop} (t : FutureId) (input : Except Fault Data)
    (hnew : new (.resume t)) : Grows new spent k (k.queue [.resume t input]) := by
  refine ⟨Nat.le_refl _, fun _ _ h => h, ?_, fun _ _ h => h, fun _ a ha => ⟨a, ha, Nat.le_refl _⟩, ?_, ?_, _, rfl, by simp⟩
  · intro g c _ hd
    exact hd.imp id fun hd => ⟨hd.1, List.mem_append_left _ hd.2⟩
  · intro r hr
    cases r with
    | pending g c => exact Or.inl (hr.imp id fun hr => by simpa using hr)
    | resume x =>
      obtain ⟨i, hi⟩ := hr
      rcases List.mem_append.mp hi with hi | hi
      · exact Or.inl ⟨i, hi⟩
      · have hx : x = t := (Job.resume.inj (List.mem_singleton.mp hi)).1
        exact Or.inr (hx ▸ hnew)
    | registered s x => exact Or.inl hr
    | waiting x g => exact Or.inl hr
  · intro x hx
    have ht : t ≠ x := hx _ hnew
    have hjob : (Job.resume t input).wakes x = false := by simpa [Job.wakes] using ht
    have hlist : (k.queue [.resume t input]).listedWakes x = k.listedWakes x := rfl
    simp [wakeUps, queuedWakes, hlist, hjob]

theorem wakeUps_queue_resume (t x : FutureId) (input : Except Fault Data) :
    (k.queue [.resume t input]).wakeUps x = k.wakeUps x + if t = x then 1 else 0 := by
  have hlist : (k.queue [.resume t input]).listedWakes x = k.listedWakes x := rfl
  by_cases h : t = x
  · subst h
    simp [wakeUps, queuedWakes, hlist, Job.wakes, Nat.add_assoc]
  · simp [wakeUps, queuedWakes, hlist, h, Job.wakes]

/-- The first job is taken: nothing else is lost. -/
theorem holds_of_dequeued {j : Job} {rest : List Job} (h : k.ready = j :: rest) {r : Ref}
    (hr : ({ k with ready := rest } : Kernel).Holds r) : k.Holds r := by
  cases r with
  | pending g c =>
    refine hr.imp id fun hr => ?_
    rw [h]
    exact List.mem_cons_of_mem _ hr
  | resume x =>
    obtain ⟨i, hi⟩ := hr
    refine ⟨i, ?_⟩
    rw [h]
    exact List.mem_cons_of_mem _ hi
  | registered s x => exact hr
  | waiting x g => exact hr

theorem Due.dequeue {k : Kernel} {j : Job} {rest : List Job} (h : k.ready = j :: rest) {g : FutureId} {c : Callback}
    (hj : j ≠ .callback g c) (hd : k.Due g c) : ({ k with ready := rest } : Kernel).Due g c := by
  refine hd.imp id fun hd => ⟨hd.1, ?_⟩
  have hmem := hd.2
  rw [h] at hmem
  exact (List.mem_cons.mp hmem).resolve_left hj.symm

theorem wakeUps_dequeue {j : Job} {rest : List Job} (h : k.ready = j :: rest) (x : FutureId) :
    k.wakeUps x = ({ k with ready := rest } : Kernel).wakeUps x + if j.wakes x then 1 else 0 := by
  have hlist : ({ k with ready := rest } : Kernel).listedWakes x = k.listedWakes x := rfl
  simp only [wakeUps, queuedWakes, hlist, h, List.countP_cons]
  omega

/-- A task that is not going to be resumed is referred to by nothing that would resume it. -/
theorem not_wakes_of_wakeUps {k : Kernel} {x : FutureId} (h : k.wakeUps x = 0) {r : Ref} (hr : k.Holds r) : ¬ r.Wakes x := by
  obtain ⟨hl, hq⟩ : k.listedWakes x = 0 ∧ k.queuedWakes x = 0 := Nat.add_eq_zero_iff.mp h
  cases r with
  | pending g c =>
    rintro rfl
    rcases hr with hr | hr
    · have hg := Finset.sum_eq_zero_iff.mp hl g (Finset.mem_range.mpr (k.lt_size_of_listed hr))
      exact List.count_eq_zero.mp hg hr
    · have := List.countP_eq_zero.mp hq _ hr
      simp [Job.wakes] at this
  | resume t =>
    rintro rfl
    obtain ⟨input, hi⟩ := hr
    have := List.countP_eq_zero.mp hq _ hi
    simp [Job.wakes] at this
  | registered s f => exact id
  | waiting y f => exact id

end Elementary

end Kernel

end ScriptFlow
