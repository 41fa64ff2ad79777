import Mathlib
import ScriptFlow.Proofs.Durable.Headers

/-!
# Blocks of headers in tasks

Tasks enter blocks of metadata and leave them, by their ends or by errors; they make other tasks, send messages and receive them, and take their steps in any order.

* `HeaderTask.Inside` — a task that has not left what it was in the middle of; `HeaderTask.Inside.step` — **a step stays inside or closes what was open, with everything
  as it was before**.
* `HeaderTask.ends` — every program ends, and leaves the blocks that it enters.
* `HeaderTasks.task?_run` — **a task is where its own steps have led**, whatever other tasks do in between.
* `headers_travel_and_nest` — **metadata arrives as it was sent, and blocks of it nest in every task by itself**.
-/

namespace ScriptFlow

namespace HeaderScopes

theorem current_enter {h : Metadata} (hne : h ≠ []) (s : HeaderScopes) : (s.enter (some h)).current = h := by
  have hfull : h.isEmpty = false := by simpa using hne
  simp [enter, current, Option.filter, hfull]

/-- No metadata and empty metadata are the same. -/
theorem current_enter_empty {headers : Option Metadata} (h : headers.getD [] = []) (s : HeaderScopes) : (s.enter headers).current = [] := by
  cases headers with
  | none => rfl
  | some h' =>
    obtain rfl : h' = [] := h
    rfl

/-- What the scopes are after blocks have been entered, the innermost of them first. -/
inductive Within (base : HeaderScopes) : List HeaderFrame → HeaderScopes → Prop where
  | base : Within base [] base
  | attempt {frames : List HeaderFrame} {s : HeaderScopes} (h : Within base frames s) (next : Except Fault Unit → HeaderProgram) :
      Within base (.attempt next :: frames) s
  | block {frames : List HeaderFrame} {s : HeaderScopes} (h : Within base frames s) (headers : Option Metadata) (next : HeaderProgram) :
      Within base (.block next :: frames) (s.enter headers)

/-- Outside all blocks nothing has changed. -/
theorem Within.eq_base {base s : HeaderScopes} {frames : List HeaderFrame} (h : Within base frames s)
    (hfree : ∀ f ∈ frames, ∃ next, f = .attempt next) : s = base := by
  induction h with
  | base => rfl
  | attempt h next ih => exact ih fun f hf => hfree f (.tail _ hf)
  | block h headers next ih =>
    obtain ⟨_, hblock⟩ := hfree _ (.head _)
    cases hblock

end HeaderScopes

open HeaderScopes (Within)

namespace HeaderTask

variable {t u : HeaderTask} {base : HeaderScopes} {outer : List HeaderFrame}

/-- The task is in the middle of these frames and perhaps of others within them; when it entered the others, its scopes were `base`. -/
def Inside (base : HeaderScopes) (outer : List HeaderFrame) (t : HeaderTask) : Prop := ∃ inner, t.frames = inner ++ outer ∧ Within base inner t.scopes

/-- A program at its end, with the outcome that it has. -/
inductive Ended : HeaderProgram → Except Fault Unit → Prop where
  | finish : Ended .finish (.ok ())
  | fail (e : Fault) : Ended (.fail e) (.error e)

/-- What stands open within closes with the scopes as they were. -/
theorem Inside.close {r : Except Fault Unit} {t' : HeaderTask} (h : t.Inside base outer) (hclose : t.close r = some t') :
    t'.Inside base outer ∨ (t.frames = outer ∧ t.scopes = base) := by
  obtain ⟨inner, hframes, hwithin⟩ := h
  unfold HeaderTask.close at hclose
  rw [hframes] at hclose
  generalize hscopes : t.scopes = scopes at hclose hwithin
  cases hwithin with
  | base => exact .inr ⟨hframes, rfl⟩
  | attempt h next =>
    cases hclose
    exact .inl ⟨_, rfl, h⟩
  | block h headers next =>
    cases hclose
    exact .inl ⟨_, rfl, h⟩

/-- **A step stays inside**, or it closes the frame outside at the end of the program, with the scopes as they were. -/
theorem Inside.step {move : HeaderMove} (h : t.Inside base outer) (hstep : t.step = some move) :
    move.task.Inside base outer ∨ (t.frames = outer ∧ t.scopes = base ∧ ∃ r, Ended t.focus r ∧ t.close r = some move.task) := by
  obtain ⟨inner, hframes, hwithin⟩ := id h
  have hsame {focus : HeaderProgram} : Inside base outer { t with focus := focus } := ⟨inner, hframes, hwithin⟩
  have henter {headers : Option Metadata} {body next : HeaderProgram} : (t.enter headers body next).Inside base outer :=
    ⟨.block next :: inner, congrArg (_ :: ·) hframes, hwithin.block headers next⟩
  unfold HeaderTask.step at hstep
  cases hfocus : t.focus with
  | finish =>
    rw [hfocus] at hstep
    obtain ⟨t', hclose, rfl⟩ := Option.map_eq_some_iff.mp hstep
    exact (h.close hclose).imp_right fun hat => ⟨hat.1, hat.2, _, .finish, hclose⟩
  | fail e =>
    rw [hfocus] at hstep
    obtain ⟨t', hclose, rfl⟩ := Option.map_eq_some_iff.mp hstep
    exact (h.close hclose).imp_right fun hat => ⟨hat.1, hat.2, _, .fail e, hclose⟩
  | look next =>
    rw [hfocus] at hstep
    cases hstep
    exact .inl hsame
  | block headers body next =>
    rw [hfocus] at hstep
    cases hstep
    exact .inl henter
  | receive m body next =>
    rw [hfocus] at hstep
    dsimp only at hstep
    split at hstep
    · cases hstep
      exact .inl henter
    · cases hstep
      exact .inl hsame
  | send m next =>
    rw [hfocus] at hstep
    dsimp only at hstep
    split at hstep
    · cases hstep
      exact .inl hsame
    · cases hstep
      exact .inl hsame
  | attempt body next =>
    rw [hfocus] at hstep
    cases hstep
    exact .inl ⟨.attempt next :: inner, congrArg (_ :: ·) hframes, hwithin.attempt next⟩
  | spawn child next =>
    rw [hfocus] at hstep
    cases hstep
    exact .inl hsame

/-! ## Steps of one task -/

/-- The task after its next step, if it takes one. -/
def go (t : HeaderTask) : HeaderTask := (t.step.map HeaderMove.task).getD t

/-- The task after steps of its own. -/
def after (t : HeaderTask) (n : Nat) : HeaderTask := go^[n] t

@[simp] theorem after_zero (t : HeaderTask) : t.after 0 = t := rfl

theorem after_succ (t : HeaderTask) (n : Nat) : t.after (n + 1) = (t.after n).go := Function.iterate_succ_apply' go n t

theorem after_add (t : HeaderTask) (m n : Nat) : t.after (m + n) = (t.after m).after n := by
  rw [after, Nat.add_comm]
  exact Function.iterate_add_apply go n m t

theorem go_of_step {move : HeaderMove} (h : t.step = some move) : t.go = move.task := by
  rw [go, h]
  rfl

theorem after_of_step {move : HeaderMove} (h : t.step = some move) (n : Nat) : t.after (n + 1) = move.task.after n := by
  rw [Nat.add_comm, after_add, after_succ, after_zero, go_of_step h]

theorem Inside.go (h : t.Inside base []) : t.go.Inside base [] := by
  cases hstep : t.step with
  | none =>
    rw [HeaderTask.go, hstep]
    exact h
  | some move =>
    rw [go_of_step hstep]
    refine (h.step hstep).resolve_right ?_
    rintro ⟨hframes, -, r, -, hclose⟩
    rw [HeaderTask.close, hframes] at hclose
    cases hclose

/-- A task never leaves what it started with. -/
theorem Inside.after (h : t.Inside base []) (n : Nat) : (t.after n).Inside base [] := by
  induction n with
  | zero => exact h
  | succ n ih => exact after_succ t n ▸ ih.go

/-- Up to any step the task is inside, unless it has closed the frame outside before. -/
theorem Inside.until (h : t.Inside base outer) (n : Nat) :
    (∀ j ≤ n, (t.after j).Inside base outer) ∨
    ∃ k r, (∀ j ≤ k, (t.after j).Inside base outer) ∧ Ended (t.after k).focus r ∧ (t.after k).scopes = base ∧ (t.after k).frames = outer := by
  induction n with
  | zero => exact .inl fun j hj => Nat.le_zero.mp hj ▸ h
  | succ n ih =>
    rcases ih with hall | hclosed
    · cases hstep : (t.after n).step with
      | none =>
        have hstays : t.after (n + 1) = t.after n := by rw [after_succ, HeaderTask.go, hstep]; rfl
        exact .inl fun j hj => (Nat.le_succ_iff.mp hj).elim (hall j) fun heq => heq ▸ hstays ▸ hall n le_rfl
      | some move =>
        have hnext : t.after (n + 1) = move.task := by rw [after_succ, go_of_step hstep]
        rcases (hall n le_rfl).step hstep with hinside | ⟨hframes, hscopes, r, hended, -⟩
        · exact .inl fun j hj => (Nat.le_succ_iff.mp hj).elim (hall j) fun heq => heq ▸ hnext ▸ hinside
        · exact .inr ⟨n, r, hall, hended, hscopes, hframes⟩
    · exact .inr hclosed

/-! ## Programs end -/

/-- The program of the task comes to an end, with everything where it was. -/
def Ends (t : HeaderTask) : Prop := ∃ n r, Ended (t.after n).focus r ∧ (t.after n).scopes = t.scopes ∧ (t.after n).frames = t.frames

theorem Ends.fail (e : Fault) (scopes : HeaderScopes) (frames : List HeaderFrame) : Ends ⟨.fail e, scopes, frames⟩ := ⟨0, _, .fail e, rfl, rfl⟩

/-- A step that enters nothing. -/
theorem Ends.of_step (move : HeaderMove) (hstep : t.step = some move) (hscopes : move.task.scopes = t.scopes) (hframes : move.task.frames = t.frames)
    (h : move.task.Ends) : t.Ends := by
  obtain ⟨n, r, hended, hs, hf⟩ := h
  exact ⟨n + 1, r, by rwa [after_of_step hstep], by rw [after_of_step hstep, hs, hscopes], by rw [after_of_step hstep, hf, hframes]⟩

theorem step_of_ended {r : Except Fault Unit} (h : Ended t.focus r) : t.step = (t.close r).map fun t' => { task := t' } := by
  unfold step
  generalize t.focus = focus at h ⊢
  cases h <;> rfl

/-- A step that enters something; the program in it ends, it is closed, and so does what follows. -/
theorem Ends.of_enter (move : HeaderMove) (hstep : t.step = some move) (h : move.task.Ends)
    (hclose : ∀ (u : HeaderTask) r, Ended u.focus r → u.scopes = move.task.scopes → u.frames = move.task.frames →
      ∃ v : HeaderTask, u.close r = some v ∧ v.scopes = t.scopes ∧ v.frames = t.frames ∧ v.Ends) : t.Ends := by
  obtain ⟨n, r, hended, hs, hf⟩ := h
  obtain ⟨v, hv, hscopes, hframes, m, r', hended', hs', hf'⟩ := hclose _ r hended hs hf
  have hafter : t.after (n + 1 + 1) = v := by
    have hlast : (move.task.after n).step = some { task := v } := by rw [step_of_ended hended, hv]; rfl
    rw [after_of_step hstep, after_succ, go_of_step hlast]
  refine ⟨n + 1 + 1 + m, r', ?_⟩
  rw [after_add, hafter]
  exact ⟨hended', hs'.trans hscopes, hf'.trans hframes⟩

/-- What follows a block: the program after it, or the error with which it was left. -/
def following (next : HeaderProgram) : Except Fault Unit → HeaderProgram
  | .ok () => next
  | .error e => .fail e

theorem close_block {r : Except Fault Unit} {headers : Option Metadata} {next : HeaderProgram} {frames : List HeaderFrame}
    (hs : t.scopes = base.enter headers) (hf : t.frames = .block next :: frames) : t.close r = some ⟨following next r, base, frames⟩ := by
  rw [close, hf, hs]
  cases r <;> rfl

theorem Ends.block {headers : Option Metadata} {body next : HeaderProgram} (hstep : t.step = some { task := t.enter headers body next })
    (hbody : (t.enter headers body next).Ends) (hnext : Ends ⟨next, t.scopes, t.frames⟩) : t.Ends :=
  .of_enter _ hstep hbody fun _ r _ hs hf => ⟨_, close_block hs hf, rfl, rfl, match r with
    | .ok () => hnext
    | .error e => .fail e _ _⟩

/-- **Every program ends**, and leaves what it enters. -/
theorem ends (p : HeaderProgram) (scopes : HeaderScopes) (frames : List HeaderFrame) : Ends ⟨p, scopes, frames⟩ := by
  induction p generalizing scopes frames with
  | finish => exact ⟨0, _, .finish, rfl, rfl⟩
  | fail e => exact .fail e scopes frames
  | look next ih => exact .of_step { task := ⟨next scopes.current, scopes, frames⟩ } rfl rfl rfl (ih _ _ _)
  | block headers body next hbody hnext => exact .block rfl (hbody _ _) (hnext _ _)
  | receive m body next hbody hnext =>
    cases hm : m.metadata with
    | ok headers => exact .block (show step _ = some { task := enter _ (some headers) body next } by simp only [step, hm]) (hbody _ _) (hnext _ _)
    | error e => exact .of_step { task := ⟨.fail e, scopes, frames⟩ } (by simp only [step, hm]) rfl rfl (.fail e _ _)
  | send m next ih =>
    cases hm : m.carry scopes.current with
    | ok m' => exact .of_step { task := ⟨next, scopes, frames⟩, sent := [m'] } (by simp only [step, hm]) rfl rfl (ih _ _)
    | error e => exact .of_step { task := ⟨.fail e, scopes, frames⟩ } (by simp only [step, hm]) rfl rfl (.fail e _ _)
  | attempt body next hbody hnext =>
    refine .of_enter { task := ⟨body, scopes, .attempt next :: frames⟩ } rfl (hbody _ _) fun u r _ hs hf => ?_
    exact ⟨{ u with focus := next r, frames := frames }, by rw [close, hf], hs, rfl, hnext r _ _⟩
  | spawn child next _ ih =>
    exact .of_step { task := ⟨next, scopes, frames⟩, made := [{ focus := child, scopes := scopes.fork }] } rfl rfl rfl (ih _ _)

/-- **A block is left as it was entered.** Up to some step the task is in the block; then the block is at its end, and the step after that puts everything back. -/
theorem leaves_block {headers : Option Metadata} {body next : HeaderProgram} (hstep : t.step = some { task := t.enter headers body next }) :
    ∃ k r, (∀ j ≤ k, (t.after (j + 1)).Inside (t.scopes.enter headers) (.block next :: t.frames)) ∧ Ended (t.after (k + 1)).focus r ∧
      t.after (k + 2) = { t with focus := following next r } := by
  have hentered : (t.enter headers body next).Inside (t.scopes.enter headers) (.block next :: t.frames) := ⟨[], rfl, .base⟩
  obtain ⟨k, r, hall, hended, hs, hf⟩ : ∃ k r, (∀ j ≤ k, ((t.enter headers body next).after j).Inside (t.scopes.enter headers) (.block next :: t.frames)) ∧
      Ended ((t.enter headers body next).after k).focus r ∧ ((t.enter headers body next).after k).scopes = t.scopes.enter headers ∧
      ((t.enter headers body next).after k).frames = .block next :: t.frames := by
    obtain ⟨n, r, hended, hs, hf⟩ := ends body (t.scopes.enter headers) (.block next :: t.frames)
    rcases hentered.until n with hall | hclosed
    · exact ⟨n, r, hall, hended, hs, hf⟩
    · exact hclosed
  refine ⟨k, r, fun j hj => ?_, ?_, ?_⟩
  · rw [after_of_step hstep]
    exact hall j hj
  · rwa [after_of_step hstep]
  · have hlast : ((t.enter headers body next).after k).step = some { task := ⟨following next r, t.scopes, t.frames⟩ } := by
      rw [step_of_ended hended, close_block hs hf]
      rfl
    rw [after_of_step hstep, after_succ, go_of_step hlast]

end HeaderTask

namespace HeaderTasks

/-! ## Steps of all tasks -/

variable {s : HeaderTasks}

theorem length_advance (s : HeaderTasks) (i : Nat) : s.tasks.length ≤ (s.advance i).tasks.length := by
  unfold advance
  split
  · exact le_rfl
  · simp

/-- A step of one task is none of another one that is there. -/
theorem task?_advance (s : HeaderTasks) (i : Nat) {j : Nat} (hj : j < s.tasks.length) :
    (s.advance i).task? j = if i = j then (s.task? j).map HeaderTask.go else s.task? j := by
  have hfound : s.task? j = some s.tasks[j] := List.getElem?_eq_getElem hj
  unfold advance
  cases hstep : (s.task? i).bind HeaderTask.step with
  | none =>
    dsimp only
    split
    · next heq =>
      subst heq
      rw [hfound, Option.bind_some] at hstep
      rw [hfound, Option.map_some, HeaderTask.go, hstep]
      rfl
    · rfl
  | some move =>
    have hset : (s.tasks.set i move.task ++ move.made)[j]? = (s.tasks.set i move.task)[j]? :=
      List.getElem?_append_left (by rwa [List.length_set])
    change (s.tasks.set i move.task ++ move.made)[j]? = _
    rw [hset, List.getElem?_set]
    split
    · next heq =>
      subst heq
      rw [hfound, Option.bind_some] at hstep
      rw [if_pos hj, hfound, Option.map_some, HeaderTask.go_of_step hstep]
    · rfl

/-- **A task is where its own steps have led**, whatever the others do in between. -/
theorem task?_run (s : HeaderTasks) (turns : List Nat) {j : Nat} (hj : j < s.tasks.length) :
    (s.run turns).task? j = (s.task? j).map (·.after (turns.count j)) := by
  induction turns generalizing s with
  | nil => simp [run]
  | cons i turns ih =>
    have hrun : s.run (i :: turns) = (s.advance i).run turns := rfl
    rw [hrun, ih (s.advance i) (hj.trans_le (s.length_advance i)), task?_advance s i hj, List.count_cons]
    by_cases hij : i = j
    · subst hij
      rw [if_pos rfl, if_pos (beq_self_eq_true i), Option.map_map]
      exact congrArg (Option.map · _) (funext fun t => rfl)
    · simp [hij]

/-- A task that is made starts with what its maker carries, and in no block. -/
theorem task?_spawn {i : Nat} {t : HeaderTask} {child next : HeaderProgram} (ht : s.task? i = some t) (hfocus : t.focus = .spawn child next) :
    (s.advance i).task? s.tasks.length = some { focus := child, scopes := t.scopes.fork } := by
  have hstep : (s.task? i).bind HeaderTask.step =
      some { task := { t with focus := next }, made := [{ focus := child, scopes := t.scopes.fork }] } := by
    rw [ht, Option.bind_some, HeaderTask.step, hfocus]
  have hadvance : (s.advance i).tasks = s.tasks.set i { t with focus := next } ++ [{ focus := child, scopes := t.scopes.fork }] := by
    rw [advance, hstep]
  have hlength : (s.tasks.set i { t with focus := next }).length = s.tasks.length := List.length_set
  rw [task?, hadvance, ← hlength, List.getElem?_concat_length]

end HeaderTasks

/-! ## Messages and blocks -/

namespace Message

/-- Under this metadata, a task that sends the first message sends the second one. -/
def Departs (m m' : Message) (metadata : Metadata) : Prop := ∀ (t : HeaderTask) next,
  t.focus = .send m next → t.scopes.current = metadata → t.step = some { task := { t with focus := next }, sent := [m'] }

/-- Whoever receives the message, whatever it carried before, enters a block under this metadata. -/
def Arrives (m : Message) (metadata : Metadata) : Prop := ∀ (t : HeaderTask) body next, t.focus = .receive m body next →
  ∃ headers, t.step = some { task := t.enter headers body next } ∧ (t.enter headers body next).scopes.current = metadata

theorem departs {m m' : Message} {metadata : Metadata} (h : m.carry metadata = .ok m') : m.Departs m' metadata := fun t next hfocus hcurrent => by
  simp only [HeaderTask.step, hfocus, hcurrent, h]

theorem arrives {m : Message} {metadata : Metadata} (h : m.metadata = .ok metadata) : m.Arrives metadata := fun t body next hfocus => by
  refine ⟨some metadata, by simp only [HeaderTask.step, hfocus, h], ?_⟩
  by_cases hempty : metadata = []
  · rw [hempty]
    rfl
  · exact HeaderScopes.current_enter hempty t.scopes

end Message

/-- **Metadata arrives as it was sent, and blocks of it nest in every task by itself.**

* In a block under a mapping that is not empty, just that is carried. A message that is sent then keeps its other headers, and who receives it gets the mapping.
* In a block under no metadata or empty metadata nothing is carried. A message that is sent then stays as it is, and who receives a message to which nothing was
  attached gets nothing.
* A block ends, by an error or without one; until then the task is in the block, and after that everything is as it was before.
* Where a task is depends on its own steps only.
* A task that was made under some metadata carries that outside of blocks of its own, whatever becomes of its maker. -/
theorem headers_travel_and_nest {h : Metadata} (hne : h ≠ []) (hs : Survives h) :
    (∀ base : HeaderScopes, (base.enter (some h)).current = h) ∧
    (∀ m : Message, ∃ m' es, es.Perm h ∧ m'.filter (·.1 != headerKey) = m.filter (·.1 != headerKey) ∧ m.Departs m' h ∧ m'.Arrives es) ∧
    (∀ (base : HeaderScopes) headers, headers.getD [] = [] → (base.enter headers).current = []) ∧
    (∀ m : Message, m.Departs m [] ∧ (m.lookup headerKey = none → m.Arrives [])) ∧
    (∀ (t : HeaderTask) headers body next, t.step = some { task := t.enter headers body next } → ∃ k r,
      (∀ j ≤ k, (t.after (j + 1)).Inside (t.scopes.enter headers) (.block next :: t.frames)) ∧ HeaderTask.Ended (t.after (k + 1)).focus r ∧
      t.after (k + 2) = { t with focus := HeaderTask.following next r }) ∧
    (∀ (s : HeaderTasks) turns j, j < s.tasks.length → (s.run turns).task? j = (s.task? j).map (·.after (turns.count j))) ∧
    ∀ (s : HeaderTasks) i t child next, s.task? i = some t → t.focus = .spawn child next → ∀ turns,
      ∃ u : HeaderTask, ((s.advance i).run turns).task? s.tasks.length = some u ∧ u.Inside t.scopes.fork [] ∧
        ((∀ f ∈ u.frames, ∃ next, f = .attempt next) → u.scopes.current = t.scopes.current) := by
  refine ⟨HeaderScopes.current_enter hne, fun m => ?_, fun base headers hheaders => HeaderScopes.current_enter_empty hheaders base,
    fun m => ⟨Message.departs rfl, fun hnone => ?_⟩, fun t headers body next => HeaderTask.leaves_block, fun s turns j => s.task?_run turns,
    fun s i t child next ht hfocus turns => ?_⟩
  · obtain ⟨p, es, hcarry, hmetadata, hperm⟩ := hs.carry hne m
    exact ⟨m.put headerKey (.payload p), es, hperm, m.filter_put _ _, Message.departs hcarry, Message.arrives hmetadata⟩
  · exact Message.arrives (by rw [Message.metadata, hnone])
  · have hchild := HeaderTasks.task?_spawn ht hfocus
    have hlt : s.tasks.length < (s.advance i).tasks.length := (List.getElem?_eq_some_iff.mp hchild).1
    have hinside := HeaderTask.Inside.after (t := { focus := child, scopes := t.scopes.fork }) ⟨[], rfl, .base⟩ (turns.count s.tasks.length)
    refine ⟨_, by rw [HeaderTasks.task?_run _ turns hlt, hchild, Option.map_some], hinside, fun hfree => ?_⟩
    obtain ⟨inner, hframes, hwithin⟩ := hinside
    rw [hwithin.eq_base fun f hf => hfree f (hframes ▸ List.mem_append_left _ hf)]
    rfl

/-- Two texts, attached to a message that has another header. -/
theorem headers_travel_and_nest_of_twoTexts : ∃ h : Metadata, h = [(.str "tenant", .str "a"), (.str "trace", .str "7")] ∧ h ≠ [] ∧ Survives h ∧
    ∃ m' es, es.Perm h ∧ m'.filter (·.1 != headerKey) = [("authorization", .other (.str "x"))] ∧
      Message.Departs [("authorization", .other (.str "x"))] m' h ∧ m'.Arrives es := by
  have htexts : IsTextMap [(.str "tenant", .str "a"), (.str "trace", .str "7")] := by
    refine ⟨?_, ?_, ?_⟩ <;> simp
  refine ⟨_, rfl, List.cons_ne_nil _ _, htexts.survives, ?_⟩
  obtain ⟨m', es, hperm, hothers, htravels⟩ :=
    (headers_travel_and_nest (List.cons_ne_nil _ _) htexts.survives).2.1 [("authorization", .other (.str "x"))]
  exact ⟨m', es, hperm, hothers.trans rfl, htravels⟩

end ScriptFlow
