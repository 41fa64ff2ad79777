import Mathlib
import ScriptFlow.Proofs.Plugin.Sets
import ScriptFlow.Proofs.Simulation.Ledger
import ScriptFlow.Proofs.Simulation.Progress
import ScriptFlow.Proofs.Worker.Registration

/-!
# What queries about progress are answered with

An execution of a harness is followed from step to step: its main task begins a run and comes to reports, and other tasks stay beside it. All executions of a
harness have one run id, and a run sets the handler of this id with its first report.

* `Simulator.Follows` — an execution under way, with what its main task has told; `Simulator.Follows.step` — **what a step adds to it**.
* `Harness.Reported` — what has been done with a harness, with the reports of every execution.
* `Harness.queries_answer_with_the_latest_report` — **a query is answered with the latest of all reports**.
* `Harness.silent_script_shows_earlier_report` — a script that reports nothing is answered for by an earlier one.
-/

namespace ScriptFlow

open Loop

namespace Simulator

variable {st st' : LoopState (World Simulator)}

/-! ## The main task of an execution -/

/-- Where the main task is: about to begin its run, in the run, or within a report. -/
inductive Phase where
  | early
  | own
  | looking
  | setting
  | marking
  deriving DecidableEq

/-- The main task may wait. -/
def Phase.Rests (phase : Phase) : Prop := phase = .early ∨ phase = .own

section Phase

variable (R : String) (n : Nat) (reg : Registry)

/-- The programs of the tasks: the main task is the first one, and begins while there are no others. -/
inductive Phase.Covers : Phase → FutureId → Proc (World Simulator) → Prop where
  | early {p : Proc (World Simulator)} (h : Mindful R n reg .early p) : Covers .early 0 p
  | own {p : Proc (World Simulator)} (h : Mindful R n reg .own p) : Covers .own 0 p
  | looking {p : Proc (World Simulator)} {cont : Except Fault (Reply Simulator) → Proc (World Simulator)} (here : p = Simulator.looking R n cont)
      (goesOn : Mindful R n reg .own (cont (.ok (.now .null)))) : Covers .looking 0 p
  | setting {p : Proc (World Simulator)} {cont : Except Fault (Reply Simulator) → Proc (World Simulator)} (here : p = Simulator.setting R n cont)
      (goesOn : Mindful R n reg .own (cont (.ok (.now .null)))) : Covers .setting 0 p
  | marking {p : Proc (World Simulator)} {cont : Except Fault (Reply Simulator) → Proc (World Simulator)} (here : p = Simulator.marking n cont)
      (goesOn : Mindful R n reg .own (cont (.ok (.now .null)))) : Covers .marking 0 p
  | beside {phase : Phase} {t : FutureId} {p : Proc (World Simulator)} (hphase : phase ≠ .early) (ht : t ≠ 0) (h : Mindful R n reg .foreign p) :
      Covers phase t p

/-- The programs with which tasks wait. -/
def Phase.Awaits (phase : Phase) (t : FutureId) (p : Proc (World Simulator)) : Prop := phase.Covers R n reg t p ∧ (t = 0 → phase.Rests)

/-- Queries about progress of a run id are answered with what one of the first runs keeps, or not at all. -/
def Recalls (w : World Simulator) : Option Data → Prop
  | none => w.engine.queryHandlers.get? R Progress.queryName = none
  | some v => ∃ k < n, w.engine.queryHandlers.get? R Progress.queryName = some (.stored k Progress.valueKey) ∧
      Data.lookup? (w.progress k) Progress.valueKey = some v

/-- Queries about progress are answered with what a run keeps. -/
def Answering (w : World Simulator) : Prop := w.engine.queryHandlers.get? R Progress.queryName = some (.stored n Progress.valueKey)

/-- What a run keeps after a report. -/
def reported (v : Data) : List (Data × Data) := [(Progress.valueKey, v), (Progress.handlerKey, .bool true)]

/-- What a run keeps and how queries are answered after what the run has told; `last` was the answer before. -/
inductive Shows (last : Option Data) (w : World Simulator) : List Data → Prop where
  | silent (progress : w.progress n = []) (answers : Recalls R n w last) : Shows last w []
  | told {told : List Data} {v : Data} (latest : told.getLast? = some v) (progress : w.progress n = reported v) (answering : Answering R n w) :
      Shows last w told

/-- How the world is in a phase. -/
inductive Phase.Holds (last : Option Data) (w : World Simulator) : Phase → List Data → Prop where
  | early (size : w.runs.size = n) (answers : Recalls R n w last) : Holds last w .early []
  | own {told : List Data} (size : n < w.runs.size) (shows : Shows R n last w told) : Holds last w .own told
  | looking {told : List Data} {v : Data} (size : n < w.runs.size) (latest : told.getLast? = some v)
      (progress : w.progress n = [(Progress.valueKey, v)] ∨ w.progress n = reported v ∧ Answering R n w) : Holds last w .looking told
  | setting {told : List Data} {v : Data} (size : n < w.runs.size) (latest : told.getLast? = some v)
      (progress : w.progress n = [(Progress.valueKey, v)]) : Holds last w .setting told
  | marking {told : List Data} {v : Data} (size : n < w.runs.size) (latest : told.getLast? = some v)
      (progress : w.progress n = [(Progress.valueKey, v)]) (answering : Answering R n w) : Holds last w .marking told

/-- An execution under way: what the main task has told, and where it is. -/
structure Follows (last : Option Data) (told : List Data) (phase : Phase) (l : Loop (World Simulator)) : Prop where
  registry : l.state.world.engine.registry = reg
  tasked : l.Tasked (phase.Covers R n reg) (phase.Awaits R n reg)
  holds : phase.Holds R n last l.state.world told
  busy : ¬ phase.Rests → ∃ p, l.focus = some (0, p)
  main : 0 < l.state.kernel.futures.size

end Phase

/-- What the main task reports with its next step. -/
inductive Heard (l : Loop (World Simulator)) : List Data → Prop where
  | report {p : Proc (World Simulator)} {v : Data} (hf : l.focus = some (0, p)) (hv : IsReport v p) : Heard l [v]
  | silent (h : ∀ p v, l.focus = some (0, p) → ¬ IsReport v p) : Heard l []

/-- Steps of a loop, and what the main task reports with them. -/
inductive Tells (l : Loop (World Simulator)) : List Data → Loop (World Simulator) → Prop where
  | refl : Tells l [] l
  | tail {told heard : List Data} {l' l'' : Loop (World Simulator)} (h : Tells l told l') (hs : l'.step = some l'') (hh : Heard l' heard) :
      Tells l (told ++ heard) l''

theorem exists_heard (l : Loop (World Simulator)) : ∃ heard, Heard l heard := by
  by_cases h : ∃ p v, l.focus = some (0, p) ∧ IsReport v p
  · obtain ⟨p, v, hf, hv⟩ := h
    exact ⟨_, .report hf hv⟩
  · exact ⟨_, .silent fun p v hf hv => h ⟨p, v, hf, hv⟩⟩

theorem exists_tells {l l' : Loop (World Simulator)} (h : Steps l l') : ∃ told, Tells l told l' := by
  induction h with
  | refl => exact ⟨[], .refl⟩
  | tail _ hs ih =>
    obtain ⟨told, htold⟩ := ih
    obtain ⟨heard, hheard⟩ := exists_heard _
    exact ⟨_, htold.tail hs hheard⟩

section Follows

variable {R : String} {n : Nat} {reg : Registry} {last : Option Data} {told heard : List Data} {phase : Phase} {l l' : Loop (World Simulator)}

/-- An access that is no report of the main task. -/
theorem Heard.eq_nil (h : Heard l heard) {t : FutureId} {p : Proc (World Simulator)} (hf : l.focus = some (t, p)) (hno : t = 0 → ∀ v, ¬ IsReport v p) :
    heard = [] := by
  cases h with
  | report hf' hv =>
    cases hf.symm.trans hf'
    exact absurd hv (hno rfl _)
  | silent => rfl

theorem Heard.eq_singleton (h : Heard l heard) {v : Data} {cont : Except Fault (Reply Simulator) → Proc (World Simulator)}
    (hf : l.focus = some (0, storing R n v cont)) (hv : IsReport v (storing R n v cont)) : heard = [v] := by
  cases h with
  | report hf' hv' =>
    cases hf.symm.trans hf'
    rw [hv'.eq_of_storing]
  | silent hno => exact absurd hv (hno _ _ hf)

theorem Mindful.of_spawn {role : Role} {watched : Bool} {body next : FutureId → Proc (World Simulator)} (h : Mindful R n reg role (.spawn watched body next)) :
    role ≠ .early ∧ (∀ t, Mindful R n reg .foreign (body t)) ∧ ∀ t, Mindful R n reg role (next t) := by
  cases h with
  | spawn hrole started goesOn => exact ⟨hrole, started, goesOn⟩
  | report _ here => cases here

theorem Mindful.of_await {role : Role} {f : FutureId} {next : Except Fault Data → Proc (World Simulator)} (h : Mindful R n reg role (.await f next)) :
    role ≠ .early ∧ ∀ r, Mindful R n reg role (next r) := by
  cases h with
  | await hrole goesOn => exact ⟨hrole, goesOn⟩
  | report _ here => cases here

theorem Mindful.of_turn {role : Role} {next : Except Fault Data → Proc (World Simulator)} (h : Mindful R n reg role (.turn next)) :
    role ≠ .early ∧ ∀ r, Mindful R n reg role (next r) := by
  cases h with
  | turn hrole goesOn => exact ⟨hrole, goesOn⟩
  | report _ here => cases here

/-- A program that makes no access next begins, is, or stays beside a run; it goes on as what it is. -/
theorem Phase.Covers.exists_role {t : FutureId} {p : Proc (World Simulator)} (h : phase.Covers R n reg t p) (hp : ∀ f, p ≠ .access f) :
    ∃ role, Mindful R n reg role p ∧ (role ≠ .early → phase ≠ .early ∧ ∀ q, Mindful R n reg role q → phase.Awaits R n reg t q) := by
  cases h with
  | early h => exact ⟨.early, h, fun hrole => absurd rfl hrole⟩
  | own h => exact ⟨.own, h, fun _ => ⟨by decide, fun q hq => ⟨.own hq, fun _ => .inr rfl⟩⟩⟩
  | beside hphase ht h => exact ⟨.foreign, h, fun _ => ⟨hphase, fun q hq => ⟨.beside hphase ht hq, fun h0 => absurd h0 ht⟩⟩⟩
  | looking here | setting here | marking here => exact absurd here (hp _)

theorem Phase.lasting {m : Nat} (hm : 0 < m) : Lasting m (phase.Covers R n reg) (phase.Awaits R n reg) where
  goesOn h := h.1
  starts {_ _ _ _} h {_} hu := by
    obtain ⟨role, hp, hrole⟩ := h.exists_role nofun
    obtain ⟨hne, hstarted, -⟩ := hp.of_spawn
    have hphase := (hrole hne).1
    have hu := (hm.trans_le hu).ne'
    exact ⟨fun x => ⟨.beside hphase hu (hstarted x), fun h0 => absurd h0 hu⟩, fun e => ⟨.beside hphase hu (.finish _ _), fun h0 => absurd h0 hu⟩⟩
  spawn h x := by
    obtain ⟨role, hp, hrole⟩ := h.exists_role nofun
    exact (hrole hp.of_spawn.1).2 _ (hp.of_spawn.2.2 x)
  await h r := by
    obtain ⟨role, hp, hrole⟩ := h.exists_role nofun
    exact (hrole hp.of_await.1).2 _ (hp.of_await.2 r)
  turn h r := by
    obtain ⟨role, hp, hrole⟩ := h.exists_role nofun
    exact (hrole hp.of_turn.1).2 _ (hp.of_turn.2 r)

/-- Tasks beside the main one wait as before. -/
theorem Phase.Awaits.beside {phase' : Phase} {t : FutureId} {p : Proc (World Simulator)} (h : phase.Awaits R n reg t p) (ht : t ≠ 0)
    (hphase : phase ≠ .early → phase' ≠ .early) : phase'.Awaits R n reg t p := by
  obtain ⟨hcovers, -⟩ := h
  cases hcovers with
  | beside hearly _ h => exact ⟨.beside (hphase hearly) ht h, fun h0 => absurd h0 ht⟩
  | _ => exact absurd rfl ht

theorem Recalls.leaves {k : Nat} (h : Recalls R k st.world last) (hk : k ≤ n + 1) (hl : Leaves (· = R) (· ≤ n) st st') : Recalls R k st'.world last := by
  cases last with
  | none => exact (hl.handlers rfl).trans h
  | some v =>
    obtain ⟨run, hrun, hhandler, hvalue⟩ := h
    exact ⟨run, hrun, (hl.handlers rfl).trans hhandler, by rw [hl.progress (by omega)]; exact hvalue⟩

theorem Recalls.mono {w : World Simulator} {m : Nat} (h : Recalls R n w last) (hn : n ≤ m) : Recalls R m w last := by
  cases last with
  | none => exact h
  | some v =>
    obtain ⟨run, hrun, hrest⟩ := h
    exact ⟨run, hrun.trans_le hn, hrest⟩

theorem Shows.leaves (h : Shows R n last st.world told) (hl : Leaves (· = R) (· ≤ n) st st') : Shows R n last st'.world told := by
  cases h with
  | silent hprogress hanswers => exact .silent ((hl.progress le_rfl).trans hprogress) (hanswers.leaves n.le_succ hl)
  | told hlatest hprogress hanswering => exact .told hlatest ((hl.progress le_rfl).trans hprogress) ((hl.handlers rfl).trans hanswering)

theorem Calm.leaves (h : Calm st st') : Leaves (· = R) (· ≤ n) st st' := h.mono (fun _ _ => trivial) fun _ _ => trivial

/-- The main task goes on with an access. -/
theorem Follows.goesOn (h : Follows R n reg last told phase l) {f : LoopState (World Simulator) → LoopState (World Simulator) × Proc (World Simulator)}
    (hf : l.focus = some (0, .access f)) {told' : List Data} {phase' : Phase} (hphase : phase ≠ .early → phase' ≠ .early)
    (hfutures : l.state.kernel.futures.size ≤ (f l.state).1.kernel.futures.size)
    (hregistry : (f l.state).1.world.engine.registry = l.state.world.engine.registry) (hcovers : phase'.Covers R n reg 0 (f l.state).2)
    (hholds : phase'.Holds R n last (f l.state).1.world told') : Follows R n reg last told' phase' (l.accessed 0 f) where
  registry := hregistry.trans h.registry
  tasked := h.tasked.accessed hf hfutures hcovers fun _ _ hu hp => hp.beside hu hphase
  holds := hholds
  busy _ := ⟨_, rfl⟩
  main := h.main.trans_le hfutures

/-- The main task goes on with an access that is no report. -/
theorem Follows.goesOn_silently (h : Follows R n reg last told phase l)
    {f : LoopState (World Simulator) → LoopState (World Simulator) × Proc (World Simulator)} (hf : l.focus = some (0, .access f)) (hh : Heard l heard)
    (hno : ∀ v, ¬ IsReport v (.access f)) (phase' : Phase) (hphase : phase ≠ .early → phase' ≠ .early)
    (hfutures : l.state.kernel.futures.size ≤ (f l.state).1.kernel.futures.size)
    (hregistry : (f l.state).1.world.engine.registry = l.state.world.engine.registry) (hcovers : phase'.Covers R n reg 0 (f l.state).2)
    (hholds : phase'.Holds R n last (f l.state).1.world told) : ∃ phase', Follows R n reg last (told ++ heard) phase' (l.accessed 0 f) := by
  obtain rfl := hh.eq_nil hf fun _ => hno
  rw [List.append_nil]
  exact ⟨phase', h.goesOn hf hphase hfutures hregistry hcovers hholds⟩

variable {f : LoopState (World Simulator) → LoopState (World Simulator) × Proc (World Simulator)}

/-- Before the run begins. -/
theorem Follows.early (h : Follows R n reg last told .early l) (hf : l.focus = some (0, .access f)) (hh : Heard l heard)
    (hp : Mindful R n reg .early (.access f)) : ∃ phase', Follows R n reg last (told ++ heard) phase' (l.accessed 0 f) := by
  cases h.holds with
  | early hsize hanswers =>
    have hassumes : Role.early.Assumes reg n l.state.world := ⟨h.registry, hsize⟩
    cases hp with
    | access here next =>
      obtain ⟨hcalm, hsame⟩ := here l.state
      refine h.goesOn_silently hf hh (fun v => IsReport.not_of_calm fun st => (here st).1) .early id hcalm.futures hcalm.registry (.early (next _ hassumes)) ?_
      exact .early (hsame.trans hsize) (hanswers.leaves n.le_succ hcalm.leaves)
    | begins here next =>
      have hno (v : Data) : ¬ IsReport v (.access f) := IsReport.not_of_silent fun m run v hmem => by
        rw [here, World.progress_push, progress_blankState] at hmem
        exact List.not_mem_nil hmem
      have hworld : (f l.state).1.world = { l.state.world with runs := l.state.world.runs.push {} } := by rw [here]
      have hprogress (run : Nat) : (f l.state).1.world.progress run = l.state.world.progress run := by rw [hworld, World.progress_push]
      have hnone : l.state.world.progress n = [] := by
        rw [World.progress, Array.getElem?_eq_none hsize.le]
        rfl
      have hl : Leaves (· = R) (· ≤ n) l.state (f l.state).1 :=
        ⟨by rw [here], by rw [hworld], by simp [hworld], fun _ => by rw [hworld], fun _ => hprogress _⟩
      refine h.goesOn_silently hf hh hno .own (fun _ => by decide) hl.futures hl.registry (.own (next _ hassumes)) (.own ?_ (.silent ?_ ?_))
      · simp [hworld, hsize]
      · rw [hprogress, hnone]
      · exact hanswers.leaves n.le_succ hl

/-- Beside reports, the run does nothing that reports notice. -/
theorem Follows.own (h : Follows R n reg last told .own l) (hf : l.focus = some (0, .access f)) (hh : Heard l heard)
    (hp : Mindful R n reg .own (.access f)) : ∃ phase', Follows R n reg last (told ++ heard) phase' (l.accessed 0 f) := by
  cases h.holds with
  | own hsize hshows =>
    cases hp with
    | access here next =>
      have hcalm : Calm l.state (f l.state).1 := here l.state
      refine h.goesOn_silently hf hh (fun v => IsReport.not_of_calm here) .own id hcalm.futures hcalm.registry (.own (next _ ⟨h.registry, hsize⟩)) ?_
      exact .own (hsize.trans_le hcalm.size) (hshows.leaves hcalm.leaves)
    | @report _ v cont reports here goesOn =>
      obtain rfl := Proc.access.inj here
      obtain rfl : heard = [v] := hh.eq_singleton hf reports
      have hprogress := (World.progress_note (.inl rfl) l.state.world n v n).trans (if_pos ⟨rfl, hsize⟩)
      refine ⟨.looking, h.goesOn hf (fun _ => by decide) le_rfl rfl (.looking rfl goesOn) (.looking ?_ List.getLast?_concat ?_)⟩
      · exact hsize.trans_le (Array.size_modify ..).ge
      · cases hshows with
        | silent hnone _ =>
          rw [hnone] at hprogress
          exact .inl hprogress
        | told _ hreported hanswering =>
          rw [hreported] at hprogress
          exact .inr ⟨hprogress, hanswering⟩

/-- A report looks whether there is a handler. -/
theorem Follows.looking (h : Follows R n reg last told .looking l) (hf : l.focus = some (0, .access f)) (hh : Heard l heard)
    {cont : Except Fault (Reply Simulator) → Proc (World Simulator)} (here : .access f = Simulator.looking R n cont)
    (hp : Mindful R n reg .own (cont (.ok (.now .null)))) : ∃ phase', Follows R n reg last (told ++ heard) phase' (l.accessed 0 f) := by
  obtain rfl := Proc.access.inj here
  have hno (v : Data) : ¬ IsReport v (Simulator.looking R n cont) := IsReport.not_of_calm fun _ => .of_eq le_rfl rfl rfl rfl
  cases h.holds with
  | looking hsize hlatest hprogress =>
    have hlookup := World.lookup?_progress (.inr rfl) l.state.world n
    rcases hprogress with hprogress | ⟨hprogress, hanswering⟩
    · refine h.goesOn_silently hf hh hno .setting (fun _ => by decide) le_rfl rfl ?_ (.setting hsize hlatest hprogress)
      rw [hprogress] at hlookup
      exact .setting (by dsimp only; rw [← hlookup]; rfl) hp
    · refine h.goesOn_silently hf hh hno .own (fun _ => by decide) le_rfl rfl ?_ (.own hsize (.told hlatest hprogress hanswering))
      rw [hprogress] at hlookup
      refine .own ?_
      dsimp only
      rw [← hlookup]
      exact hp

/-- A report sets the handler. -/
theorem Follows.setting (h : Follows R n reg last told .setting l) (hf : l.focus = some (0, .access f)) (hh : Heard l heard)
    {cont : Except Fault (Reply Simulator) → Proc (World Simulator)} (here : .access f = Simulator.setting R n cont)
    (hp : Mindful R n reg .own (cont (.ok (.now .null)))) : ∃ phase', Follows R n reg last (told ++ heard) phase' (l.accessed 0 f) := by
  obtain rfl := Proc.access.inj here
  have hno (v : Data) : ¬ IsReport v (Simulator.setting R n cont) := IsReport.not_of_silent fun m run v hmem => by
    have hmem : (Progress.valueKey, v) ∈ (blankState m).world.progress run := hmem
    rw [progress_blankState] at hmem
    exact List.not_mem_nil hmem
  cases h.holds with
  | setting hsize hlatest hprogress =>
    refine h.goesOn_silently hf hh hno .marking (fun _ => by decide) le_rfl rfl (.marking rfl hp) (.marking hsize hlatest hprogress ?_)
    exact (ByRun.get?_set ..).trans (if_pos ⟨rfl, rfl⟩)

/-- A report notes that there is a handler. -/
theorem Follows.marking (h : Follows R n reg last told .marking l) (hf : l.focus = some (0, .access f)) (hh : Heard l heard)
    {cont : Except Fault (Reply Simulator) → Proc (World Simulator)} (here : .access f = Simulator.marking n cont)
    (hp : Mindful R n reg .own (cont (.ok (.now .null)))) : ∃ phase', Follows R n reg last (told ++ heard) phase' (l.accessed 0 f) := by
  obtain rfl := Proc.access.inj here
  have hno (v : Data) : ¬ IsReport v (Simulator.marking n cont) := IsReport.not_of_silent fun m run v hmem => by
    rw [progress_note_blankState (.inr rfl)] at hmem
    split at hmem
    · exact absurd (Data.str.inj (congrArg Prod.fst (List.mem_singleton.mp hmem))) (by decide)
    · exact List.not_mem_nil hmem
  cases h.holds with
  | marking hsize hlatest hprogress hanswering =>
    have hnoted := (World.progress_note (.inr rfl) l.state.world n (.bool true) n).trans (if_pos ⟨rfl, hsize⟩)
    rw [hprogress] at hnoted
    refine h.goesOn_silently hf hh hno .own (fun _ => by decide) le_rfl rfl (.own hp) (.own ?_ (.told hlatest hnoted hanswering))
    exact hsize.trans_le (Array.size_modify ..).ge

/-- A task beside the main one goes on. -/
theorem Follows.beside (h : Follows R n reg last told phase l) {t : FutureId} (hf : l.focus = some (t, .access f)) (hh : Heard l heard)
    (hphase : phase ≠ .early) (ht : t ≠ 0) (hp : Mindful R n reg .foreign (.access f)) :
    ∃ phase', Follows R n reg last (told ++ heard) phase' (l.accessed t f) := by
  obtain rfl := hh.eq_nil hf fun h0 => absurd h0 ht
  have hrests : phase.Rests := by
    by_contra hbusy
    obtain ⟨p, hp⟩ := h.busy hbusy
    exact ht (Prod.mk.inj (Option.some.inj (hf.symm.trans hp))).1
  obtain rfl : phase = .own := hrests.resolve_left hphase
  cases h.holds with
  | own hsize hshows =>
    cases hp with
    | access here next =>
      have hl : Leaves (· = R) (· ≤ n) l.state (f l.state).1 := here l.state
      rw [List.append_nil]
      refine ⟨.own, hl.registry.trans h.registry, ?_, .own (hsize.trans_le hl.size) (hshows.leaves hl), fun hbusy => absurd hrests hbusy,
        h.main.trans_le hl.futures⟩
      exact h.tasked.accessed hf hl.futures (.beside hphase ht (next _ ⟨h.registry, hsize⟩)) fun _ _ _ => id

/-- **A step of an execution**: what the main task has told is what it had told, and what it reports with the step. -/
theorem Follows.step (h : Follows R n reg last told phase l) (hs : l.step = some l') (hh : Heard l heard) :
    ∃ phase', Follows R n reg last (told ++ heard) phase' l' := by
  by_cases haccess : ∃ t f, l.focus = some (t, .access f)
  · obtain ⟨t, f, hf⟩ := haccess
    obtain rfl := Option.some.inj ((step_of_access hf).symm.trans hs)
    obtain ⟨-, -, hcovers⟩ := h.tasked.running hf
    cases hcovers with
    | early hp => exact h.early hf hh hp
    | own hp => exact h.own hf hh hp
    | looking here hp => exact h.looking hf hh here hp
    | setting here hp => exact h.setting hf hh here hp
    | marking here hp => exact h.marking hf hh here hp
    | beside hphase ht hp => exact h.beside hf hh hphase ht hp
  · have hno (t : FutureId) (f : LoopState (World Simulator) → LoopState (World Simulator) × Proc (World Simulator)) :
        l.focus ≠ some (t, .access f) := fun hf => haccess ⟨t, f, hf⟩
    have hquiet := h.tasked.step (Phase.lasting h.main) hno hs
    have hrests : phase.Rests := by
      by_contra hbusy
      obtain ⟨p, hp⟩ := h.busy hbusy
      obtain ⟨-, -, hcovers⟩ := h.tasked.running hp
      cases hcovers with
      | early => exact hbusy (.inl rfl)
      | own => exact hbusy (.inr rfl)
      | looking here | setting here | marking here => exact hno _ _ (hp.trans (congrArg (fun p => some (0, p)) here))
      | beside _ h0 => exact h0 rfl
    have hheard : heard = [] := by
      cases hh with
      | report hf hv =>
        obtain ⟨run, next, rfl⟩ := hv.notes
        exact absurd hf (hno _ _)
      | silent => rfl
    rw [hheard, List.append_nil]
    exact ⟨phase, hquiet.world ▸ h.registry, hquiet.tasked, hquiet.world.symm ▸ h.holds, fun hbusy => absurd hrests hbusy, h.main.trans_le hquiet.size⟩

theorem Follows.tells (h : Follows R n reg last [] .early l) (ht : Tells l told l') : ∃ phase', Follows R n reg last told phase' l' := by
  induction ht with
  | refl => exact ⟨_, h⟩
  | tail _ hs hh ih =>
    obtain ⟨phase', h'⟩ := ih
    exact h'.step hs hh

/-- When an execution is over, queries are answered with the latest of all reports. -/
theorem Follows.answers_of_focus_none (h : Follows R n reg last told phase l) (hf : l.focus = none) :
    Recalls R l.state.world.runs.size l.state.world (told.getLast?.or last) := by
  have hrests : phase.Rests := by
    by_contra hbusy
    obtain ⟨p, hp⟩ := h.busy hbusy
    cases hf.symm.trans hp
  cases h.holds with
  | early hsize hanswers => exact hsize ▸ hanswers
  | own hsize hshows =>
    cases hshows with
    | silent _ hanswers => exact hanswers.mono hsize.le
    | told hlatest hprogress hanswering =>
      rw [hlatest]
      exact ⟨n, hsize, hanswering, by rw [hprogress]; rfl⟩
  | _ => rcases hrests with hrests | hrests <;> cases hrests

end Follows

end Simulator

/-! ## Registrations without programs -/

/-- No name stands for the workflow that runs programs. -/
def Registry.Scripted (r : Registry) : Prop := ∀ kind, ∀ e ∈ (r.table kind).entries, e.function.key ≠ Sample.programFunction.key

theorem Registry.Scripted.register {r r' : Registry} (h : r.Scripted) {kind : RegistrationKind} {c : Callable} (hc : c.key ≠ Sample.programFunction.key)
    {o : RegisterOptions} (hr : r.register kind c o = .ok r') : r'.Scripted := by
  obtain ⟨name, -, rfl⟩ := register_eq_ok hr
  have hput : ∀ e ∈ ((r.table kind).put ⟨name, c⟩).entries, e.function.key ≠ Sample.programFunction.key := fun e he => by
    rw [RegistrationTable.entries_put] at he
    rcases mem_placed.mp he with rfl | ⟨he, -⟩
    · exact hc
    · exact h kind e he
  intro kind' e he
  unfold setTable at he
  split at he <;> cases kind'
  · exact hput e he
  · exact h .activity e he
  · exact h .workflow e he
  · exact hput e he

theorem Registry.Scripted.foldlM {registrations : List (RegistrationKind × Callable)} (hkeys : ∀ x ∈ registrations, x.2.key ≠ Sample.programFunction.key)
    {r r' : Registry} (h : r.Scripted) (hr : registrations.foldlM (fun r x => r.register x.1 x.2 { name := x.2.shortName }) r = .ok r') : r'.Scripted := by
  induction registrations generalizing r with
  | nil => exact Except.ok.inj hr ▸ h
  | cons x rest ih =>
    rw [List.foldlM_cons] at hr
    obtain ⟨r₁, hx, hrest⟩ := Script.Store.bind_ok_iff.mp hr
    exact ih (fun y hy => hkeys y (.tail _ hy)) (h.register (hkeys x (.head _)) hx) hrest

/-- The script workflow and what the plugins bring. -/
theorem ScriptService.scripted_register {plugins : PluginSet Simulator} (hp : Simulator.Heedful plugins) {r : Registry}
    (hr : ScriptService.register plugins {} = .ok r) : r.Scripted := by
  obtain ⟨r₁, hservice, hplugins⟩ := Script.Store.bind_ok_iff.mp hr
  have hempty : ({} : Registry).Scripted := fun kind e he => by cases kind <;> cases he
  refine (hempty.register (by decide) hservice).foldlM (fun x hx => ?_) hplugins
  obtain ⟨p, hmem, hx⟩ := List.mem_flatMap.mp hx
  rcases hp p hmem with rfl | hdiscreet
  · cases hx
  · exact hdiscreet.registrations x hx

namespace Harness

open Simulator

variable {h : Harness} {told : List (List Data)}

/-- The loop of an execution. -/
def opening (h : Harness) (sources : Sources) (request : ScriptRequest) (headers : List (Data × Data)) : Loop (World Simulator) :=
  Loop.ofProgram { h.world with log := [] } (h.runScript { request with sources := .object (sources.map fun s => (s.1, .str s.2)) } headers)

/-- The loop when the execution is over. -/
def closing (h : Harness) (sources : Sources) (request : ScriptRequest) (headers : List (Data × Data)) : Loop (World Simulator) :=
  (h.opening sources request headers).runUntil 0

/-- What has been done with a harness whose plugins leave progress alone, but for the plugin of that name; for every execution, what its script reported. -/
inductive Reported : Harness → List (List Data) → Prop where
  | creates {files : FileTree} {root : String} {plugins : List (Plugin Simulator)} {identity : Identity} {h : Harness}
      (hp : ∀ p ∈ plugins, p = Progress.plugin ∨ Discreet p) (hh : Harness.create files root plugins identity = .ok h) : Reported h []
  /-- the sources change between executions -/
  | edits {h : Harness} {told : List (List Data)} (hr : Reported h told) (files : FileTree) : Reported { h with files := files } told
  /-- the worker gets another function; a workflow that runs programs could set any handler -/
  | registers {h : Harness} {told : List (List Data)} (hr : Reported h told) {kind : RegistrationKind} {c : Callable} {o : RegisterOptions} {r : Registry}
      (hc : c.key ≠ Sample.programFunction.key) (registered : h.engine.registry.register kind c o = .ok r) :
      Reported { h with world := h.world.onEngine fun e => { e with registry := r } } told
  /-- a call is expected from now on -/
  | expects {h : Harness} {told : List (List Data)} (hr : Reported h told) (p : ExpectationPlan) : Reported (h.expect p).1 told
  /-- the sources cannot be read, and nothing is executed -/
  | fails {h : Harness} {told : List (List Data)} (hr : Reported h told) {e : Fault} (hs : Sources.load h.files h.root = .error e) (request : ScriptRequest)
      (headers : List (Data × Data)) : Reported (h.execute request headers).1 told
  /-- a function is executed to its end, and so much its script has reported -/
  | executes {h : Harness} {told : List (List Data)} (hr : Reported h told) {sources : Sources} (hs : Sources.load h.files h.root = .ok sources)
      {request : ScriptRequest} {headers : List (Data × Data)} {reports : List Data}
      (ht : Tells (h.opening sources request headers) reports (h.closing sources request headers))
      (ended : (h.closing sources request headers).focus = none) : Reported (h.execute request headers).1 (told ++ [reports])

/-- The harness, its engine and how it answers queries about progress. -/
structure Told (h : Harness) (told : List Data) : Prop where
  plugins : Heedful h.plugins
  registry : h.engine.registry.Scripted
  answers : Recalls h.identity.runId h.world.runs.size h.world told.getLast?

theorem begins_runScript (hp : Heedful h.plugins) {n : Nat} {reg : Registry} (hreg : reg.Scripted) (request : ScriptRequest) (headers : List (Data × Data)) :
    Begins h.identity.runId n reg (h.runScript request headers) :=
  .after (P := fun _ => True) (within_modifyGet fun st => Role.keeps_of_eq (st.kernel.neutral_newScope).size rfl rfl rfl) fun _ _ =>
    .runWorkflow hp (hreg .workflow) rfl rfl _ _ _

theorem follows_opening (hp : Heedful h.plugins) (hreg : h.engine.registry.Scripted) {last : Option Data}
    (hlast : Recalls h.identity.runId h.world.runs.size h.world last) (sources : Sources) (request : ScriptRequest) (headers : List (Data × Data)) :
    Follows h.identity.runId h.world.runs.size h.engine.registry last [] .early (h.opening sources request headers) where
  registry := rfl
  tasked := by
    refine (Tasked.empty _).start false (fun _ => ⟨.early ?_, fun _ => .inl rfl⟩) fun e => ⟨.early (.finish _ _), fun _ => .inl rfl⟩
    exact begins_runScript hp hreg _ _ _ fun role r => .finish role r
  holds := .early rfl hlast
  busy hbusy := absurd (.inl rfl) hbusy
  main := Nat.zero_lt_of_lt (size_start _ _ _)

theorem world_closing {sources : Sources} (hs : Sources.load h.files h.root = .ok sources) (request : ScriptRequest) (headers : List (Data × Data)) :
    (h.execute request headers).1.world = (h.closing sources request headers).state.world := by
  rw [world_execute hs, Loop.world_runMain]
  rfl

theorem exists_tells (h : Harness) (sources : Sources) (request : ScriptRequest) (headers : List (Data × Data)) :
    ∃ reports, Tells (h.opening sources request headers) reports (h.closing sources request headers) := by
  unfold closing Loop.runUntil
  exact Simulator.exists_tells (Loop.steps_runWhile _ _ _)

/-- **An execution** adds its reports. -/
theorem Told.executes {told : List Data} (h₀ : Told h told) {sources : Sources} (hs : Sources.load h.files h.root = .ok sources) {request : ScriptRequest}
    {headers : List (Data × Data)} {reports : List Data} (ht : Tells (h.opening sources request headers) reports (h.closing sources request headers))
    (ended : (h.closing sources request headers).focus = none) : Told (h.execute request headers).1 (told ++ reports) := by
  obtain ⟨phase, hfollows⟩ := (follows_opening h₀.plugins h₀.registry h₀.answers sources request headers).tells ht
  have hanswers := hfollows.answers_of_focus_none ended
  have hregistry : (h.execute request headers).1.engine.registry = h.engine.registry := by
    rw [engine, world_closing hs]
    exact hfollows.registry
  have hrest : (h.execute request headers).1.plugins = h.plugins ∧ (h.execute request headers).1.identity = h.identity := by
    rw [execute, hs]
    exact ⟨rfl, rfl⟩
  refine ⟨hrest.1 ▸ h₀.plugins, hregistry ▸ h₀.registry, ?_⟩
  rw [hrest.2, world_closing hs, List.getLast?_append]
  exact hanswers

theorem Reported.all_told (hr : Reported h told) : Told h told.flatten := by
  induction hr with
  | @creates files root plugins identity x hp hh =>
    obtain ⟨set, hset, hrest⟩ := Script.Store.bind_ok_iff.mp hh
    obtain ⟨registry, hregistry, hx⟩ := Script.Store.bind_ok_iff.mp hrest
    obtain rfl := Except.ok.inj hx
    have hplugins : set.plugins = plugins := by simpa [Function.comp_def] using (PluginSet.ofEntries_ok_iff.mp hset).2
    have hheedful : Heedful set := fun p hmem => hp p (hplugins ▸ hmem)
    exact ⟨hheedful, ScriptService.scripted_register hheedful hregistry, rfl⟩
  | edits _ files ih => exact ⟨ih.plugins, ih.registry, ih.answers⟩
  | registers _ hc registered ih => exact ⟨ih.plugins, ih.registry.register hc registered, ih.answers⟩
  | expects _ p ih => exact ⟨ih.plugins, ih.registry, ih.answers⟩
  | fails _ hs request headers ih =>
    rw [execute, hs]
    exact ih
  | executes _ hs ht ended ih =>
    rw [List.flatten_append, List.flatten_singleton]
    exact ih.executes hs ht ended

/-- The answer to a query about progress when so much has been reported. -/
def answerTo : Option Data → Except Fault Data
  | some v => .ok v
  | none => .error (.missingKey (.str "no query handler 'progress' registered"))

theorem Told.query {told : List Data} (h₀ : Told h told) : h.query Progress.queryName [] = answerTo told.getLast? := by
  have hanswers := h₀.answers
  unfold Harness.query
  cases hlast : told.getLast? with
  | none =>
    rw [hlast] at hanswers
    rw [show h.engine.queryHandlers.get? h.identity.runId Progress.queryName = none from hanswers]
    rfl
  | some v =>
    rw [hlast] at hanswers
    obtain ⟨run, -, hhandler, hvalue⟩ := hanswers
    rw [show h.engine.queryHandlers.get? h.identity.runId Progress.queryName = _ from hhandler]
    rw [World.lookup?_progress (.inl rfl)] at hvalue
    change Except.ok ((Data.lookup? ((h.world.runs[run]?).getD {}).storage Progress.valueKey).getD .null) = .ok v
    rw [hvalue]
    rfl

/-- **Queries answer with the latest report.** Whatever has been executed on a harness, with whatever scripts: a query about progress is answered with the
value that the script of an execution itself reported last, never with one that a child run reported, and fails if none has ever reported. After an execution
that reports, this is the last value that it reported; one that reports nothing leaves the answer as it was. Every execution that comes to an end has its reports. -/
theorem queries_answer_with_the_latest_report (hr : Reported h told) :
    h.query Progress.queryName [] = answerTo told.flatten.getLast? ∧
    ∀ sources request headers, Sources.load h.files h.root = .ok sources → (h.closing sources request headers).focus = none →
      (∃ reports, Tells (h.opening sources request headers) reports (h.closing sources request headers)) ∧
      ∀ reports, Tells (h.opening sources request headers) reports (h.closing sources request headers) →
        Reported (h.execute request headers).1 (told ++ [reports]) ∧
        (h.execute request headers).1.query Progress.queryName [] =
          match reports.getLast? with
          | some v => .ok v
          | none => h.query Progress.queryName [] := by
  refine ⟨hr.all_told.query, fun sources request headers hs ended => ⟨h.exists_tells sources request headers, fun reports ht => ?_⟩⟩
  have hr' := hr.executes hs ht ended
  refine ⟨hr', ?_⟩
  rw [hr'.all_told.query, hr.all_told.query, List.flatten_append, List.flatten_singleton, List.getLast?_append]
  cases reports.getLast? <;> rfl

/-! ## A script that reports and one that does not -/

/-- The bundled plugins but progress leave it alone. -/
theorem heedful_bundled : ∀ p ∈ (Catalogue.bundled : List (Plugin Simulator)), p = Progress.plugin ∨ Discreet p := by
  intro p hp
  simp only [Catalogue.bundled, List.mem_cons, List.not_mem_nil, or_false] at hp
  rcases hp with rfl | rfl | rfl | rfl
  · exact .inr ⟨fun _ hr => (List.not_mem_nil hr).elim, fun info _ hw _ => Cad.within_module hw info⟩
  · exact .inr ⟨fun _ hr => (List.not_mem_nil hr).elim, fun info _ _ _ => Hashes.within_module _ info _⟩
  · exact .inr ⟨fun _ hr => (List.not_mem_nil hr).elim, fun info _ _ _ => JsonText.within_module _ info _⟩
  · exact .inl rfl

def twoFunctions : FileTree := ⟨[("/app.lua", "function f() progress.report(1) end function g() end".toUTF8)], ["/"]⟩

/-- A harness for the two functions. -/
def created : Except Fault Harness := create twoFunctions "/" Catalogue.bundled defaultIdentity

/-- A call of one of them. -/
def callOf (function : String) : ScriptRequest := { path := .str "/app.lua", function := .str function }

/-- Is it this whole number? -/
def isWhole (n : Int) : Except Fault Data → Bool
  | .ok (.int m) => m == n
  | _ => false

theorem eq_of_isWhole {n : Int} {r : Except Fault Data} (hr : isWhole n r = true) : r = .ok (.int n) := by
  unfold isWhole at hr
  split at hr
  · rw [eq_of_beq hr]
  · cases hr

/-- Is it the error for a query that has no handler? -/
def isUnanswered : Except Fault Data → Bool
  | .error (.missingKey (.str text)) => text == "no query handler 'progress' registered"
  | _ => false

theorem eq_of_isUnanswered {r : Except Fault Data} (hr : isUnanswered r = true) : r = answerTo none := by
  unfold isUnanswered at hr
  split at hr
  · rw [eq_of_beq hr, answerTo]
  · cases hr

theorem exists_of_created {P : Harness → Bool} (hP : (created.map P).toOption = some true) : ∃ x, created = .ok x ∧ P x = true := by
  cases hx : created with
  | error e =>
    rw [hx] at hP
    cases hP
  | ok x =>
    rw [hx] at hP
    exact ⟨x, rfl, Option.some.inj hP⟩

/-- After a script that reports 1, the query is answered with it. -/
theorem queries_answer_with_the_latest_report_one : ∃ h reports, Reported h [reports] ∧ h.query Progress.queryName [] = .ok (.int 1) ∧
    reports.getLast? = some (.int 1) := by
  obtain ⟨x, hx, hP⟩ := exists_of_created (P := fun x => match Sources.load x.files x.root with
    | .ok sources => (x.closing sources (callOf "f") []).focus.isNone && isWhole 1 ((x.execute (callOf "f") []).1.query Progress.queryName [])
    | .error _ => false) (by decide +kernel)
  cases hs : Sources.load x.files x.root with
  | error e =>
    rw [hs] at hP
    cases hP
  | ok sources =>
    rw [hs] at hP
    obtain ⟨hended, hwhole⟩ := Bool.and_eq_true_iff.mp hP
    have hquery := eq_of_isWhole hwhole
    obtain ⟨⟨reports, ht⟩, hall⟩ :=
      (queries_answer_with_the_latest_report (.creates heedful_bundled hx)).2 sources (callOf "f") [] hs (Option.isNone_iff_eq_none.mp hended)
    obtain ⟨hr, -⟩ := hall reports ht
    have hanswer := (queries_answer_with_the_latest_report hr).1
    refine ⟨_, reports, hr, hquery, ?_⟩
    rw [hquery, List.nil_append, List.flatten_singleton] at hanswer
    cases hlast : reports.getLast? with
    | none =>
      rw [hlast] at hanswer
      cases hanswer
    | some v =>
      rw [hlast] at hanswer
      cases hanswer
      rfl

/-- **A script that reports nothing is answered for by an earlier one**: alone, the second function leaves no handler; after the first one, the query is
answered with the value that the first one reported. -/
theorem silent_script_shows_earlier_report : ∃ x, created = .ok x ∧
    (x.execute (callOf "g") []).1.query Progress.queryName [] = answerTo none ∧
    ((x.execute (callOf "f") []).1.execute (callOf "g") []).1.query Progress.queryName [] = .ok (.int 1) := by
  obtain ⟨x, hx, hP⟩ := exists_of_created (P := fun x => isUnanswered ((x.execute (callOf "g") []).1.query Progress.queryName []) &&
    isWhole 1 (((x.execute (callOf "f") []).1.execute (callOf "g") []).1.query Progress.queryName [])) (by decide +kernel)
  obtain ⟨hunanswered, hwhole⟩ := Bool.and_eq_true_iff.mp hP
  exact ⟨x, hx, eq_of_isUnanswered hunanswered, eq_of_isWhole hwhole⟩

end Harness

end ScriptFlow
