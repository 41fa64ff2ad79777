import Mathlib
import ScriptFlow.Proofs.Simulation.Signals

/-!
# Progress beside scripts

A report keeps its value in its run. The first one of a run also sets the handler that answers queries of the run id with what the run keeps.

* `Simulator.Leaves` — two states between which handlers for queries about progress stay, and what runs keep for it.
* `Simulator.Lets` — a kind of programs that may do all that reports do not notice; `Simulator.Discreet` — a plugin that stays within such kinds.
* `Simulator.Mindful` — a program that begins a run, is the run, or stays beside it: the run tells what it has to tell by reports of its own, and what it
  starts has other runs and longer run ids.
* `Simulator.Begins.runWorkflow` — **the script workflow begins a run**, whatever its script does.
-/

namespace ScriptFlow

open Loop

variable {ε α : Type}

/-! ## What progress keeps -/

namespace Progress

/-- Is it an entry of progress? -/
def isOwn (e : Data × Data) : Bool := e.1.same valueKey || e.1.same handlerKey

variable {key : Data} {es : List (Data × Data)}

theorem isOwn_of_same (hkey : key = valueKey ∨ key = handlerKey) {e : Data × Data} (h : e.1.same key = true) : isOwn e = true := by
  rcases hkey with rfl | rfl <;> simp [isOwn, h]

theorem lookup?_filter (hkey : key = valueKey ∨ key = handlerKey) (es : List (Data × Data)) :
    Data.lookup? (es.filter isOwn) key = Data.lookup? es key := by
  unfold Data.lookup?
  rw [List.find?_filter]
  refine congrArg (fun p => (es.find? p).map Prod.snd) (funext fun e => ?_)
  cases h : e.1.same key with
  | false => simp
  | true => simp [isOwn_of_same hkey h]

theorem filter_insertKey (hkey : key = valueKey ∨ key = handlerKey) (es : List (Data × Data)) (v : Data) :
    (Data.insertKey es key v).filter isOwn = Data.insertKey (es.filter isOwn) key v := by
  induction es with
  | nil =>
    have hown : isOwn (key, v) = true := isOwn_of_same hkey (by rcases hkey with rfl | rfl <;> rfl)
    simp [Data.insertKey, hown]
  | cons e es ih =>
    rw [Data.insertKey]
    cases h : e.1.same key with
    | true =>
      have hown : isOwn e = true := isOwn_of_same hkey h
      rw [if_pos rfl, List.filter_cons_of_pos (show isOwn (e.1, v) = true from hown), List.filter_cons_of_pos hown, Data.insertKey, if_pos h]
    | false =>
      rw [if_neg (by simp), List.filter_cons, List.filter_cons, ih]
      split
      · rw [Data.insertKey, h, if_neg (by simp)]
      · rfl

end Progress

namespace World

open Progress

/-- What a run keeps for progress. -/
def progress (w : World ε) (run : Nat) : List (Data × Data) := ((w.runs[run]?).getD {}).storage.filter isOwn

/-- A run keeps a value under a key. -/
def note (w : World ε) (run : Nat) (key value : Data) : World ε :=
  { w with runs := w.runs.modify run fun r => { r with storage := Data.insertKey r.storage key value } }

variable {w : World ε} {key : Data}

theorem lookup?_progress (hkey : key = valueKey ∨ key = handlerKey) (w : World ε) (run : Nat) :
    Data.lookup? (w.progress run) key = Data.lookup? ((w.runs[run]?).getD {}).storage key := lookup?_filter hkey _

theorem progress_note (hkey : key = valueKey ∨ key = handlerKey) (w : World ε) (k : Nat) (v : Data) (run : Nat) :
    (w.note k key v).progress run = if run = k ∧ k < w.runs.size then Data.insertKey (w.progress run) key v else w.progress run := by
  unfold progress note
  rw [Array.getElem?_modify]
  by_cases hrun : k = run
  · subst hrun
    by_cases hlt : k < w.runs.size
    · simp [hlt, filter_insertKey hkey]
    · simp [hlt]
  · rw [if_neg hrun, if_neg fun h => hrun h.1.symm]

/-- A new run keeps nothing. -/
theorem progress_push (w : World ε) (run : Nat) : ({ w with runs := w.runs.push {} } : World ε).progress run = w.progress run := by
  unfold progress
  simp only [Array.getElem?_push]
  split
  · rename_i hrun
    simp [hrun]
  · rfl

end World

namespace Simulator

/-! ## Programs that leave reports alone -/

/-- Between two states the handlers of some run ids for queries about progress stay, and so does what some runs keep for progress. No future and no run is forgotten. -/
structure Leaves (ids : String → Prop) (runs : Nat → Prop) (st st' : LoopState (World Simulator)) : Prop where
  futures : st.kernel.futures.size ≤ st'.kernel.futures.size
  registry : st'.world.engine.registry = st.world.engine.registry
  size : st.world.runs.size ≤ st'.world.runs.size
  handlers {id : String} (h : ids id) :
    st'.world.engine.queryHandlers.get? id Progress.queryName = st.world.engine.queryHandlers.get? id Progress.queryName
  progress {run : Nat} (h : runs run) : st'.world.progress run = st.world.progress run

/-- All handlers for queries about progress stay, and so does what runs keep for it. -/
abbrev Calm : LoopState (World Simulator) → LoopState (World Simulator) → Prop := Leaves (fun _ => True) fun _ => True

variable {st st' : LoopState (World Simulator)}

theorem Leaves.mono {ids ids' : String → Prop} {runs runs' : Nat → Prop} (h : Leaves ids runs st st') (hids : ∀ id, ids' id → ids id)
    (hruns : ∀ run, runs' run → runs run) : Leaves ids' runs' st st' :=
  ⟨h.futures, h.registry, h.size, fun hid => h.handlers (hids _ hid), fun hrun => h.progress (hruns _ hrun)⟩

/-- An access to the kernel, to the log or to other parts of the engine. -/
theorem Calm.of_eq (hfutures : st.kernel.futures.size ≤ st'.kernel.futures.size) (hregistry : st'.world.engine.registry = st.world.engine.registry)
    (hhandlers : st'.world.engine.queryHandlers = st.world.engine.queryHandlers) (hruns : st'.world.runs = st.world.runs) : Calm st st' :=
  ⟨hfutures, hregistry, hruns ▸ le_rfl, fun _ => hhandlers ▸ rfl, fun {run} _ => by rw [World.progress, hruns, World.progress]⟩

/-- A kind of programs that may do all that reports do not notice, and may wait. -/
structure Lets (K : Proc (World Simulator) → Prop) : Prop where
  access {f : LoopState (World Simulator) → LoopState (World Simulator) × Proc (World Simulator)} (here : ∀ st, Calm st (f st).1)
    (next : ∀ st, K (f st).2) : K (.access f)
  await {f : FutureId} {next : Except Fault Data → Proc (World Simulator)} (goesOn : ∀ r, K (next r)) : K (.await f next)
  turn {next : Except Fault Data → Proc (World Simulator)} (goesOn : ∀ r, K (next r)) : K (.turn next)

/-- A plugin that brings no programs, does not touch what progress keeps, and sets no handler for queries about progress. -/
structure Discreet (p : Plugin Simulator) : Prop where
  registrations : ∀ r ∈ p.registrations, r.2.key ≠ Sample.programFunction.key
  create {K : Proc (World Simulator) → Prop} {w : Primitives Simulator} {thread : Thread} (info : RunInfo) (hK : Lets K)
    (hw : w.Within K thread.context.identity)
    (hset : ∀ ctx name x, ctx.identity = thread.context.identity → name ≠ Progress.queryName → Flow.Within K (w.setQueryHandler ctx name x)) :
    (p.create w info).Within K thread

namespace Lets

variable {K : Proc (World Simulator) → Prop}

theorem modifyGet (hK : Lets K) {P : α → Prop} {f : LoopState (World Simulator) → α × LoopState (World Simulator)} (h : ∀ st, Calm st (f st).2)
    (hP : ∀ st, P (f st).1) : Flow.Within K (Flow.modifyGet f) P :=
  fun _ hcont => hK.access h fun st => hcont _ fun _ ha => Except.ok.inj ha ▸ hP st

theorem ofKernel (hK : Lets K) {f : Kernel → Kernel × α} (h : ∀ k, k.futures.size ≤ (f k).1.futures.size) :
    Flow.Within K (Flow.ofKernel f : Play α) := hK.modifyGet (fun st => .of_eq (h st.kernel) rfl rfl rfl) fun _ => trivial

theorem modifyKernel (hK : Lets K) {f : Kernel → Kernel} (h : ∀ k, k.futures.size ≤ (f k).futures.size) :
    Flow.Within K (Flow.modifyKernel f : Play Unit) := hK.modifyGet (fun st => .of_eq (h st.kernel) rfl rfl rfl) fun _ => trivial

theorem kernel (hK : Lets K) : Flow.Within K (Flow.kernel : Play Kernel) := hK.modifyGet (fun _ => .of_eq le_rfl rfl rfl rfl) fun _ => trivial

theorem world (hK : Lets K) : Flow.Within K (Flow.world : Play (World Simulator)) :=
  hK.modifyGet (fun _ => .of_eq le_rfl rfl rfl rfl) fun _ => trivial

theorem modifyWorld (hK : Lets K) {f : World Simulator → World Simulator} (hengine : ∀ w, (f w).engine = w.engine) (hruns : ∀ w, (f w).runs = w.runs) :
    Flow.Within K (Flow.modifyWorld f : Play Unit) :=
  hK.modifyGet (fun _ => .of_eq le_rfl (congrArg _ (hengine _)) (congrArg _ (hengine _)) (hruns _)) fun _ => trivial

theorem ofEngine (hK : Lets K) {P : α → Prop} {f : Simulator → Simulator × α} (hregistry : ∀ s, (f s).1.registry = s.registry)
    (hhandlers : ∀ s, (f s).1.queryHandlers = s.queryHandlers) (hP : ∀ s, P (f s).2) : Flow.Within K (Play.ofEngine f : Play α) P :=
  fun _ hcont => hK.access (fun _ => .of_eq le_rfl (hregistry _) (hhandlers _) rfl) fun _ => hcont _ fun _ ha => Except.ok.inj ha ▸ hP _

theorem modifyEngine (hK : Lets K) {f : Simulator → Simulator} (hregistry : ∀ s, (f s).registry = s.registry)
    (hhandlers : ∀ s, (f s).queryHandlers = s.queryHandlers) : Flow.Within K (Play.modifyEngine f : Play Unit) :=
  fun _ hcont => hK.access (fun _ => .of_eq le_rfl (hregistry _) (hhandlers _) rfl) fun _ => hcont _ fun _ _ => trivial

theorem engine (hK : Lets K) : Flow.Within K (Play.engine : Play Simulator) := .bind hK.world fun _ _ => .pure trivial

theorem log (hK : Lets K) (level : LogLevel) (text : String) : Flow.Within K (Play.log level text : Play Unit) :=
  hK.modifyWorld (fun _ => rfl) fun _ => rfl

theorem check (hK : Lets K) (ctx : Context) : Flow.Within K (ctx.check : Play Unit) := .bind hK.kernel fun _ _ => .result _

theorem decided (hK : Lets K) (o : Outcome) (translates : Bool) : Flow.Within K (Promise.decided o translates : Play Promise) :=
  .bind (hK.ofKernel fun k => (k.neutral_newFuture rfl).size) fun _ _ => .pure trivial

theorem turnOnce (hK : Lets K) : Flow.Within K (Flow.turn : Play Unit) := fun _ hcont => hK.turn fun
  | .ok _ => hcont _ fun _ _ => trivial
  | .error _ => hcont _ fun _ _ => trivial

theorem awaitUnder (hK : Lets K) (s : ScopeId) (f : FutureId) : Flow.Within K (Flow.awaitUnder s f : Play Data) := by
  refine .bind hK.kernel fun _ _ => .bind (.result _) fun _ _ => .bind (hK.ofKernel fun k => (k.neutral_shield f).size) fun waiter _ => ?_
  refine .bind (hK.modifyKernel fun k => k.size_onCancel_le s waiter) fun _ _ => ?_
  refine .bind (.attempt fun _ hcont => hK.await fun r => hcont r fun _ _ => trivial) fun _ _ => .bind hK.kernel fun _ _ => ?_
  exact .bind (hK.modifyKernel fun k => (k.calm_offCancel s waiter).size) fun _ _ => .result _

theorem own {ctx : Context} {i : Identity} (hi : ctx.identity = some i) : Flow.Within K (own ctx) (· = i) := by
  unfold Simulator.own
  rw [hi]
  exact .pure rfl

theorem nameOf (hK : Lets K) (kind : RegistrationKind) (target : Target) : Flow.Within K (nameOf kind target) := by
  unfold Simulator.nameOf
  split
  · exact .pure trivial
  · split
    · exact .pure trivial
    · refine .bind hK.engine fun _ _ => ?_
      split
      · exact .pure trivial
      · exact .fail _

theorem fulfil (hK : Lets K) (x : Duty) : Flow.Within K x.fulfil := fun cont hcont => by
  rw [x.fulfil_eq]
  refine hK.access (fun st => ?_) fun _ => hcont _ fun _ _ => trivial
  cases x with
  | hand run name h d => cases h; exact .of_eq le_rfl rfl rfl rfl
  | keep run name d => exact .of_eq le_rfl rfl rfl rfl

theorem deliverSignal (hK : Lets K) (run name : String) (d : Data) : Flow.Within K (deliverSignal run name d) := fun cont hcont => by
  rw [deliverSignal_eq]
  exact hK.access (fun _ => .of_eq le_rfl rfl rfl rfl) fun st => hK.fulfil _ _ hcont

theorem setSignalHandler (hK : Lets K) {ctx : Context} {i : Identity} (hi : ctx.identity = some i) (name : String) (h : SignalHandler) :
    Flow.Within K (setSignalHandler ctx name h) := fun cont hcont => by
  rw [setSignalHandler_eq hi]
  refine hK.access (fun _ => .of_eq le_rfl rfl rfl rfl) fun st => ?_
  dsimp only
  induction st.world.engine.waiting i.runId name with
  | nil => exact hcont _ fun _ _ => trivial
  | cons d ds ih => exact hK.fulfil (.hand i.runId name h d) (fun _ => _) fun _ _ => ih

theorem signalChild (hK : Lets K) (ctx : Context) (p : Promise) (name : String) (d : Data) : Flow.Within K (signalChild ctx p name d) := by
  unfold Simulator.signalChild
  split
  · split
    · exact hK.decided _ _
    · exact .bind (hK.deliverSignal _ _ _) fun _ _ => hK.decided _ _
  · exact .fail _

theorem childExecution (hK : Lets K) (p : Promise) : Flow.Within K (childExecution p) := by
  unfold Simulator.childExecution
  split
  · exact hK.decided _ _
  · exact .fail _

theorem sleep (hK : Lets K) (ctx : Context) (duration : Data) : Flow.Within K (sleep ctx duration) :=
  .bind (.result _) fun _ _ => .bind (hK.check ctx) fun _ _ => .bind hK.engine fun _ _ => .bind (.result _) fun _ _ =>
    .bind hK.turnOnce fun _ _ => .bind (hK.check ctx) fun _ _ => hK.modifyEngine (fun _ => rfl) fun _ => rfl

end Lets

theorem registry_expect (s : Simulator) (kind : CallKind) (name : String) (args : List Data) :
    (s.expect kind name args).1.registry = s.registry ∧ (s.expect kind name args).1.queryHandlers = s.queryHandlers := by
  unfold expect
  split
  · exact ⟨rfl, rfl⟩
  · split <;> exact ⟨rfl, rfl⟩

/-! ## Reports -/

section Reports

variable (R : String) (n : Nat)

/-- The end of a report: the run keeps that there is a handler. -/
def marking (cont : Except Fault (Reply Simulator) → Proc (World Simulator)) : Proc (World Simulator) := .access fun st =>
  ({ st with world := st.world.note n Progress.handlerKey (.bool true) }, cont (.ok (.now .null)))

/-- Queries about progress of a run id are answered with what the run keeps. -/
def answering (s : Simulator) : Simulator := { s with queryHandlers := s.queryHandlers.set R Progress.queryName (.stored n Progress.valueKey) }

/-- A report that is about to set the handler. -/
def setting (cont : Except Fault (Reply Simulator) → Proc (World Simulator)) : Proc (World Simulator) := .access fun st =>
  ({ st with world := st.world.onEngine (answering R n) }, marking n cont)

/-- A report that is about to look whether there is a handler. -/
def looking (cont : Except Fault (Reply Simulator) → Proc (World Simulator)) : Proc (World Simulator) := .access fun st =>
  (st, if ((Data.lookup? ((st.world.runs[n]?).getD {}).storage Progress.handlerKey).getD .null).truthy then cont (.ok (.now .null))
    else setting R n cont)

/-- A report from its beginning: the run keeps the value. -/
def storing (v : Data) (cont : Except Fault (Reply Simulator) → Proc (World Simulator)) : Proc (World Simulator) := .access fun st =>
  ({ st with world := st.world.note n Progress.valueKey v }, looking R n cont)

end Reports

/-- A call of the function `report` with a value. -/
def IsReport (v : Data) (p : Proc (World Simulator)) : Prop :=
  ∃ (w : Primitives Simulator) (thread : Thread) (args : List Data) (options : List (String × Data)) (cont : Except Fault (Reply Simulator) → Proc (World Simulator)),
    bindArguments [("value", none)] args options = .ok [v] ∧ p = Progress.report w thread args options cont

theorem report_eq {lib : Library Simulator} {thread : Thread} {i : Identity} (hi : thread.context.identity = some i) {args : List Data}
    {options : List (String × Data)} {v : Data} (hv : bindArguments [("value", none)] args options = .ok [v])
    (cont : Except Fault (Reply Simulator) → Proc (World Simulator)) :
    Progress.report (primitives lib) thread args options cont = storing i.runId thread.run v cont := by
  change (Flow.ofExcept (bindArguments [("value", none)] args options) >>= _) cont = _
  rw [hv]
  refine congrArg Proc.access (funext fun st => congrArg (Prod.mk _) (congrArg Proc.access (funext fun st => congrArg (Prod.mk _) ?_)))
  change (if ((Data.lookup? ((st.world.runs[thread.run]?).getD {}).storage Progress.handlerKey).getD .null).truthy = true then _ else _ : Play _) cont = _
  split
  · rfl
  · change (setQueryHandler thread.context Progress.queryName (.stored thread.run Progress.valueKey) >>= _) cont = _
    unfold setQueryHandler own
    rw [hi]
    rfl

/-- The first access of a report makes its run keep the value. -/
theorem IsReport.notes {v : Data} {p : Proc (World Simulator)} (h : IsReport v p) :
    ∃ run next, p = .access fun st => ({ st with world := st.world.note run Progress.valueKey v }, next) := by
  obtain ⟨w, thread, args, options, cont, hv, rfl⟩ := h
  change ∃ run next, (Flow.ofExcept (bindArguments [("value", none)] args options) >>= _) cont = _
  rw [hv]
  exact ⟨thread.run, _, rfl⟩

/-- A state in which many runs keep nothing. -/
def blankState (n : Nat) : LoopState (World Simulator) := { world := { engine := {}, runs := Array.replicate n {} } }

theorem progress_blankState (n run : Nat) : (blankState n).world.progress run = [] := by
  unfold World.progress blankState
  rw [Array.getElem?_replicate]
  split <;> rfl

theorem progress_note_blankState {key : Data} (hkey : key = Progress.valueKey ∨ key = Progress.handlerKey) (m k : Nat) (v : Data) (run : Nat) :
    ((blankState m).world.note k key v).progress run = if run = k ∧ k < m then [(key, v)] else [] := by
  rw [World.progress_note hkey, progress_blankState, show (blankState m).world.runs.size = m from Array.size_replicate]
  rfl

/-- An access after which no run has a new value is no report. -/
theorem IsReport.not_of_silent {v : Data} {f : LoopState (World Simulator) → LoopState (World Simulator) × Proc (World Simulator)}
    (h : ∀ m run v, (Progress.valueKey, v) ∉ (f (blankState m)).1.world.progress run) : ¬ IsReport v (.access f) := fun hv => by
  obtain ⟨run, next, hp⟩ := hv.notes
  have hf := Proc.access.inj hp
  refine h (run + 1) run v ?_
  rw [hf, progress_note_blankState (.inl rfl), if_pos ⟨rfl, run.lt_succ_self⟩]
  exact List.mem_singleton_self _

theorem IsReport.not_of_calm {v : Data} {f : LoopState (World Simulator) → LoopState (World Simulator) × Proc (World Simulator)}
    (h : ∀ st, Calm st (f st).1) : ¬ IsReport v (.access f) := IsReport.not_of_silent fun m run v hmem => by
  rw [(h _).progress trivial, progress_blankState] at hmem
  exact List.not_mem_nil hmem

/-- A report that stores a value is one of that value. -/
theorem IsReport.eq_of_storing {R : String} {n : Nat} {v v' : Data} {cont : Except Fault (Reply Simulator) → Proc (World Simulator)}
    (h : IsReport v (storing R n v' cont)) : v = v' := by
  obtain ⟨run, next, hp⟩ := h.notes
  have hworld := congrArg (fun x : LoopState (World Simulator) × Proc (World Simulator) => x.1.world.progress run)
    (congrFun (Proc.access.inj hp) (blankState (run + 1)))
  have hnoted := progress_note_blankState (.inl rfl) (run + 1) run v run
  rw [if_pos ⟨rfl, run.lt_succ_self⟩] at hnoted
  dsimp only at hworld
  rw [hnoted, progress_note_blankState (.inl rfl)] at hworld
  split at hworld
  · exact (Prod.mk.inj (List.cons.inj hworld).1).2.symm
  · cases hworld

/-! ## Runs of scripts and what goes on beside them -/

/-- How a program stands to a run of scripts: it is about to begin the run, it is the run, or it is beside it. -/
inductive Role where
  | early
  | own
  | foreign
  deriving DecidableEq

/-- What a program may rely on: what is registered, and how many runs there are. -/
def Role.Assumes (reg : Registry) (n : Nat) : Role → World Simulator → Prop
  | .early, w => w.engine.registry = reg ∧ w.runs.size = n
  | _, w => w.engine.registry = reg ∧ n < w.runs.size

/-- What a program leaves as it is. Beside a run of a run id this is the answer to queries of that id, be it an earlier one. -/
def Role.Keeps (R : String) (n : Nat) : Role → LoopState (World Simulator) → LoopState (World Simulator) → Prop
  | .early, st, st' => Calm st st' ∧ st'.world.runs.size = st.world.runs.size
  | .own, st, st' => Calm st st'
  | .foreign, st, st' => Leaves (· = R) (· ≤ n) st st'

/-- A program that tells what it has to tell by reports: it begins a run, whose reports are its own; what it starts has other run ids and other runs. -/
inductive Mindful (R : String) (n : Nat) (reg : Registry) : Role → Proc (World Simulator) → Prop where
  | finish (role : Role) (r : Except Fault Data) : Mindful R n reg role (.finish r)
  | access {role : Role} {f : LoopState (World Simulator) → LoopState (World Simulator) × Proc (World Simulator)}
      (here : ∀ st, role.Keeps R n st (f st).1) (next : ∀ st, role.Assumes reg n st.world → Mindful R n reg role (f st).2) :
      Mindful R n reg role (.access f)
  | begins {f : LoopState (World Simulator) → LoopState (World Simulator) × Proc (World Simulator)}
      (here : ∀ st, (f st).1 = { st with world := { st.world with runs := st.world.runs.push {} } })
      (next : ∀ st, Role.early.Assumes reg n st.world → Mindful R n reg .own (f st).2) : Mindful R n reg .early (.access f)
  | report {p : Proc (World Simulator)} {v : Data} {cont : Except Fault (Reply Simulator) → Proc (World Simulator)} (reports : IsReport v p)
      (here : p = storing R n v cont) (goesOn : Mindful R n reg .own (cont (.ok (.now .null)))) : Mindful R n reg .own p
  | spawn {role : Role} {watched : Bool} {body next : FutureId → Proc (World Simulator)} (hrole : role ≠ .early)
      (started : ∀ t, Mindful R n reg .foreign (body t)) (goesOn : ∀ t, Mindful R n reg role (next t)) : Mindful R n reg role (.spawn watched body next)
  | await {role : Role} {f : FutureId} {next : Except Fault Data → Proc (World Simulator)} (hrole : role ≠ .early)
      (goesOn : ∀ r, Mindful R n reg role (next r)) : Mindful R n reg role (.await f next)
  | turn {role : Role} {next : Except Fault Data → Proc (World Simulator)} (hrole : role ≠ .early)
      (goesOn : ∀ r, Mindful R n reg role (next r)) : Mindful R n reg role (.turn next)

section Mindful

variable {R : String} {n : Nat} {reg : Registry} {role : Role}

theorem lets_own : Lets (Mindful R n reg .own) :=
  ⟨fun here next => .access here fun st _ => next st, fun goesOn => .await (by decide) goesOn, fun goesOn => .turn (by decide) goesOn⟩

theorem lets_foreign : Lets (Mindful R n reg .foreign) :=
  ⟨fun here next => .access (fun st => (here st).mono (fun _ _ => trivial) fun _ _ => trivial) fun st _ => next st,
    fun goesOn => .await (by decide) goesOn, fun goesOn => .turn (by decide) goesOn⟩

theorem within_modifyGet {f : LoopState (World Simulator) → α × LoopState (World Simulator)} (h : ∀ st, role.Keeps R n st (f st).2) :
    Flow.Within (Mindful R n reg role) (Flow.modifyGet f) := fun _ hcont => .access h fun _ _ => hcont _ fun _ _ => trivial

/-- An access that all may make. -/
theorem Role.keeps_of_eq (hfutures : st.kernel.futures.size ≤ st'.kernel.futures.size) (hregistry : st'.world.engine.registry = st.world.engine.registry)
    (hhandlers : st'.world.engine.queryHandlers = st.world.engine.queryHandlers) (hruns : st'.world.runs = st.world.runs) : role.Keeps R n st st' := by
  have hcalm : Calm st st' := .of_eq hfutures hregistry hhandlers hruns
  cases role with
  | early => exact ⟨hcalm, by rw [hruns]⟩
  | own => exact hcalm
  | foreign => exact hcalm.mono (fun _ _ => trivial) fun _ _ => trivial

/-- The engine knows what is registered. -/
theorem within_look {f : Simulator → Play α} {P : α → Prop} (hf : ∀ e, e.registry = reg → Flow.Within (Mindful R n reg role) (f e) P) :
    Flow.Within (Mindful R n reg role) (Play.engine >>= f) P := fun cont hcont => by
  refine .access (fun _ => Role.keeps_of_eq le_rfl rfl rfl rfl) fun st hst => hf st.world.engine ?_ cont hcont
  cases role <;> exact hst.1

theorem within_isCancelled (ctx : Context) : Flow.Within (Mindful R n reg role) (ctx.isCancelled : Play Bool) :=
  .bind (within_modifyGet fun _ => Role.keeps_of_eq le_rfl rfl rfl rfl) fun _ _ => .pure trivial

theorem within_expect (kind : CallKind) (name : String) (args : List Data) :
    Flow.Within (Mindful R n reg role) (Play.ofEngine (·.expect kind name args)) :=
  fun _ hcont => .access (fun _ => Role.keeps_of_eq le_rfl (registry_expect ..).1 (registry_expect ..).2 rfl) fun _ _ => hcont _ fun _ _ => trivial

/-! ### What is registered -/

/-- The registered functions stay beside a run if the run ids of their contexts are longer. -/
structure Library.Aside (R : String) (n : Nat) (reg : Registry) (lib : Library Simulator) : Prop where
  activity (c : Callable) (args : List Data) : Flow.Within (Mindful R n reg .foreign) (callActivity lib c args)
  workflow {c : Callable} (hc : c.key ≠ Sample.programFunction.key) {ctx : Context} {i : Identity} (hi : ctx.identity = some i)
    (hlong : R.length < i.runId.length) (args : List Data) : Flow.Within (Mindful R n reg .foreign) (lib.workflow c ctx args)

theorem mem_of_get? {t : RegistrationTable} {name : String} {r : Registration} (h : t.get? name = some r) : r ∈ t.entries :=
  List.mem_of_find?_eq_some h

theorem within_perform (kind : CallKind) (name : String) (args : List Data) {registered : Registration → List Data → Play Data}
    (h : ∀ r args, (kind = .workflow → r ∈ reg.workflows.entries) → Flow.Within (Mindful R n reg role) (registered r args)) :
    Flow.Within (Mindful R n reg role) (perform kind name args registered) := by
  rw [perform_eq]
  refine .bind (.result _) fun args _ => .bind (within_expect kind name args) fun r _ => .bind (.result _) fun expected _ => ?_
  split
  · exact .result _
  · refine within_look fun e he => ?_
    dsimp only
    split
    · exact .fail _
    · rename_i r hr
      refine .bind (h r args fun hkind => ?_) fun _ _ => .result _
      subst hkind he
      exact mem_of_get? hr

theorem Lets.spawnUnder {K : Proc (World Simulator) → Prop} (hK : Lets K)
    (hspawn : ∀ {watched body next}, (∀ t, Mindful R n reg .foreign (body t)) → (∀ t, K (next t)) → K (.spawn watched body next)) (s : ScopeId)
    {body : Play Data} (h : Flow.Within (Mindful R n reg .foreign) body) : Flow.Within K (Flow.spawnUnder s body) :=
  .bind (P := fun _ => True) (fun _ hcont => hspawn (fun _ => h _ fun r _ => .finish _ r) fun _ => hcont _ fun _ _ => trivial) fun t _ =>
    .bind (hK.modifyKernel fun k => k.size_link_le s t) fun _ _ => .pure trivial

theorem length_nextChild (s : Simulator) (i : Identity) : i.runId.length < (s.nextChild i).2.2.length := by
  have hsuffix : "-child-".length = 7 := rfl
  simp only [nextChild, String.length_append, hsuffix]
  omega

/-- **The primitives of the engine stay within** what lets them start tasks that stay beside. -/
theorem within_primitives {K : Proc (World Simulator) → Prop} (hK : Lets K)
    (hspawn : ∀ {watched body next}, (∀ t, Mindful R n reg .foreign (body t)) → (∀ t, K (next t)) → K (.spawn watched body next))
    {lib : Library Simulator} (hlib : Library.Aside R n reg lib) (hreg : ∀ r ∈ reg.workflows.entries, r.function.key ≠ Sample.programFunction.key)
    {i : Identity} (hi : R.length ≤ i.runId.length) : (primitives lib).Within K (some i) where
  log h level text := .bind (.discard (Lets.own h)) fun _ _ => hK.log level text
  identity h := (Lets.own h).mono fun _ _ => trivial
  startActivity h target args := by
    refine .bind (.discard (Lets.own h)) fun _ _ => .bind (hK.nameOf .activity target) fun name _ => ?_
    refine .bind (hK.modifyEngine (fun _ => rfl) fun _ => rfl) fun _ _ => ?_
    exact .bind (hK.spawnUnder hspawn _ (within_perform .activity name args fun r args _ => hlib.activity r.function args)) fun _ _ => .pure trivial
  startChild h target args := by
    refine .bind (Lets.own h) fun parent hparent => .bind (hK.nameOf .workflow target) fun name _ => ?_
    subst hparent
    refine .bind (hK.ofEngine (P := fun ids => R.length < ids.2.length) (fun _ => rfl) (fun _ => rfl) fun s => hi.trans_lt (length_nextChild s _))
      fun ids hids => ?_
    refine .bind (hK.ofKernel fun k => (k.neutral_childScope _).size) fun scope _ => .bind (hK.modifyEngine (fun _ => rfl) fun _ => rfl) fun _ _ => ?_
    refine .bind (hK.spawnUnder hspawn _ (within_perform .workflow name args fun r args hr => ?_)) fun _ _ => .pure trivial
    exact hlib.workflow (hreg r (hr rfl)) rfl hids args
  get _ p _ := .bind (hK.awaitUnder _ p.source) fun _ _ => .result _
  childExecution := hK.childExecution
  signalChild {ctx} _ := hK.signalChild ctx
  setSignalHandler := hK.setSignalHandler
  sideEffect _ _ := .result _
  now _ := .bind hK.engine fun _ _ => .pure trivial
  sleep _ := hK.sleep _

/-- A handler for other queries. -/
theorem Lets.setQueryHandler {K : Proc (World Simulator) → Prop} (hK : Lets K) {ctx : Context} {i : Identity} (hi : ctx.identity = some i) {name : String}
    (hname : name ≠ Progress.queryName) (x : QueryHandler) : Flow.Within K (setQueryHandler ctx name x) := by
  refine .bind (Lets.own hi) fun _ _ => fun _ hcont => hK.access (fun st => ?_) fun _ => hcont _ fun _ _ => trivial
  refine ⟨le_rfl, rfl, le_rfl, fun {id} _ => ?_, fun _ => rfl⟩
  exact (ByRun.get?_set ..).trans (if_neg fun h => hname h.2.symm)

/-! ### Modules -/

theorem Lets.stored {K : Proc (World Simulator) → Prop} (hK : Lets K) (run : Nat) (key : Data) : Flow.Within K (Progress.stored run key : Play Data) :=
  .bind (P := fun _ => True) (.bind hK.world fun _ _ => .pure trivial) fun _ _ => .pure trivial

theorem within_beside {f : World Simulator → World Simulator} (h : ∀ st, Leaves (· = R) (· ≤ n) st { st with world := f st.world }) :
    Flow.Within (Mindful R n reg .foreign) (Flow.modifyWorld f : Play Unit) := fun _ hcont => .access h fun _ _ => hcont _ fun _ _ => trivial

/-- What another run keeps for progress. -/
theorem within_store {run : Nat} (hrun : n < run) {key : Data} (hkey : key = Progress.valueKey ∨ key = Progress.handlerKey) (v : Data) :
    Flow.Within (Mindful R n reg .foreign) (Progress.store run key v : Play Unit) := by
  refine within_beside (f := fun w => w.note run key v) fun st => ⟨le_rfl, rfl, ?_, fun _ => rfl, fun {run'} hrun' => ?_⟩
  · exact (Array.size_modify ..).ge
  · exact (World.progress_note hkey st.world run v run').trans (if_neg fun h => by omega)

/-- The handler of another run id. -/
theorem within_setQueryHandler {ctx : Context} {i : Identity} (hi : ctx.identity = some i) (hid : i.runId ≠ R) (name : String) (x : QueryHandler) :
    Flow.Within (Mindful R n reg .foreign) (setQueryHandler ctx name x) := by
  refine .bind (Lets.own hi) fun j hj => ?_
  refine within_beside (f := fun w => w.onEngine fun e => { e with queryHandlers := e.queryHandlers.set j.runId name x }) fun st =>
    ⟨le_rfl, rfl, le_rfl, fun {id} hid' => ?_, fun _ => rfl⟩
  subst hj hid'
  exact (ByRun.get?_set ..).trans (if_neg fun h => hid h.1.symm)

variable {lib : Library Simulator} {thread : Thread} {i : Identity}

/-- **Reports of other runs stay beside a run.** -/
theorem within_progress_foreign (hi : thread.context.identity = some i) (hid : i.runId ≠ R) (hrun : n < thread.run) (info : RunInfo) :
    (Progress.plugin.create (primitives lib) info).Within (Mindful R n reg .foreign) thread := by
  refine ⟨fun b hb => ?_, fun p hp => ?_⟩
  · obtain rfl := List.mem_singleton.mp hb
    refine Builtin.within_fixed fun args => .bind (within_store hrun (.inl rfl) _) fun _ _ => .bind (lets_foreign.stored _ _) fun known _ => ?_
    split
    · exact .pure trivial
    · exact .bind (within_setQueryHandler hi hid _ _) fun _ _ => .bind (within_store hrun (.inr rfl) _) fun _ _ => .pure trivial
  · obtain rfl := List.mem_singleton.mp hp
    exact lets_foreign.stored _ _

theorem exists_of_bindArguments {name : String} {args vs : List Data} {options : List (String × Data)}
    (h : bindArguments [(name, none)] args options = .ok vs) : ∃ v, vs = [v] := by
  unfold bindArguments at h
  dsimp only at h
  split at h
  · cases h
  · rename_i hfits
    cases args with
    | nil =>
      simp only [List.length_nil, List.drop_zero, List.mapM_cons, List.mapM_nil] at h
      generalize (options.lookup name).orElse _ = given at h
      cases given with
      | none => cases h
      | some d => exact ⟨d, (Except.ok.inj h).symm⟩
    | cons a args =>
      cases args with
      | nil => exact ⟨a, (Except.ok.inj h).symm⟩
      | cons b args => simp at hfits

/-- **Reports of a run are its own.** -/
theorem within_progress_own (hi : thread.context.identity = some i) (hid : i.runId = R) (hrun : thread.run = n) (info : RunInfo) :
    (Progress.plugin.create (primitives lib) info).Within (Mindful R n reg .own) thread := by
  refine ⟨fun b hb args options cont hcont => ?_, fun p hp => ?_⟩
  · obtain rfl := List.mem_singleton.mp hb
    cases hv : bindArguments [("value", none)] args options with
    | error e =>
      change Mindful R n reg .own ((Flow.ofExcept (bindArguments [("value", none)] args options) >>= _) cont)
      rw [hv]
      exact hcont _ fun _ ha => nomatch ha
    | ok vs =>
      obtain ⟨v, rfl⟩ := exists_of_bindArguments hv
      refine .report ⟨_, _, _, _, _, hv, rfl⟩ (report_eq hi hv cont |>.trans (by rw [hid, hrun])) (hcont _ fun _ ha => ?_)
      cases ha
      trivial
  · obtain rfl := List.mem_singleton.mp hp
    exact lets_own.stored _ _

/-! ### The script workflow -/

/-- One of the plugins may be progress; all others leave it alone. -/
def Heedful (plugins : PluginSet Simulator) : Prop := ∀ p ∈ plugins.plugins, p = Progress.plugin ∨ Discreet p

variable {plugins : PluginSet Simulator} {ctx : Context}

/-- **Scripts of longer run ids stay beside a run.** -/
theorem within_run (hp : Heedful plugins) (hlib : Library.Aside R n reg lib)
    (hreg : ∀ r ∈ reg.workflows.entries, r.function.key ≠ Sample.programFunction.key) (hi : ctx.identity = some i) (hlong : R.length < i.runId.length)
    (request : Data) : Flow.Within (Mindful R n reg .foreign) (ScriptService.run plugins (primitives lib) ctx request) := by
  have hw : (primitives lib).Within (Mindful R n reg .foreign) (some i) :=
    within_primitives lets_foreign (fun started goesOn => .spawn (by decide) started goesOn) hlib hreg hlong.le
  rw [ScriptService.run_eq_inRun]
  refine .bind (.result _) fun r _ => .bind (hw.identity hi) fun identity _ => .bind (.result _) fun environ _ => fun cont hcont => ?_
  refine .access (fun st => ⟨le_rfl, rfl, ?_, fun _ => rfl, fun {run} _ => st.world.progress_push run⟩) fun st hst => ?_
  · exact (st.world.runs.size_push {}).ge.trans' (Nat.le_succ _)
  refine ScriptService.within_inRun lets_foreign.log (hw.log hi) (fun p hmem number => ?_) cont hcont
  rcases hp p hmem with rfl | hdiscreet
  · exact within_progress_foreign hi (fun h => by rw [h] at hlong; exact absurd hlong (lt_irrefl _)) hst.2 _
  · exact hdiscreet.create _ lets_foreign (hi ▸ hw) fun ctx' name x hctx hname => lets_foreign.setQueryHandler (hctx.trans hi) hname x

/-- **Everything that a worker runs under a longer run id stays beside a run.** -/
theorem aside_library (hp : Heedful plugins) (hreg : ∀ r ∈ reg.workflows.entries, r.function.key ≠ Sample.programFunction.key) (depth : Nat) :
    Library.Aside R n reg (library plugins depth) := by
  have hactivity (c : Callable) (args : List Data) :
      Flow.Within (Mindful R n reg .foreign) (do (← Sample.body c.key args).settle) :=
    .bind (Sample.within_body lets_foreign.turnOnce _ _) fun _ h => h
  induction depth with
  | zero => exact ⟨hactivity, fun _ _ _ _ _ _ => .fail _⟩
  | succ depth ih =>
    refine ⟨hactivity, fun {c} hc {ctx i} hi hlong args => ?_⟩
    change Flow.Within _ (ScriptService.runFunction plugins (programHost (primitives (library plugins depth))) c ctx args)
    unfold ScriptService.runFunction
    split
    · split
      · exact within_run hp ih hreg hi hlong _
      · exact .fail _
    · rw [if_neg (by simpa using hc)]
      exact Sample.within_workflow within_isCancelled _ _ _

/-- A part of a program that begins a run, if it comes to it. -/
def Begins (R : String) (n : Nat) (reg : Registry) (m : Play α) : Prop :=
  ∀ cont, (∀ role r, Mindful R n reg role (cont r)) → Mindful R n reg .early (m cont)

namespace Begins

variable {β : Type} {P : α → Prop} {m : Play α} {f : α → Play β}

theorem of_within (h : Flow.Within (Mindful R n reg .early) m P) : Begins R n reg m := fun cont hcont => h cont fun r _ => hcont _ r

theorem after (hm : Flow.Within (Mindful R n reg .early) m P) (hf : ∀ a, P a → Begins R n reg (f a)) : Begins R n reg (m >>= f) :=
  fun cont hcont => hm _ fun
    | .ok a, ha => hf a (ha a rfl) cont hcont
    | .error _, _ => hcont _ _

theorem bind (hm : Begins R n reg m) (hf : ∀ role a, Flow.Within (Mindful R n reg role) (f a)) : Begins R n reg (m >>= f) :=
  fun cont hcont => hm _ fun
    | role, .ok a => hf role a cont fun r _ => hcont role r
    | role, .error _ => hcont role _

theorem look {f : Simulator → Play α} (hf : ∀ e, e.registry = reg → Begins R n reg (f e)) : Begins R n reg (Play.engine >>= f) :=
  fun cont hcont => .access (fun _ => Role.keeps_of_eq le_rfl rfl rfl rfl) fun st hst => hf st.world.engine hst.1 cont hcont

/-- **The script workflow begins a run**, whose reports are its own. -/
theorem run (hp : Heedful plugins) (hlib : Library.Aside R n reg lib)
    (hreg : ∀ r ∈ reg.workflows.entries, r.function.key ≠ Sample.programFunction.key) (hi : ctx.identity = some i) (hid : i.runId = R) (request : Data) :
    Begins R n reg (ScriptService.run plugins (primitives lib) ctx request) := by
  have hw : (primitives lib).Within (Mindful R n reg .own) (some i) :=
    within_primitives lets_own (fun started goesOn => .spawn (by decide) started goesOn) hlib hreg (by rw [hid])
  rw [ScriptService.run_eq_inRun]
  refine after (P := fun _ => True) (.result _) fun r _ => after (P := fun _ => True) ((Lets.own hi).mono fun _ _ => trivial) fun identity _ => ?_
  refine after (P := fun _ => True) (.result _) fun environ _ => fun cont hcont => ?_
  refine .begins (fun st => rfl) fun st hst => ?_
  refine ScriptService.within_inRun lets_own.log (hw.log hi) (fun p hmem number => ?_) cont fun r _ => hcont _ r
  rcases hp p hmem with rfl | hdiscreet
  · exact within_progress_own hi hid hst.2 _
  · exact hdiscreet.create _ lets_own (hi ▸ hw) fun ctx' name x hctx hname => lets_own.setQueryHandler (hctx.trans hi) hname x

theorem runFunction (hp : Heedful plugins) (hlib : Library.Aside R n reg lib)
    (hreg : ∀ r ∈ reg.workflows.entries, r.function.key ≠ Sample.programFunction.key) (hi : ctx.identity = some i) (hid : i.runId = R) {c : Callable}
    (hc : c.key ≠ Sample.programFunction.key) (args : List Data) :
    Begins R n reg (ScriptService.runFunction plugins (programHost (primitives lib)) c ctx args) := by
  unfold ScriptService.runFunction
  split
  · split
    · exact run hp hlib hreg hi hid _
    · exact of_within (P := fun _ => True) (.fail _)
  · rw [if_neg (by simpa using hc)]
    exact of_within (Sample.within_workflow within_isCancelled _ _ _)

theorem runWorkflow (hp : Heedful plugins) (hreg : ∀ r ∈ reg.workflows.entries, r.function.key ≠ Sample.programFunction.key)
    (hi : ctx.identity = some i) (hid : i.runId = R) (depth : Nat) (name : String) (args : List Data) :
    Begins R n reg (runWorkflow (library plugins depth) ctx name args) := by
  unfold Simulator.runWorkflow
  rw [perform_eq]
  refine after (P := fun _ => True) (.result _) fun args _ => after (within_expect .workflow name args) fun r _ => ?_
  refine after (P := fun _ => True) (.result _) fun expected _ => ?_
  split
  · exact of_within (P := fun _ => True) (.result _)
  · refine look fun e he => ?_
    dsimp only
    split
    · exact of_within (P := fun _ => True) (.fail _)
    · rename_i r hr
      rw [he] at hr
      refine bind ?_ fun _ _ => .result _
      cases depth with
      | zero => exact of_within (P := fun _ => True) (.fail _)
      | succ depth => exact runFunction hp (aside_library hp hreg depth) hreg hi hid (hreg r (mem_of_get? hr)) args

end Begins

end Mindful

end Simulator

end ScriptFlow
