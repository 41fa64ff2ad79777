import Mathlib
import ScriptFlow.Proofs.Script.OrderlyLibrary
import ScriptFlow.Proofs.Script.Outcomes
import ScriptFlow.Script.Environment

/-!
# The loader of a running machine

The scripts that a loader takes for being loaded are those with a frame on the stack, each of them once. A step of the machine changes the loader in one of three
ways: a script starts that may start, a script ends and its result is kept, or an error leaves a script and it is dropped.

* `Loader.Keeps` — what a loader knows while scripts are being loaded; kept by `Loader.start`, `Loader.finish` and `Loader.drop`.
* `Machine.Carries` — everything under way is orderly, with the loader and the scripts of the stack.
* `Stage.Change` — what happens to the loader; `Machine.Carries.step` — a step does one of these things.
-/

namespace ScriptFlow.Script

/-! ## Loaders -/

namespace Loader

/-- What a loader knows of its sources while scripts are being loaded, the youngest first. -/
structure Keeps (texts : List (String × String)) (l : Loader) (running : List String) : Prop where
  sources : l.sources = texts
  loading : l.loading = running
  nodup : running.Nodup
  reads : ∀ path ∈ running, ∃ text body, texts.lookup path = some text ∧ parseScript path text = .ok body
  fresh : ∀ path ∈ running, l.loaded? path = none
  environments : ∀ path, l.environment? path = none ↔ l.loaded? path = none

/-- Nothing is known of a script but its source. -/
structure Untraced (l : Loader) (path : String) : Prop where
  loading : path ∉ l.loading
  loaded : l.loaded? path = none
  environment : l.environment? path = none

/-- What stands for a script that has ended. -/
def kept (globals : TableId) (vs : List Value) : Value :=
  match first vs with
  | .nil => .table globals
  | v => v

variable {texts : List (String × String)} {l : Loader} {running : List String} {path : String}

theorem loaded?_finish (l : Loader) (path p : String) (globals : TableId) (vs : List Value) :
    (l.finish path globals (first vs)).1.loaded? p = if p = path then some (kept globals vs) else l.loaded? p := by
  by_cases hp : p = path
  · subst hp
    have hself : (l.finish p globals (first vs)).1.loaded? p = some (kept globals vs) := List.lookup_cons_self ..
    exact hself.trans (if_pos rfl).symm
  · have hbeq : (p == path) = false := beq_eq_false_iff_ne.mpr hp
    simp [loaded?, finish, drop, List.lookup_cons, hbeq, hp]

theorem environment?_finish (l : Loader) (path p : String) (globals : TableId) (v : Value) :
    (l.finish path globals v).1.environment? p = if p = path then some globals else l.environment? p := by
  by_cases hp : p = path
  · subst hp
    simp [environment?, finish]
  · have hbeq : (p == path) = false := beq_eq_false_iff_ne.mpr hp
    simp [environment?, finish, drop, List.lookup_cons, hbeq, hp]

namespace Keeps

theorem start (h : l.Keeps texts running) {body : List Stat} (hs : l.MayStart path body) : (l.start path).Keeps texts (path :: running) where
  sources := h.sources
  loading := congrArg (path :: ·) h.loading
  nodup := List.nodup_cons.mpr ⟨h.loading ▸ hs.idle, h.nodup⟩
  reads p hp := by
    rcases List.mem_cons.mp hp with rfl | hp
    · obtain ⟨text, hsource, hparse⟩ := hs.reads
      exact ⟨text, body, h.sources ▸ hsource, hparse⟩
    · exact h.reads p hp
  fresh p hp := by
    rcases List.mem_cons.mp hp with rfl | hp
    · exact hs.fresh
    · exact h.fresh p hp
  environments := h.environments

/-- The script that has started last is not among the others. -/
theorem loading_drop (h : l.Keeps texts (path :: running)) : (l.drop path).loading = running := by
  have hnot : path ∉ running := (List.nodup_cons.mp h.nodup).1
  have hrest : running.filter (· != path) = running := List.filter_eq_self.mpr fun p hp => by
    simpa using fun heq : p = path => hnot (heq ▸ hp)
  simp [Loader.drop, h.loading, hrest]

theorem drop (h : l.Keeps texts (path :: running)) : (l.drop path).Keeps texts running where
  sources := h.sources
  loading := h.loading_drop
  nodup := (List.nodup_cons.mp h.nodup).2
  reads p hp := h.reads p (.tail _ hp)
  fresh p hp := h.fresh p (.tail _ hp)
  environments := h.environments

theorem finish (h : l.Keeps texts (path :: running)) (globals : TableId) (vs : List Value) :
    (l.finish path globals (first vs)).1.Keeps texts running where
  sources := h.sources
  loading := h.loading_drop
  nodup := (List.nodup_cons.mp h.nodup).2
  reads p hp := h.reads p (.tail _ hp)
  fresh p hp := by
    have hne : p ≠ path := fun heq => (List.nodup_cons.mp h.nodup).1 (heq ▸ hp)
    rw [loaded?_finish, if_neg hne]
    exact h.fresh p (.tail _ hp)
  environments p := by
    rw [loaded?_finish, environment?_finish]
    split
    · simp
    · exact h.environments p

end Keeps

end Loader

/-! ## Frames -/

/-- What comes after a frame is orderly. -/
def Frame.Orderly : Frame → Prop
  | .call next .. => ∀ vs l, (next vs).Orderly l
  | .guard _ next => ∀ r l, (next r).Orderly l
  | .closing _ | .loading .. => True

namespace Machine

/-- The scripts that are being loaded, the youngest first. -/
def chunks : List Frame → List String
  | .loading path _ :: rest => path :: chunks rest
  | _ :: rest => chunks rest
  | [] => []

/-- The script that a program is about to start. -/
def starting : Prog → List String
  | .load path .. => [path]
  | _ => []

theorem starting_of_orderly {l : Loader} {p : Prog} (h : p.Orderly l) : starting p = [] := by
  cases h <;> rfl

/-- A machine in which everything under way is orderly, with its loader and the scripts that are being loaded. -/
structure Carries (m : Machine) (l : Loader) (running : List String) : Prop where
  loader : m.store.loader = l
  chunks : starting m.focus ++ Machine.chunks m.frames = running
  frames : ∀ f ∈ m.frames, f.Orderly
  focus : m.focus.Orderly l ∨ ∃ path body globals, m.focus = .load path body globals

theorem Carries.of_orderly {m : Machine} {l : Loader} (hloader : m.store.loader = l) (hframes : ∀ f ∈ m.frames, f.Orderly) (hfocus : m.focus.Orderly l) :
    m.Carries l (Machine.chunks m.frames) :=
  ⟨hloader, by rw [starting_of_orderly hfocus, List.nil_append], hframes, .inl hfocus⟩

/-! ## Calls -/

theorem enter_carries (s : Store) (f : FunctionId) (args : List Value) (site : Site) (naming : Option Naming) :
    (enter s f args site naming).1.loader = s.loader ∧ ∀ l, (enter s f args site naming).2.Orderly l := by
  unfold enter
  split
  · exact ⟨s.loader_newCells _ _, Stat.body_orderly _ _⟩
  · next g _ => exact ⟨rfl, g.run_orderly _ _ fun vs _ => .done vs⟩
  · exact ⟨rfl, fun _ => .done []⟩

theorem callError_carries (s : Store) (v : Value) (how : CallSite) :
    (callError s v how).1.loader = s.loader ∧ ∀ l, (callError s v how).2.Orderly l := by
  unfold callError
  split
  · exact ⟨rfl, fun _ => .raise _⟩
  · exact ⟨rfl, fun _ => .raise _⟩

variable {m : Machine}

/-- A call leaves the loader and the scripts that are being loaded. -/
theorem call_carries (hframes : ∀ f ∈ m.frames, f.Orderly) (v : Value) (args : List Value) (how : CallSite) {next : List Value → Prog}
    (hnext : ∀ vs l, (next vs).Orderly l) : (m.call v args how next).Carries m.store.loader (chunks m.frames) := by
  have hpushed (depth nested : Nat) : ∀ f ∈ Frame.call next how.site how.blocks depth nested :: m.frames, f.Orderly := fun f hf => by
    rcases List.mem_cons.mp hf with rfl | hf
    · exact hnext
    · exact hframes f hf
  unfold call
  split
  · next f args _ =>
    dsimp only [callFrame]
    generalize (depths m.frames).1 + 1 = depth, (depths m.frames).2 + (if how.nests then 1 else 0) = nested
    split_ifs
    · exact .of_orderly rfl hframes (.unwind _)
    · exact .of_orderly rfl (hpushed _ _) (.raise _)
    · exact .of_orderly rfl (hpushed _ _) (.raise _)
    · obtain ⟨hloader, hfocus⟩ := enter_carries m.store f args how.site how.naming
      exact .of_orderly hloader (hpushed _ _) (hfocus _)
  · obtain ⟨hloader, hfocus⟩ := callError_carries m.store v how
    exact .of_orderly hloader hframes (hfocus _)

theorem pass_carries (hframes : ∀ f ∈ m.frames, f.Orderly) (v : Value) (args : List Value) (how : CallSite) :
    (m.pass v args how).Carries m.store.loader (chunks m.frames) := by
  have hcall := call_carries hframes v args how fun vs _ => .done vs
  unfold pass
  split
  · next f passed _ site _ _ _ _ _ _ =>
    split
    · obtain ⟨hloader, hfocus⟩ := enter_carries m.store f passed site none
      exact .of_orderly hloader hframes (hfocus _)
    · exact hcall
  · exact hcall

theorem tell_carries (hframes : ∀ f ∈ m.frames, f.Orderly) (v e : Value) (how : CallSite) {next : Prog} (hnext : ∀ l, next.Orderly l) :
    (m.tell v e how next).Carries m.store.loader (chunks m.frames) :=
  call_carries hframes _ _ _ fun _ => hnext

end Machine

/-! ## Stages of an environment -/

/-- What an environment is doing. -/
inductive Stage where
  /-- it waits for a request -/
  | idle (env : Environment)
  /-- a script of it runs -/
  | running (m : Machine)
  /-- a script of it waits for the host -/
  | asking (request : HostCall) (waiting : Suspension)

namespace Stage

/-- Where an environment is after a step of its machine. -/
def after : Progress → Stage
  | .running m => .running m
  | .finished store _ => .idle ⟨store⟩
  | .failed store _ => .idle ⟨store⟩
  | .asking request waiting => .asking request waiting

/-- An environment in which everything under way is orderly, with its loader and the scripts that are being loaded. -/
def Carries (l : Loader) (running : List String) : Stage → Prop
  | .idle env => env.store.loader = l ∧ running = []
  | .running m => m.Carries l running
  | .asking _ waiting => waiting.store.loader = l ∧ Machine.chunks waiting.frames = running ∧ (∀ f ∈ waiting.frames, f.Orderly) ∧
      ∀ r l, (waiting.next r).Orderly l

/-- A script starts. -/
inductive Starts : Stage → String → Prop where
  | mk (store : Store) (path : String) (body : List Stat) (globals : TableId) (frames : List Frame) :
      Starts (.running ⟨store, .load path body globals, frames⟩) path

/-- A script ends with these values. -/
inductive Completes : Stage → String → TableId → List Value → Prop where
  | mk (store : Store) (vs : List Value) (path : String) (globals : TableId) (frames : List Frame) :
      Completes (.running ⟨store, .done vs, .loading path globals :: frames⟩) path globals vs

/-- An error leaves a script. -/
inductive Fails : Stage → String → Prop where
  | mk (store : Store) {v : Value} {p : Prog} (hp : Machine.Rises v p) (path : String) (globals : TableId) (frames : List Frame) :
      Fails (.running ⟨store, p, .loading path globals :: frames⟩) path

/-- What happens to the loader and to the scripts that are being loaded between two stages. -/
inductive Change (st st' : Stage) (l : Loader) : List String → Loader → List String → Prop where
  | stays (running : List String) : Change st st' l running l running
  | starts {path : String} {body : List Stat} (h : l.MayStart path body) (hst' : st'.Starts path) (running : List String) :
      Change st st' l running (l.start path) (path :: running)
  | finishes {path : String} {globals : TableId} {vs : List Value} (hst : st.Completes path globals vs) (running : List String) :
      Change st st' l (path :: running) (l.finish path globals (first vs)).1 running
  | drops {path : String} (hst : st.Fails path) (running : List String) : Change st st' l (path :: running) (l.drop path) running

end Stage

/-! ## Steps -/

namespace Machine

variable {m : Machine} {l : Loader}

theorem finish_carries {store : Store} {vs : List Value} {frames : List Frame} (hloader : store.loader = l) (hframes : ∀ f ∈ frames, f.Orderly) :
    ∃ l' running', Stage.Change (.running ⟨store, .done vs, frames⟩) (.after (finish store vs frames)) l (chunks frames) l' running' ∧
      (Stage.after (finish store vs frames)).Carries l' running' := by
  cases frames with
  | nil => exact ⟨l, [], .stays _, hloader, rfl⟩
  | cons f rest =>
    have hrest : ∀ f ∈ rest, f.Orderly := fun f hf => hframes f (.tail _ hf)
    have hf := hframes f (.head _)
    cases f with
    | call next site blocks depth nested => exact ⟨l, _, .stays _, .of_orderly hloader hrest (hf vs l)⟩
    | guard handler next => exact ⟨l, _, .stays _, .of_orderly hloader hrest (hf (.ok vs) l)⟩
    | closing v =>
      subst hloader
      exact ⟨_, _, .stays _, tell_carries (m := ⟨store, .done vs, rest⟩) hrest v .nil _ fun _ => .done vs⟩
    | loading path globals =>
      subst hloader
      exact ⟨_, _, .finishes (.mk store vs path globals rest) _, .of_orderly rfl hrest (.done _)⟩

theorem unwind_carries {store : Store} {v : Value} {p : Prog} (hp : Rises v p) {frames : List Frame} (hloader : store.loader = l)
    (hframes : ∀ f ∈ frames, f.Orderly) :
    ∃ l' running', Stage.Change (.running ⟨store, p, frames⟩) (.after (unwind store v frames)) l (chunks frames) l' running' ∧
      (Stage.after (unwind store v frames)).Carries l' running' := by
  cases frames with
  | nil => exact ⟨l, [], .stays _, hloader, rfl⟩
  | cons f rest =>
    have hrest : ∀ f ∈ rest, f.Orderly := fun f hf => hframes f (.tail _ hf)
    have hf := hframes f (.head _)
    cases f with
    | call next site blocks depth nested => exact ⟨l, _, .stays _, .of_orderly hloader hrest (.unwind v)⟩
    | guard handler next => exact ⟨l, _, .stays _, .of_orderly hloader hrest (hf (.error v) l)⟩
    | closing w =>
      subst hloader
      exact ⟨_, _, .stays _, tell_carries (m := ⟨store, .unwind v, rest⟩) hrest w v _ fun _ => .unwind v⟩
    | loading path globals =>
      subst hloader
      exact ⟨_, _, .drops (.mk store hp path globals rest) _, .of_orderly rfl hrest (.raise v)⟩

/-- **One step**, by what the program under way has to do. -/
theorem Carries.step {running : List String} (h : m.Carries l running) :
    ∃ l' running', Stage.Change (.running m) (.after m.step) l running l' running' ∧ (Stage.after m.step).Carries l' running' := by
  obtain ⟨store, focus, frames⟩ := m
  obtain ⟨rfl, rfl, hframes, hfocus | ⟨path, body, globals, hload⟩⟩ := h
  · dsimp only at hframes hfocus
    simp only [starting_of_orderly hfocus, List.nil_append]
    cases hfocus with
    | done vs => exact finish_carries rfl hframes
    | raise e =>
      cases hhandler : handler? frames with
      | none =>
        rw [step_rises (.inl rfl) hhandler]
        exact unwind_carries (.inl rfl) rfl hframes
      | some handler =>
        simp only [Machine.step, hhandler]
        exact ⟨_, _, .stays _, call_carries (m := ⟨store, .done [], frames⟩) hframes handler [e] _ fun _ _ => .unwind _⟩
    | unwind e => exact unwind_carries (.inr rfl) rfl hframes
    | touch hl hn => exact ⟨_, _, .stays _, .of_orderly (hl _ rfl) hframes (hn _ rfl)⟩
    | @starts _ f path body globals hs hf =>
      have hf := hf store rfl
      simp only [Machine.step, hf]
      exact ⟨_, _, .starts hs (.mk _ path body globals frames) _, rfl, rfl, hframes, .inr ⟨path, body, globals, rfl⟩⟩
    | call hnext => exact ⟨_, _, .stays _, call_carries (m := ⟨store, .done [], frames⟩) hframes _ _ _ hnext⟩
    | pass v args how => exact ⟨_, _, .stays _, pass_carries (m := ⟨store, .done [], frames⟩) hframes v args how⟩
    | @guard _ v args handler next hnext =>
      have hguarded : ∀ f ∈ Frame.guard handler next :: frames, f.Orderly := List.forall_mem_cons.mpr ⟨hnext, hframes⟩
      exact ⟨_, _, .stays _, call_carries (m := ⟨store, .done [], .guard handler next :: frames⟩) hguarded _ _ _ fun vs _ => .done vs⟩
    | places hnext => exact ⟨_, _, .stays _, .of_orderly rfl hframes (hnext _)⟩
    | host hnext => exact ⟨_, _, .stays _, rfl, rfl, hframes, hnext⟩
    | run hfinish hleave hlabels =>
      exact ⟨_, _, .stays _, .of_orderly rfl hframes (runBlock_orderly _ _ _ ⟨hfinish, hleave, hlabels⟩ _)⟩
    | @opened _ v next hnext =>
      have hopen : ∀ f ∈ Frame.closing v :: frames, f.Orderly := List.forall_mem_cons.mpr ⟨trivial, hframes⟩
      exact ⟨_, _, .stays _, .of_orderly rfl hopen hnext⟩
    | @closed _ how next hnext =>
      cases frames with
      | nil => exact ⟨_, _, .stays _, .of_orderly rfl hframes (hnext _)⟩
      | cons f rest =>
        cases f with
        | closing v =>
          exact ⟨_, _, .stays _, tell_carries (m := ⟨store, .done [], rest⟩) (fun f hf => hframes f (.tail _ hf)) v .nil how hnext⟩
        | call | guard | loading => exact ⟨_, _, .stays _, .of_orderly rfl hframes (hnext _)⟩
  · -- the script that has started gets its frame and runs
    dsimp only at hload hframes
    subst hload
    have hloading : ∀ f ∈ Frame.loading path globals :: frames, f.Orderly := List.forall_mem_cons.mpr ⟨trivial, hframes⟩
    have hdone (how : CallSite) (fs : List Frame) : (callFrame fs .done how).Orderly := fun vs _ => .done vs
    have hchunk := List.forall_mem_cons.mpr ⟨hdone {} (.loading path globals :: frames), hloading⟩
    exact ⟨_, _, .stays _, .of_orderly rfl (List.forall_mem_cons.mpr ⟨hdone _ _, hchunk⟩) (Stat.body_orderly _ _ _)⟩

end Machine

/-! ## What a change keeps -/

namespace Stage.Change

variable {texts : List (String × String)} {st st' : Stage} {l l' : Loader} {running running' : List String} {path : String}

theorem keeps (hc : st.Change st' l running l' running') (h : l.Keeps texts running) : l'.Keeps texts running' := by
  cases hc with
  | stays => exact h
  | starts hs => exact h.start hs
  | finishes => exact h.finish _ _
  | drops => exact h.drop

/-- What a script gave stays. -/
theorem loaded? (hc : st.Change st' l running l' running') (h : l.Keeps texts running) {v : Value} (hv : l.loaded? path = some v) :
    l'.loaded? path = some v := by
  cases hc with
  | stays => exact hv
  | starts => exact hv
  | @finishes p globals vs hp running =>
    have hne : path ≠ p := fun heq => by
      rw [heq, h.fresh p (.head _)] at hv
      cases hv
    rw [Loader.loaded?_finish, if_neg hne]
    exact hv
  | drops => exact hv

/-- A script of which nothing is known stays so until it starts. -/
theorem untraced (hc : st.Change st' l running l' running') (h : l.Keeps texts running) (hu : l.Untraced path) (hst : ¬st'.Starts path) :
    l'.Untraced path := by
  cases hc with
  | stays => exact hu
  | @starts p body hs hp running =>
    have hne : path ≠ p := fun heq => hst (heq ▸ hp)
    exact ⟨fun hmem => (List.mem_cons.mp hmem).elim hne hu.loading, hu.loaded, hu.environment⟩
  | @finishes p globals vs hp running =>
    have hne : path ≠ p := fun heq => hu.loading (h.loading ▸ heq ▸ .head _)
    refine ⟨fun hmem => hu.loading (List.mem_of_mem_filter hmem), ?_, ?_⟩
    · rw [Loader.loaded?_finish, if_neg hne]
      exact hu.loaded
    · rw [Loader.environment?_finish, if_neg hne]
      exact hu.environment
  | drops => exact ⟨fun hmem => hu.loading (List.mem_of_mem_filter hmem), hu.loaded, hu.environment⟩

end Stage.Change

end ScriptFlow.Script
