import Mathlib
import ScriptFlow.Proofs.Script.ConfinedLibrary
import ScriptFlow.Proofs.Script.Loading

/-!
# Machines that leave modules sealed

A machine in which everything under way is confined stays so, step by step and request by request, unless a script calls `rawset` with a module.

* `Machine.Overwrites` — that call. Handlers of errors and values that are told of the end of their block are called with too few arguments to do it
  (`Machine.harmless_of_length`), and a module cannot be called itself (`Machine.harmless_of_callee`).
* `Machine.Confined.step` — one step; `Stage.Goes` — from one stage of an environment to the next; `Stage.Confined.reaches` — any number of stages.
-/

namespace ScriptFlow.Script

open Bears (Public)
open Relation

variable {S : List Seal}

/-- What a program calls. -/
def Prog.call? : Prog → Option (Value × List Value)
  | .call v args _ _ | .pass v args _ | .guard v args _ _ => some (v, args)
  | _ => none

/-- A script calls `rawset` with a module, a key and a value. -/
def Machine.Overwrites (m : Machine) : Prop :=
  ∃ f t n key v rest, m.focus.call? = some (.function f, .table t :: key :: v :: rest) ∧ m.store.function? f = some (.native .rawset) ∧ (t, n) ∈ m.store.modules

/-! ## Frames and machines -/

/-- What comes after a frame is confined. -/
def Frame.Confined (S : List Seal) : Frame → Prop
  | .call next .. => ∀ vs, Public S vs → (next vs).Confined S
  | .guard handler next => Public S handler ∧ ∀ r, Public S r → (next r).Confined S
  | .closing v => Public S v
  | .loading _ globals => Public S (Value.table globals)

/-- A machine in which everything under way is confined. -/
structure Machine.Confined (S : List Seal) (m : Machine) : Prop where
  store : m.store.Sound S
  focus : m.focus.Confined S
  frames : ∀ f ∈ m.frames, f.Confined S

/-- A script that waits, and whatever the host answers goes on confined. -/
structure Suspension.Confined (S : List Seal) (waiting : Suspension) : Prop where
  store : waiting.store.Sound S
  next : ∀ r, Public S r → (waiting.next r).Confined S
  frames : ∀ f ∈ waiting.frames, f.Confined S

/-- What has become of a machine in which everything was confined. -/
def Progress.Confined (S : List Seal) : Progress → Prop
  | .running m => m.Confined S
  | .finished store vs => store.Sound S ∧ Public S vs
  | .failed store e => store.Sound S ∧ Public S e
  | .asking _ waiting => waiting.Confined S

namespace Machine

/-! ## Calls -/

/-- A call of a function with these arguments writes into no module. -/
def Harmless (S : List Seal) (s : Store) (f : FunctionId) (args : List Value) : Prop :=
  s.function? f = some (.native .rawset) → args.length < 3 ∨ ∀ t, arg args 0 = .table t → Free S t

theorem harmless_of_length {s : Store} {f : FunctionId} {args : List Value} (h : args.length < 3) : Harmless S s f args := fun _ => .inl h

theorem enter_confined {s : Store} (hs : s.Sound S) {f : FunctionId} {args : List Value} (hargs : Public S args) (h : Harmless S s f args) (site : Site)
    (naming : Option Naming) : (enter s f args site naming).1.Sound S ∧ (enter s f args site naming).2.Confined S := by
  unfold enter
  split
  · refine ⟨hs.newCells (Bears.public_adjust hargs _) _, Stat.body_confined _ ?_⟩
    have hvarargs (takesMore : Bool) (n : Nat) : Public S (if takesMore then args.drop n else []) := by
      split
      · exact Bears.public_drop hargs n
      · exact Bears.public_emptyList
    exact hvarargs _ _
  · next g hg =>
    have hg' : Public S g := hs.functions f _ hg g rfl
    exact ⟨hs, Native.run_confined hg' (show Public S (Invocation.mk args site naming g.own) from hargs) (fun heq => h (heq ▸ hg)) _ fun vs hvs => .done hvs⟩
  · exact ⟨hs, .done Bears.public_emptyList⟩

theorem callError_confined {s : Store} (hs : s.Sound S) (v : Value) (how : CallSite) :
    (callError s v how).1.Sound S ∧ (callError s v how).2.Confined S := by
  unfold callError
  split
  · next id d => exact ⟨hs.newObject d, .raise (s.public_newObject _)⟩
  · exact ⟨hs, .raise (Act.public_siteText _ _)⟩

variable {s : Store} {v : Value} {args args' : List Value} {f : FunctionId}

/-- What is called is the value itself, or a value with a metamethod stands in front of the arguments. -/
theorem callee_cases {n : Nat} (h : callee s n v args = some (f, args')) :
    (v = .function f ∧ args' = args) ∨ ∃ u rest, args' = u :: rest ∧ s.metaEntry u "__call" ≠ .nil := by
  induction n generalizing v args with
  | zero =>
    cases v with
    | function g =>
      cases h
      exact .inl ⟨rfl, rfl⟩
    | _ => cases h
  | succ n ih =>
    cases v with
    | function g =>
      cases h
      exact .inl ⟨rfl, rfl⟩
    | _ =>
      simp only [callee] at h
      split at h
      · cases h
      · next hcall =>
        rcases ih h with ⟨-, rfl⟩ | hrest
        · exact .inr ⟨_, _, rfl, hcall⟩
        · exact .inr hrest

theorem public_callee (hs : s.Sound S) {n : Nat} (hv : Public S v) (hargs : Public S args) (h : callee s n v args = some (f, args')) : Public S args' := by
  induction n generalizing v args with
  | zero =>
    cases v with
    | function g =>
      cases h
      exact hargs
    | _ => cases h
  | succ n ih =>
    cases v with
    | function g =>
      cases h
      exact hargs
    | _ =>
      simp only [callee] at h
      split at h
      · cases h
      · exact ih (hs.metaEntry _ _) (Bears.public_cons.mpr ⟨hv, hargs⟩) h

/-- **A module is not called**, so a call writes into a module only when the module is its first argument. -/
theorem harmless_of_callee (hs : s.Sound S) {n : Nat} (hv : Public S v) (hargs : Public S args) (hdirect : ∀ f, v = .function f → Harmless S s f args)
    (h : callee s n v args = some (f, args')) : Harmless S s f args' := by
  have hpublic := public_callee hs hv hargs h
  rcases callee_cases h with ⟨hv, rfl⟩ | ⟨u, rest, rfl, hcall⟩
  · exact hdirect f hv
  · refine fun _ => .inr fun t ht => ?_
    obtain rfl : u = .table t := ht
    refine hs.free_of_metaEntry (Bears.public_cons.mp hpublic).1 "__call" fun q _ heq => ?_
    rw [q.get_call] at heq
    exact hcall heq.symm

variable {m : Machine}

theorem call_confined (hs : m.store.Sound S) (hframes : ∀ f ∈ m.frames, f.Confined S) (hv : Public S v) (hargs : Public S args) (how : CallSite)
    {next : List Value → Prog} (hnext : ∀ vs, Public S vs → (next vs).Confined S) (hdirect : ∀ f, v = .function f → Harmless S m.store f args) :
    (m.call v args how next).Confined S := by
  have hpushed (depth nested : Nat) : ∀ f ∈ Frame.call next how.site how.blocks depth nested :: m.frames, f.Confined S :=
    List.forall_mem_cons.mpr ⟨hnext, hframes⟩
  unfold call
  split
  · next f args' hcallee =>
    dsimp only [callFrame]
    generalize (depths m.frames).1 + 1 = depth, (depths m.frames).2 + (if how.nests then 1 else 0) = nested
    split_ifs
    · exact ⟨hs, .unwind (Bears.public_ofText _), hframes⟩
    · exact ⟨hs, .raise (Act.public_siteText _ _), hpushed _ _⟩
    · exact ⟨hs, .raise (Act.public_siteText _ _), hpushed _ _⟩
    · obtain ⟨hstore, hfocus⟩ := enter_confined hs (public_callee hs hv hargs hcallee) (harmless_of_callee hs hv hargs hdirect hcallee) how.site how.naming
      exact ⟨hstore, hfocus, hpushed _ _⟩
  · obtain ⟨hstore, hfocus⟩ := callError_confined hs v how
    exact ⟨hstore, hfocus, hframes⟩

theorem pass_confined (hs : m.store.Sound S) (hframes : ∀ f ∈ m.frames, f.Confined S) (hv : Public S v) (hargs : Public S args) (how : CallSite)
    (hdirect : ∀ f, v = .function f → Harmless S m.store f args) : (m.pass v args how).Confined S := by
  have hcall := call_confined hs hframes hv hargs how (fun vs hvs => Prog.Confined.done hvs) hdirect
  unfold pass
  split
  · next f passed _ site _ _ _ _ hcallee _ =>
    split
    · obtain ⟨hstore, hfocus⟩ := enter_confined hs (public_callee hs hv hargs hcallee) (harmless_of_callee hs hv hargs hdirect hcallee) site none
      exact ⟨hstore, hfocus, hframes⟩
    · exact hcall
  · exact hcall

theorem tell_confined (hs : m.store.Sound S) (hframes : ∀ f ∈ m.frames, f.Confined S) {e : Value} (hv : Public S v) (he : Public S e) (how : CallSite)
    {next : Prog} (hnext : next.Confined S) : (m.tell v e how next).Confined S :=
  call_confined hs hframes (hs.metaEntry v _) (Bears.public_cons.mpr ⟨hv, Bears.public_singleton.mpr he⟩) _ (fun _ _ => hnext)
    fun _ _ => harmless_of_length (by simp)

theorem public_handler? {frames : List Frame} (h : ∀ f ∈ frames, f.Confined S) : Public S (handler? frames) := by
  induction frames with
  | nil => exact Bears.public_none
  | cons f frames ih =>
    obtain ⟨hf, hframes⟩ := List.forall_mem_cons.mp h
    cases f with
    | guard handler next => exact hf.1
    | loading => exact Bears.public_none
    | call | closing => exact ih hframes

/-! ## Steps -/

theorem finish_confined {store : Store} (hs : store.Sound S) {vs : List Value} (hvs : Public S vs) {frames : List Frame}
    (hframes : ∀ f ∈ frames, f.Confined S) : (finish store vs frames).Confined S := by
  cases frames with
  | nil => exact ⟨hs, hvs⟩
  | cons f rest =>
    obtain ⟨hf, hrest⟩ := List.forall_mem_cons.mp hframes
    cases f with
    | call next site blocks depth nested => exact ⟨hs, hf vs hvs, hrest⟩
    | guard handler next => exact ⟨hs, hf.2 _ (Bears.public_ok.mpr hvs), hrest⟩
    | closing v => exact tell_confined (m := ⟨store, .done vs, rest⟩) hs hrest hf Bears.public_nil _ (.done hvs)
    | loading path globals =>
      have hkept : Public S (store.loader.finish path globals (first vs)).2 := by
        unfold Loader.finish
        dsimp only
        split
        · exact hf
        · exact Bears.public_first hvs
      refine ⟨hs.withLoader ?_, .done (Bears.public_singleton.mpr hkept), hrest⟩
      exact Bears.public_cons.mpr ⟨⟨Bears.public_plain path, hkept⟩, hs.loader⟩

theorem unwind_confined {store : Store} (hs : store.Sound S) {e : Value} (he : Public S e) {frames : List Frame} (hframes : ∀ f ∈ frames, f.Confined S) :
    (unwind store e frames).Confined S := by
  cases frames with
  | nil => exact ⟨hs, he⟩
  | cons f rest =>
    obtain ⟨hf, hrest⟩ := List.forall_mem_cons.mp hframes
    cases f with
    | call next site blocks depth nested => exact ⟨hs, .unwind he, hrest⟩
    | guard handler next => exact ⟨hs, hf.2 _ (Bears.public_error.mpr he), hrest⟩
    | closing v => exact tell_confined (m := ⟨store, .unwind e, rest⟩) hs hrest hf he _ (.unwind he)
    | loading path globals => exact ⟨hs.withLoader (l := store.loader.drop path) hs.loader, .raise he, hrest⟩

/-- A call that does not write into a module with `rawset`. -/
theorem harmless_of_not_overwrites (hs : m.store.Sound S) (hno : ¬m.Overwrites) (hargs : Public S args) (hcall : m.focus.call? = some (v, args)) :
    ∀ f, v = .function f → Harmless S m.store f args := by
  rintro f rfl hrawset
  rcases args with - | ⟨subject, - | ⟨key, - | ⟨v, rest⟩⟩⟩
  · exact .inl (by simp)
  · exact .inl (by simp)
  · exact .inl (by simp)
  · refine .inr fun t ht q hq => ⟨?_, ?_⟩
    · rintro rfl
      obtain rfl : subject = .table q.proxy := ht
      exact hno ⟨f, q.proxy, q.module, key, v, rest, hcall, hrawset, hs.modules ▸ List.mem_map_of_mem hq⟩
    · rintro rfl
      exact (Bears.public_cons.mp hargs).1 q hq ht

/-- **One step**, by what the program under way has to do. -/
theorem Confined.step (h : m.Confined S) (hno : ¬m.Overwrites) : m.step.Confined S := by
  obtain ⟨store, focus, frames⟩ := m
  obtain ⟨hs, hfocus, hframes⟩ := h
  dsimp only at hs hfocus hframes
  cases hfocus with
  | done hvs => exact finish_confined hs hvs hframes
  | @raise e he =>
    have hhandler := public_handler? hframes
    cases hh : handler? frames with
    | none =>
      rw [step_rises (.inl rfl) hh]
      exact unwind_confined hs he hframes
    | some handler =>
      simp only [Machine.step, hh]
      exact call_confined (m := ⟨store, .done [], frames⟩) hs hframes (hhandler handler hh) (Bears.public_singleton.mpr he) _
        (fun vs hvs => .unwind (Bears.public_first hvs)) fun _ _ => harmless_of_length (by simp)
  | unwind he => exact unwind_confined hs he hframes
  | touch hkeeps hnext => exact ⟨hkeeps store hs, hnext store hs, hframes⟩
  | @call v args how next hv hargs hnext =>
    have hdirect := harmless_of_not_overwrites (m := ⟨store, .call v args how next, frames⟩) hs hno hargs rfl
    exact call_confined (m := ⟨store, .done [], frames⟩) hs hframes hv hargs _ hnext hdirect
  | @pass v args how hv hargs =>
    have hdirect := harmless_of_not_overwrites (m := ⟨store, .pass v args how, frames⟩) hs hno hargs rfl
    exact pass_confined (m := ⟨store, .done [], frames⟩) hs hframes hv hargs _ hdirect
  | @guard v args handler next hv hargs hhandler hnext =>
    have hdirect := harmless_of_not_overwrites (m := ⟨store, .guard v args handler next, frames⟩) hs hno hargs rfl
    exact call_confined (m := ⟨store, .done [], .guard handler next :: frames⟩) hs (List.forall_mem_cons.mpr ⟨⟨hhandler, hnext⟩, hframes⟩) hv hargs _
      (fun vs hvs => .done hvs) hdirect
  | places hnext => exact ⟨hs, hnext _, hframes⟩
  | host hnext => exact ⟨hs, hnext, hframes⟩
  | @load path body globals hglobals =>
    have hloading : ∀ f ∈ Frame.loading path globals :: frames, f.Confined S := List.forall_mem_cons.mpr ⟨hglobals, hframes⟩
    have hdone (how : CallSite) (fs : List Frame) : (callFrame fs .done how).Confined S := fun vs hvs => .done hvs
    have hchunk := List.forall_mem_cons.mpr ⟨hdone {} (.loading path globals :: frames), hloading⟩
    refine ⟨hs.newCell hglobals, Stat.body_confined body ?_, List.forall_mem_cons.mpr ⟨hdone _ _, hchunk⟩⟩
    exact Bears.public_emptyList (α := Value)
  | run hscope hfinish hleave hlabels => exact ⟨hs, runBlock_confined _ _ hscope ⟨hfinish, hleave, hlabels⟩, hframes⟩
  | opened hv hnext => exact ⟨hs, hnext, List.forall_mem_cons.mpr ⟨hv, hframes⟩⟩
  | @closed how next hnext =>
    cases frames with
    | nil => exact ⟨hs, hnext, hframes⟩
    | cons f rest =>
      obtain ⟨hf, hrest⟩ := List.forall_mem_cons.mp hframes
      cases f with
      | closing v => exact tell_confined (m := ⟨store, .done [], rest⟩) hs hrest hf Bears.public_nil how hnext
      | call | guard | loading => exact ⟨hs, hnext, hframes⟩

end Machine

/-! ## Requests and answers -/

namespace Environment

theorem arguments_sound {s : Store} (hs : s.Sound S) {ds : List Data} {r : Store × List Value} (h : arguments s ds = .ok r) :
    r.1.Sound S ∧ Public S r.2 := by
  induction ds generalizing s r with
  | nil =>
    cases h
    exact ⟨hs, Bears.public_emptyList⟩
  | cons d ds ih =>
    obtain ⟨a, ha, h⟩ := Store.bind_ok_iff.mp h
    obtain ⟨b, hb, h⟩ := Store.bind_ok_iff.mp h
    cases h
    obtain ⟨hsound, hfree⟩ := hs.ofData d ha
    obtain ⟨hlast, hrest⟩ := ih hsound hb
    exact ⟨hlast, Bears.public_cons.mpr ⟨hfree.public, hrest⟩⟩

theorem start_confined {s : Store} (hs : s.Sound S) {v : Value} (hv : Public S v) {args : List Value} (hargs : Public S args) :
    (Machine.start s v args).Confined S :=
  ⟨hs, .call hv hargs fun _ hvs => .done hvs, fun _ h => by cases h⟩

variable {env : Environment} {m : Machine}

theorem load_confined (hs : env.store.Sound S) {path : Data} (h : env.load path = .ok m) : m.Confined S := by
  obtain ⟨p, -, h⟩ := Store.bind_ok_iff.mp h
  cases h
  have hrequire : Public S (FunctionObject.native .require) := fun g hg => by
    cases hg
    exact fun _ _ _ h => by cases h
  exact start_confined (hs.newFunction hrequire) (Bears.public_function _) (Bears.public_singleton.mpr (Bears.public_ofText _))

theorem call_confined (hs : env.store.Sound S) {path function : Data} {args : List Data} {options : List (Data × Data)}
    (h : env.call path function args options = .ok m) : m.Confined S := by
  obtain ⟨normal, -, h⟩ := Store.bind_ok_iff.mp h
  split at h
  · next f _ =>
    obtain ⟨_, -, h⟩ := Store.bind_ok_iff.mp h
    obtain ⟨⟨store, vs⟩, hgiven, h⟩ := Store.bind_ok_iff.mp h
    obtain ⟨hstore, hvs⟩ := arguments_sound hs hgiven
    dsimp only at h hstore hvs
    split at h
    · cases h
      exact start_confined hstore (Bears.public_function f) hvs
    · obtain ⟨⟨store', v⟩, htable, h⟩ := Store.bind_ok_iff.mp h
      obtain ⟨hstore', hfree⟩ := hstore.ofData _ htable
      dsimp only at h hstore' hfree
      split at h
      · next t =>
        cases h
        have hmarked := hstore'.setTable (hfree t rfl) (f := fun x => { x with meta? := some store'.optionsMark }) fun x hx => hx
        exact start_confined hmarked (Bears.public_function f) (Bears.public_append.mpr ⟨hvs, Bears.public_singleton.mpr hfree.public⟩)
      · cases h
        exact start_confined hstore' (Bears.public_function f) hvs
  · cases h

end Environment

/-- A script that waited goes on confined, whatever its host answers. -/
theorem Suspension.Confined.goesOn {waiting : Suspension} (h : waiting.Confined S) {m : Machine} (hm : waiting.GoesOn m) : m.Confined S := by
  have hrefused (e : Fault) : (waiting.refuse e).Confined S :=
    ⟨h.store.newObject (.fault e), h.next _ (Bears.public_replyError.mpr (waiting.store.public_newObject _)), h.frames⟩
  cases hm with
  | refused e => exact hrefused e
  | stuck => exact ⟨h.store, h.next _ (Bears.public_replyError.mpr (Bears.public_ofText _)), h.frames⟩
  | answered a =>
    cases a with
    | function name => exact ⟨h.store, h.next _ (Bears.public_replyBuiltin name), h.frames⟩
    | error e => exact hrefused e
    | value d =>
      cases hd : waiting.store.ofData d with
      | ok r =>
        obtain ⟨hstore, hfree⟩ := h.store.ofData d hd
        simp only [Suspension.answer, hd]
        exact ⟨hstore, h.next _ (Bears.public_replyValue.mpr hfree.public), h.frames⟩
      | error e =>
        simp only [Suspension.answer, hd]
        exact hrefused e

/-! ## Stages -/

namespace Stage

/-- From one stage of an environment to the next; the host may answer anything, and the text of an error that has left all scripts may be asked from its metatable. -/
inductive Goes : Stage → Stage → Prop where
  | load {env : Environment} {path : Data} {m : Machine} (h : env.load path = .ok m) : Goes (.idle env) (.running m)
  | call {env : Environment} {path function : Data} {args : List Data} {options : List (Data × Data)} {m : Machine}
      (h : env.call path function args options = .ok m) : Goes (.idle env) (.running m)
  | step (m : Machine) : Goes (.running m) (.after m.step)
  | tell {m : Machine} {store : Store} {e : Value} (h : m.step = .failed store e) :
      Goes (.running m) (.running (.start store (store.metaEntry e "__tostring") [e]))
  | reply (request : HostCall) {waiting : Suspension} {m : Machine} (h : waiting.GoesOn m) : Goes (.asking request waiting) (.running m)

/-- A script calls `rawset` with a module. -/
def Overwrites (st : Stage) : Prop := ∃ m, st = .running m ∧ m.Overwrites

/-- The store of an environment. -/
def store : Stage → Store
  | .idle env => env.store
  | .running m => m.store
  | .asking _ waiting => waiting.store

/-- An environment in which everything under way is confined. -/
def Confined (S : List Seal) : Stage → Prop
  | .idle env => env.store.Sound S
  | .running m => m.Confined S
  | .asking _ waiting => waiting.Confined S

variable {st st' : Stage}

theorem Confined.sound (h : st.Confined S) : st.store.Sound S := by
  cases st with
  | idle env => exact h
  | running m => exact h.store
  | asking request waiting => exact h.store

theorem Confined.goes (h : st.Confined S) (hno : ¬st.Overwrites) (hn : st.Goes st') : st'.Confined S := by
  cases hn with
  | load hm => exact Environment.load_confined h hm
  | call hm => exact Environment.call_confined h hm
  | step m =>
    have hstep := Machine.Confined.step h fun hm => hno ⟨m, rfl, hm⟩
    generalize m.step = p at hstep
    cases p with
    | running m' => exact hstep
    | finished store vs => exact hstep.1
    | failed store e => exact hstep.1
    | asking request waiting => exact hstep
  | @tell m store e hm =>
    have hstep := Machine.Confined.step h fun hm => hno ⟨m, rfl, hm⟩
    rw [hm] at hstep
    exact Environment.start_confined hstep.1 (hstep.1.metaEntry _ _) (Bears.public_singleton.mpr hstep.2)
  | reply request hm => exact Suspension.Confined.goesOn h hm

/-- **Modules stay sealed** as long as no script calls `rawset` with one. -/
theorem Confined.reaches (h : st.Confined S) (hr : ReflTransGen (fun s s' => s.Goes s' ∧ ¬s.Overwrites) st st') : st'.Confined S := by
  induction hr with
  | refl => exact h
  | tail _ hn ih => exact ih.goes hn.2 hn.1

end Stage

end ScriptFlow.Script
