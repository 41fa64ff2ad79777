import Mathlib
import ScriptFlow.Proofs.Script.Outcomes
import ScriptFlow.Proofs.Script.SealedMachine

/-!
# Modules are read-only, but for `rawset`

A new environment has a seal for every module. From then on, whatever scripts do and whatever the host answers, a module stays an empty table with its metatable, as
long as no script calls `rawset` with it; so reading a field of it asks the host.

* `Environment.create_sealed` — a new environment is sealed.
* `Store.Keeps.resolves` — reading a field of a module asks the host for the attribute.
* `Environment.modules_are_read_only` — **the modules of an environment are read-only for scripts that leave `rawset` alone**.
* `Environment.rawset_writes_into_modules` — `rawset` asks no metatable: a script that uses it makes up an attribute of a module.
-/

namespace ScriptFlow.Script

open Bears (Public)
open Relation

variable {S : List Seal}

/-! ## New environments -/

/-- A store that is being built: it holds no table that is still to come. -/
structure Store.Built (s : Store) : Prop where
  tables : ∀ q : Seal, s.tables.size ≤ q.mark → ∀ t, Public [q] (s.table t)
  functions : ∀ T f g, s.function? f = some g → Public T g
  cells : s.cells = #[]
  loaded : s.loader.loaded = []
  base : s.base < s.tables.size
  options : s.optionsMark < s.tables.size

namespace Build

/-- Does a value refer to tables below an address only? -/
def isBelow (n : Nat) : Value → Bool
  | .table t => decide (t < n)
  | _ => true

theorem public_of_isBelow {n : Nat} {v : Value} (h : isBelow n v = true) {q : Seal} (hq : n ≤ q.mark) : Public [q] v := by
  rintro p hmem rfl
  have hlt : p.mark < n := of_decide_eq_true h
  rw [List.mem_singleton.mp hmem] at hlt
  exact absurd hq (Nat.not_le.mpr hlt)

/-- Is a function none that goes through the keys of a table? -/
def isPlain : FunctionObject → Bool
  | .native (.pairsNext ..) => false
  | _ => true

/-- The names every script starts with refer to tables that are there. -/
theorem standard_built : (standard.run {}).2.Built := by
  have hbelow : ((standard.run {}).2.tables.toList.all fun t => t.entries.all fun e =>
      isBelow (standard.run {}).2.tables.size e.1 && isBelow (standard.run {}).2.tables.size e.2) = true := by decide +kernel
  have hplain : ((standard.run {}).2.functions.toList.all isPlain) = true := by decide +kernel
  have hcells : (standard.run {}).2.cells.size = 0 := by decide +kernel
  have hloaded : (standard.run {}).2.loader.loaded.length = 0 := by decide +kernel
  refine ⟨fun q hq t e he => ?_, fun T f g hg => ?_, Array.eq_empty_of_size_eq_zero hcells, List.eq_nil_of_length_eq_zero hloaded, by decide +kernel,
    by decide +kernel⟩
  · unfold Store.table at he
    cases ht : (standard.run {}).2.tables[t]? with
    | none =>
      rw [ht] at he
      cases he
    | some x =>
      rw [ht] at he
      have hx := List.all_eq_true.mp hbelow x (Array.mem_toList_iff.mpr (Array.mem_of_getElem? ht))
      have hentry := List.all_eq_true.mp hx e he
      rw [Bool.and_eq_true] at hentry
      exact ⟨public_of_isBelow hentry.1 hq, public_of_isBelow hentry.2 hq⟩
  · have hmem := List.all_eq_true.mp hplain g (Array.mem_toList_iff.mpr (Array.mem_of_getElem? hg))
    rintro h rfl subject keys position rfl
    cases hmem

theorem run_bind {α β : Type} {m : Build α} {s s' : Store} {a : α} (h : m.run s = (a, s')) (f : α → Build β) : (m >>= f).run s = (f a).run s' := by
  have hbind : (m >>= f).run s = (f (m.run s).1).run (m.run s).2 := rfl
  rw [hbind, h]

/-- The seal of the module that is installed next. -/
def nextSeal (s : Store) : Seal where
  proxy := s.tables.size + 1
  mark := s.tables.size
  module := s.moduleTexts.size
  index := s.functions.size
  assign := s.functions.size + 1
  text := s.functions.size + 2

/-- The three functions of a module. -/
def withFunctions (s : Store) : Store :=
  (((s.newFunction (.native (.moduleIndex s.moduleTexts.size))).1.newFunction (.native .moduleAssign)).1.newFunction (.native (.moduleText s.moduleTexts.size))).1

/-- The two tables of a module. -/
def withTables (s : Store) : Store := (((withFunctions s).newTable (nextSeal s).record).1.newTable { meta? := some (nextSeal s).mark }).1

theorem run_install (name text : String) (s : Store) : ((install name text).run s).2 =
    { (withTables s).setTable s.base (·.set (.ofText name) (.table (nextSeal s).proxy)) with
      moduleTexts := s.moduleTexts.push text
      modules := ((nextSeal s).proxy, s.moduleTexts.size) :: s.modules } := by
  have hfields : (natives [("__index", .moduleIndex s.moduleTexts.size), ("__newindex", .moduleAssign), ("__tostring", .moduleText s.moduleTexts.size)]).run s =
      ([("__index", .function (nextSeal s).index), ("__newindex", .function (nextSeal s).assign), ("__tostring", .function (nextSeal s).text)], withFunctions s) := by
    simp [natives, native, nextSeal, withFunctions, Store.newFunction, StateT.run, modifyGet, MonadStateOf.modifyGet, StateT.modifyGet, bind, StateT.bind, pure, StateT.pure]
  have hmark : (table (("__metatable", .bool false) :: [("__index", .function (nextSeal s).index), ("__newindex", .function (nextSeal s).assign),
      ("__tostring", .function (nextSeal s).text)])).run (withFunctions s) = ((nextSeal s).mark, ((withFunctions s).newTable (nextSeal s).record).1) := rfl
  have hproxy : (table [] (some (nextSeal s).mark)).run ((withFunctions s).newTable (nextSeal s).record).1 = ((nextSeal s).proxy, withTables s) := by
    have hsize : (nextSeal s).proxy = ((withFunctions s).newTable (nextSeal s).record).1.tables.size := (Array.size_push ..).symm
    rw [hsize]
    rfl
  have hget : (get : Build Store).run s = (s, s) := rfl
  unfold install
  rw [run_bind hget, run_bind hfields, run_bind hmark, run_bind hproxy]
  rfl

theorem public_consSeal {q : Seal} {t : Table} (hq : Public [q] t) (ht : Public S t) : Public (q :: S) t := by
  have hvalue {v : Value} (h : Public [q] v) (h' : Public S v) : Public (q :: S) v :=
    List.forall_mem_cons.mpr ⟨h q (List.mem_singleton_self q), h'⟩
  exact fun e he => ⟨hvalue (hq e he).1 (ht e he).1, hvalue (hq e he).2 (ht e he).2⟩

variable {s : Store}

theorem public_native {f : Native} (h : ∀ subject keys position, f ≠ .pairsNext subject keys position) : Public S (FunctionObject.native f) := fun g hg => by
  cases hg
  exact fun subject keys position heq => absurd heq (h subject keys position)

theorem withFunctions_sound (hs : s.Sound S) : (withFunctions s).Sound S :=
  ((hs.newFunction (public_native (by simp))).newFunction (public_native (by simp))).newFunction (public_native (by simp))

theorem public_withFunctions (hs : ∀ f g, s.function? f = some g → Public S g) (f : FunctionId) (g : FunctionObject)
    (hg : (withFunctions s).function? f = some g) : Public S g :=
  Store.public_newFunction (Store.public_newFunction (Store.public_newFunction hs (public_native (by simp))) (public_native (by simp)))
    (public_native (by simp)) f g hg

theorem public_record (q : Seal) : Public S q.record :=
  Bears.public_foldl_named (Bears.public_empty _ _) (by simp [Seal.fields])

theorem withTables_sound (hs : s.Sound S) : (withTables s).Sound S :=
  ((withFunctions_sound hs).newTable (public_record _)).newTable (Bears.public_empty _ _)

/-- What an installed module leaves in the tables. -/
theorem public_tables_install (hb : s.Built) {q : Seal} (hq : s.tables.size ≤ q.mark) (hproxy : (nextSeal s).proxy ≠ q.mark) (name text : String)
    (t : TableId) : Public [q] (((install name text).run s).2.table t) := by
  rw [run_install]
  have htables : ∀ t, Public [q] ((withTables s).table t) :=
    Store.public_newTable (Store.public_newTable (hb.tables q hq) (public_record _)) (Bears.public_empty _ _)
  have hvalue : Public [q] (Value.table (nextSeal s).proxy) := fun p hp heq => hproxy (List.mem_singleton.mp hp ▸ Value.table.inj heq)
  exact Store.public_setTable htables s.base (fun x hx => Bears.public_set hx (Bears.public_ofText name) hvalue) t

/-- The functions of a new module are found. -/
theorem function?_withFunctions (s : Store) : (withFunctions s).function? (nextSeal s).index = some (.native (.moduleIndex s.moduleTexts.size)) ∧
    (withFunctions s).function? (nextSeal s).assign = some (.native .moduleAssign) := by
  have hsize (s : Store) (g : FunctionObject) : (s.newFunction g).1.functions.size = s.functions.size + 1 := Array.size_push ..
  unfold withFunctions
  constructor
  · rw [Store.function?_newFunction, Store.function?_newFunction]
    · exact Store.function?_newFunction_self s _
    · rw [hsize]
      exact (Nat.lt_succ_self _).ne
    · rw [hsize, hsize]
      exact (Nat.lt_add_of_pos_right Nat.zero_lt_two).ne
  · rw [Store.function?_newFunction]
    · have hassign : (nextSeal s).assign = (s.newFunction (.native (.moduleIndex s.moduleTexts.size))).1.functions.size := (hsize _ _).symm
      rw [hassign]
      exact Store.function?_newFunction_self _ _
    · rw [hsize, hsize]
      exact (Nat.lt_succ_self _).ne

theorem size_withTables (s : Store) : (withTables s).tables.size = s.tables.size + 2 := by
  simp [withTables, withFunctions, Store.newTable, Store.newFunction]

/-- A new module is as its seal says. -/
theorem keeps_withTables (s : Store) : (withTables s).Keeps (nextSeal s) where
  proxy := by
    have hsize : ((withFunctions s).newTable (nextSeal s).record).1.tables.size = (nextSeal s).proxy := Array.size_push ..
    unfold withTables
    rw [Store.table_newTable, if_pos hsize.symm]
  mark := by
    have hsize : ((withFunctions s).newTable (nextSeal s).record).1.tables.size = s.tables.size + 1 := Array.size_push ..
    have hne : (nextSeal s).mark ≠ ((withFunctions s).newTable (nextSeal s).record).1.tables.size := hsize ▸ Nat.ne_of_lt (Nat.lt_succ_self _)
    unfold withTables
    have hlast : (nextSeal s).mark = (withFunctions s).tables.size := rfl
    rw [Store.table_newTable, if_neg hne, Store.table_newTable, if_pos hlast]
  proxy_lt := by
    rw [size_withTables]
    exact Nat.lt_succ_self _
  mark_lt := by
    rw [size_withTables]
    exact Nat.lt_add_of_pos_right Nat.zero_lt_two
  index := (function?_withFunctions s).1
  assign := (function?_withFunctions s).2

/-- **A module that is installed is sealed**, and the others stay so. -/
theorem install_sealed (hs : s.Sound S) (hb : s.Built) (name text : String) :
    ((install name text).run s).2.Sound (nextSeal s :: S) ∧ ((install name text).run s).2.Built := by
  have hsize : ((install name text).run s).2.tables.size = s.tables.size + 2 := by
    rw [run_install]
    exact Array.size_modify.trans (size_withTables s)
  have hmark : (nextSeal s).proxy ≠ (nextSeal s).mark := (Nat.lt_succ_self _).ne'
  have hproxy : Public S (Value.table (nextSeal s).proxy) := (hs.free_size (Nat.le_succ _)).public
  have hsound : ((withTables s).setTable s.base (·.set (.ofText name) (.table (nextSeal s).proxy))).Sound S :=
    (withTables_sound hs).setTable hs.base fun x hx => Bears.public_set hx (Bears.public_ofText name) hproxy
  have hnew := public_tables_install hb le_rfl hmark name text
  have hfunctions {T : List Seal} := public_withFunctions (hb.functions T)
  have hfree : s.base ≠ (nextSeal s).proxy ∧ s.base ≠ (nextSeal s).mark := ⟨(hb.base.trans (Nat.lt_succ_self _)).ne, hb.base.ne⟩
  have hkeeps := (keeps_withTables s).setTable hfree.1 hfree.2 (·.set (.ofText name) (.table (nextSeal s).proxy))
  refine ⟨?_, ?_⟩
  · rw [run_install] at hsize hnew ⊢
    exact
      { tables := fun t => public_consSeal (hnew t) (hsound.tables t)
        cells := fun c => by
          have hcells : s.cells[c]? = none := by rw [hb.cells, Array.getElem?_empty]
          have hcell : s.cell c = .nil := congrArg (fun o : Option Value => o.getD .nil) hcells
          exact hcell ▸ Bears.public_nil
        functions := hfunctions
        loader := fun e he => by
          have hnone : e ∈ s.loader.loaded := he
          rw [hb.loaded] at hnone
          cases hnone
        base := List.forall_mem_cons.mpr ⟨hfree, hs.base⟩
        options := List.forall_mem_cons.mpr ⟨fun heq => hb.options.ne (Value.table.inj heq), hs.options⟩
        modules := congrArg (_ :: ·) hs.modules
        seals := List.forall_mem_cons.mpr ⟨{ hkeeps with }, fun q hq => { hsound.seals q hq with }⟩ }
  · refine ⟨fun q hq => ?_, ?_, ?_, ?_, ?_, ?_⟩
    · rw [hsize] at hq
      exact public_tables_install hb ((Nat.le_add_right _ 2).trans hq) (Nat.ne_of_lt hq) name text
    · rw [run_install]
      exact fun T => hfunctions
    · rw [run_install]
      exact hb.cells
    · rw [run_install]
      exact hb.loaded
    · rw [hsize, run_install]
      exact hb.base.trans (Nat.lt_add_of_pos_right Nat.zero_lt_two)
    · rw [hsize, run_install]
      exact hb.options.trans (Nat.lt_add_of_pos_right Nat.zero_lt_two)

theorem run_installs (first : Build Unit) (modules : List (String × String)) (s : Store) :
    ((do first; for m in modules do install m.1 m.2 : Build Unit).run s).2 =
      modules.foldl (fun s m => ((install m.1 m.2).run s).2) (first.run s).2 := by
  have hloop (s : Store) : ((forIn modules PUnit.unit fun m _ => do install m.1 m.2; pure (.yield ⟨⟩) : Build PUnit).run s).2 =
      modules.foldl (fun s m => ((install m.1 m.2).run s).2) s := by
    induction modules generalizing s with
    | nil => rfl
    | cons m modules ih =>
      rw [List.forIn_cons]
      exact ih _
  exact hloop _

/-- **All modules are sealed**, the one that is installed last in front. -/
theorem installs_sealed (modules : List (String × String)) {s : Store} (hs : s.Sound S) (hb : s.Built) (hsize : s.moduleTexts.size = S.length) :
    ∃ T, (modules.foldl (fun s m => ((install m.1 m.2).run s).2) s).Sound (T ++ S) ∧
      (T ++ S).map Seal.module = (List.range' S.length modules.length).reverse ++ S.map Seal.module := by
  induction modules generalizing s S with
  | nil => exact ⟨[], hs, rfl⟩
  | cons m modules ih =>
    obtain ⟨hsound, hbuilt⟩ := install_sealed hs hb m.1 m.2
    have hgrown : ((install m.1 m.2).run s).2.moduleTexts.size = (nextSeal s :: S).length := by
      rw [run_install, List.length_cons, ← hsize]
      exact Array.size_push ..
    obtain ⟨T, hT, hnumbers⟩ := ih hsound hbuilt hgrown
    have hmodule : (nextSeal s).module = S.length := hsize
    refine ⟨T ++ [nextSeal s], by simpa using hT, ?_⟩
    rw [List.append_assoc, List.singleton_append, hnumbers, List.length_cons, List.length_cons, List.range'_succ]
    simp [hmodule]

end Build

/-- Without modules there is nothing to seal. -/
theorem Store.Built.sound {s : Store} (hb : s.Built) (hmodules : s.modules = []) : s.Sound [] :=
  have hvalue (v : Value) : Public [] v := fun _ h => by cases h
  { tables := fun t e _ => ⟨hvalue e.1, hvalue e.2⟩
    cells := fun c => hvalue _
    functions := hb.functions []
    loader := fun e _ => ⟨Bears.public_plain e.1, hvalue e.2⟩
    base := fun _ h => by cases h
    options := hvalue _
    modules := hmodules
    seals := fun _ h => by cases h }

/-- **A new environment is sealed**, with one seal for each module. -/
theorem Environment.create_sealed {sources : Sources} {modules : List (String × String)} {env : Environment} (h : create sources modules = .ok env) :
    ∃ S, env.store.Sound S ∧ S.map Seal.module = (List.range modules.length).reverse := by
  obtain ⟨texts, -, h⟩ := Store.bind_ok_iff.mp h
  have hmodules : (Build.standard.run {}).2.modules.length = 0 := by decide +kernel
  have hbuilt := Build.standard_built
  have hsound := hbuilt.sound (List.eq_nil_of_length_eq_zero hmodules)
  have htexts : (Build.standard.run {}).2.moduleTexts.size = 0 := by decide +kernel
  obtain ⟨T, hsealed, hnumbers⟩ := Build.installs_sealed modules hsound hbuilt htexts
  rw [← Build.run_installs] at hsealed
  dsimp only at h
  generalize StateT.run _ _ = built at h hsealed
  cases h
  exact ⟨T ++ [], hsealed.withLoader Bears.public_emptyList, by rw [hnumbers, List.range_eq_range']; exact List.append_nil _⟩

/-! ## Reading fields -/

namespace Machine

/-- What a script does with the host's reply about an attribute. -/
def afterAttribute (n : Nat) : HostReply → Prog
  | .builtin name => Act.newNative (.builtin n name) fun v => .done [v]
  | .value v => .done [v]
  | .error e => .raise e

/-- A script that waits for an attribute of a module, and goes on with its value. -/
def awaiting (m : Machine) (n : Nat) (how : CallSite) (next : Value → Prog) : Suspension :=
  ⟨m.store, callFrame m.frames (fun vs => next (first vs)) how :: m.frames, afterAttribute n⟩

/-- Calls do not fill the stack. -/
def HasRoom (m : Machine) : Prop := (depths m.frames).1 + 1 < maxDepth ∧ (depths m.frames).2 + 1 < maxNested

theorem toProg_moduleIndex (n : Nat) (inv : Invocation) : ((Native.moduleIndex n).run inv).toProg = .host (.resolve n (inv.get 2)) (afterAttribute n) := by
  refine congrArg (Prog.host (.resolve n (inv.get 2))) (funext fun r => ?_)
  cases r with
  | builtin name => rfl
  | value v => rfl
  | error e => rfl

variable {s : Store} {q : Seal} (h : s.Keeps q) (c : Caller) (naming : Option Naming) (key : Value) (next : Value → Prog) (frames : List Frame)

include h

/-- The metatable of the module is called. -/
theorem step_index : step ⟨s, Act.index c naming (.table q.proxy) key next, frames⟩ =
    .running ⟨s, .call (.function q.index) [.table q.proxy, key] (c.callSite "index") fun vs => next (first vs), frames⟩ := by
  have hget : (s.table q.proxy).get key = .nil := by
    rw [h.proxy]
    rfl
  have hmeta : s.metaEntry (.table q.proxy) "__index" = .function q.index := (h.metaEntry _).trans q.get_index
  have hchain (fuel : Nat) : step ⟨s, Act.indexWithin c (fuel + 1) naming (.table q.proxy) key next, frames⟩ =
      .running ⟨s, .call (.function q.index) [.table q.proxy, key] (c.callSite "index") fun vs => next (first vs), frames⟩ := by
    rw [Act.indexWithin]
    · simp only [Act.bind_apply, Act.read_apply, step, hget, hmeta]
      rfl
    · exact fun _ _ heq => by cases heq
  exact hchain 1999

/-- The call of the metatable asks for the attribute, or the stack is full. -/
theorem step_call_index (how : CallSite) :
    step ⟨s, .call (.function q.index) [.table q.proxy, key] how fun vs => next (first vs), frames⟩ =
      .running ⟨s, .host (.resolve q.module key) (afterAttribute q.module), callFrame frames (fun vs => next (first vs)) how :: frames⟩ ∨
    ¬HasRoom ⟨s, .done [], frames⟩ ∧ ∃ m e, step ⟨s, .call (.function q.index) [.table q.proxy, key] how fun vs => next (first vs), frames⟩ = .running m ∧
      Rises e m.focus := by
  have hcallee : callee s 100 (.function q.index) [.table q.proxy, key] = some (q.index, [.table q.proxy, key]) := rfl
  have hnested : (depths frames).2 + (if how.nests then 1 else 0) ≤ (depths frames).2 + 1 := by
    split
    · exact le_rfl
    · exact Nat.le_succ _
  simp only [step, call, hcallee, callFrame, HasRoom, enter, h.index, toProg_moduleIndex]
  generalize (depths frames).2 + (if how.nests then 1 else 0) = nested at hnested ⊢
  split_ifs with hfull hdepth hlast
  · refine .inr ⟨fun hroom => ?_, _, _, rfl, .inr rfl⟩
    rcases Bool.or_eq_true_iff.mp hfull with hdeep | hdeep
    · have hdeep := of_decide_eq_true hdeep
      omega
    · have hdeep := of_decide_eq_true hdeep
      omega
  · exact .inr ⟨fun hroom => hroom.1.ne (eq_of_beq hdepth), _, _, rfl, .inl rfl⟩
  · refine .inr ⟨fun hroom => ?_, _, _, rfl, .inl rfl⟩
    simp only [Bool.and_eq_true, beq_iff_eq] at hlast
    omega
  · exact .inl rfl

omit h in
/-- The script asks its host for an attribute of a module, and goes on with what it gets: a value, a new function of the module, or an error. -/
structure Consults (m : Machine) (n : Nat) (key : Value) (next : Value → Prog) (waiting : Suspension) : Prop where
  asks : Environment.advance m = .asking (.resolve n key) waiting
  store : waiting.store = m.store
  value : ∀ store v, (({ waiting with store := store } : Suspension).reply (.value v)).Comes ⟨store, next v, m.frames⟩
  builtin : ∀ store name, (({ waiting with store := store } : Suspension).reply (.builtin name)).Comes
    ⟨(store.newFunction (.native (.builtin n name))).1, next (.function store.functions.size), m.frames⟩
  error : ∀ store e, (({ waiting with store := store } : Suspension).reply (.error e)).focus = .raise e

/-- **Reading a field of a module asks the host**, unless the stack is full. -/
theorem consults_index : (∃ waiting, Consults ⟨s, Act.index c naming (.table q.proxy) key next, frames⟩ q.module key next waiting) ∨
    ¬HasRoom ⟨s, Act.index c naming (.table q.proxy) key next, frames⟩ ∧
      ∃ m e, Comes ⟨s, Act.index c naming (.table q.proxy) key next, frames⟩ m ∧ Rises e m.focus := by
  have hindex := step_index h c naming key next frames
  rcases step_call_index h key next frames (c.callSite "index") with hcall | ⟨hroom, m, e, hcall, hrises⟩
  · refine .inl ⟨awaiting ⟨s, .done [], frames⟩ q.module (c.callSite "index") next, ?_, rfl, fun store v => ?_, fun store name => ?_, fun _ _ => rfl⟩
    · obtain ⟨n, hn⟩ : ∃ n, Environment.steps = n + 3 := ⟨2 ^ 62 - 3, rfl⟩
      rw [Environment.advance, hn]
      simp only [run, hindex, hcall]
      rfl
    · exact .single rfl
    · exact .head rfl (.single rfl)
  · exact .inr ⟨hroom, m, e, .head hindex (.single hcall), hrises⟩

end Machine

/-- **The answer is the module's own attribute.** -/
theorem Machine.Consults.drive {ε : Type} {m : Machine} {n : Nat} {name : String} {next : Value → Prog} {waiting : Suspension}
    (h : m.Consults n (.ofText name) next waiting) (session : Session ε) (fuel : Nat) :
    session.drive (fuel + 1) m = (do session.drive fuel (waiting.answer (← session.readAttribute n (some name) name))) := by
  have hname : waiting.store.toData (.ofText name) = .ok (.str name) := by
    have hdecode : waiting.store.toData (.ofText name) = (Utf8.decode name.toUTF8).map Data.str := rfl
    rw [hdecode, Utf8.decode_toUTF8]
    rfl
  have hask : waiting.ask (.resolve n (.ofText name)) = .attribute n (some name) name := by
    have hofName : Ask.ofName waiting.store n (.ofText name) = .ok (.attribute n (some name) name) := by
      unfold Ask.ofName
      simp only [Value.ofText] at hname ⊢
      rw [hname]
      simp [bind, Except.bind, pure, Except.pure, Data.isHashable, Data.text?, Data.text]
    simp only [Suspension.ask, Ask.ofHostCall, hofName]
  rw [Session.drive, h.asks]
  simp only [hask]

/-- The script asks its host for an attribute of a module and goes on with the answer, and in a session the answer is the module's own attribute; when the stack is full,
an error rises. -/
def Machine.Resolves (m : Machine) (n : Nat) (key : Value) (next : Value → Prog) : Prop :=
  (∃ waiting, m.Consults n key next waiting ∧
    ∀ (ε : Type) (session : Session ε) (fuel : Nat) (name : String), key = .ofText name →
      session.drive (fuel + 1) m = (do session.drive fuel (waiting.answer (← session.readAttribute n (some name) name)))) ∨
  ¬m.HasRoom ∧ ∃ m' e, m.Comes m' ∧ Rises e m'.focus

theorem Store.Keeps.resolves {s : Store} {q : Seal} (h : s.Keeps q) (c : Caller) (naming : Option Naming) (key : Value) (next : Value → Prog)
    (frames : List Frame) : Machine.Resolves ⟨s, Act.index c naming (.table q.proxy) key next, frames⟩ q.module key next := by
  rcases Machine.consults_index h c naming key next frames with ⟨waiting, hconsults⟩ | hfull
  · refine .inl ⟨waiting, hconsults, ?_⟩
    rintro ε session fuel name rfl
    exact hconsults.drive session fuel
  · exact .inr hfull

/-! ## Environments -/

namespace Environment

variable {sources : Sources} {modules : List (String × String)} {env : Environment}

/-- **Modules are read-only** for scripts that do not call `rawset` with one. From the first stage of an environment on, whatever is requested of it, whatever its scripts
do and whatever its host answers: the table that stands for a module stays without entries, its metatable is not shown, and reading a field of it, wherever that is
done, resolves through the host. -/
theorem modules_are_read_only (hcreate : create sources modules = .ok env) {st : Stage}
    (hst : ReflTransGen (fun s s' => s.Goes s' ∧ ¬s.Overwrites) (.idle env) st) :
    (∀ n < modules.length, ∃ t, (t, n) ∈ env.store.modules) ∧ ∀ t n, (t, n) ∈ env.store.modules →
      (st.store.table t).entries = [] ∧ st.store.table t = env.store.table t ∧ Act.shownMeta st.store (.table t) = .bool false ∧
      ∀ c naming key next frames, Machine.Resolves ⟨st.store, Act.index c naming (.table t) key next, frames⟩ n key next := by
  obtain ⟨S, hsound, hnumbers⟩ := create_sealed hcreate
  have hidle : (Stage.idle env).Confined S := hsound
  have hlast : st.store.Sound S := (hidle.reaches hst).sound
  refine ⟨fun n hn => ?_, fun t n ht => ?_⟩
  · have hmem : n ∈ S.map Seal.module := by
      rw [hnumbers]
      exact List.mem_reverse.mpr (List.mem_range.mpr hn)
    obtain ⟨q, hq, rfl⟩ := List.mem_map.mp hmem
    exact ⟨q.proxy, hsound.modules ▸ List.mem_map_of_mem hq⟩
  · rw [hsound.modules] at ht
    obtain ⟨q, hq, heq⟩ := List.mem_map.mp ht
    cases heq
    have hkeeps := hlast.seals q hq
    have hmeta : st.store.meta? (.table q.proxy) = some q.mark := congrArg Table.meta? hkeeps.proxy
    refine ⟨by rw [hkeeps.proxy], by rw [hkeeps.proxy, (hsound.seals q hq).proxy], ?_, hkeeps.resolves⟩
    unfold Act.shownMeta
    simp only [hmeta, hkeeps.mark, q.get_metatable]

/-- A script that is loaded leaves the module alone until it runs. -/
theorem modules_are_read_only_of_load : ∃ env m t, create [("/a.lua", "return tools.answer")] [("tools", "module")] = .ok env ∧
    env.load (.str "/a.lua") = .ok m ∧ (t, 0) ∈ env.store.modules ∧ (m.store.table t).entries = [] ∧
    ∀ c naming key next frames, Machine.Resolves ⟨m.store, Act.index c naming (.table t) key next, frames⟩ 0 key next := by
  obtain ⟨env, hcreate⟩ : ∃ env, create [("/a.lua", "return tools.answer")] [("tools", "module")] = .ok env := by
    have hpath : normalized [("/a.lua", "return tools.answer")] = .ok [("/a.lua", "return tools.answer")] := by cbv
    unfold create
    rw [hpath]
    dsimp only [bind, Except.bind]
    generalize StateT.run _ _ = built
    exact ⟨_, rfl⟩
  obtain ⟨m, hload⟩ : ∃ m, env.load (.str "/a.lua") = .ok m := by
    have hpath : ScriptPath.ofData (.str "/a.lua") = .ok "/a.lua" := by cbv
    unfold load
    rw [hpath]
    exact ⟨_, rfl⟩
  have hidle : ¬(Stage.idle env).Overwrites := by
    rintro ⟨_, h, _⟩
    cases h
  obtain ⟨hall, hread⟩ := modules_are_read_only hcreate (.single ⟨.load hload, hidle⟩)
  obtain ⟨t, ht⟩ := hall 0 Nat.zero_lt_one
  obtain ⟨hempty, -, -, hresolves⟩ := hread t 0 ht
  exact ⟨env, m, t, hcreate, hload, ht, hempty, hresolves⟩

/-- What a script gives when it is loaded in an environment with the module `tools` and ends soon, without asking its host anything. -/
def unaided (text : String) : Option (List Value) := do
  let env ← (create [("/a.lua", text)] [("tools", "module")]).toOption
  let m ← (env.load (.str "/a.lua")).toOption
  match m.run 200 with
  | some (.finished _ vs) => some vs
  | _ => none

/-- The integer that is the only value given. -/
def onlyInt? : List Value → Option Int64
  | [.int n] => some n
  | _ => none

theorem eq_of_onlyInt? {vs : List Value} {n : Int64} (h : onlyInt? vs = some n) : vs = [.int n] := by
  unfold onlyInt? at h
  split at h
  · cases h
    rfl
  · cases h

/-- **`rawset` writes into a module**: it asks no metatable, and the next read of the field gives what the script has stored. -/
theorem rawset_writes_into_modules : unaided "rawset(tools, 'answer', 1) return tools.answer" = some [.int 1] := by
  have hgiven : (unaided "rawset(tools, 'answer', 1) return tools.answer").bind onlyInt? = some 1 := by decide +kernel
  obtain ⟨vs, hvs, hone⟩ := Option.bind_eq_some_iff.mp hgiven
  rw [hvs, eq_of_onlyInt? hone]

end Environment

end ScriptFlow.Script
