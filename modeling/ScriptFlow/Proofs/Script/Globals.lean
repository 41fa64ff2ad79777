import Mathlib
import ScriptFlow.Proofs.Script.Loading
import ScriptFlow.Proofs.Script.Names
import ScriptFlow.Proofs.Script.ReadOnly
import ScriptFlow.Proofs.Script.RoundTrip

/-!
# Globals of scripts

The globals of a script are an empty table that falls back on the names shared by all scripts of its environment: the standard ones, and a name for every module.
What a name means is what the script `return name` gives.

* `Build.shared_install` — installing a module sets its own name and no other.
* `Environment.shared_create` — what the shared names of a new environment are; `Build.Extends` — everything else is as in an environment without modules.
* `Environment.advance_give` — a script that gives back a value, step by step from its request to its end.
* `Environment.denotes_module`, `Environment.denotes_standard` — **what a name means in a script**; `Environment.denotes_environment` — of `_ENV` it is
  something else than what is shared.
-/

namespace ScriptFlow.Script

/-! ## Entries under texts -/

theorem Value.rawEq_str_iff {k : Value} {s : ByteArray} : k.rawEq (.str s) = true ↔ k = .str s := by
  cases k with
  | str s' =>
    have hbeq : (Value.str s').rawEq (.str s) = (s'.data == s.data) := rfl
    rw [hbeq, beq_iff_eq, str.injEq, ByteArray.ext_iff]
  | _ => exact ⟨fun h => (nomatch h), fun h => (nomatch h)⟩

namespace Table

variable {entries : List (Value × Value)} {s s' : ByteArray} {v : Value}

theorem find_put_self (entries : List (Value × Value)) (s : ByteArray) (hv : v ≠ .nil) : find (put entries (.str s) v) (.str s) = v := by
  have hself : (Value.str s).rawEq (.str s) = true := Value.rawEq_str_iff.mpr rfl
  fun_induction put entries (.str s) v with
  | case1 | case3 => contradiction
  | case2 => simp only [find, hself, if_true]
  | case4 k _ _ hk => simp only [find, hk, if_true]
  | case5 k _ _ hk ih =>
    rw [find, if_neg hk, ih]

theorem find_put_of_ne (entries : List (Value × Value)) (h : s ≠ s') (v : Value) : find (put entries (.str s) v) (.str s') = find entries (.str s') := by
  have hother {k : Value} (hk : k.rawEq (.str s) = true) : ¬k.rawEq (.str s') = true := fun hk' =>
    h (Value.str.inj ((Value.rawEq_str_iff.mp hk).symm.trans (Value.rawEq_str_iff.mp hk')))
  have hself : ¬(Value.str s).rawEq (.str s') = true := hother (Value.rawEq_str_iff.mpr rfl)
  fun_induction put entries (.str s) v with
  | case1 => rfl
  | case2 =>
    simp only [find, hself]
    rfl
  | case3 _ _ _ hk => rw [find, if_neg (hother hk)]
  | case4 _ _ _ hk => rw [find, find, if_neg (hother hk), if_neg (hother hk)]
  | case5 k _ _ hk ih => rw [find, find, ih]

theorem exists_key_of_find (h : find entries (.str s) ≠ .nil) : ∃ e ∈ entries, e.1 = .str s := by
  fun_induction find entries (.str s) with
  | case1 => exact absurd rfl h
  | case2 k v rest hk => exact ⟨(k, v), List.mem_cons_self .., Value.rawEq_str_iff.mp hk⟩
  | case3 k v rest hk ih =>
    obtain ⟨e, he, hkey⟩ := ih h
    exact ⟨e, List.mem_cons_of_mem _ he, hkey⟩

theorem get_set_self (t : Table) (name : String) (hv : v ≠ .nil) : (t.set (.ofText name) v).get (.ofText name) = v := find_put_self _ _ hv

theorem get_set_of_ne (t : Table) {name name' : String} (h : name ≠ name') (v : Value) :
    (t.set (.ofText name) v).get (.ofText name') = t.get (.ofText name') :=
  find_put_of_ne _ (fun heq => h (String.toByteArray_inj.mp heq)) v

end Table

/-! ## Shared names -/

/-- What a name stands for in scripts that have not set it themselves. -/
def Store.shared (s : Store) (name : String) : Value := (s.table s.base).get (.ofText name)

namespace Build

variable {s s' : Store}

/-- What installing leaves alone: all that was there but the table of the shared names. -/
structure Extends (s s' : Store) : Prop where
  base : s'.base = s.base
  size : s.tables.size ≤ s'.tables.size
  tables : ∀ t < s.tables.size, t ≠ s.base → s'.table t = s.table t
  functions : ∀ f g, s.function? f = some g → s'.function? f = some g

theorem Extends.refl (s : Store) : Extends s s := ⟨rfl, le_rfl, fun _ _ _ => rfl, fun _ _ h => h⟩

theorem Extends.trans {s'' : Store} (h : Extends s s') (h' : Extends s' s'') : Extends s s'' where
  base := h'.base.trans h.base
  size := h.size.trans h'.size
  tables t ht hb := (h'.tables t (ht.trans_le h.size) (h.base.symm ▸ hb)).trans (h.tables t ht hb)
  functions f g hg := h'.functions f g (h.functions f g hg)

theorem function?_of_newFunction {f : FunctionId} {g g' : FunctionObject} (h : s.function? f = some g) : (s.newFunction g').1.function? f = some g := by
  have hlt : f < s.functions.size := (Array.getElem?_eq_some_iff.mp h).1
  rw [Store.function?_newFunction s g' hlt.ne, h]

theorem table_withTables {t : TableId} (ht : t < s.tables.size) : (withTables s).table t = s.table t := by
  have hsize : ((withFunctions s).newTable (nextSeal s).record).1.tables.size = s.tables.size + 1 := Array.size_push ..
  have hfirst : t ≠ (withFunctions s).tables.size := ht.ne
  have hsecond : t ≠ ((withFunctions s).newTable (nextSeal s).record).1.tables.size := hsize ▸ (ht.trans (Nat.lt_succ_self _)).ne
  rw [withTables, Store.table_newTable, if_neg hsecond, Store.table_newTable, if_neg hfirst]
  rfl

theorem extends_install (name text : String) (s : Store) : Extends s ((install name text).run s).2 := by
  rw [run_install]
  exact
    { base := rfl
      size := by
        have hsize : ((withTables s).setTable s.base (·.set (.ofText name) (.table (nextSeal s).proxy))).tables.size = s.tables.size + 2 :=
          Array.size_modify.trans (size_withTables s)
        exact hsize ▸ Nat.le_add_right _ 2
      tables := fun t ht hb => (Store.table_setTable_of_ne (withTables s) hb _).trans (table_withTables ht)
      functions := fun f g hg => function?_of_newFunction (function?_of_newFunction (function?_of_newFunction hg)) }

/-- **A module that is installed is shared under its name**, and nothing else changes for scripts. -/
theorem shared_install (hb : s.base < s.tables.size) (name text other : String) :
    ((install name text).run s).2.shared other = if other = name then .table (nextSeal s).proxy else s.shared other := by
  have hbase : s.base < (withTables s).tables.size := hb.trans_le (size_withTables s ▸ Nat.le_add_right _ 2)
  have htable : (((install name text).run s).2.table s.base) = (s.table s.base).set (.ofText name) (.table (nextSeal s).proxy) := by
    rw [run_install]
    exact (Store.table_setTable hbase _).trans (congrArg (Table.set · _ _) (table_withTables hb))
  rw [Store.shared, (extends_install name text s).base, htable]
  split_ifs with h
  · rw [h, Table.get_set_self _ _ (by simp)]
  · rw [Table.get_set_of_ne _ (Ne.symm h)]
    rfl

/-- A store with modules. -/
def installed (s : Store) (modules : List (String × String)) : Store := modules.foldl (fun s m => ((install m.1 m.2).run s).2) s

theorem extends_installed (modules : List (String × String)) (s : Store) : Extends s (installed s modules) := by
  induction modules generalizing s with
  | nil => exact .refl s
  | cons m modules ih => exact (extends_install m.1 m.2 s).trans (ih _)

theorem shared_installed_of_not_mem {modules : List (String × String)} {other : String} (h : other ∉ modules.map Prod.fst) (hb : s.base < s.tables.size) :
    (installed s modules).shared other = s.shared other := by
  induction modules generalizing s with
  | nil => rfl
  | cons m modules ih =>
    obtain ⟨hm, hrest⟩ := not_or.mp (mt List.mem_cons.mpr h)
    have hstep := extends_install m.1 m.2 s
    have hb' : ((install m.1 m.2).run s).2.base < ((install m.1 m.2).run s).2.tables.size := (hstep.base.symm ▸ hb).trans_le hstep.size
    exact (ih hrest hb').trans ((shared_install hb _ _ _).trans (if_neg hm))

theorem modules_installed (modules : List (String × String)) (s : Store) : s.modules ⊆ (installed s modules).modules := by
  induction modules generalizing s with
  | nil => exact List.Subset.refl _
  | cons m modules ih =>
    have hfirst : s.modules ⊆ ((install m.1 m.2).run s).2.modules := by
      rw [run_install]
      exact List.subset_cons_self ..
    exact List.Subset.trans hfirst (ih _)

/-- **Every module is shared under its name**, if no later one takes the name. -/
theorem shared_installed {modules : List (String × String)} (hnames : (modules.map Prod.fst).Nodup) (hb : s.base < s.tables.size) {i : Nat}
    {m : String × String} (hm : modules[i]? = some m) :
    ∃ t, (installed s modules).shared m.1 = .table t ∧ (t, s.moduleTexts.size + i) ∈ (installed s modules).modules := by
  induction modules generalizing s i with
  | nil => cases hm
  | cons first modules ih =>
    obtain ⟨hfirst, hnames⟩ := List.nodup_cons.mp hnames
    have hstep := extends_install first.1 first.2 s
    have hb' : ((install first.1 first.2).run s).2.base < ((install first.1 first.2).run s).2.tables.size := (hstep.base.symm ▸ hb).trans_le hstep.size
    cases i with
    | zero =>
      cases hm
      have hmem : ((nextSeal s).proxy, s.moduleTexts.size) ∈ ((install m.1 m.2).run s).2.modules := by
        rw [run_install]
        exact List.mem_cons_self ..
      exact ⟨(nextSeal s).proxy, (shared_installed_of_not_mem hfirst hb').trans ((shared_install hb _ _ _).trans (if_pos rfl)),
        modules_installed modules _ hmem⟩
    | succ i =>
      obtain ⟨t, hshared, hmem⟩ := ih hnames hb' (List.getElem?_cons_succ ▸ hm)
      have hsize : ((install first.1 first.2).run s).2.moduleTexts.size = s.moduleTexts.size + 1 := by
        rw [run_install]
        exact Array.size_push ..
      refine ⟨t, hshared, ?_⟩
      rw [hsize, Nat.add_assoc, Nat.add_comm 1] at hmem
      exact hmem

end Build


namespace Environment

variable {sources : Sources} {modules : List (String × String)} {env : Environment}

/-- The store of an environment without modules. -/
def standardStore : Store := (Build.standard.run {}).2

/-- A new environment is the standard one with its modules. -/
theorem store_create (h : create sources modules = .ok env) :
    ∃ texts, env.store = { Build.installed standardStore modules with loader := { sources := texts } } := by
  obtain ⟨texts, -, h⟩ := Store.bind_ok_iff.mp h
  have hstore := Build.run_installs Build.standard modules {}
  dsimp only at h
  generalize StateT.run _ _ = built at h hstore
  cases h
  exact ⟨texts.reverse, congrArg (fun s : Store => { s with loader := { sources := texts.reverse } }) hstore⟩

/-- **Every name means what it was made for**: a module's own name the module, every other name what it means without modules. -/
theorem shared_create (h : create sources modules = .ok env) (hnames : (modules.map Prod.fst).Nodup) :
    (∀ i m, modules[i]? = some m → ∃ t, env.store.shared m.1 = .table t ∧ (t, i) ∈ env.store.modules) ∧
    (∀ name ∉ modules.map Prod.fst, env.store.shared name = standardStore.shared name) ∧ Build.Extends standardStore env.store := by
  obtain ⟨texts, hstore⟩ := store_create h
  have hbase : standardStore.base < standardStore.tables.size := by decide +kernel
  have hcount : standardStore.moduleTexts.size = 0 := by decide +kernel
  rw [hstore]
  refine ⟨fun i m hm => ?_, fun name hname => Build.shared_installed_of_not_mem hname hbase, { Build.extends_installed modules standardStore with }⟩
  obtain ⟨t, hshared, hmem⟩ := Build.shared_installed hnames hbase hm
  rw [hcount, Nat.zero_add] at hmem
  exact ⟨t, hshared, hmem⟩

end Environment

/-! ## Running the script that gives back a name -/

/-- The store in which the statements of a script begin, and the globals of the script. -/
def Store.entered (s : Store) (path : String) : Store × TableId :=
  let s := (s.newFunction (.native .require)).1
  let shared := s.newTable (({} : Table).set (.ofText "__index") (.table s.base))
  let made := shared.1.newTable { meta? := some shared.2 }
  (({ made.1 with loader := made.1.loader.start path }.newCell (.table made.2)).1, made.2)

namespace Machine

theorem run_of_step {m m' : Machine} (h : m.step = .running m') (n : Nat) : m.run (n + 1) = m'.run n := by
  rw [run, h]

/-- The frames of a script that was requested from outside. -/
def scriptFrames (path : String) (globals : TableId) : List Frame :=
  let frames := [.loading path globals, callFrame [] .done {}]
  let frames := callFrame frames .done {} :: frames
  callFrame frames .done { nests := true } :: frames

/-- A script that is requested comes to its statements. -/
theorem run_load {env : Environment} {d : Data} {path text : String} {body : List Stat} (hd : ScriptPath.ofData d = .ok path)
    (hsource : env.store.loader.source? path = some text) (hu : env.store.loader.Untraced path) (hparse : parseScript path text = .ok body) :
    ∃ m, env.load d = .ok m ∧ ∀ n, m.run (n + 6) = Machine.run n ⟨(env.store.entered path).1,
      Stat.body body ⟨[env.store.cells.size], [], chunkName path⟩, scriptFrames path (env.store.entered path).2⟩ := by
  let store := (env.store.newFunction (.native .require)).1
  let inv : Invocation := ⟨[.ofText path], none, none, Native.require.own⟩
  have hload : env.load d = .ok (.start store (.function env.store.functions.size) [.ofText path]) := by
    simp only [Environment.load, hd]
    rfl
  have hfunction : store.function? env.store.functions.size = some (.native .require) := Store.function?_newFunction_self ..
  have hcall : (Machine.start store (.function env.store.functions.size) [.ofText path]).step =
      .running ⟨store, (Native.require.run inv).toProg, [callFrame [] .done {}]⟩ := by
    simp only [Machine.start, step, call, callee, callFrame, depths, enter, hfunction]
    rfl
  have hnamed : store.sourceOf (.ofText path) = .ok (path, text) := by
    have hsource : store.loader.source? path = some text := hsource
    simp only [Store.sourceOf, Value.ofText, Utf8.decode_toUTF8, bind, Except.bind, ScriptPath.ofData_normal hd, hsource]
    rfl
  have hloaded : store.loader.loaded? path = none := hu.loaded
  have hcontains : ¬store.loader.loading.contains path = true := fun h => hu.loading (List.contains_iff_mem.mp h)
  refine ⟨_, hload, fun n => ?_⟩
  rw [run_of_step hcall]
  refine (run_of_step (step_sourceOf hnamed _ _) _).trans ?_
  simp only [Act.bind_apply, Act.read_apply]
  refine (run_of_step (step_touch _ _ _) _).trans ?_
  simp only [hloaded]
  rw [if_neg hcontains]
  simp only [hparse]
  refine (run_of_step (step_touch _ _ _) _).trans ((run_of_step (step_touch _ _ _) _).trans ((run_of_step ?_ _).trans rfl))
  rfl

/-- A script that was requested from outside and has ended is the end of the machine. -/
theorem run_finish (store : Store) (path : String) (globals : TableId) (vs : List Value) (n : Nat) :
    run (n + 5) ⟨store, .done vs, scriptFrames path globals⟩ =
      some (.finished { store with loader := (store.loader.finish path globals (first vs)).1 } [Loader.kept globals vs]) := rfl

/-- The statements of a script that gives back a value. -/
theorem run_give (store : Store) (e : Exp) (sc : Scope) (frames : List Frame) (n : Nat) :
    run (n + 1) ⟨store, Stat.body [.give [e]] sc, frames⟩ = run n ⟨store, (Exp.values sc e) .done, frames⟩ := rfl

/-- Reading an entry that is there. -/
theorem step_index_found {store : Store} {t : TableId} {key v : Value} (h : (store.table t).get key = v) (hv : v ≠ .nil) (c : Caller) (fuel : Nat)
    (naming : Option Naming) (next : Value → Prog) (frames : List Frame) :
    step ⟨store, Act.indexWithin c (fuel + 1) naming (.table t) key next, frames⟩ = .running ⟨store, next v, frames⟩ := by
  rw [Act.indexWithin]
  · simp only [Act.bind_apply, Act.read_apply, step, h]
    cases v with
    | nil => exact absurd rfl hv
    | _ => rfl
  · exact fun _ _ heq => by cases heq

/-- Reading an entry that is not there asks the table that stands in. -/
theorem step_index_absent {store : Store} {t other : TableId} {key : Value} (h : (store.table t).get key = .nil)
    (hmeta : store.metaEntry (.table t) "__index" = .table other) (c : Caller) (fuel : Nat) (naming : Option Naming) (next : Value → Prog) (frames : List Frame) :
    step ⟨store, Act.indexWithin c (fuel + 1) naming (.table t) key next, frames⟩ =
      .running ⟨store, Act.indexWithin c fuel none (.table other) key next, frames⟩ := by
  rw [Act.indexWithin]
  · simp only [Act.bind_apply, Act.read_apply, step, h, hmeta]
  · exact fun _ _ heq => by cases heq

/-- A global that a script has not set is the shared one. -/
theorem run_global {store : Store} {globals mark : TableId} {c : CellId} {v : Value} {name chunk : ByteArray} (hv : v ≠ .nil)
    (hcell : store.cell c = .table globals) (hglobals : store.table globals = { meta? := some mark })
    (hmark : (store.table mark).get (.ofText "__index") = .table store.base) (hshared : (store.table store.base).get (.str name) = v)
    (frames : List Frame) (n : Nat) : run (n + 3) ⟨store, (Exp.values ⟨[c], [], chunk⟩ (.index (.var environmentVariable) (.value (.str name)) 1)) .done, frames⟩ =
      run n ⟨store, .done [v], frames⟩ := by
  have hget : (store.table globals).get (.str name) = .nil := by
    rw [hglobals]
    rfl
  have hmeta : store.metaEntry (.table globals) "__index" = .table store.base := by
    have hfound : store.meta? (.table globals) = some mark := congrArg Table.meta? hglobals
    rw [Store.metaEntry, hfound]
    exact hmark
  have hread : step ⟨store, (Exp.values ⟨[c], [], chunk⟩ (.index (.var environmentVariable) (.value (.str name)) 1)) .done, frames⟩ =
      .running ⟨store, Act.indexWithin (.script chunk 1) 2000 (some ⟨"upvalue", "_ENV".toUTF8⟩) (.table globals) (.str name) fun v => .done [v],
        frames⟩ := by
    rw [← hcell]
    rfl
  rw [run_of_step hread, run_of_step (step_index_absent hget hmeta _ 1999 _ _ _), run_of_step (step_index_found hshared hv _ 1998 _ _ _)]

end Machine

namespace Store

variable (s : Store) (path : String)

theorem globals_entered : (s.entered path).2 = s.tables.size + 1 := Array.size_push ..

/-- Two tables are new: the globals of the script, and what sends look-ups in them on to the shared names. -/
theorem table_entered (t : TableId) : (s.entered path).1.table t =
    if t = s.tables.size + 1 then { meta? := some s.tables.size }
    else if t = s.tables.size then ({} : Table).set (.ofText "__index") (.table s.base) else s.table t := by
  have hsize : ((s.newFunction (.native .require)).1.newTable (({} : Table).set (.ofText "__index") (.table s.base))).1.tables.size = s.tables.size + 1 :=
    Array.size_push ..
  have hentered : (s.entered path).1.table t = (((s.newFunction (.native .require)).1.newTable
    (({} : Table).set (.ofText "__index") (.table s.base))).1.newTable { meta? := some s.tables.size }).1.table t := rfl
  rw [hentered, table_newTable, table_newTable, hsize]
  rfl

theorem extends_entered : Build.Extends s (s.entered path).1 where
  base := rfl
  size := by
    have hsize : (s.entered path).1.tables.size = s.tables.size + 1 + 1 := (Array.size_push ..).trans (congrArg (· + 1) (Array.size_push ..))
    exact hsize ▸ Nat.le_add_right _ 2
  tables t ht _ := by rw [table_entered, if_neg (ht.trans (Nat.lt_succ_self _)).ne, if_neg ht.ne]
  functions f g hg := Build.function?_of_newFunction hg

end Store

namespace Environment

variable {env : Environment} {d : Data} {path name : String}

/-- The end of a script that gives back a value. -/
def endOf (env : Environment) (path : String) (v : Value) : Store :=
  { (env.store.entered path).1 with loader := ((env.store.entered path).1.loader.finish path (env.store.entered path).2 v).1 }

/-- A script that gives back what an expression evaluates to in a few steps. -/
theorem advance_give {text : String} {e : Exp} {v : Value} (hd : ScriptPath.ofData d = .ok path) (hsource : env.store.loader.source? path = some text)
    (hu : env.store.loader.Untraced path) (hparse : parseScript path text = .ok [.give [e]]) {k : Nat} (hk : k ≤ 3)
    (hvalue : ∀ n, Machine.run (n + k) ⟨(env.store.entered path).1, (Exp.values ⟨[env.store.cells.size], [], chunkName path⟩ e) .done,
      Machine.scriptFrames path (env.store.entered path).2⟩ =
        Machine.run n ⟨(env.store.entered path).1, .done [v], Machine.scriptFrames path (env.store.entered path).2⟩) :
    ∃ m, env.load d = .ok m ∧ advance m = .finished (env.endOf path v) [Loader.kept (env.store.entered path).2 [v]] := by
  obtain ⟨m, hload, hrun⟩ := Machine.run_load hd hsource hu hparse
  obtain ⟨n, hn⟩ : ∃ n, steps = n + 5 + k + 1 + 6 := ⟨2 ^ 62 - 12 - k, by have hsteps : steps = 2 ^ 62 := rfl; omega⟩
  refine ⟨m, hload, ?_⟩
  rw [advance, hn, hrun, Machine.run_give, hvalue, Machine.run_finish]
  rfl

theorem parseScript_return (path name : String) : parseScript path ("return " ++ name) = Chunk.parse (chunkName path) ("return " ++ name).toUTF8 := by
  have hhead : (("return " ++ name).toList.head? == some '\x1b') = false := by
    rw [String.toList_append]
    rfl
  rw [parseScript, hhead]
  rfl

/-- **A script that names a global gets the shared one.** -/
theorem gives_shared (hd : ScriptPath.ofData d = .ok path) (hsource : env.store.loader.source? path = some ("return " ++ name))
    (hu : env.store.loader.Untraced path) (hname : Lexer.IsName name.toUTF8.toList) (hne : name ≠ "_ENV") (hbase : env.store.base < env.store.tables.size)
    (hv : env.store.shared name ≠ .nil) :
    ∃ m, env.load d = .ok m ∧ advance m = .finished (env.endOf path (env.store.shared name)) [env.store.shared name] := by
  have hkept : Loader.kept (env.store.entered path).2 [env.store.shared name] = env.store.shared name := by
    unfold Loader.kept first
    split
    · next h => exact absurd h hv
    · rfl
  have hglobals : (env.store.entered path).1.table (env.store.entered path).2 = { meta? := some env.store.tables.size } := by
    rw [Store.globals_entered, Store.table_entered, if_pos rfl]
  have hmark : ((env.store.entered path).1.table env.store.tables.size).get (.ofText "__index") = .table (env.store.entered path).1.base := by
    rw [Store.table_entered, if_neg (Nat.lt_succ_self _).ne, if_pos rfl]
    exact Table.get_set_self _ _ (by simp)
  have hshared : ((env.store.entered path).1.table (env.store.entered path).1.base).get (.str name.toUTF8) = env.store.shared name := by
    rw [(env.store.extends_entered path).base, Store.table_entered, if_neg (hbase.trans (Nat.lt_succ_self _)).ne, if_neg hbase.ne]
    rfl
  have hcell : (env.store.entered path).1.cell env.store.cells.size = .table (env.store.entered path).2 :=
    congrArg (Option.getD · Value.nil) Array.getElem?_push_size
  have hgives := advance_give hd hsource hu ((parseScript_return path name).trans (Chunk.parse_global _ hname hne)) le_rfl fun n =>
    Machine.run_global hv hcell hglobals hmark hshared (Machine.scriptFrames path (env.store.entered path).2) n
  rw [hkept] at hgives
  exact hgives

/-- **The environment of a script is its own.** -/
theorem gives_environment (hd : ScriptPath.ofData d = .ok path) (hsource : env.store.loader.source? path = some ("return " ++ "_ENV"))
    (hu : env.store.loader.Untraced path) :
    ∃ m, env.load d = .ok m ∧ advance m = .finished (env.endOf path (.table (env.store.entered path).2)) [.table (env.store.entered path).2] := by
  have hcell : (env.store.entered path).1.cell env.store.cells.size = .table (env.store.entered path).2 :=
    congrArg (Option.getD · Value.nil) Array.getElem?_push_size
  refine advance_give hd hsource hu ((parseScript_return path "_ENV").trans (Chunk.parse_environment _)) (Nat.le_add_left 1 2) fun n => ?_
  rw [← hcell]
  rfl

/-! ## What names mean -/

/-- A module stays as it is where nothing but the shared names change. -/
theorem keeps_of_extends {s s' : Store} {q : Seal} (h : Build.Extends s s') (hk : s.Keeps q) (hproxy : s.base ≠ q.proxy)
    (hmark : s.base ≠ q.mark) : s'.Keeps q where
  proxy := (h.tables _ hk.proxy_lt hproxy.symm).trans hk.proxy
  mark := (h.tables _ hk.mark_lt hmark.symm).trans hk.mark
  proxy_lt := hk.proxy_lt.trans_le h.size
  mark_lt := hk.mark_lt.trans_le h.size
  index := h.functions _ _ hk.index
  assign := h.functions _ _ hk.assign

variable {sources : Sources} {modules : List (String × String)}

/-- **A module answers for itself** at the end of such a script. -/
theorem resolves_endOf (h : create sources modules = .ok env) {t : TableId} {i : Nat} (ht : (t, i) ∈ env.store.modules) (path : String) (v : Value) (c : Caller)
    (naming : Option Naming) (key : Value) (next : Value → Prog) (frames : List Frame) :
    Machine.Resolves ⟨env.endOf path v, Act.index c naming (.table t) key next, frames⟩ i key next := by
  obtain ⟨S, hsound, -⟩ := create_sealed h
  rw [hsound.modules] at ht
  obtain ⟨q, hq, heq⟩ := List.mem_map.mp ht
  cases heq
  have hextends : Build.Extends env.store (env.endOf path v) := { env.store.extends_entered path with }
  exact (keeps_of_extends hextends (hsound.seals q hq) (hsound.base q hq).1 (hsound.base q hq).2).resolves c naming key next frames

/-- The addresses of the modules are in use. -/
theorem lt_of_mem_modules (h : create sources modules = .ok env) {t : TableId} {i : Nat} (ht : (t, i) ∈ env.store.modules) : t < env.store.tables.size := by
  obtain ⟨S, hsound, -⟩ := create_sealed h
  rw [hsound.modules] at ht
  obtain ⟨q, hq, heq⟩ := List.mem_map.mp ht
  cases heq
  exact (hsound.seals q hq).proxy_lt

/-- What the script that only gives back a name gives, wherever it stands among the sources. -/
def Denotes (env : Environment) (name : String) (P : Store → Value → Prop) : Prop :=
  ∀ d path, ScriptPath.ofData d = .ok path → env.store.loader.source? path = some ("return " ++ name) →
    ∃ m store v, env.load d = .ok m ∧ advance m = .finished store [v] ∧ P store v

theorem untraced_create (h : create sources modules = .ok env) (path : String) : env.store.loader.Untraced path := by
  obtain ⟨texts, hstore⟩ := store_create h
  rw [hstore]
  exact ⟨List.not_mem_nil, rfl, rfl⟩

theorem denotes_shared (h : create sources modules = .ok env) (hname : Lexer.IsName name.toUTF8.toList) (hne : name ≠ "_ENV")
    (hv : env.store.shared name ≠ .nil) : env.Denotes name fun store v => v = env.store.shared name ∧ ∃ path, store = env.endOf path v := by
  obtain ⟨texts, hstore⟩ := store_create h
  have hbase : env.store.base < env.store.tables.size := by
    have hstandard : standardStore.base < standardStore.tables.size := by decide +kernel
    have hextends := Build.extends_installed modules standardStore
    rw [hstore]
    exact (hextends.base.symm ▸ hstandard).trans_le hextends.size
  intro d path hd hsource
  obtain ⟨m, hload, hends⟩ := gives_shared hd hsource (untraced_create h path) hname hne hbase hv
  exact ⟨m, _, _, hload, hends, rfl, path, rfl⟩

/-- **The name of a module means the module.** -/
theorem denotes_module (h : create sources modules = .ok env) (hnames : (modules.map Prod.fst).Nodup) {i : Nat} {m : String × String} (hm : modules[i]? = some m)
    (hname : Lexer.IsName m.1.toUTF8.toList) (hne : m.1 ≠ "_ENV") : env.Denotes m.1 fun store v => ∃ t, v = .table t ∧ (t, i) ∈ env.store.modules ∧
      ∀ c naming key next frames, Machine.Resolves ⟨store, Act.index c naming v key next, frames⟩ i key next := by
  obtain ⟨t, hshared, hmem⟩ := (shared_create h hnames).1 i m hm
  intro d path hd hsource
  obtain ⟨m', store, v, hload, hends, hv, path', hstore⟩ := denotes_shared h hname hne (by simp [hshared]) d path hd hsource
  rw [hshared] at hv
  refine ⟨m', store, v, hload, hends, t, hv, hmem, ?_⟩
  rw [hstore, hv]
  exact resolves_endOf h hmem path' (.table t)

/-- **A standard name that no module has taken keeps its meaning.** -/
theorem denotes_standard (h : create sources modules = .ok env) (hnames : (modules.map Prod.fst).Nodup) (hfree : name ∉ modules.map Prod.fst)
    (hname : Lexer.IsName name.toUTF8.toList) (hne : name ≠ "_ENV") (hv : standardStore.shared name ≠ .nil) :
    env.Denotes name fun _ v => v = standardStore.shared name := by
  have hshared := (shared_create h hnames).2.1 name hfree
  rw [← hshared] at hv
  intro d path hd hsource
  obtain ⟨m, store, v, hload, hends, hgiven, -⟩ := denotes_shared h hname hne hv d path hd hsource
  exact ⟨m, store, v, hload, hends, hgiven.trans hshared⟩

/-- **`_ENV` means the globals of the script**, which are no module. -/
theorem denotes_environment (h : create sources modules = .ok env) :
    env.Denotes "_ENV" fun _ v => ∃ globals, v = .table globals ∧ ∀ i, (globals, i) ∉ env.store.modules := by
  intro d path hd hsource
  obtain ⟨m, hload, hends⟩ := gives_environment hd hsource (untraced_create h path)
  refine ⟨m, _, _, hload, hends, _, rfl, fun i hmem => ?_⟩
  have hlt := lt_of_mem_modules h hmem
  rw [Store.globals_entered] at hlt
  exact absurd hlt (Nat.not_lt.mpr (Nat.le_succ _))

end Environment

end ScriptFlow.Script
