import Mathlib
import ScriptFlow.Proofs.Script.Conversion
import ScriptFlow.Script.Library.Modules

/-!
# Modules under seal

A module is a table without entries whose metatable answers for it. A `Seal` says which table that is, which metatable, and which functions are there. Scripts never
come to hold the metatable itself: a value is *public* when it is no such metatable.

* `Bears.Public` — everything in something is public.
* `Store.Sound` — a store in which everything is public and every module is as its seal says.
* `Store.Sound.setTable`, `Store.Sound.newTable`, … — what keeps a store sound: a table may be written that is *free*, neither a module nor its metatable.
-/

namespace ScriptFlow.Script

/-- A module: the table that stands for it, its metatable, its place among the modules, and the functions of the metatable. -/
structure Seal where
  proxy : TableId
  mark : TableId
  module : Nat
  index : FunctionId
  assign : FunctionId
  text : FunctionId

namespace Seal

/-- The fields of the metatable of a module. -/
def fields (q : Seal) : List (String × Value) :=
  [("__metatable", .bool false), ("__index", .function q.index), ("__newindex", .function q.assign), ("__tostring", .function q.text)]

/-- The metatable of a module. -/
def record (q : Seal) : Table := q.fields.foldl (fun t e => t.set (.ofText e.1) e.2) {}

end Seal

variable {S : List Seal}

/-- The value is not the metatable of a module. -/
def Value.Public (S : List Seal) (v : Value) : Prop := ∀ q ∈ S, v ≠ .table q.mark

/-- The table is neither a module nor the metatable of one. -/
def Free (S : List Seal) (t : TableId) : Prop := ∀ q ∈ S, t ≠ q.proxy ∧ t ≠ q.mark

/-- The value is neither a module nor the metatable of one. -/
def Value.Free (S : List Seal) (v : Value) : Prop := ∀ t, v = .table t → Script.Free S t

theorem Value.Free.public {v : Value} (h : v.Free S) : v.Public S := by
  rintro q hq rfl
  exact (h q.mark rfl q hq).2 rfl

theorem Free.public {t : TableId} (h : Free S t) : (Value.table t).Public S := fun q hq heq => (h q hq).2 (Value.table.inj heq)

/-! ## What holds values -/

/-- What may hold values: when are all of them public? -/
class Bears (α : Type) where
  Public : List Seal → α → Prop

/-- What holds no values. -/
class Inert (α : Type) : Prop

instance : Inert PUnit := ⟨⟩
instance : Inert Bool := ⟨⟩
instance : Inert Nat := ⟨⟩
instance : Inert Int := ⟨⟩
instance : Inert Float := ⟨⟩
instance : Inert UInt8 := ⟨⟩
instance : Inert Char := ⟨⟩
instance : Inert String := ⟨⟩
instance : Inert ByteArray := ⟨⟩
instance : Inert Data := ⟨⟩

namespace Bears

variable {α β : Type}

/-- What holds no values. -/
instance (priority := low) [Inert α] : Bears α := ⟨fun _ _ => True⟩

instance : Bears Value := ⟨Value.Public⟩

instance [Bears α] : Bears (List α) := ⟨fun S xs => ∀ x ∈ xs, Public S x⟩

instance [Bears α] : Bears (Option α) := ⟨fun S o => ∀ x, o = some x → Public S x⟩

instance [Bears α] [Bears β] : Bears (α × β) := ⟨fun S p => Public S p.1 ∧ Public S p.2⟩

/-- What a guarded call comes back with. -/
instance : Bears (Except Value (List Value)) :=
  ⟨fun S r => (∀ vs, r = .ok vs → Public S vs) ∧ ∀ e, r = .error e → Public S e⟩

/-- What bears no values that are not public. -/
class Plain (α : Type) [Bears α] : Prop where
  all_public : ∀ S (a : α), Public S a

instance [Inert α] : Plain α := ⟨fun _ _ => trivial⟩

instance [Bears α] [Plain α] : Plain (List α) := ⟨fun S _ a _ => Plain.all_public S a⟩

instance [Bears α] [Plain α] : Plain (Option α) := ⟨fun S _ a _ => Plain.all_public S a⟩

instance [Bears α] [Bears β] [Plain α] [Plain β] : Plain (α × β) := ⟨fun S p => ⟨Plain.all_public S p.1, Plain.all_public S p.2⟩⟩

instance : Bears Table := ⟨fun S t => Public S t.entries⟩

instance : Bears HostReply := ⟨fun S r => (∀ v, r = .value v → Public S v) ∧ ∀ e, r = .error e → Public S e⟩

instance : Bears Loader := ⟨fun S l => Public S l.loaded⟩

instance : Bears Scope := ⟨fun S sc => Public S sc.varargs⟩

instance : Bears Invocation := ⟨fun S inv => Public S inv.args⟩

instance : Bears Native := ⟨fun S f => ∀ subject keys position, f = .pairsNext subject keys position → Public S subject ∧ Public S keys.toList⟩

instance : Bears FunctionObject := ⟨fun S f => ∀ g, f = .native g → Public S g⟩

/-! ### What is public -/

section

variable {v : Value} {vs : List Value}

@[simp, grind .]
theorem public_plain [Bears α] [Plain α] (a : α) : Public S a := Plain.all_public S a

@[simp, grind .]
theorem public_nil : Public S Value.nil := fun _ _ h => by cases h

@[simp, grind .]
theorem public_bool (b : Bool) : Public S (Value.bool b) := fun _ _ h => by cases h

@[simp, grind .]
theorem public_int (n : Int64) : Public S (Value.int n) := fun _ _ h => by cases h

@[simp, grind .]
theorem public_float (x : Float) : Public S (Value.float x) := fun _ _ h => by cases h

@[simp, grind .]
theorem public_str (s : ByteArray) : Public S (Value.str s) := fun _ _ h => by cases h

@[simp, grind .]
theorem public_ofText (s : String) : Public S (Value.ofText s) := public_str _

@[simp, grind .]
theorem public_function (f : FunctionId) : Public S (Value.function f) := fun _ _ h => by cases h

@[simp, grind .]
theorem public_object (id : Nat) (d : Data) : Public S (Value.object id d) := fun _ _ h => by cases h

@[simp, grind .]
theorem public_intValue (n : Int) : Public S (intValue n) := public_int _

@[simp, grind .]
theorem public_emptyList [Bears α] : Public S ([] : List α) := fun _ h => by cases h

@[simp, grind =]
theorem public_cons [Bears α] {a : α} {as : List α} : Public S (a :: as) ↔ Public S a ∧ Public S as := List.forall_mem_cons

@[grind =]
theorem public_singleton [Bears α] {a : α} : Public S [a] ↔ Public S a := by simp

@[simp, grind =]
theorem public_append [Bears α] {as bs : List α} : Public S (as ++ bs) ↔ Public S as ∧ Public S bs := List.forall_mem_append

@[simp, grind =]
theorem public_pair [Bears α] [Bears β] {a : α} {b : β} : Public S (a, b) ↔ Public S a ∧ Public S b := Iff.rfl

@[simp, grind .]
theorem public_none [Bears α] : Public S (none : Option α) := fun _ h => by cases h

@[simp, grind =]
theorem public_some [Bears α] {a : α} : Public S (some a) ↔ Public S a :=
  ⟨fun h => h a rfl, fun h _ heq => Option.some.inj heq ▸ h⟩

@[simp, grind =]
theorem public_ok : Public S (Except.ok vs : Except Value (List Value)) ↔ Public S vs :=
  ⟨fun h => h.1 vs rfl, fun h => ⟨fun _ heq => Except.ok.inj heq ▸ h, fun _ heq => by cases heq⟩⟩

@[simp, grind =]
theorem public_error : Public S (Except.error v : Except Value (List Value)) ↔ Public S v :=
  ⟨fun h => h.2 v rfl, fun h => ⟨fun _ heq => (by cases heq), fun _ heq => Except.error.inj heq ▸ h⟩⟩

@[simp, grind =]
theorem public_replyValue : Public S (HostReply.value v) ↔ Public S v :=
  ⟨fun h => h.1 v rfl, fun h => ⟨fun _ heq => HostReply.value.inj heq ▸ h, fun _ heq => by cases heq⟩⟩

@[simp, grind =]
theorem public_replyError : Public S (HostReply.error v) ↔ Public S v :=
  ⟨fun h => h.2 v rfl, fun h => ⟨fun _ heq => (by cases heq), fun _ heq => HostReply.error.inj heq ▸ h⟩⟩

@[simp, grind .]
theorem public_replyBuiltin (name : String) : Public S (HostReply.builtin name) := ⟨fun _ h => (by cases h), fun _ h => by cases h⟩

theorem public_of_subset [Bears α] {as bs : List α} (h : Public S bs) (hsub : as ⊆ bs) : Public S as := fun a ha => h a (hsub ha)

@[grind ←]
theorem public_drop [Bears α] {as : List α} (h : Public S as) (n : Nat) : Public S (as.drop n) := public_of_subset h (List.drop_subset n as)

@[grind ←]
theorem public_dropLast [Bears α] {as : List α} (h : Public S as) : Public S as.dropLast := public_of_subset h (List.dropLast_subset as)

@[grind ←]
theorem public_first (h : Public S vs) : Public S (first vs) := by
  cases vs with
  | nil => exact public_nil
  | cons v vs => exact (public_cons.mp h).1

theorem public_getD {o : Option Value} (h : Public S o) : Public S (o.getD .nil) := by
  cases o with
  | none => exact public_nil
  | some v => exact public_some.mp h

theorem public_getElem? (h : Public S vs) (i : Nat) : Public S vs[i]? := fun v hv => h v (List.mem_of_getElem? hv)

@[grind ←]
theorem public_arg (h : Public S vs) (i : Nat) : Public S (arg vs i) := public_getD (public_getElem? h i)

@[grind ←]
theorem public_adjust (h : Public S vs) (n : Nat) : Public S (adjust n vs) := by
  induction n generalizing vs with
  | zero => exact public_emptyList
  | succ n ih =>
    cases vs with
    | nil => exact public_cons.mpr ⟨public_nil, ih public_emptyList⟩
    | cons v vs =>
      obtain ⟨hv, hvs⟩ := public_cons.mp h
      exact public_cons.mpr ⟨hv, ih hvs⟩

@[grind .]
theorem public_constant (c : Constant) : Public S c.value := by
  cases c with
  | nil => exact public_nil
  | bool b => exact public_bool b
  | int n => exact public_int n
  | float x => exact public_float x
  | str s => exact public_str s

@[grind ←]
theorem public_keyForm (h : Public S v) : Public S v.keyForm := by
  cases v with
  | float x =>
    rw [Value.keyForm.eq_def]
    dsimp only
    cases Value.wholeOf? x with
    | none => exact public_float x
    | some n => exact public_int n
  | _ => exact h

end

/-! ### Tables -/

section

variable {t : Table} {k v : Value}

theorem public_find {entries : List (Value × Value)} (h : Public S entries) (k : Value) : Public S (Table.find entries k) := by
  induction entries with
  | nil => exact public_nil
  | cons e entries ih =>
    obtain ⟨he, hentries⟩ := public_cons.mp h
    unfold Table.find
    split
    · exact he.2
    · exact ih hentries

@[grind ←]
theorem public_get (h : Public S t) (k : Value) : Public S (t.get k) := public_find h _

theorem public_put {entries : List (Value × Value)} (h : Public S entries) (hk : Public S k) (hv : Public S v) :
    Public S (Table.put entries k v) := by
  induction entries with
  | nil =>
    unfold Table.put
    split
    · exact public_emptyList
    · exact public_cons.mpr ⟨⟨hk, hv⟩, public_emptyList⟩
  | cons e entries ih =>
    obtain ⟨he, hentries⟩ := public_cons.mp h
    unfold Table.put
    split
    · split
      · exact hentries
      · exact public_cons.mpr ⟨⟨he.1, hv⟩, hentries⟩
    · exact public_cons.mpr ⟨he, ih hentries⟩

@[grind ←]
theorem public_set (h : Public S t) (hk : Public S k) (hv : Public S v) : Public S (t.set k v) :=
  public_put h (public_keyForm hk) hv

@[grind .]
theorem public_empty (layout : Layout) (meta? : Option TableId) : Public S ({ layout := layout, meta? := meta? } : Table) := public_emptyList (α := Value × Value)

/-- Positional values that are put into a table. -/
theorem public_foldl_set (h : Public S t) {es : List (Value × Nat)} (hes : ∀ e ∈ es, Public S e.1) :
    Public S (es.foldl (fun table e => table.set (.int (Int64.ofNat e.2)) e.1) t) := by
  induction es generalizing t with
  | nil => exact h
  | cons e es ih =>
    obtain ⟨he, hes⟩ := List.forall_mem_cons.mp hes
    exact ih (public_set h (public_int _) he) hes

/-- Named values that are put into a table. -/
theorem public_foldl_named (h : Public S t) {es : List (String × Value)} (hes : Public S es) :
    Public S (es.foldl (fun table e => table.set (.ofText e.1) e.2) t) := by
  induction es generalizing t with
  | nil => exact h
  | cons e es ih =>
    obtain ⟨he, hes⟩ := public_cons.mp hes
    exact ih (public_set h (public_ofText _) he.2) hes

@[grind ←]
theorem public_ofList {vs : List Value} (h : Public S vs) : Public S (Table.ofList vs) := by
  intro e he
  obtain ⟨⟨v, i⟩, hmem, heq⟩ := List.mem_filterMap.mp he
  have hv : Public S v := h v (List.fst_mem_of_mem_zipIdx hmem)
  dsimp only at heq
  split at heq
  · cases heq
  · cases heq
    exact ⟨public_int _, hv⟩

theorem public_keys (h : Public S t) : Public S t.keys := by
  intro k hk
  obtain ⟨e, he, rfl⟩ := List.mem_map.mp hk
  exact (h e he).1

@[grind ←]
theorem public_sortedKeys (h : Public S t) : Public S t.sortedKeys :=
  public_of_subset (public_keys h) fun _ hk => List.mem_mergeSort.mp hk

end

/-! ### Arguments -/

section

variable {inv : Invocation}

theorem public_at? (h : Public S inv) (n : Nat) : Public S (inv.at? n) := public_getElem? h _

@[grind ←]
theorem public_argument (h : Public S inv) (n : Nat) : Public S (inv.get n) := public_getD (public_at? h n)

@[grind →]
theorem public_arguments (h : Public S inv) : Public S inv.args := h

end

end Bears

/-! ## Stores -/

open Bears (Public)

/-- The module is as its seal says. -/
structure Store.Keeps (s : Store) (q : Seal) : Prop where
  proxy : s.table q.proxy = { meta? := some q.mark }
  mark : s.table q.mark = q.record
  proxy_lt : q.proxy < s.tables.size
  mark_lt : q.mark < s.tables.size
  index : s.function? q.index = some (.native (.moduleIndex q.module))
  assign : s.function? q.assign = some (.native .moduleAssign)

/-- A store in which everything is public and every module is as its seal says. -/
structure Store.Sound (S : List Seal) (s : Store) : Prop where
  tables : ∀ t, Public S (s.table t)
  cells : ∀ c, Public S (s.cell c)
  functions : ∀ f g, s.function? f = some g → Public S g
  loader : Public S s.loader
  base : Free S s.base
  options : Public S (Value.table s.optionsMark)
  modules : s.modules = S.map fun q => (q.proxy, q.module)
  seals : ∀ q ∈ S, s.Keeps q

namespace Seal

theorem get_metatable (q : Seal) : q.record.get (.ofText "__metatable") = .bool false := by rfl

theorem get_index (q : Seal) : q.record.get (.ofText "__index") = .function q.index := by rfl

theorem get_newindex (q : Seal) : q.record.get (.ofText "__newindex") = .function q.assign := by rfl

theorem get_call (q : Seal) : q.record.get (.ofText "__call") = .nil := by rfl

end Seal

namespace Store

variable {s : Store}

theorem table_newTable (s : Store) (x : Table) (t : TableId) :
    (s.newTable x).1.table t = if t = s.tables.size then x else s.table t := by
  unfold table newTable
  dsimp only
  rw [Array.getElem?_push]
  split
  · rfl
  · rfl

theorem table_setTable_of_ne (s : Store) {t t' : TableId} (h : t' ≠ t) (f : Table → Table) : (s.setTable t f).table t' = s.table t' := by
  unfold table setTable
  dsimp only
  rw [Array.getElem?_modify, if_neg (Ne.symm h)]

theorem public_newTable (h : ∀ t, Public S (s.table t)) {x : Table} (hx : Public S x) (t : TableId) : Public S ((s.newTable x).1.table t) := by
  rw [table_newTable]
  split
  · exact hx
  · exact h t

theorem public_setTable (h : ∀ t, Public S (s.table t)) (t : TableId) {f : Table → Table} (hf : ∀ x, Public S x → Public S (f x)) (t' : TableId) :
    Public S ((s.setTable t f).table t') := by
  have ht' := h t'
  unfold setTable table
  unfold table at ht'
  dsimp only
  rw [Array.getElem?_modify]
  split
  · cases hx : s.tables[t']? with
    | none => exact Bears.public_empty _ _
    | some x =>
      rw [hx] at ht'
      exact hf x ht'
  · exact ht'

theorem function?_newFunction_self (s : Store) (g : FunctionObject) : (s.newFunction g).1.function? s.functions.size = some g := Array.getElem?_push_size

theorem function?_newFunction (s : Store) (g : FunctionObject) {f : FunctionId} (h : f ≠ s.functions.size) :
    (s.newFunction g).1.function? f = s.function? f := by
  unfold function? newFunction
  dsimp only
  rw [Array.getElem?_push, if_neg h]

theorem public_newFunction (h : ∀ f g, s.function? f = some g → Public S g) {g : FunctionObject} (hg : Public S g) (f : FunctionId) (g' : FunctionObject)
    (hg' : (s.newFunction g).1.function? f = some g') : Public S g' := by
  by_cases hf : f = s.functions.size
  · subst hf
    cases (function?_newFunction_self s g).symm.trans hg'
    exact hg
  · rw [function?_newFunction s g hf] at hg'
    exact h f g' hg'

theorem public_newObject (s : Store) (d : Data) : Public S (s.newObject d).2 := Bears.public_object s.objects d

theorem Keeps.setTable {q : Seal} (h : s.Keeps q) {t : TableId} (hproxy : t ≠ q.proxy) (hmark : t ≠ q.mark) (f : Table → Table) :
    (s.setTable t f).Keeps q :=
  have hsize : (s.setTable t f).tables.size = s.tables.size := Array.size_modify
  { proxy := (table_setTable_of_ne s hproxy.symm f).trans h.proxy
    mark := (table_setTable_of_ne s hmark.symm f).trans h.mark
    proxy_lt := hsize ▸ h.proxy_lt
    mark_lt := hsize ▸ h.mark_lt
    index := h.index
    assign := h.assign }

namespace Sound

/-- A new table is free. -/
theorem free_size (h : s.Sound S) {t : TableId} (ht : s.tables.size ≤ t) : Free S t := fun q hq =>
  have hkeeps := h.seals q hq
  ⟨(hkeeps.proxy_lt.trans_le ht).ne', (hkeeps.mark_lt.trans_le ht).ne'⟩

theorem newTable (h : s.Sound S) {x : Table} (hx : Public S x) : (s.newTable x).1.Sound S where
  tables := public_newTable h.tables hx
  cells := h.cells
  functions := h.functions
  loader := h.loader
  base := h.base
  options := h.options
  modules := h.modules
  seals q hq :=
    have hkeeps := h.seals q hq
    have hsize : s.tables.size < (s.newTable x).1.tables.size := by simp [Store.newTable]
    { proxy := by rw [table_newTable, if_neg hkeeps.proxy_lt.ne, hkeeps.proxy]
      mark := by rw [table_newTable, if_neg hkeeps.mark_lt.ne, hkeeps.mark]
      proxy_lt := hkeeps.proxy_lt.trans hsize
      mark_lt := hkeeps.mark_lt.trans hsize
      index := hkeeps.index
      assign := hkeeps.assign }

theorem setTable (h : s.Sound S) {t : TableId} (ht : Free S t) {f : Table → Table} (hf : ∀ x, Public S x → Public S (f x)) :
    (s.setTable t f).Sound S where
  tables := public_setTable h.tables t hf
  cells := h.cells
  functions := h.functions
  loader := h.loader
  base := h.base
  options := h.options
  modules := h.modules
  seals q hq := (h.seals q hq).setTable (ht q hq).1 (ht q hq).2 f

theorem newFunction (h : s.Sound S) {g : FunctionObject} (hg : Public S g) : (s.newFunction g).1.Sound S where
  tables := h.tables
  cells := h.cells
  functions := public_newFunction h.functions hg
  loader := h.loader
  base := h.base
  options := h.options
  modules := h.modules
  seals q hq :=
    have hkeeps := h.seals q hq
    have hlt {f : FunctionId} {g' : FunctionObject} (hf : s.function? f = some g') : f ≠ s.functions.size :=
      (Array.getElem?_eq_some_iff.mp hf).1.ne
    { hkeeps with
      index := (function?_newFunction s g (hlt hkeeps.index)).trans hkeeps.index
      assign := (function?_newFunction s g (hlt hkeeps.assign)).trans hkeeps.assign }

theorem newCell (h : s.Sound S) {v : Value} (hv : Public S v) : (s.newCell v).1.Sound S :=
  { h with
    cells := fun c => by
      unfold Store.cell Store.newCell
      dsimp only
      rw [Array.getElem?_push]
      split
      · exact hv
      · exact h.cells c
    seals := fun q hq => { h.seals q hq with } }

theorem newCells (h : s.Sound S) {vs : List Value} (hvs : Public S vs) (env : List CellId) : (s.newCells vs env).1.Sound S := by
  induction vs generalizing s env with
  | nil => exact h
  | cons v vs ih =>
    obtain ⟨hv, hvs⟩ := Bears.public_cons.mp hvs
    exact ih (h.newCell hv) hvs (s.cells.size :: env)

theorem setCell (h : s.Sound S) (c : CellId) {v : Value} (hv : Public S v) : (s.setCell c v).Sound S :=
  { h with
    cells := fun c' => by
      have hc' := h.cells c'
      unfold Store.cell Store.setCell
      unfold Store.cell at hc'
      dsimp only
      rw [Array.getElem?_modify]
      split
      · cases hx : s.cells[c']? with
        | none => exact Bears.public_nil
        | some x => exact hv
      · exact hc'
    seals := fun q hq => { h.seals q hq with } }

theorem newObject (h : s.Sound S) (d : Data) : (s.newObject d).1.Sound S := { h with seals := fun q hq => { h.seals q hq with } }

theorem withLoader (h : s.Sound S) {l : Loader} (hl : Public S l) : ({ s with loader := l } : Store).Sound S :=
  { h with
    loader := hl
    seals := fun q hq => { h.seals q hq with } }

/-! ### What a sound store holds -/

@[grind ←]
theorem cell (h : s.Sound S) (c : CellId) : Public S (s.cell c) := h.cells c

@[grind ←]
theorem table (h : s.Sound S) (t : TableId) : Public S (s.table t) := h.tables t

/-- Entries of metatables are public. -/
@[grind ←]
theorem metaEntry (h : s.Sound S) (v : Value) (event : String) : Public S (s.metaEntry v event) := by
  unfold Store.metaEntry
  split
  · exact Bears.public_get (h.tables _) _
  · exact Bears.public_nil

/-- The metatable of a module is not shown, and every other one may be. -/
@[grind ←]
theorem shownMeta (h : s.Sound S) (v : Value) : Public S (Act.shownMeta s v) := by
  unfold Act.shownMeta
  split
  · exact Bears.public_nil
  · next m _ =>
    split
    · next hnil =>
      intro q hq heq
      cases heq
      rw [(h.seals q hq).mark, q.get_metatable] at hnil
      cases hnil
    · exact Bears.public_get (h.tables m) _

end Sound

/-- What the metatable of a module says. -/
theorem Keeps.metaEntry {q : Seal} (h : s.Keeps q) (event : String) : s.metaEntry (.table q.proxy) event = q.record.get (.ofText event) := by
  have hmeta : s.meta? (.table q.proxy) = some q.mark := congrArg Table.meta? h.proxy
  unfold Store.metaEntry
  rw [hmeta, ← h.mark]

/-- A table that has an entry is no module. -/
theorem Sound.free_of_entry (h : s.Sound S) {t : TableId} (ht : Public S (Value.table t)) {key : Value} (hkey : (s.table t).get key ≠ .nil) :
    Free S t := by
  refine fun q hq => ⟨?_, fun heq => ht q hq (heq ▸ rfl)⟩
  rintro rfl
  rw [(h.seals q hq).proxy] at hkey
  exact hkey rfl

/-- A table whose metatable does not say what all metatables of modules say is no module. -/
theorem Sound.free_of_metaEntry (h : s.Sound S) {t : TableId} (ht : Public S (Value.table t)) (event : String)
    (hevent : ∀ q ∈ S, q.record.get (.ofText event) ≠ s.metaEntry (.table t) event) : Free S t := by
  refine fun q hq => ⟨?_, fun heq => ht q hq (heq ▸ rfl)⟩
  rintro rfl
  exact hevent q hq ((h.seals q hq).metaEntry event).symm

/-! ### Data -/

variable {d : Data} {r : Store × Value}

theorem Sound.shallow (hs : s.Sound S) (h : s.shallow d = .ok r) : r.1.Sound S ∧ r.2.Free S := by
  cases d with
  | int n =>
    simp only [Store.shallow] at h
    split at h
    · cases h
      exact ⟨hs, fun t ht => by cases ht⟩
    · cases h
  | looseText cs => cases h
  | null | bool | float | str | bytes =>
    cases h
    exact ⟨hs, fun t ht => by cases ht⟩
  | _ =>
    cases h
    exact ⟨hs.newObject _, fun t ht => by cases ht⟩

theorem Sound.keyOf (hs : s.Sound S) (h : s.keyOf d = .ok r) : r.1.Sound S ∧ r.2.Free S := by
  unfold Store.keyOf at h
  split at h
  · cases h
    exact ⟨hs.newObject _, fun t ht => by cases ht⟩
  · exact hs.shallow h

mutual

/-- Data that is brought into a script makes new tables only. -/
theorem Sound.ofData : (d : Data) → ∀ {s : Store} {r : Store × Value}, s.Sound S → s.ofData d = .ok r → r.1.Sound S ∧ r.2.Free S
  | .list xs | .tuple xs => fun hs h => by
    unfold Store.ofData at h
    obtain ⟨s', hs', h⟩ := bind_ok_iff.mp h
    cases h
    have hfree : Free S _ := hs.free_size le_rfl
    exact ⟨Sound.ofItems xs (hs.newTable (Bears.public_empty _ _)) hfree hs', fun t ht => Value.table.inj ht ▸ hfree⟩
  | .dict es => fun hs h => by
    unfold Store.ofData at h
    obtain ⟨s', hs', h⟩ := bind_ok_iff.mp h
    cases h
    have hfree : Free S _ := hs.free_size le_rfl
    exact ⟨Sound.ofEntries es (hs.newTable (Bears.public_empty _ _)) hfree hs', fun t ht => Value.table.inj ht ▸ hfree⟩
  | .null | .bool _ | .int _ | .float _ | .str _ | .looseText _ | .bytes _ | .span _ | .instant _ | .execution .. | .fault _ | .anything
  | .foreign .. => fun hs h => by
    unfold Store.ofData at h
    exact hs.shallow h

theorem Sound.ofItems : (xs : List Data) → ∀ {s s' : Store} {t : TableId} {i : Nat}, s.Sound S → Free S t → s.ofItems t i xs = .ok s' → s'.Sound S
  | [], _, _, _, _, hs, _, h => by
    cases h
    exact hs
  | x :: xs, _, _, _, _, hs, ht, h => by
    unfold Store.ofItems at h
    obtain ⟨r, hr, h⟩ := bind_ok_iff.mp h
    obtain ⟨hsound, hvalue⟩ := Sound.ofData x hs hr
    exact Sound.ofItems xs (hsound.setTable ht fun _ hx => Bears.public_set hx (Bears.public_int _) hvalue.public) ht h

theorem Sound.ofEntries : (es : List (Data × Data)) → ∀ {s s' : Store} {t : TableId}, s.Sound S → Free S t → s.ofEntries t es = .ok s' → s'.Sound S
  | [], _, _, _, hs, _, h => by
    cases h
    exact hs
  | (_, x) :: es, _, _, _, hs, ht, h => by
    unfold Store.ofEntries at h
    obtain ⟨r, hr, h⟩ := bind_ok_iff.mp h
    obtain ⟨key, hkey, h⟩ := bind_ok_iff.mp h
    obtain ⟨hsound, hvalue⟩ := Sound.ofData x hs hr
    obtain ⟨hsound, hkey⟩ := hsound.keyOf hkey
    exact Sound.ofEntries es (hsound.setTable ht fun _ hx => Bears.public_set hx hkey.public hvalue.public) ht h

end

end Store

end ScriptFlow.Script
