import Mathlib
import ScriptFlow.Proofs.Script.Construction
import ScriptFlow.Proofs.Script.Globals
import ScriptFlow.Proofs.Script.Names
import ScriptFlow.Proofs.Script.ReadOnly
import ScriptFlow.Script.Library.Base

/-!
# Loops over the keys of a table

`pairs` lists the keys of a table when it is called, in order, and gives back a function that steps through the list. Loops order keys inside of scripts, where strings
are any bytes and floating-point numbers are compared by the machine. How far a loop has come is in a variable that only this function has, as the variables that
hold the function, the state and the control value of a loop are the loop's alone.

* `Value.rank` — the place of a key: the name of its type, then its value; `Value.keyLess_eq` — keys are compared by their places.
* `Value.rawEq_of_rank` — two keys in one place are the same key, so the order of the keys of a table is strict and total.
* `Table.Sortable.sortedKeys_strict`, `Table.Sortable.sortedKeys_congr` — **the keys of a table in order, each once; the set of keys alone determines the list**.
* `Store.Iterates` — a function under way through a list of keys; `Machine.step_pairsNext` — each call counts, and then reads the entry under the next key.
* `Loop` — a generic loop under way; `Loop.Draws` — it draws from such a function; `Loop.Draws.comes_reading`, `Loop.Draws.comes_left` — **one round**.
* `Loop.Course` — what the stores are at the start of each round, whatever the body does to everything but those variables; `Loop.Course.draws` — the invariant of a
  course.
* `loops_visit_every_key_once` — every key present at the start is visited once, in order, whatever is added, and then the loop is left.

The value that comes with a key is what an index expression gives at that moment. So a key that the body has removed comes with what the metatable of the table has for it.
-/

namespace ScriptFlow.Script

open Machine (Comes Rises)

/-! ## The order of keys -/

namespace Value

/-- Truth values, numbers and strings. -/
def IsSortable : Value → Prop
  | bool _ | int _ | float _ | str _ => True
  | _ => False

/-- Truth values count as numbers here, which no other key of their type is. -/
def height : Value → WithBot (WithTop ℤ)
  | bool b => (Data.Numeric.ofInt (if b then 1 else 0)).height
  | v => (Number.numeric v).height

def bytes : Value → List Nat
  | str s => s.toList.map UInt8.toNat
  | _ => []

/-- The place of a key: the name of its type, then its value. -/
def rank (v : Value) : String ×ₗ WithBot (WithTop ℤ) ×ₗ List Nat := toLex (v.typeName, toLex (v.height, v.bytes))

theorem bytesLess_eq (as bs : List UInt8) : Act.bytesLess as bs = decide (as.map UInt8.toNat < bs.map UInt8.toNat) := by
  induction as generalizing bs with
  | nil => cases bs <;> simp [Act.bytesLess]
  | cons a as ih =>
    cases bs with
    | nil => simp [Act.bytesLess]
    | cons b bs => rw [Bool.eq_iff_iff]; simp [Act.bytesLess, ih, List.cons_lt_cons_iff, UInt8.lt_iff_toNat_lt, UInt8.toNat_inj]

theorem numeric_ne_nan {v : Value} (hn : Act.isNumber v = true) (hnan : v.isNaN = false) : Number.numeric v ≠ .nan := by
  cases v with
  | int n => exact Data.Numeric.noConfusion
  | float x => exact Data.Numeric.ofFloat_ne_nan hnan
  | _ => cases hn

/-- Whole and floating-point numbers are ordered by their exact values. -/
theorem less_eq {a b : Value} (ha : Act.isNumber a = true) (hb : Act.isNumber b = true) (na : a.isNaN = false) (nb : b.isNaN = false) :
    Number.less a b = decide ((Number.numeric a).height < (Number.numeric b).height) := by
  have hless := Data.Numeric.less_eq (numeric_ne_nan ha na) (numeric_ne_nan hb nb)
  cases a with
  | int m =>
    cases b with
    | int n => exact decide_eq_decide.mpr (Int64.lt_iff_toInt_lt.trans Data.Numeric.height_ofInt_lt.symm)
    | float y => exact hless
    | _ => cases hb
  | float x =>
    cases b with
    | int n => exact hless
    | float y => exact (decide_lt_eq_less x y).trans hless
    | _ => cases hb
  | _ => cases ha

/-- Keys of one type. -/
inductive Kindred : Value → Value → Prop where
  | bool (a b : Bool) : Kindred (bool a) (bool b)
  | number {a b : Value} (ha : Act.isNumber a = true) (hb : Act.isNumber b = true) : Kindred a b
  | str (s t : ByteArray) : Kindred (str s) (str t)

theorem kindred_of_typeName {a b : Value} (ha : a.IsSortable) (hb : b.IsSortable) (h : a.typeName = b.typeName) : Kindred a b := by
  cases a with
  | bool a => cases b <;> first | exact .bool _ _ | exact False.elim hb | simp [typeName] at h
  | int m => cases b <;> first | exact .number rfl rfl | exact False.elim hb | simp [typeName] at h
  | float x => cases b <;> first | exact .number rfl rfl | exact False.elim hb | simp [typeName] at h
  | str s => cases b <;> first | exact .str _ _ | exact False.elim hb | simp [typeName] at h
  | _ => exact False.elim ha

theorem height_number {v : Value} (h : Act.isNumber v = true) : v.height = (Number.numeric v).height := by
  cases v <;> first | rfl | cases h

theorem bytes_number {v : Value} (h : Act.isNumber v = true) : v.bytes = [] := by
  cases v <;> first | rfl | cases h

theorem keyLess_number {a b : Value} (ha : Act.isNumber a = true) (hb : Act.isNumber b = true) : a.keyLess b = Number.less a b := by
  cases a <;> cases ha <;> cases b <;> cases hb <;> rfl

/-- **Keys are compared by their ranks.** -/
theorem keyLess_eq {a b : Value} (ha : a.IsSortable) (hb : b.IsSortable) (na : a.isNaN = false) (nb : b.isNaN = false) :
    a.keyLess b = decide (a.rank < b.rank) := by
  by_cases ht : a.typeName = b.typeName
  · have hrank : a.rank < b.rank ↔ a.height < b.height ∨ a.height = b.height ∧ a.bytes < b.bytes := by
      simp [rank, Prod.Lex.toLex_lt_toLex, ht]
    rw [Bool.eq_iff_iff, decide_eq_true_iff, hrank]
    cases kindred_of_typeName ha hb ht with
    | bool a b => cases a <;> cases b <;> simp [keyLess, typeName, height, bytes, Data.Numeric.height_ofInt_lt]
    | number hna hnb => simp [keyLess_number hna hnb, less_eq hna hnb na nb, height_number, bytes_number, hna, hnb]
    | str s t => simp [keyLess, typeName, bytesLess_eq, bytes, height, Number.numeric]
  · simp [keyLess, rank, Prod.Lex.toLex_lt_toLex, ht]

theorem eq_of_bytes {s t : ByteArray} (h : (str s).bytes = (str t).bytes) : s = t :=
  ByteArray.toList_injective (List.map_injective_iff.mpr (fun _ _ => UInt8.toNat_inj.mp) h)

/-- **Keys in one place are the same key.** -/
theorem rawEq_of_rank {a b : Value} (ha : a.IsSortable) (hb : b.IsSortable) (na : a.isNaN = false) (nb : b.isNaN = false)
    (ka : a.keyForm = a) (kb : b.keyForm = b) (h : a.rank = b.rank) : a.rawEq b = true := by
  simp only [rank, toLex_inj, Prod.mk.injEq] at h
  obtain ⟨htype, hheight, hbytes⟩ := h
  cases kindred_of_typeName ha hb htype with
  | bool a b =>
    have hlt : height (bool false) < height (bool true) := Data.Numeric.height_ofInt_lt.mpr (by decide)
    cases a with
    | false =>
      cases b with
      | false => rfl
      | true => exact absurd hheight hlt.ne
    | true =>
      cases b with
      | false => exact absurd hheight hlt.ne'
      | true => rfl
  | number hna hnb =>
    have hsame : (Number.numeric a).same (Number.numeric b) = true := by
      rw [height_number hna, height_number hnb] at hheight
      rw [Data.Numeric.eq_of_height (numeric_ne_nan hna na) (numeric_ne_nan hnb nb) hheight]
      exact Data.Numeric.same_self (numeric_ne_nan hnb nb)
    cases a with
    | int m =>
      cases b with
      | int n =>
        obtain rfl := Int64.toInt_inj.mp (Data.Numeric.same_ofInt.mp hsame)
        exact (BEq.rfl : (m == m) = true)
      | float y => exact absurd kb (not_keyForm_of_same ((Data.Numeric.same_comm _ _).trans hsame))
      | _ => cases hnb
    | float x =>
      cases b with
      | int n => exact absurd ka (not_keyForm_of_same hsame)
      | float y => exact beq_of_same hsame
      | _ => cases hnb
    | _ => cases hna
  | str s t =>
    obtain rfl := eq_of_bytes hbytes
    exact (BEq.rfl : (s.data == s.data) = true)

end Value

namespace Table

/-- Every key is a truth value, a number or a string. -/
structure Sortable (t : Table) : Prop extends t.WellFormed where
  sortable : ∀ e ∈ t.entries, e.1.IsSortable

variable {t t' : Table}

theorem mem_sortedKeys {k : Value} : k ∈ t.sortedKeys ↔ k ∈ t.keys := (List.mergeSort_perm _ _).mem_iff

namespace Sortable

theorem of_mem_keys (h : t.Sortable) {k : Value} (hk : k ∈ t.keys) : k.IsSortable ∧ k.isNaN = false ∧ k.keyForm = k ∧ k ≠ .nil := by
  obtain ⟨e, he, rfl⟩ := List.mem_map.mp hk
  obtain ⟨hform, hnan, hnil⟩ := h.keys e he
  exact ⟨h.sortable e he, hnan, hform, hnil⟩

/-- **Sorting is by rank.** -/
theorem sortedKeys_eq_mergeSort (h : t.Sortable) : t.sortedKeys = t.keys.mergeSort fun a b => decide (a.rank ≤ b.rank) := by
  have hmap : (t.keys.mergeSort fun a b => !b.keyLess a).map id = (t.keys.map id).mergeSort fun a b => decide (a.rank ≤ b.rank) :=
    List.map_mergeSort fun a ha b hb => by
      obtain ⟨sa, na, -⟩ := h.of_mem_keys ha
      obtain ⟨sb, nb, -⟩ := h.of_mem_keys hb
      rw [Value.keyLess_eq sb sa nb na]
      simp [← not_lt]
  rwa [List.map_id, List.map_id] at hmap

theorem ranks_differ (h : t.Sortable) : t.keys.Pairwise fun a b => a.rank ≠ b.rank := by
  refine List.pairwise_map.mpr (h.apart.imp_of_mem fun {a b} ha hb hab heq => ?_)
  obtain ⟨sa, na, ka, -⟩ := h.of_mem_keys (List.mem_map_of_mem ha)
  obtain ⟨sb, nb, kb, -⟩ := h.of_mem_keys (List.mem_map_of_mem hb)
  exact absurd (Value.rawEq_of_rank sa sb na nb ka kb heq) (Bool.eq_false_iff.mp hab)

/-- **Loops visit keys in strictly increasing order.** -/
theorem sortedKeys_strict (h : t.Sortable) : t.sortedKeys.Pairwise fun a b => a.rank < b.rank := by
  have hle : t.sortedKeys.Pairwise fun a b => a.rank ≤ b.rank := by
    rw [h.sortedKeys_eq_mergeSort]
    exact List.pairwise_mergeSort' (Order.Preimage Value.rank (· ≤ ·)) t.keys
  have hne : t.sortedKeys.Pairwise fun a b => a.rank ≠ b.rank := ((List.mergeSort_perm _ _).pairwise_iff fun {_ _} => Ne.symm).mpr h.ranks_differ
  exact (hle.and hne).imp fun h => lt_of_le_of_ne h.1 h.2

theorem sortedKeys_nodup (h : t.Sortable) : t.sortedKeys.Nodup := h.sortedKeys_strict.imp fun hlt heq => absurd (congrArg Value.rank heq) hlt.ne

/-- **The set of keys alone determines their order.** -/
theorem sortedKeys_congr (h : t.Sortable) (h' : t'.Sortable) (hkeys : ∀ k, k ∈ t.keys ↔ k ∈ t'.keys) : t.sortedKeys = t'.sortedKeys := by
  have hperm : t.sortedKeys.Perm t'.sortedKeys := (List.perm_ext_iff_of_nodup h.sortedKeys_nodup h'.sortedKeys_nodup).mpr fun k => by
    rw [mem_sortedKeys, mem_sortedKeys, hkeys]
  exact hperm.eq_of_pairwise (fun a b _ _ (hab : a.rank < b.rank) hba => absurd hab (lt_asymm hba)) h.sortedKeys_strict h'.sortedKeys_strict

end Sortable

end Table

/-! ## The function that steps through keys -/

namespace Store

variable {s : Store} {c c' : Nat} {v : Value}

theorem cell_setCell_self (h : c < s.cells.size) : (s.setCell c v).cell c = v := by
  rw [cell, setCell, Array.getElem?_modify, if_pos rfl, Array.getElem?_eq_getElem h]
  rfl

theorem cell_setCell_of_ne (h : c' ≠ c) : (s.setCell c v).cell c' = s.cell c' := by
  simp [cell, setCell, Array.getElem?_modify, h.symm]

theorem size_setCell (s : Store) (c : CellId) (v : Value) : (s.setCell c v).cells.size = s.cells.size := Array.size_modify ..

theorem cell_newCell_self (s : Store) (v : Value) : (s.newCell v).1.cell s.cells.size = v := by simp [cell, newCell]

theorem cell_newCell_of_lt (h : c < s.cells.size) : (s.newCell v).1.cell c = s.cell c := by
  simp [cell, newCell, Array.getElem?_push, h.ne]

theorem size_newCell (s : Store) (v : Value) : (s.newCell v).1.cells.size = s.cells.size + 1 := Array.size_push ..

/-- A function gives keys one after the other and has given so many of them; it keeps the count in a variable of its own. -/
structure Iterates (s : Store) (f : FunctionId) (subject : Value) (keys : List Value) (position : CellId) (given : Nat) : Prop where
  function : s.function? f = some (.native (.pairsNext subject keys.toArray position))
  present : position < s.cells.size
  count : s.cell position = intValue given

/-- The store once `pairs` has listed the keys of a table. -/
def listed (s : Store) (t : TableId) : Store :=
  ((s.newCell (intValue 0)).1.newFunction (.native (.pairsNext (.table t) (s.table t).sortedKeys.toArray s.cells.size))).1

theorem size_listed (s : Store) (t : TableId) : (s.listed t).cells.size = s.cells.size + 1 := s.size_newCell _

theorem listed_iterates (s : Store) (t : TableId) : (s.listed t).Iterates s.functions.size (.table t) (s.table t).sortedKeys s.cells.size 0 where
  function := function?_newFunction_self ..
  present := (s.size_listed t).symm ▸ Nat.lt_succ_self _
  count := s.cell_newCell_self _

end Store

namespace Machine

/-- **`pairs` lists the keys of a table.** -/
theorem comes_pairs {inv : Invocation} {t : TableId} (h : inv.get 1 = .table t) (s : Store) (next : List Value → Prog) (frames : List Frame) :
    Comes ⟨s, inv.pairs next, frames⟩ ⟨s.listed t, next [.function s.functions.size, .table t, .nil], frames⟩ := by
  have hpairs : inv.pairs next = (do
      let keys ← Invocation.sortedKeys (.table t)
      let position ← Act.newCell (intValue 0)
      return [← Act.newNative (.pairsNext (.table t) keys.toArray position), .table t, .nil]) next := by
    unfold Invocation.pairs
    rw [h]
  rw [hpairs]
  exact .head rfl (.head rfl (.head rfl .refl))

/-- The stack has room for one more call of a native function. -/
def Fits (m : Machine) : Prop :=
  (depths m.frames).1 + 1 ≠ maxDepth ∧ (depths m.frames).1 + 1 ≤ maxDepth + handlerRoom * 10 ∧ (depths m.frames).2 ≤ maxNested + handlerRoom

section

variable {m : Machine} {f : FunctionId} {g : Native} {args : List Value} {how : CallSite} {next : List Value → Prog}

theorem step_call_native (hm : m.Fits) (hf : m.store.function? f = some (.native g)) (hn : how.nests = false) :
    step ⟨m.store, .call (.function f) args how next, m.frames⟩ =
      .running ⟨m.store, (g.run ⟨args, how.site, how.naming, g.own⟩).toProg, callFrame m.frames next how :: m.frames⟩ := by
  obtain ⟨hlast, hdepth, hnested⟩ := hm
  have hcallee : callee m.store 100 (.function f) args = some (f, args) := rfl
  have hfits : ¬((decide ((depths m.frames).1 + 1 > maxDepth + handlerRoom * 10) || decide ((depths m.frames).2 + 0 > maxNested + handlerRoom)) = true) := by
    rw [Bool.or_eq_true, decide_eq_true_iff, decide_eq_true_iff]
    omega
  have hbelow : ¬(((depths m.frames).1 + 1 == maxDepth) = true) := mt eq_of_beq hlast
  simp only [step, call, hcallee, callFrame, hn, Bool.and_false, if_neg hfits, if_neg hbelow, enter, hf, Bool.false_eq_true, if_false]

/-- Where the stack is full, a call is an error. -/
theorem step_call_full (hm : ¬m.Fits) (hn : how.nests = false) :
    ∃ m' e, step ⟨m.store, .call (.function f) args how next, m.frames⟩ = .running m' ∧ Rises e m'.focus := by
  have hcallee : callee m.store 100 (.function f) args = some (f, args) := rfl
  simp only [step, call, hcallee, callFrame, hn, Bool.and_false, Bool.false_eq_true, if_false]
  split_ifs with hfull hlast
  · exact ⟨_, _, rfl, .inr rfl⟩
  · exact ⟨_, _, rfl, .inl rfl⟩
  · rw [Bool.or_eq_true, decide_eq_true_iff, decide_eq_true_iff, not_or] at hfull
    exact absurd ⟨mt beq_iff_eq.mpr hlast, Nat.le_of_not_gt hfull.1, Nat.le_of_not_gt hfull.2⟩ hm

end

/-- **A call of the function counts first, and then reads the entry under the next key.** -/
theorem step_pairsNext {s : Store} {f : FunctionId} {subject : Value} {keys : List Value} {position : CellId} {given : Nat}
    (h : s.Iterates f subject keys position given) (hg : given < 2 ^ 63) (inv : Invocation) (frames : List Frame) :
    step ⟨s, ((Native.pairsNext subject keys.toArray position).run inv).toProg, frames⟩ =
      .running ⟨s.setCell position (intValue (given + 1)),
        keys[given]?.elim (.done []) fun k => (Act.index .hidden none subject k) fun v => .done [k, v], frames⟩ := by
  have hcount : (Int64.ofInt given).toInt.toNat = given := by
    rw [Int64.toInt_ofInt_of_le (by omega) (by omega)]
    exact Int.toNat_natCast given
  simp only [Native.run, Invocation.pairsNext, Act.toProg, Act.bind_apply, Act.modifyGet, step, h.count, intValue, hcount, List.getElem?_toArray]
  cases keys[given]? <;> rfl

/-- An entry that is not there is nothing, unless a metatable has something for it. -/
theorem step_index_nothing {s : Store} {t : TableId} {key : Value} (h : (s.table t).get key = .nil) (hmeta : s.metaEntry (.table t) "__index" = .nil)
    (c : Caller) (fuel : Nat) (naming : Option Naming) (next : Value → Prog) (frames : List Frame) :
    step ⟨s, Act.indexWithin c (fuel + 1) naming (.table t) key next, frames⟩ = .running ⟨s, next .nil, frames⟩ := by
  rw [Act.indexWithin]
  · simp only [Act.bind_apply, Act.read_apply, step, h, hmeta]
    rfl
  · exact fun _ _ heq => by cases heq

end Machine

/-! ## Loops under way -/

/-- A generic loop under way. -/
structure Loop where
  /-- the variables that hold the function it draws from, its state and its control value -/
  iterator : CellId
  state : CellId
  control : CellId
  names : Nat
  body : List Stat
  line : Nat
  scope : Scope
  exits : Exits Prog
  frames : List Frame

namespace Loop

/-- A loop starts with the values of its expressions. -/
def starting (names : Nat) (body : List Stat) (line : Nat) (sc : Scope) (ex : Exits Prog) (vs : List Value) : Prog :=
  (Act.newCell (arg vs 0)) fun iterator => (Act.newCell (arg vs 1)) fun state => (Act.newCell (arg vs 2)) fun control =>
    open' sc line (arg vs 3) ex fun ex' => .run [] [.drawing iterator state control names body line] sc ex'

theorem exec_genericFor (names : Nat) (values : List Exp) (body : List Stat) (line : Nat) (sc : Scope) (ex : Exits Prog) (next : Scope → Exits Prog → Prog) :
    (Stat.genericFor names values body line).exec sc ex next =
      (Exp.listValues sc values) (starting names body line sc { ex with finish := fun _ => next sc ex }) := rfl

variable (l : Loop) (s : Store)

/-- One more round. -/
def again : Prog := .run [] [.drawing l.iterator l.state l.control l.names l.body l.line] l.scope l.exits

/-- The start of a round. -/
def round : Machine := ⟨s, l.again, l.frames⟩

/-- What the loop does with what it draws. -/
def receive (vs : List Value) : Prog :=
  match first vs with
  | .nil => l.exits.finish l.scope
  | drawn =>
    (Act.write (·.setCell l.control drawn)) fun _ => (Act.modifyGet fun s => s.newCells (adjust l.names vs) l.scope.cells) fun cells =>
      .run l.body l.body { l.scope with cells := cells } (l.exits.loop l.scope fun _ => l.again)

/-- How the loop calls the function it draws from. -/
def callSite : CallSite := l.scope.callSite l.line (some (.ofText "for iterator" "for iterator"))

/-- The frame of that call. -/
def frame : Frame := Machine.callFrame l.frames l.receive l.callSite

/-- The entry under a key is read. -/
def reading (subject k : Value) : Machine := ⟨s, (Act.index .hidden none subject k) fun v => .done [k, v], l.frame :: l.frames⟩

/-- It has been read. -/
def read (k v : Value) : Machine := ⟨s, .done [k, v], l.frame :: l.frames⟩

/-- The body is entered with a key and its value. -/
def entered (k v : Value) : Machine :=
  let s := s.setCell l.control k
  ⟨(s.newCells (adjust l.names [k, v]) l.scope.cells).1,
    .run l.body l.body { l.scope with cells := (s.newCells (adjust l.names [k, v]) l.scope.cells).2 } (l.exits.loop l.scope fun _ => l.again), l.frames⟩

/-- The loop is left. -/
def left : Machine := ⟨s, l.exits.finish l.scope, l.frames⟩

/-- The loop draws from a function that gives keys. -/
structure Draws (f : FunctionId) (subject : Value) (keys : List Value) (position : CellId) (given : Nat) : Prop
    extends s.Iterates f subject keys position given where
  iterator : s.cell l.iterator = .function f
  apart : l.iterator ≠ position

variable {l s} {f : FunctionId} {subject : Value} {keys : List Value} {position : CellId} {given : Nat}

/-- A round calls what the first variable of the loop holds. -/
theorem comes_call (l : Loop) (s : Store) :
    Comes (l.round s) ⟨s, .call (s.cell l.iterator) [s.cell l.state, s.cell l.control] l.callSite l.receive, l.frames⟩ :=
  .head rfl (.head rfl (.head rfl (.head rfl .refl)))

/-- **A round reads the entry under the next key.** -/
theorem Draws.comes_reading (h : l.Draws s f subject keys position given) (hfits : (l.round s).Fits) (hg : given < 2 ^ 63) {k : Value}
    (hk : keys[given]? = some k) : Comes (l.round s) (l.reading (s.setCell position (intValue (given + 1))) subject k) := by
  have hread := Machine.step_pairsNext h.toIterates hg
  simp only [hk] at hread
  refine (l.comes_call s).trans ?_
  rw [h.iterator]
  exact .head (Machine.step_call_native hfits h.function rfl) (.head (hread _ _) .refl)

/-- **When no key is left, the loop is.** -/
theorem Draws.comes_left (h : l.Draws s f subject keys position keys.length) (hfits : (l.round s).Fits) (hg : keys.length < 2 ^ 63) :
    Comes (l.round s) (l.left (s.setCell position (intValue (keys.length + 1)))) := by
  have hend := Machine.step_pairsNext h.toIterates hg
  simp only [List.getElem?_length] at hend
  refine (l.comes_call s).trans ?_
  rw [h.iterator]
  exact .head (Machine.step_call_native hfits h.function rfl) (.head (hend _ _) (.head rfl .refl))

/-- Where the stack is full, a round fails. -/
theorem Draws.comes_full (h : l.Draws s f subject keys position given) (hfull : ¬(l.round s).Fits) : ∃ m e, Comes (l.round s) m ∧ Rises e m.focus := by
  obtain ⟨m, e, hstep, hrises⟩ : ∃ m e, Machine.step ⟨s, .call (.function f) [s.cell l.state, s.cell l.control] l.callSite l.receive, l.frames⟩ = .running m ∧
      Rises e m.focus := Machine.step_call_full (m := l.round s) hfull rfl
  have hcall := l.comes_call s
  rw [h.iterator] at hcall
  exact ⟨m, e, hcall.tail hstep, hrises⟩

/-- An entry that is read is what the body gets. -/
theorem comes_entered (l : Loop) (s : Store) {k : Value} (hk : k ≠ .nil) (v : Value) : Comes (l.read s k v) (l.entered s k v) := by
  have hreceive : l.receive [k, v] = (Act.write (·.setCell l.control k)) fun _ =>
      (Act.modifyGet fun s => s.newCells (adjust l.names [k, v]) l.scope.cells) fun cells =>
        .run l.body l.body { l.scope with cells := cells } (l.exits.loop l.scope fun _ => l.again) := by
    cases k with
    | nil => exact absurd rfl hk
    | _ => rfl
  refine .head (b := ⟨s, l.receive [k, v], l.frames⟩) rfl ?_
  rw [hreceive]
  exact .head rfl (.head rfl .refl)

/-- An entry that is there is read at once. -/
theorem comes_read_found {t : TableId} {k v : Value} (h : (s.table t).get k = v) (hv : v ≠ .nil) : Comes (l.reading s (.table t) k) (l.read s k v) :=
  .single (Machine.step_index_found h hv .hidden 1999 none _ _)

theorem comes_read_nothing {t : TableId} {k : Value} (h : (s.table t).get k = .nil) (hmeta : s.metaEntry (.table t) "__index" = .nil) :
    Comes (l.reading s (.table t) k) (l.read s k .nil) :=
  .single (Machine.step_index_nothing h hmeta .hidden 1999 none _ _)

/-! ## Whole loops -/

/-- What happens between two stores leaves alone what belongs to a loop and to the function it draws from: no script can name these variables. -/
structure Spares (l : Loop) (f : FunctionId) (position : CellId) (s s' : Store) : Prop where
  function : s'.function? f = s.function? f
  iterator : s'.cell l.iterator = s.cell l.iterator
  position : s'.cell position = s.cell position
  size : s.cells.size ≤ s'.cells.size

theorem Draws.goes_on (h : l.Draws s f subject keys position given) {s' : Store}
    (hs : l.Spares f position (s.setCell position (intValue (given + 1))) s') : l.Draws s' f subject keys position (given + 1) where
  function := hs.function.trans h.function
  present := Nat.lt_of_lt_of_le h.present (s.size_setCell position _ ▸ hs.size)
  count := hs.position.trans (Store.cell_setCell_self h.present)
  iterator := (hs.iterator.trans (Store.cell_setCell_of_ne h.apart)).trans h.iterator
  apart := h.apart

/-- The stores at the starts of the rounds of a loop. Between two of them the entry is read and the body runs, which may do anything else. -/
structure Course (l : Loop) (f : FunctionId) (subject : Value) (keys : List Value) (position : CellId) (stores : Nat → Store) : Prop where
  start : l.Draws (stores 0) f subject keys position 0
  spares : ∀ i < keys.length, l.Spares f position ((stores i).setCell position (intValue (i + 1))) (stores (i + 1))

/-- **The count follows the rounds.** -/
theorem Course.draws {stores : Nat → Store} (h : l.Course f subject keys position stores) {i : Nat} (hi : i ≤ keys.length) :
    l.Draws (stores i) f subject keys position i := by
  induction i with
  | zero => exact h.start
  | succ i ih => exact (ih (Nat.le_of_succ_le hi)).goes_on (h.spares i hi)

/-- **What a loop does with a list of keys**: in each round it reads the entry under the next key and enters its body with what it has read, and then it is left. -/
structure Visits (l : Loop) (t : TableId) (keys : List Value) (position : CellId) (stores : Nat → Store) : Prop where
  reads : ∀ i k, keys[i]? = some k → Comes (l.round (stores i)) (l.reading ((stores i).setCell position (intValue (i + 1))) (.table t) k)
  goes_on : ∀ s k v, k ∈ keys → Comes (l.read s k v) (l.entered s k v)
  held : ∀ i k v, keys[i]? = some k → ((stores i).table t).get k = v → v ≠ .nil →
    Comes (l.round (stores i)) (l.entered ((stores i).setCell position (intValue (i + 1))) k v)
  removed : ∀ i k, keys[i]? = some k → ((stores i).table t).get k = .nil → (stores i).metaEntry (.table t) "__index" = .nil →
    Comes (l.round (stores i)) (l.entered ((stores i).setCell position (intValue (i + 1))) k .nil)
  ends : Comes (l.round (stores keys.length)) (l.left ((stores keys.length).setCell position (intValue (keys.length + 1))))

theorem Course.visits {t : TableId} {stores : Nat → Store} (h : l.Course f (.table t) keys position stores) (hfits : Machine.Fits ⟨s, .done [], l.frames⟩)
    (hn : keys.length < 2 ^ 63) (hkeys : ∀ k ∈ keys, k ≠ .nil) : l.Visits t keys position stores := by
  have hreads : ∀ i k, keys[i]? = some k → Comes (l.round (stores i)) (l.reading ((stores i).setCell position (intValue (i + 1))) (.table t) k) :=
    fun i k hk => by
      have hi : i < keys.length := (List.getElem?_eq_some_iff.mp hk).1
      exact (h.draws hi.le).comes_reading hfits (hi.trans hn) hk
  have hgoes : ∀ s k v, k ∈ keys → Comes (l.read s k v) (l.entered s k v) := fun s k v hk => l.comes_entered s (hkeys k hk) v
  refine ⟨hreads, hgoes, fun i k v hk hget hv => ?_, fun i k hk hget hmeta => ?_, (h.draws le_rfl).comes_left hfits hn⟩
  · have hread : Comes (l.reading ((stores i).setCell position (intValue (i + 1))) (.table t) k) _ := comes_read_found hget hv
    exact (hreads i k hk).trans (hread.trans (hgoes _ k v (List.mem_of_getElem? hk)))
  · have hread : Comes (l.reading ((stores i).setCell position (intValue (i + 1))) (.table t) k) _ := comes_read_nothing hget hmeta
    exact (hreads i k hk).trans (hread.trans (hgoes _ k .nil (List.mem_of_getElem? hk)))

/-- The store when the first round starts: three variables are the loop's. -/
def started (s : Store) (t : TableId) : Store :=
  ((((s.listed t).newCell (.function s.functions.size)).1.newCell (.table t)).1.newCell .nil).1

/-- A loop over what `pairs` gives, called in this store. -/
def ofPairs (s : Store) (names : Nat) (body : List Stat) (line : Nat) (sc : Scope) (ex : Exits Prog) (frames : List Frame) : Loop where
  iterator := s.cells.size + 1
  state := s.cells.size + 2
  control := s.cells.size + 3
  names := names
  body := body
  line := line
  scope := sc
  exits := ex
  frames := frames

section

variable (s : Store) (t : TableId) (names : Nat) (body : List Stat) (line : Nat) (sc : Scope) (ex : Exits Prog) (frames : List Frame)

theorem comes_started {inv : Invocation} (h : inv.get 1 = .table t) (site : Site) (blocks : Bool) (depth nested : Nat) :
    Comes ⟨s, (Native.pairs.run inv).toProg, .call (starting names body line sc ex) site blocks depth nested :: frames⟩
      ((ofPairs s names body line sc ex frames).round (started s t)) := by
  have hround : (ofPairs s names body line sc ex frames).round (started s t) = ⟨started s t,
      .run [] [.drawing (s.listed t).cells.size ((s.listed t).newCell (.function s.functions.size)).1.cells.size
        ((((s.listed t).newCell (.function s.functions.size)).1.newCell (.table t)).1.cells.size) names body line] sc ex, frames⟩ := by
    simp only [Store.size_newCell, Store.size_listed, round, again, ofPairs]
  rw [hround]
  exact (Machine.comes_pairs h s .done _).trans (.head rfl (.head rfl (.head rfl (.head rfl .refl))))

theorem started_draws : (ofPairs s names body line sc ex frames).Draws (started s t) s.functions.size (.table t) (s.table t).sortedKeys s.cells.size 0 := by
  have hlisted := s.listed_iterates t
  have hsize := s.size_listed t
  have hkept : ∀ c ≤ s.cells.size + 1, (started s t).cell c = ((s.listed t).newCell (.function s.functions.size)).1.cell c := fun c hc => by
    rw [started, Store.cell_newCell_of_lt, Store.cell_newCell_of_lt] <;> simp only [Store.size_newCell, hsize] <;> omega
  refine ⟨⟨hlisted.function, ?_, ?_⟩, ?_, Nat.succ_ne_self _⟩
  · have hlt : s.cells.size < s.cells.size + 1 + 1 + 1 + 1 := by omega
    simpa only [started, Store.size_newCell, hsize] using hlt
  · rw [hkept _ (Nat.le_succ _), Store.cell_newCell_of_lt hlisted.present]
    exact hlisted.count
  · exact (hkept _ le_rfl).trans (hsize ▸ Store.cell_newCell_self _ _)

end

end Loop

/-! ## Keys as a list -/

namespace Machine

variable {s : Store} {inv : Invocation} {t : TableId} (next : List Value → Prog) (frames : List Frame)

/-- **`dir` gives the keys of a table that stands for no module in a new table.** -/
theorem comes_dir_keys (h : inv.get 1 = .table t) (hm : s.modules.lookup t = none) :
    Comes ⟨s, inv.dir next, frames⟩ ⟨(s.newTable (.ofList (s.table t).sortedKeys)).1, next [.table s.tables.size], frames⟩ := by
  unfold Invocation.dir
  rw [h]
  refine .head rfl ?_
  simp only [hm]
  exact .head rfl (.head rfl .refl)

/-- For a table that stands for a module it asks for the names of the module. -/
theorem comes_dir_names (h : inv.get 1 = .table t) {m : Nat} (hm : s.modules.lookup t = some m) :
    Comes ⟨s, inv.dir next, frames⟩ ⟨s, Invocation.answered (.names m) next, frames⟩ := by
  unfold Invocation.dir
  rw [h]
  refine .head rfl ?_
  simp only [hm]
  exact .refl

end Machine

/-- The table of a list has its values at the positions from one on. -/
theorem Table.entries_ofList {vs : List Value} (h : ∀ v ∈ vs, v ≠ .nil) :
    (Table.ofList vs).entries = (vs.zipIdx 1).map fun e => (.int (Int64.ofInt e.2), e.1) := by
  rw [← List.filterMap_eq_map]
  refine List.filterMap_congr fun e he => ?_
  have hv := h e.1 (List.fst_mem_of_mem_zipIdx he)
  rw [Function.comp_apply]
  cases he1 : e.1 with
  | nil => exact absurd he1 hv
  | _ => simp only

/-- **Loops visit every key once, in order.** For a table whose keys are truth values, numbers and strings, the list that `pairs` makes has each of its keys once, in
strictly increasing order by the name of the type and then by the value, and any other table with the same keys gives the same list. A loop over it reads in each round
what indexing the table by the next key gives at that moment: the value that the table holds, and for a key that has been removed nothing, unless a metatable has something
for it. It enters its body with the two and is left after the last key, whatever was added. `dir` gives the same list, but for a table that stands for a module it asks for
the names of the module. -/
theorem loops_visit_every_key_once {s : Store} {t : TableId} (h : (s.table t).Sortable) (hn : (s.table t).entries.length < 2 ^ 63) :
    (s.table t).sortedKeys.Perm (s.table t).keys ∧ (s.table t).sortedKeys.Nodup ∧ (s.table t).sortedKeys.Pairwise (fun a b => a.rank < b.rank) ∧
    (∀ (s' : Store) (t' : TableId), (s'.table t').Sortable → (∀ k, k ∈ (s'.table t').keys ↔ k ∈ (s.table t).keys) →
      (s'.table t').sortedKeys = (s.table t).sortedKeys) ∧
    (∀ (inv : Invocation) (names : Nat) (body : List Stat) (line : Nat) (sc : Scope) (ex : Exits Prog) (frames : List Frame) (site : Site) (blocks : Bool)
        (depth nested : Nat), inv.get 1 = .table t →
      Comes ⟨s, (Native.pairs.run inv).toProg, .call (Loop.starting names body line sc ex) site blocks depth nested :: frames⟩
          ((Loop.ofPairs s names body line sc ex frames).round (Loop.started s t)) ∧
        (Loop.started s t).tables = s.tables ∧
        (Machine.Fits ⟨s, .done [], frames⟩ → ∀ stores, stores 0 = Loop.started s t →
          (∀ i < (s.table t).sortedKeys.length, (Loop.ofPairs s names body line sc ex frames).Spares s.functions.size s.cells.size
            ((stores i).setCell s.cells.size (intValue (i + 1))) (stores (i + 1))) →
          (Loop.ofPairs s names body line sc ex frames).Visits t (s.table t).sortedKeys s.cells.size stores) ∧
        (¬Machine.Fits ⟨s, .done [], frames⟩ → ∃ m e, Comes ((Loop.ofPairs s names body line sc ex frames).round (Loop.started s t)) m ∧ Rises e m.focus)) ∧
    ∀ (inv : Invocation) (next : List Value → Prog) (frames : List Frame), inv.get 1 = .table t →
      (s.modules.lookup t = none → Comes ⟨s, inv.dir next, frames⟩
          ⟨(s.newTable (.ofList (s.table t).sortedKeys)).1, next [.table s.tables.size], frames⟩ ∧
        (Table.ofList (s.table t).sortedKeys).entries = ((s.table t).sortedKeys.zipIdx 1).map fun e => (.int (Int64.ofInt e.2), e.1)) ∧
      ∀ m, s.modules.lookup t = some m → Comes ⟨s, inv.dir next, frames⟩ ⟨s, Invocation.answered (.names m) next, frames⟩ := by
  have hkeys : ∀ k ∈ (s.table t).sortedKeys, k ≠ .nil := fun k hk => (h.of_mem_keys (Table.mem_sortedKeys.mp hk)).2.2.2
  have hperm : (s.table t).sortedKeys.Perm (s.table t).keys := List.mergeSort_perm _ _
  have hlength : (s.table t).sortedKeys.length < 2 ^ 63 := by
    rw [hperm.length_eq, Table.keys, List.length_map]
    exact hn
  refine ⟨hperm, h.sortedKeys_nodup, h.sortedKeys_strict, fun s' t' h' hsame => h'.sortedKeys_congr h hsame, ?_, ?_⟩
  · intro inv names body line sc ex frames site blocks depth nested hinv
    have hdraws := Loop.started_draws s t names body line sc ex frames
    refine ⟨Loop.comes_started s t names body line sc ex frames hinv site blocks depth nested, rfl, fun hfits stores hstart hspares => ?_, hdraws.comes_full⟩
    exact Loop.Course.visits ⟨hstart ▸ hdraws, hspares⟩ hfits hlength hkeys
  · intro inv next frames hinv
    exact ⟨fun hm => ⟨Machine.comes_dir_keys next frames hinv hm, Table.entries_ofList hkeys⟩, fun m hm => Machine.comes_dir_names next frames hinv hm⟩

/-- A table with a string, a number and a truth value as keys, put in in this order. -/
def mixedStore : Store :=
  { tables := #[((({} : Table).set (.ofText "a") (.int 1)).set (.int 2) (.int 5)).set (.bool true) (.int 7)] }

/-- The stores at the starts of the rounds of a loop over it whose body removes the string and adds a number each time. -/
def mixedStores : Nat → Store
  | 0 => Loop.started mixedStore 0
  | i + 1 => ((mixedStores i).setCell 0 (intValue (i + 1))).setTable 0 fun t => (t.set (.ofText "a") .nil).set (.int (Int64.ofNat (i + 10))) (.bool true)

/-- The loop visits the truth value, the number and then the string, which has been removed by then, and is left although entries were added. -/
theorem loops_visit_every_key_once_changing :
    (mixedStore.table 0).Sortable ∧ (mixedStore.table 0).entries.length < 2 ^ 63 ∧ (mixedStore.table 0).sortedKeys = [.bool true, .int 2, .ofText "a"] ∧
    ((mixedStores 3).table 0).keys = [.int 2, .bool true, .int 10, .int 11, .int 12] ∧
    (Loop.ofPairs mixedStore 2 [] 1 ⟨[], [], .empty⟩ ⟨fun _ => .done [], fun _ => .done [], []⟩ []).Visits 0 [.bool true, .int 2, .ofText "a"] 0 mixedStores := by
  have hentries : (mixedStore.table 0).entries = [(.ofText "a", .int 1), (.int 2, .int 5), (.bool true, .int 7)] := rfl
  have hsortable : (mixedStore.table 0).Sortable :=
    { toWellFormed := ((Table.wellFormed_empty.set Value.noConfusion rfl).set Value.noConfusion rfl).set Value.noConfusion rfl
      sortable := by simp [hentries, Value.ofText, Value.IsSortable] }
  have hlength : (mixedStore.table 0).entries.length < 2 ^ 63 := by
    rw [hentries]
    decide
  have hsorted : (mixedStore.table 0).sortedKeys = [.bool true, .int 2, .ofText "a"] := by
    have hbelow : (Value.int 2).keyLess (.ofText "a") = true ∧ (Value.bool true).keyLess (.ofText "a") = true ∧ (Value.bool true).keyLess (.int 2) = true :=
      ⟨rfl, rfl, rfl⟩
    simp [Table.sortedKeys, Table.keys, hentries, List.mergeSort, List.MergeSort.Internal.splitInTwo, hbelow]
  have hfits : Machine.Fits ⟨mixedStore, .done [], []⟩ := by
    unfold Machine.Fits
    decide
  obtain ⟨-, -, -, -, hloops, -⟩ := loops_visit_every_key_once hsortable hlength
  obtain ⟨-, -, hvisits, -⟩ := hloops ⟨[.table 0], none, none, "pairs"⟩ 2 [] 1 ⟨[], [], .empty⟩ ⟨fun _ => .done [], fun _ => .done [], []⟩ [] none false 0 0 rfl
  refine ⟨hsortable, hlength, hsorted, rfl, ?_⟩
  rw [hsorted] at hvisits
  exact hvisits hfits mixedStores rfl fun i _ => ⟨rfl, rfl, rfl, le_rfl⟩

/-- **What a loop gets is not always what the table holds**: when a key has been removed the metatable of the table is asked, so this loop gets 9 for a key that the table
does not hold. And `dir` does not list the keys of a table that stands for a module: it has none, and the module is asked for its names. -/
theorem loops_ask_metatables :
    Environment.unaided ("local t = setmetatable(\x7bb = 2\x7d, \x7b__index = function() return 9 end\x7d) " ++
      "local next = pairs(t) t.b = nil for k, v in next do if rawget(t, k) == nil then return v end end") = some [.int 9] ∧
    ∃ (s : Store) (t : TableId) (waiting : Suspension), (s.table t).Sortable ∧ (s.table t).sortedKeys = [] ∧
      Machine.run 3 ⟨s, (Native.dir.run ⟨[.table t], none, none, "dir"⟩).toProg, []⟩ = some (.asking (.names 0) waiting) := by
  constructor
  · have hgiven : (Environment.unaided ("local t = setmetatable(\x7bb = 2\x7d, \x7b__index = function() return 9 end\x7d) " ++
        "local next = pairs(t) t.b = nil for k, v in next do if rawget(t, k) == nil then return v end end")).bind Environment.onlyInt? = some 9 := by decide +kernel
    obtain ⟨vs, hvs, hone⟩ := Option.bind_eq_some_iff.mp hgiven
    rw [hvs, Environment.eq_of_onlyInt? hone]
  · have hempty : Table.sortedKeys {} = [] := by simp [Table.sortedKeys, Table.keys]
    exact ⟨{ tables := #[{}], modules := [(0, 0)] }, 0, _, { toWellFormed := Table.wellFormed_empty, sortable := by rintro e ⟨⟩ }, hempty, rfl⟩

end ScriptFlow.Script
