import Mathlib
import ScriptFlow.Proofs.Script.Conversion

/-!
# Data on a trip into a script and back

* `Store.Represents` — a value stands for data, and all its tables are new; it keeps doing so while older tables change.
* `Data.Carried` — data that a script can hold: lists, and dictionaries whose keys are texts and whole numbers.
* `Data.carry` — what a table makes of such data: absent values leave no entry, and the entries come back in order.
* `Data.Carried.trip` — **a trip into a script and back computes `Data.carry`**, in every store.
-/

namespace ScriptFlow

open Script

/-! ## Keys -/

namespace Data

/-- A key of a dictionary in a script. -/
def keyValue : Data → Value
  | .int n => .int (Int64.ofInt n)
  | .str t => .ofText t
  | _ => .nil

/-- Texts and whole numbers of 64 bits. -/
inductive IsTableKey : Data → Prop where
  | int {n : Int} (h : -2 ^ 63 ≤ n ∧ n < 2 ^ 63) : IsTableKey (.int n)
  | str (t : String) : IsTableKey (.str t)

namespace IsTableKey

variable {k : Data}

theorem keyOf (h : k.IsTableKey) (s : Store) : s.keyOf k = .ok (s, k.keyValue) := by
  cases h with
  | @int n h =>
    have hrange : (-Nat.pow 2 63 ≤ n && n < Nat.pow 2 63) = true := by
      simp only [Bool.and_eq_true, decide_eq_true_eq]
      exact h
    rw [Store.keyOf.eq_2 s _ Data.noConfusion, Store.shallow, if_pos hrange]
    rfl
  | str t => rfl

theorem isPlain (h : k.IsTableKey) : k.keyValue.IsPlain := by
  cases h with
  | int h => exact trivial
  | str t => exact ⟨t, Utf8.decode_toUTF8 t⟩

theorem data_keyValue (h : k.IsTableKey) : k.keyValue.data = k := by
  cases h with
  | int h => exact congrArg Data.int (Int64.toInt_ofInt_of_le h.1 h.2)
  | str t =>
    change ((Utf8.decode t.toUTF8).map Data.str).toOption.getD .null = .str t
    rw [Utf8.decode_toUTF8]
    rfl

theorem keyForm (h : k.IsTableKey) : k.keyValue.keyForm = k.keyValue ∧ k.keyValue.isNaN = false ∧ k.keyValue ≠ .nil := by
  cases h with
  | int h => exact ⟨rfl, rfl, Value.noConfusion⟩
  | str t => exact ⟨rfl, rfl, Value.noConfusion⟩

theorem isKey (h : k.IsTableKey) : k.IsKey := h.data_keyValue ▸ h.isPlain.isKey h.keyForm.2.1

theorem same_iff {k' : Data} (h : k.IsTableKey) (h' : k'.IsTableKey) : k.same k' = true ↔ k = k' := by
  cases h with
  | int h =>
    cases h' with
    | int h' => exact Numeric.same_ofInt.trans ⟨congrArg Data.int, Data.int.inj⟩
    | str t => simp [(same_text_number (a := .int _) rfl t).2]
  | str t =>
    cases h' with
    | int h' => simp [(same_text_number (a := .int _) rfl t).1]
    | str t' => simp [same_text]

theorem rawEq_eq_false {k' : Data} (h : k.IsTableKey) (h' : k'.IsTableKey) (hne : k ≠ k') : k.keyValue.rawEq k'.keyValue = false := by
  refine Bool.eq_false_iff.mpr fun heq => hne ?_
  have hvalue : k.keyValue = k'.keyValue := by
    cases h with
    | int h =>
      cases h' with
      | int h' => exact congrArg Value.int (eq_of_beq heq)
      | str t => cases heq
    | str t =>
      cases h' with
      | int h' => cases heq
      | str t' =>
        have hbytes : t.toUTF8.data = t'.toUTF8.data := eq_of_beq heq
        exact congrArg Value.str (ByteArray.ext hbytes)
  rw [← h.data_keyValue, hvalue, h'.data_keyValue]

end IsTableKey

/-! ## What a trip makes of data -/

/-- What a table with these entries becomes. -/
def gathered (es : List (Data × Data)) : Data :=
  let sorted := es.mergeSort fun a b => !Store.keyBefore b.1 a.1
  if Store.arePositions (sorted.map Prod.fst) then .list (sorted.map Prod.snd) else .dict sorted

mutual

/-- Data after a trip. -/
def carry : Data → Data
  | .list xs => gathered (carryItems 1 xs)
  | .dict es => gathered (carryEntries es)
  | d => d

/-- The entries of a table of items from a position on. -/
def carryItems (i : Nat) : List Data → List (Data × Data)
  | [] => []
  | .null :: xs => carryItems (i + 1) xs
  | x :: xs => (.int i, carry x) :: carryItems (i + 1) xs

/-- The entries of a table of entries. -/
def carryEntries : List (Data × Data) → List (Data × Data)
  | [] => []
  | (_, .null) :: es => carryEntries es
  | (k, x) :: es => (k, carry x) :: carryEntries es

end

/-- Data that a script can hold. -/
inductive Carried : Data → Prop where
  | null : Carried .null
  | bool (b : Bool) : Carried (.bool b)
  | int {n : Int} (h : -2 ^ 63 ≤ n ∧ n < 2 ^ 63) : Carried (.int n)
  | float (x : Float) : Carried (.float x)
  | str (t : String) : Carried (.str t)
  | list {xs : List Data} (short : xs.length < 2 ^ 63) (items : ∀ x ∈ xs, Carried x) : Carried (.list xs)
  | dict {es : List (Data × Data)} (keys : ∀ e ∈ es, e.1.IsTableKey) (apart : (es.map Prod.fst).Nodup) (values : ∀ e ∈ es, Carried e.2) :
      Carried (.dict es)

/-- Items with their positions. -/
def numbered (i : Nat) : List Data → List (Data × Data)
  | [] => []
  | x :: xs => (.int i, x) :: numbered (i + 1) xs

theorem carryItems_eq (i : Nat) (xs : List Data) : carryItems i xs = carryEntries (numbered i xs) := by
  induction xs generalizing i with
  | nil => rfl
  | cons x xs ih => cases x <;> simp [carryItems, numbered, carryEntries, ih]

theorem carryEntries_cons {k x : Data} (hx : x ≠ .null) (es : List (Data × Data)) :
    carryEntries ((k, x) :: es) = (k, carry x) :: carryEntries es := carryEntries.eq_3 k x es hx

/-- An absent value leaves no entry, and no key is made up. -/
theorem keys_carryEntries (es : List (Data × Data)) : ((carryEntries es).map Prod.fst).Sublist (es.map Prod.fst) := by
  induction es with
  | nil => exact .refl _
  | cons e es ih =>
    obtain ⟨k, x⟩ := e
    by_cases hx : x = .null
    · subst hx
      exact ih.cons k
    · rw [carryEntries_cons hx]
      exact ih.cons_cons k

theorem mem_numbered {i : Nat} {xs : List Data} {e : Data × Data} (h : e ∈ numbered i xs) :
    (∃ j : Nat, i ≤ j ∧ j < i + xs.length ∧ e.1 = .int j) ∧ e.2 ∈ xs := by
  induction xs generalizing i with
  | nil => cases h
  | cons x xs ih =>
    cases h with
    | head => exact ⟨⟨i, Nat.le_refl i, by simp, rfl⟩, .head _⟩
    | tail _ h =>
      obtain ⟨⟨j, hij, hj, hkey⟩, hmem⟩ := ih h
      exact ⟨⟨j, by omega, by simp only [List.length_cons]; omega, hkey⟩, .tail _ hmem⟩

theorem nodup_numbered (i : Nat) (xs : List Data) : ((numbered i xs).map Prod.fst).Nodup := by
  induction xs generalizing i with
  | nil => exact .nil
  | cons x xs ih =>
    refine List.nodup_cons.mpr ⟨fun h => ?_, ih (i + 1)⟩
    obtain ⟨e, he, hkey⟩ := List.mem_map.mp h
    obtain ⟨⟨j, hij, -, hj⟩, -⟩ := mem_numbered he
    have hji : (j : Int) = i := Data.int.inj (hj.symm.trans hkey)
    omega

theorem isTableKey_numbered {xs : List Data} (h : xs.length < 2 ^ 63) : ∀ e ∈ numbered 1 xs, e.1.IsTableKey := by
  intro e he
  obtain ⟨⟨j, -, hj, hkey⟩, -⟩ := mem_numbered he
  rw [hkey]
  exact .int (by omega)

end Data

/-! ## Values that stand for data -/

namespace Script

namespace Store

theorem ofItems_eq {xs : List Data} {i : Nat} (h : i + xs.length ≤ 2 ^ 63) (s : Store) (t : TableId) :
    s.ofItems t i xs = s.ofEntries t (Data.numbered i xs) := by
  induction xs generalizing s i with
  | nil => rfl
  | cons x xs ih =>
    simp only [List.length_cons] at h
    rw [ofItems, Data.numbered, ofEntries]
    have hrange : -2 ^ 63 ≤ (i : Int) ∧ (i : Int) < 2 ^ 63 := by omega
    refine bind_congr fun ⟨s', v⟩ => ?_
    dsimp only
    rw [Data.IsTableKey.keyOf (.int hrange) s']
    exact ih (by omega) _

/-- At most one table that was there is different. -/
structure ChangesOnly (s : Store) (t : TableId) (s' : Store) : Prop where
  size : s.tables.size ≤ s'.tables.size
  same : ∀ u, u < s.tables.size → u ≠ t → s'.tables[u]? = s.tables[u]?

namespace ChangesOnly

variable {s s' s'' : Store} {t : TableId}

theorem refl (s : Store) (t : TableId) : s.ChangesOnly t s := ⟨Nat.le_refl _, fun _ _ _ => rfl⟩

theorem trans (h : s.ChangesOnly t s') (h' : s'.ChangesOnly t s'') : s.ChangesOnly t s'' where
  size := Nat.le_trans h.size h'.size
  same u hu hne := (h'.same u (Nat.lt_of_lt_of_le hu h.size) hne).trans (h.same u hu hne)

/-- When no table that was there is different, then at most one is. -/
theorem weaken (h : s.ChangesOnly s.tables.size s') : s.ChangesOnly t s' := ⟨h.size, fun u hu _ => h.same u hu (Nat.ne_of_lt hu)⟩

theorem setTable (s : Store) (t : TableId) (f : Table → Table) : s.ChangesOnly t (s.setTable t f) where
  size := by simp [Store.setTable]
  same u _ hne := by simp [Store.setTable, Array.getElem?_modify, Ne.symm hne]

theorem newTable (s : Store) (x : Table) : s.ChangesOnly s.tables.size (s.newTable x).1 where
  size := by simp [Store.newTable]
  same u hu _ := by simp [Store.newTable, Array.getElem?_push, Nat.ne_of_lt hu]

end ChangesOnly

/-- A value stands for data, with tables from `low` on, and each table refers only to newer ones. -/
inductive Represents (s : Store) : Nat → Value → Data → Prop where
  | atom {low : Nat} {v : Value} {d : Data} (h : atomOf v = .ok d) : Represents s low v d
  | table {low : Nat} {t : TableId} {val : Value × Value → Data} (new : low ≤ t) (present : t < s.tables.size) (keys : (s.table t).PlainKeys)
      (values : ∀ e ∈ (s.table t).entries, Represents s (t + 1) e.2 (val e)) : Represents s low (.table t) ((s.table t).asData val)

namespace Represents

variable {s s' : Store} {low : Nat} {v : Value} {d : Data}

/-- Older tables can change. -/
theorem mono (h : s.Represents low v d) (size : s.tables.size ≤ s'.tables.size) {low' : Nat} (hlow : low' ≤ low)
    (same : ∀ u, low ≤ u → u < s.tables.size → s'.tables[u]? = s.tables[u]?) : s'.Represents low' v d := by
  induction h generalizing low' with
  | atom h => exact .atom h
  | @table low t val new present keys values ih =>
    have htable : s'.table t = s.table t := congrArg (·.getD {}) (same t new present)
    have hvalues : ∀ e ∈ (s'.table t).entries, s'.Represents (t + 1) e.2 (val e) := fun e he =>
      ih e (htable ▸ he) (Nat.le_refl _) fun u hu => same u (by omega)
    rw [← htable] at keys ⊢
    exact .table (Nat.le_trans hlow new) (Nat.lt_of_lt_of_le present size) keys hvalues

theorem toDataWithin (h : s.Represents low v d) {fuel : Nat} (hfuel : s.tables.size < fuel + low) : s.toDataWithin fuel v = .ok d := by
  induction h generalizing fuel with
  | atom h =>
    rw [toDataWithin_of_not_table, h]
    rintro t rfl
    cases h
  | @table low t val new present keys values ih =>
    have hbelow : low < s.tables.size := Nat.lt_of_le_of_lt new present
    obtain ⟨fuel, rfl⟩ : ∃ n, fuel = n + 1 := ⟨fuel - 1, by omega⟩
    exact toDataWithin_table keys fun e he => ih e he (by omega)

theorem toData (h : s.Represents low v d) : s.toData v = .ok d := h.toDataWithin (by omega)

end Represents

/-! ## Data brought into a script -/

/-- Data as a value, and the value as data again. -/
def trip (s : Store) (d : Data) : Except Fault Data := do
  let (s, v) ← s.ofData d
  s.toData v

/-- Data has become a value, and nothing that was there is different. -/
structure Brings (s : Store) (d : Data) (s' : Store) (v : Value) : Prop where
  changes : s.ChangesOnly s.tables.size s'
  represents : s'.Represents s.tables.size v d.carry
  nil_iff : v = .nil ↔ d = .null

theorem put_nil {entries : List (Value × Value)} {key : Value} (h : ∀ e ∈ entries, e.1.rawEq key = false) :
    Table.put entries key .nil = entries := by
  induction entries with
  | nil => rfl
  | cons e entries ih =>
    obtain ⟨k, v⟩ := e
    have hfirst : k.rawEq key = false := h (k, v) (.head _)
    simp [Table.put, hfirst, ih fun e he => h e (.tail _ he)]

theorem put_absent {entries : List (Value × Value)} {key value : Value} (h : ∀ e ∈ entries, e.1.rawEq key = false) (hv : value ≠ .nil) :
    Table.put entries key value = entries ++ [(key, value)] := by
  induction entries with
  | nil => cases value <;> first | rfl | exact absurd rfl hv
  | cons e entries ih =>
    obtain ⟨k, v⟩ := e
    have hfirst : k.rawEq key = false := h (k, v) (.head _)
    simp [Table.put, hfirst, ih fun e he => h e (.tail _ he)]

theorem table_of_getElem? {s s' : Store} {t : TableId} (h : s'.tables[t]? = s.tables[t]?) : s'.table t = s.table t :=
  congrArg (·.getD {}) h

theorem table_setTable {s : Store} {t : TableId} (h : t < s.tables.size) (f : Table → Table) : (s.setTable t f).table t = f (s.table t) := by
  simp [setTable, table, Array.getElem?_modify, Array.getElem?_eq_getElem h]

/-- An entry of a table stands for an entry of a dictionary. -/
structure EntryFor (s : Store) (low : Nat) (e : Value × Value) (x : Data × Data) : Prop where
  isTableKey : x.1.IsTableKey
  key : e.1 = x.1.keyValue
  present : e.2 ≠ .nil
  value : s.Represents low e.2 x.2

/-- An entry is put into a table that has nothing under its key; an absent value leaves the table as it is. -/
theorem ofEntries_cons {k x : Data} (hk : k.IsTableKey) {s s₁ : Store} {v : Value} (hdata : s.ofData x = .ok (s₁, v))
    (hchanges : s.ChangesOnly s.tables.size s₁) {t : TableId} (ht : t < s.tables.size)
    (habsent : ∀ e ∈ (s.table t).entries, e.1.rawEq k.keyValue = false) (es : List (Data × Data)) :
    ∃ s₂, s.ofEntries t ((k, x) :: es) = s₂.ofEntries t es ∧ s.ChangesOnly t s₂ ∧ s₁.ChangesOnly t s₂ ∧
      (v = .nil → (s₂.table t).entries = (s.table t).entries) ∧
      (v ≠ .nil → (s₂.table t).entries = (s.table t).entries ++ [(k.keyValue, v)]) := by
  have htable : s₁.table t = s.table t := table_of_getElem? (hchanges.same t ht (Nat.ne_of_lt ht))
  have hset : ((s₁.setTable t (·.set k.keyValue v)).table t).entries = Table.put (s.table t).entries k.keyValue v := by
    rw [table_setTable (Nat.lt_of_lt_of_le ht hchanges.size), htable]
    exact congrArg (Table.put _ · v) hk.keyForm.1
  refine ⟨_, ?_, hchanges.weaken.trans (.setTable s₁ t _), .setTable s₁ t _, ?_, fun hv => hset.trans (put_absent habsent hv)⟩
  · rw [ofEntries, hdata]
    dsimp only [bind, Except.bind]
    rw [hk.keyOf]
  · rintro rfl
    exact hset.trans (put_nil habsent)

/-- Entries with keys apart fill a table one after the other; absent values leave none. -/
theorem ofEntries_spec {es : List (Data × Data)} (hkeys : ∀ e ∈ es, e.1.IsTableKey)
    (hvalues : ∀ e ∈ es, ∀ s : Store, ∃ s' v, s.ofData e.2 = .ok (s', v) ∧ s.Brings e.2 s' v) (s : Store) {t : TableId}
    (ht : t < s.tables.size)
    (apart : ((s.table t).entries.map Prod.fst ++ es.map fun e => e.1.keyValue).Pairwise fun k k' => k.rawEq k' = false) :
    ∃ s' new, s.ofEntries t es = .ok s' ∧ s.ChangesOnly t s' ∧ (s'.table t).entries = (s.table t).entries ++ new ∧
      List.Forall₂ (s'.EntryFor (t + 1)) new (Data.carryEntries es) := by
  induction es generalizing s with
  | nil => exact ⟨s, [], rfl, .refl s t, (List.append_nil _).symm, .nil⟩
  | cons e es ih =>
    obtain ⟨k, x⟩ := e
    have hk : k.IsTableKey := hkeys _ (.head _)
    obtain ⟨s₁, v, hdata, hbrings⟩ := hvalues _ (.head _) s
    have habsent : ∀ e ∈ (s.table t).entries, e.1.rawEq k.keyValue = false := fun e he =>
      (List.pairwise_append.mp apart).2.2 _ (List.mem_map_of_mem he) _ (.head _)
    obtain ⟨s₂, hrun, hsteps, hlater, hnone, hsome⟩ := ofEntries_cons hk hdata hbrings.changes ht habsent es
    have hrest := ih (fun e he => hkeys e (.tail _ he)) (fun e he => hvalues e (.tail _ he)) s₂ (Nat.lt_of_lt_of_le ht hsteps.size)
    by_cases hx : x = .null
    · subst hx
      rw [hnone (hbrings.nil_iff.mpr rfl)] at hrest
      obtain ⟨s', new, hok, hchanges, hentries, hnew⟩ := hrest (apart.sublist (by simp))
      exact ⟨s', new, hrun.trans hok, hsteps.trans hchanges, hentries, hnew⟩
    · have hv : v ≠ .nil := fun h => hx (hbrings.nil_iff.mp h)
      rw [hsome hv] at hrest
      obtain ⟨s', new, hok, hchanges, hentries, hnew⟩ := hrest (by simpa using apart)
      refine ⟨s', (k.keyValue, v) :: new, hrun.trans hok, hsteps.trans hchanges, by simpa using hentries, ?_⟩
      rw [Data.carryEntries_cons hx]
      refine .cons ⟨hk, rfl, hv, hbrings.represents.mono (hlater.trans hchanges).size ht fun u hu hlt => ?_⟩ hnew
      have hne : u ≠ t := Nat.ne_of_gt (Nat.lt_of_lt_of_le ht hu)
      exact (hlater.trans hchanges).same u hlt hne

theorem map_eq_of_forall₂ {α β : Type} {f : α → β} {xs : List α} {ys : List β} (h : List.Forall₂ (fun x y => f x = y) xs ys) :
    xs.map f = ys := by
  rw [← List.forall₂_eq_eq_eq, List.forall₂_map_left_iff]
  exact h

/-- A table with entries for texts and whole numbers has plain keys. -/
theorem plainKeys_of_entries {s : Store} {low : Nat} {t : Table} {es : List (Data × Data)} (h : List.Forall₂ (s.EntryFor low) t.entries es)
    (apart : (es.map Prod.fst).Nodup) : t.PlainKeys where
  keys e he := by
    obtain ⟨x, -, hx⟩ := exists_of_forall₂ h he
    rw [hx.key]
    exact hx.isTableKey.keyForm
  values e he := by
    obtain ⟨x, -, hx⟩ := exists_of_forall₂ h he
    exact hx.present
  apart := by
    generalize t.entries = entries at h
    induction h with
    | nil => exact .nil
    | @cons e x entries es hx h ih =>
      obtain ⟨hfirst, hrest⟩ := List.nodup_cons.mp apart
      refine List.pairwise_cons.mpr ⟨fun e' he' => ?_, ih hrest⟩
      obtain ⟨x', hmem, hx'⟩ := exists_of_forall₂ h he'
      rw [hx.key, hx'.key]
      exact hx.isTableKey.rawEq_eq_false hx'.isTableKey fun heq => hfirst (heq ▸ List.mem_map_of_mem hmem)
  plain e he := by
    obtain ⟨x, -, hx⟩ := exists_of_forall₂ h he
    rw [hx.key]
    exact hx.isTableKey.isPlain

/-- A table becomes what its entries gather. -/
theorem asData_eq_gathered {t : Table} {val : Value × Value → Data} {es : List (Data × Data)}
    (h : t.entries.map (fun e => (e.1.data, val e)) = es) (hkeys : ∀ x ∈ es, x.1.IsTableKey) (apart : (es.map Prod.fst).Nodup) :
    t.asData val = Data.gathered es := by
  have hsorted : t.ordered.map (fun e => (e.1.data, val e)) = es.mergeSort fun a b => !keyBefore b.1 a.1 := by
    rw [← h]
    unfold Table.ordered
    rw [List.map_mergeSort]
    intro a _ b _
    rfl
  have hperm := es.mergeSort_perm fun a b => !keyBefore b.1 a.1
  have hapart : (es.mergeSort fun a b => !keyBefore b.1 a.1).Pairwise fun a b => a.1.same b.1 = false := by
    have hnodup := List.pairwise_map.mp ((hperm.map Prod.fst).nodup_iff.mpr apart)
    exact hnodup.imp_of_mem fun {a b} ha hb hne => Bool.eq_false_iff.mpr
      (mt ((hkeys a (hperm.mem_iff.mp ha)).same_iff (hkeys b (hperm.mem_iff.mp hb))).mp hne)
  have hkeysOf : (t.ordered.map fun e => e.1.data) = (es.mergeSort fun a b => !keyBefore b.1 a.1).map Prod.fst := by
    rw [← hsorted, List.map_map]
    rfl
  have hvalues : t.ordered.map val = (es.mergeSort fun a b => !keyBefore b.1 a.1).map Prod.snd := by
    rw [← hsorted, List.map_map]
    rfl
  rw [Table.asData, hsorted, hkeysOf, hvalues, Data.foldl_insertKey_apart hapart]
  rfl

/-- A table filled with values that stand for data stands for what it gathers. -/
theorem represents_filled {s : Store} {t : TableId} (ht : t < s.tables.size) {low : Nat} (hlow : low ≤ t) {es : List (Data × Data)}
    (apart : (es.map Prod.fst).Nodup) (h : List.Forall₂ (s.EntryFor (t + 1)) (s.table t).entries es) :
    s.Represents low (.table t) (Data.gathered es) := by
  let val (e : Value × Value) : Data := (s.toData e.2).toOption.getD .null
  have hval {e : Value × Value} {x : Data × Data} (hx : s.EntryFor (t + 1) e x) : val e = x.2 := by
    simp only [val, hx.value.toData]
    rfl
  have hentry {e : Value × Value} {x : Data × Data} (hx : s.EntryFor (t + 1) e x) : (e.1.data, val e) = x := by
    rw [hx.key, hx.isTableKey.data_keyValue, hval hx]
  have hkeys : ∀ x ∈ es, x.1.IsTableKey := fun x hmem => by
    obtain ⟨e, -, hx⟩ := exists_of_forall₂ h.flip hmem
    exact hx.isTableKey
  have hgathered := asData_eq_gathered (map_eq_of_forall₂ (h.imp fun _ _ => hentry)) hkeys apart
  rw [← hgathered]
  refine .table hlow ht (plainKeys_of_entries h apart) fun e he => ?_
  obtain ⟨x, -, hx⟩ := exists_of_forall₂ h he
  exact hval hx ▸ hx.value

end Store

end Script

namespace Data

open Script Script.Store

theorem IsTableKey.brings {d : Data} (h : d.IsTableKey) (s : Store) : ∃ s' v, s.ofData d = .ok (s', v) ∧ s.Brings d s' v := by
  have hatom : atomOf d.keyValue = .ok d.carry := by
    have hcarry : d.carry = d := by cases h <;> rfl
    rw [h.isPlain.atomOf, h.data_keyValue, hcarry]
  have hne : d ≠ .null := by cases h <;> exact Data.noConfusion
  have hdata : s.ofData d = s.keyOf d := by cases h <;> rfl
  exact ⟨s, d.keyValue, hdata.trans (h.keyOf s), .refl s _, .atom hatom, by simp [h.keyForm.2.2, hne]⟩

/-- A new table is filled with entries. -/
theorem brings_table {es : List (Data × Data)} (keys : ∀ e ∈ es, e.1.IsTableKey) (apart : (es.map Prod.fst).Nodup)
    (values : ∀ e ∈ es, ∀ s : Store, ∃ s' v, s.ofData e.2 = .ok (s', v) ∧ s.Brings e.2 s' v) (s : Store) :
    ∃ s', (s.newTable {}).1.ofEntries s.tables.size es = .ok s' ∧ s.ChangesOnly s.tables.size s' ∧
      s'.Represents s.tables.size (.table s.tables.size) (gathered (carryEntries es)) := by
  have hempty : ((s.newTable {}).1.table s.tables.size).entries = [] := by simp [newTable, table]
  have hsize : s.tables.size < (s.newTable {}).1.tables.size := by simp [newTable]
  have hkeys : (((s.newTable {}).1.table s.tables.size).entries.map Prod.fst ++ es.map fun e => e.1.keyValue).Pairwise
      fun k k' => k.rawEq k' = false := by
    rw [hempty]
    refine List.pairwise_map.mpr ((List.pairwise_map.mp apart).imp_of_mem fun ha hb hne => ?_)
    exact (keys _ ha).rawEq_eq_false (keys _ hb) hne
  obtain ⟨s', new, hok, hchanges, hentries, hnew⟩ := ofEntries_spec keys values _ hsize hkeys
  rw [hempty, List.nil_append] at hentries
  refine ⟨s', hok, (ChangesOnly.newTable s {}).trans hchanges, ?_⟩
  exact represents_filled (Nat.lt_of_lt_of_le hsize hchanges.size) (Nat.le_refl _) (apart.sublist (keys_carryEntries es)) (hentries ▸ hnew)

/-- **Data that a script can hold becomes a value that stands for it.** -/
theorem Carried.brings {d : Data} (h : d.Carried) : ∀ s : Store, ∃ s' v, s.ofData d = .ok (s', v) ∧ s.Brings d s' v := by
  induction h with
  | null => exact fun s => ⟨s, .nil, rfl, .refl s _, .atom rfl, by simp⟩
  | bool b => exact fun s => ⟨s, .bool b, rfl, .refl s _, .atom rfl, by simp⟩
  | int h => exact (IsTableKey.int h).brings
  | float x => exact fun s => ⟨s, .float x, rfl, .refl s _, .atom rfl, by simp⟩
  | str t => exact (IsTableKey.str t).brings
  | @list xs short items ih =>
    intro s
    obtain ⟨s', hok, hchanges, hrep⟩ := brings_table (isTableKey_numbered short) (nodup_numbered 1 xs)
      (fun e he => ih e.2 (mem_numbered he).2) s
    refine ⟨s', .table s.tables.size, ?_, hchanges, ?_, by simp⟩
    · rw [ofData]
      dsimp only [newTable] at hok ⊢
      rw [ofItems_eq (by omega), hok]
      rfl
    · rw [carry, carryItems_eq]
      exact hrep
  | @dict es keys apart values ih =>
    intro s
    obtain ⟨s', hok, hchanges, hrep⟩ := brings_table keys apart ih s
    refine ⟨s', .table s.tables.size, ?_, hchanges, ?_, by simp⟩
    · rw [ofData]
      dsimp only [newTable] at hok ⊢
      rw [hok]
      rfl
    · rw [carry]
      exact hrep

/-- **A trip into a script and back computes `carry`**, in every store. -/
theorem Carried.trip {d : Data} (h : d.Carried) (s : Store) : s.trip d = .ok d.carry := by
  obtain ⟨s', v, hok, hbrings⟩ := h.brings s
  rw [Store.trip, hok]
  exact hbrings.represents.toData

end Data

end ScriptFlow
