import Mathlib
import ScriptFlow.Proofs.Script.Conversion

/-!
# Lists and dictionaries from tables

* `Table.Numbered` — the keys of a table are the places of a list, where the first place may have another key than `1`.
* `Table.PlainKeys.numbered_of_positions`, `Table.Numbered.arePositions` — conversions take a table for a list when its keys are `1 … n`, but also when `true` stands for `1`.
* `Store.tables_as_data` — **a table becomes a list with the value of each place, or a dictionary with one entry for each entry of the
  table, unless a truth value is a key beside the number it counts as**.
-/

namespace ScriptFlow.Script

/-! ## Places -/

namespace Value

/-- The key of a place when the first one is under `one`. -/
def place (one : Value) (p : Int64) : Value := if p = 1 then one else .int p

/-- What equals the first place outside of scripts. -/
def IsFirst (v : Value) : Prop := v = .int 1 ∨ v = .bool true

theorem rawEq_self {v : Value} (h : v.IsPlain) (hnan : v.isNaN = false) : v.rawEq v = true := by
  cases v with
  | bool b => exact BEq.rfl
  | int n => exact BEq.rfl
  | float x => exact beq_of_same (Data.Numeric.same_self (Data.Numeric.ofFloat_ne_nan hnan))
  | str bs => exact (show (bs.data == bs.data) = true from BEq.rfl)
  | _ => exact h.elim

end Value

namespace Table

/-- The keys are the places from the first up to the count of entries. -/
def Numbered (t : Table) (one : Value) : Prop :=
  ∀ k, k ∈ t.keys ↔ ∃ p : Int64, 0 < p.toInt ∧ p.toInt ≤ t.entries.length ∧ k = one.place p

/-- No truth value is a key beside the number it counts as. -/
def Unmistakable (t : Table) : Prop := ∀ k ∈ t.keys, ∀ k' ∈ t.keys, ¬ k.CountsAs k'

theorem PlainKeys.keys_nodup {t : Table} (h : t.PlainKeys) : t.keys.Nodup := by
  refine List.pairwise_map.mpr (h.apart.imp_of_mem fun {a b} ha _ hab heq => ?_)
  rw [← heq, Value.rawEq_self (h.plain a ha) (h.keys a ha).2.1] at hab
  cases hab

theorem find_of_mem {entries : List (Value × Value)} {e : Value × Value} (he : e ∈ entries) (hself : e.1.rawEq e.1 = true)
    (hapart : entries.Pairwise fun a b => a.1.rawEq b.1 = false) : find entries e.1 = e.2 := by
  induction entries with
  | nil => cases he
  | cons first rest ih =>
    obtain ⟨hfirst, hrest⟩ := List.pairwise_cons.mp hapart
    cases he with
    | head => simp [find, hself]
    | tail _ he =>
      have hne := hfirst e he
      simp [find, hne, ih he hrest]

/-- What is read under a key is what was written. -/
theorem PlainKeys.get_of_mem {t : Table} (h : t.PlainKeys) {e : Value × Value} (he : e ∈ t.entries) : t.get e.1 = e.2 := by
  obtain ⟨hform, hnan, -⟩ := h.keys e he
  rw [Table.get, hform]
  exact find_of_mem he (Value.rawEq_self (h.plain e he) hnan) h.apart

/-- Which keys equal a whole number outside of scripts. -/
theorem same_int_cases {v : Value} {n : Nat} (hn : 0 < n) (hv : v.IsPlain) (hform : v.keyForm = v) (h : v.data.same (.int n) = true) :
    v = .bool true ∧ n = 1 ∨ (∃ p : Int64, p.toInt = n ∧ v = .int p) ∨ 2 ^ 63 ≤ n ∧ v.data.typeName = "float" := by
  cases v with
  | bool b =>
    have hb : (if b then 1 else 0) = (n : Int) := Data.Numeric.same_ofInt.mp h
    cases b with
    | false => simp at hb; omega
    | true => exact .inl ⟨rfl, by simpa using hb.symm⟩
  | int p => exact .inr (.inl ⟨p, Data.Numeric.same_ofInt.mp h, rfl⟩)
  | float x =>
    refine .inr (.inr ⟨?_, rfl⟩)
    by_contra hsmall
    have hp : (Int64.ofNat n).toInt = n := Int64.toInt_ofNat_of_lt (Nat.lt_of_not_le hsmall)
    exact Value.not_keyForm_of_same (hp ▸ h) hform
  | str bs =>
    obtain ⟨t, -, ht⟩ := hv.text
    rw [ht, (Data.same_text_number rfl t).1] at h
    cases h
  | _ => exact hv.elim

/-- A table that is taken for a list has its places as keys. -/
theorem PlainKeys.place_of_positions {t : Table} (h : t.PlainKeys) (hpos : Store.arePositions (t.ordered.map fun e => e.1.data) = true)
    {i : Nat} (hi : i < t.ordered.length) : (i = 0 ∧ t.ordered[i].1 = .bool true) ∨ ∃ p : Int64, p.toInt = i + 1 ∧ t.ordered[i].1 = .int p := by
  have hcases (j : Nat) (hj : j < t.ordered.length) := by
    have hmem := mem_ordered.mp (List.getElem_mem hj)
    have hsame := Store.arePositions_iff.mp hpos j (by simpa using hj)
    rw [List.getElem_map] at hsame
    exact same_int_cases j.succ_pos (h.plain _ hmem) (h.keys _ hmem).1 hsame
  obtain ⟨hkey, hone⟩ | ⟨p, hp, hkey⟩ | ⟨hlarge, hfloat⟩ := hcases i hi
  · exact .inl ⟨by omega, hkey⟩
  · exact .inr ⟨p, by exact_mod_cast hp, hkey⟩
  · -- the second key is a whole number then, and those stand behind all other numbers
    exfalso
    have hsecond : 1 < t.ordered.length := by omega
    obtain ⟨-, hone⟩ | ⟨p, -, hkey⟩ | ⟨hlarge, -⟩ := hcases 1 hsecond
    · omega
    · have hle := List.pairwise_iff_getElem.mp h.ordered_sorted 1 i hsecond hi (by omega)
      have hlt : t.ordered[i].1.data.rank < t.ordered[1].1.data.rank := Data.rank_lt_of_typeName (by
        rw [hfloat, hkey]
        exact (by decide : "float" < "int"))
      exact absurd hle (not_le_of_gt hlt)
    · omega

theorem mem_keys_iff {t : Table} {k : Value} : k ∈ t.keys ↔ ∃ i, ∃ h : i < t.ordered.length, t.ordered[i].1 = k := by
  rw [keys, List.mem_map]
  constructor
  · rintro ⟨e, he, rfl⟩
    obtain ⟨i, hi, rfl⟩ := List.getElem_of_mem (mem_ordered.mpr he)
    exact ⟨i, hi, rfl⟩
  · rintro ⟨i, hi, rfl⟩
    exact ⟨_, mem_ordered.mp (List.getElem_mem hi), rfl⟩

/-- **A table that is taken for a list is numbered.** -/
theorem PlainKeys.numbered_of_positions {t : Table} (h : t.PlainKeys)
    (hpos : Store.arePositions (t.ordered.map fun e => e.1.data) = true) : ∃ one : Value, one.IsFirst ∧ t.Numbered one := by
  have hlength := t.ordered_perm.length_eq
  have hplace {i : Nat} (hi : i < t.ordered.length) := h.place_of_positions hpos hi
  by_cases hempty : t.ordered.length = 0
  · refine ⟨.int 1, .inl rfl, fun k => ?_⟩
    rw [mem_keys_iff]
    constructor
    · rintro ⟨i, hi, -⟩
      omega
    · rintro ⟨p, hp, hle, -⟩
      omega
  · have hfirst : 0 < t.ordered.length := Nat.pos_of_ne_zero hempty
    refine ⟨t.ordered[0].1, ?_, fun k => ?_⟩
    · obtain ⟨-, hkey⟩ | ⟨p, hp, hkey⟩ := hplace hfirst
      · exact .inr hkey
      · obtain rfl : p = 1 := Int64.toInt_inj.mp hp
        exact .inl hkey
    · rw [mem_keys_iff]
      constructor
      · rintro ⟨i, hi, rfl⟩
        obtain ⟨rfl, hkey⟩ | ⟨p, hp, hkey⟩ := hplace hi
        · exact ⟨1, by decide, by simp; omega, by simp [Value.place]⟩
        · refine ⟨p, by omega, by omega, ?_⟩
          unfold Value.place
          split
          · rename_i hone
            obtain rfl : i = 0 := by
              rw [hone] at hp
              simpa using hp
            rfl
          · exact hkey
      · rintro ⟨p, hpos, hle, rfl⟩
        unfold Value.place
        split
        · exact ⟨0, hfirst, rfl⟩
        · rename_i hone
          have hi : p.toInt.toNat - 1 < t.ordered.length := by omega
          obtain ⟨hzero, -⟩ | ⟨q, hq, hkey⟩ := hplace hi
          · exact absurd (Int64.toInt_inj.mp (show p.toInt = (1 : Int64).toInt by simp; omega)) hone
          · obtain rfl : q = p := Int64.toInt_inj.mp (by omega)
            exact ⟨_, hi, hkey⟩

/-- The first places. -/
def places (one : Value) (n : Nat) : List Value := (List.range n).map fun i => one.place (Int64.ofNat (i + 1))

theorem toInt_ofNat_succ {i n : Nat} (hi : i < n) (hn : n < 2 ^ 63) : (Int64.ofNat (i + 1)).toInt = i + 1 := by
  rw [Int64.toInt_ofNat_of_lt (by omega)]
  rfl

theorem Numbered.mem_places {t : Table} {one k : Value} (h : t.Numbered one) {n : Nat} (hk : k ∈ t.keys)
    (hn : ∀ p : Int64, p.toInt ≤ t.entries.length → p.toInt ≤ n) : k ∈ places one n := by
  obtain ⟨p, hpos, hle, rfl⟩ := (h k).mp hk
  have hp := hn p hle
  have hmax := p.toInt_lt
  refine List.mem_map.mpr ⟨p.toInt.toNat - 1, List.mem_range.mpr (by omega), ?_⟩
  congr 1
  apply Int64.toInt_inj.mp
  rw [Int64.toInt_ofNat_of_lt (by omega)]
  omega

/-- There are fewer places than whole numbers. -/
theorem Numbered.length_lt {t : Table} {one : Value} (h : t.Numbered one) (ht : t.PlainKeys) : t.entries.length < 2 ^ 63 := by
  have hsub : t.keys ⊆ places one (2 ^ 63 - 1) := fun k hk => h.mem_places hk fun p _ => by
    have hmax := p.toInt_lt
    omega
  have hle := (List.subperm_of_subset ht.keys_nodup hsub).length_le
  simp only [keys, places, List.length_map, List.length_range] at hle
  omega

/-- Places are in order. -/
theorem places_pairwise {one : Value} (hone : one.IsFirst) {n : Nat} (hn : n < 2 ^ 63) :
    (places one n).Pairwise fun a b => a.data.rank < b.data.rank := by
  refine List.pairwise_map.mpr (List.pairwise_lt_range.imp_of_mem fun {i j} hi hj hij => ?_)
  have htoInt {i : Nat} (hi : i ∈ List.range n) := toInt_ofNat_succ (List.mem_range.mp hi) hn
  have hlater : one.place (Int64.ofNat (j + 1)) = .int (Int64.ofNat (j + 1)) := by
    refine if_neg fun hj1 => ?_
    have hj' := htoInt hj
    rw [hj1] at hj'
    simp at hj'
    omega
  have hlt : (Value.int (Int64.ofNat (i + 1))).data.rank < (Value.int (Int64.ofNat (j + 1))).data.rank :=
    Data.rank_int_lt.mpr (by rw [htoInt hi, htoInt hj]; omega)
  rw [hlater]
  unfold Value.place
  split
  · rename_i hi1
    obtain rfl | rfl := hone
    · rw [← hi1]
      exact hlt
    · exact Data.rank_lt_of_typeName (by decide : "bool" < "int")
  · exact hlt

/-- The keys of a numbered table in order are its places. -/
theorem Numbered.ordered_keys {t : Table} {one : Value} (h : t.Numbered one) (hone : one.IsFirst) (ht : t.PlainKeys) :
    t.ordered.map Prod.fst = places one t.entries.length := by
  have hlt := h.length_lt ht
  have hplaces := places_pairwise hone hlt
  have hranks : ((places one t.entries.length).map fun k => k.data.rank).Nodup := List.pairwise_map.mpr (hplaces.imp ne_of_lt)
  have hperm : (t.ordered.map Prod.fst).Perm (places one t.entries.length) := by
    refine (t.ordered_perm.map Prod.fst).trans ((List.perm_ext_iff_of_nodup ht.keys_nodup hranks.of_map).mpr fun k => ?_)
    refine ⟨fun hk => h.mem_places hk fun _ hp => hp, fun hk => (h k).mpr ?_⟩
    obtain ⟨i, hi, rfl⟩ := List.mem_map.mp hk
    have hi := List.mem_range.mp hi
    have hp := toInt_ofNat_succ hi hlt
    exact ⟨Int64.ofNat (i + 1), by omega, by omega, rfl⟩
  refine hperm.eq_of_pairwise (fun a b ha hb hab hba => ?_) (List.pairwise_map.mpr ht.ordered_sorted) (hplaces.imp le_of_lt)
  exact List.inj_on_of_nodup_map hranks (hperm.mem_iff.mp ha) hb (le_antisymm hab hba)

theorem same_place {one : Value} (hone : one.IsFirst) {i n : Nat} (hi : i < n) (hn : n < 2 ^ 63) :
    (one.place (Int64.ofNat (i + 1))).data.same (.int (i + 1 : Nat)) = true := by
  have hp := toInt_ofNat_succ hi hn
  unfold Value.place
  split
  · rename_i h1
    rw [h1] at hp
    obtain rfl : i = 0 := by simpa using hp
    obtain rfl | rfl := hone <;> exact Data.Numeric.same_ofInt.mpr rfl
  · exact Data.Numeric.same_ofInt.mpr hp

/-- **A numbered table is taken for a list.** -/
theorem Numbered.arePositions {t : Table} {one : Value} (h : t.Numbered one) (hone : one.IsFirst) (ht : t.PlainKeys) :
    Store.arePositions (t.ordered.map fun e => e.1.data) = true := by
  have hkeys : (t.ordered.map fun e => e.1.data) = (places one t.entries.length).map Value.data := by
    rw [← h.ordered_keys hone ht, List.map_map]
    rfl
  rw [hkeys]
  refine Store.arePositions_iff.mpr fun i hi => ?_
  have hi : i < t.entries.length := by simpa [places] using hi
  simpa [places] using same_place hone hi (h.length_lt ht)

/-- The value of a place is the one that is read under its key. -/
theorem Numbered.ordered_getElem {t : Table} {one : Value} (h : t.Numbered one) (hone : one.IsFirst) (ht : t.PlainKeys) {p : Int64}
    (hpos : 0 < p.toInt) (hle : p.toInt ≤ t.entries.length) :
    ∃ e ∈ t.entries, t.ordered[p.toInt.toNat - 1]? = some e ∧ t.get (one.place p) = e.2 := by
  have hlength := t.ordered_perm.length_eq
  have hi : p.toInt.toNat - 1 < t.ordered.length := by omega
  have hmem := mem_ordered.mp (List.getElem_mem hi)
  have hp : Int64.ofNat (p.toInt.toNat - 1 + 1) = p := by
    apply Int64.toInt_inj.mp
    rw [toInt_ofNat_succ (n := t.entries.length) (by omega) (h.length_lt ht)]
    omega
  have hkey : t.ordered[p.toInt.toNat - 1].1 = one.place p := by
    have hget : (t.ordered.map Prod.fst)[p.toInt.toNat - 1]? = some (one.place p) := by
      rw [h.ordered_keys hone ht, places, List.getElem?_map, List.getElem?_range (by omega), Option.map_some, hp]
    rw [List.getElem?_map, List.getElem?_eq_getElem hi] at hget
    exact Option.some.inj hget
  exact ⟨_, hmem, List.getElem?_eq_getElem hi, hkey ▸ ht.get_of_mem hmem⟩

/-- Entries whose keys stay apart outside of scripts. -/
def Apart (a b : Value × Value) : Prop := a.1.data.same b.1.data = false ∧ b.1.data.same a.1.data = false

instance : Std.Symm Apart := ⟨fun _ _ => And.symm⟩

theorem PlainKeys.apart_of_same_eq_false {t : Table} (h : t.PlainKeys) {a b : Value × Value} (ha : a ∈ t.entries) (hb : b ∈ t.entries)
    (hab : a.1.data.same b.1.data = false) : Apart a b :=
  ⟨hab, (h.isKey ha).same_comm (h.isKey hb) ▸ hab⟩

theorem Unmistakable.apart {t : Table} (hclear : t.Unmistakable) (h : t.PlainKeys) {a b : Value × Value} (ha : a ∈ t.entries)
    (hb : b ∈ t.entries) (hab : a.1.rawEq b.1 = false) : Apart a b := by
  refine h.apart_of_same_eq_false ha hb (Bool.eq_false_iff.mpr fun hs => ?_)
  obtain hcounts | hcounts := Value.counts_of_same (h.plain a ha) (h.plain b hb) (h.keys a ha).1 (h.keys b hb).1 hab hs
  · exact hclear _ (List.mem_map_of_mem ha) _ (List.mem_map_of_mem hb) hcounts
  · exact hclear _ (List.mem_map_of_mem hb) _ (List.mem_map_of_mem ha) hcounts

/-- **Keys stay apart outside of scripts unless a truth value is a key beside its number.** -/
theorem PlainKeys.apart_iff {t : Table} (h : t.PlainKeys) :
    (t.ordered.Pairwise fun a b => a.1.data.same b.1.data = false) ↔ t.Unmistakable := by
  constructor
  · intro hapart k hk k' hk' hcounts
    obtain ⟨e, he, rfl⟩ := List.mem_map.mp hk
    obtain ⟨e', he', rfl⟩ := List.mem_map.mp hk'
    have hboth : t.ordered.Pairwise Apart :=
      hapart.imp_of_mem fun ha hb hab => h.apart_of_same_eq_false (mem_ordered.mp ha) (mem_ordered.mp hb) hab
    have hne : e ≠ e' := by
      rintro rfl
      generalize e.1 = k at hcounts
      cases hcounts
    exact Bool.eq_false_iff.mp (hboth.forall (mem_ordered.mpr he) (mem_ordered.mpr he') hne).1 hcounts.same
  · intro hclear
    have hboth : t.entries.Pairwise Apart := h.apart.imp_of_mem fun ha hb hab => hclear.apart h ha hb hab
    exact ((t.ordered_perm.pairwise_iff And.symm).mpr hboth).imp And.left

theorem numbered_singleton {t : Table} {one v : Value} (h : t.entries = [(one, v)]) : t.Numbered one := by
  intro k
  rw [keys, h]
  constructor
  · intro hk
    exact ⟨1, by decide, Int.le_refl _, by simpa [Value.place] using hk⟩
  · rintro ⟨p, hpos, hle, rfl⟩
    obtain rfl : p = 1 := Int64.toInt_inj.mp (show p.toInt = 1 by simp at hle; omega)
    simp [Value.place]

end Table

/-! ## Conversions -/

namespace Store

/-- A list has the value of each place, converted. -/
structure ListOf (s : Store) (t : Table) (one : Value) (items : List Data) : Prop where
  length : items.length = t.entries.length
  place : ∀ p : Int64, 0 < p.toInt → p.toInt ≤ items.length → ∃ x, s.toData (t.get (one.place p)) = .ok x ∧
    items[p.toInt.toNat - 1]? = some x

/-- A dictionary has one entry for each entry of the table, key and value converted. -/
def DictionaryOf (s : Store) (t : Table) (es : List (Data × Data)) : Prop :=
  ∃ es' : List (Data × Data), es'.Perm es ∧
    List.Forall₂ (fun e x => s.toData e.1 = .ok x.1 ∧ s.toData e.2 = .ok x.2) t.entries es'

/-- A numbered table becomes a list. -/
theorem Convertible.list {s : Store} {t : TableId} (h : s.Convertible (.table t)) {one : Value} (hone : one.IsFirst)
    (hnum : (s.table t).Numbered one) : ∃ items, s.toData (.table t) = .ok (.list items) ∧ s.ListOf (s.table t) one items := by
  obtain ⟨keys, -⟩ := h.of_table
  obtain ⟨val, hval, hdata⟩ := h.toData_table
  have hlength := (s.table t).ordered_perm.length_eq
  rw [Table.asData, if_pos (hnum.arePositions hone keys)] at hdata
  refine ⟨_, hdata, by simpa using hlength, fun p hpos hle => ?_⟩
  obtain ⟨e, he, hget, hread⟩ := hnum.ordered_getElem hone keys hpos (by simpa [hlength] using hle)
  refine ⟨val e, hread ▸ hval e he, ?_⟩
  rw [List.getElem?_map, hget]
  rfl

/-- Any other table becomes a dictionary. -/
theorem Convertible.dictionary {s : Store} {t : TableId} (h : s.Convertible (.table t))
    (hnone : ∀ one : Value, one.IsFirst → ¬ (s.table t).Numbered one) : ∃ es, s.toData (.table t) = .ok (.dict es) ∧
      ((s.table t).Unmistakable → s.DictionaryOf (s.table t) es) ∧
      (¬ (s.table t).Unmistakable → es.length < (s.table t).entries.length) := by
  obtain ⟨keys, -⟩ := h.of_table
  obtain ⟨val, hval, hdata⟩ := h.toData_table
  have hdict : ¬ Store.arePositions ((s.table t).ordered.map fun e => e.1.data) = true := fun hpos => by
    obtain ⟨one, hone, hnum⟩ := keys.numbered_of_positions hpos
    exact hnone one hone hnum
  rw [Table.asData, if_neg hdict] at hdata
  refine ⟨_, hdata, fun hclear => ?_, fun hclash => ?_⟩
  · refine ⟨(s.table t).entries.map fun e => (e.1.data, val e), ?_, ?_⟩
    · rw [Data.foldl_insertKey_apart (List.pairwise_map.mpr (keys.apart_iff.mpr hclear))]
      exact ((s.table t).ordered_perm.map _).symm
    · rw [List.forall₂_map_right_iff, List.forall₂_same]
      exact fun e he => ⟨toDataWithin_plain (keys.plain e he), hval e he⟩
  · have hlt := @Data.length_foldl_insertKey_lt ((s.table t).ordered.map fun e => (e.1.data, val e)) []
      fun hp => hclash (keys.apart_iff.mp (List.pairwise_map.mp hp))
    simpa [(s.table t).ordered_perm.length_eq] using hlt

/-- **A table becomes a list or a dictionary.** It becomes a list when its keys are `1 … n`, and also when `true` stands for `1`. It
becomes a dictionary that loses nothing unless a truth value is a key beside the number it counts as. -/
theorem tables_as_data {s : Store} {t : TableId} (h : s.Convertible (.table t)) :
    (∀ one : Value, one.IsFirst → (s.table t).Numbered one →
      ∃ items, s.toData (.table t) = .ok (.list items) ∧ s.ListOf (s.table t) one items) ∧
    ((∀ one : Value, one.IsFirst → ¬ (s.table t).Numbered one) → ∃ es, s.toData (.table t) = .ok (.dict es) ∧
      ((s.table t).Unmistakable → s.DictionaryOf (s.table t) es) ∧
      (¬ (s.table t).Unmistakable → es.length < (s.table t).entries.length)) :=
  ⟨fun _ hone hnum => h.list hone hnum, fun hnone => h.dictionary hnone⟩

/-- A table in a table: the outer one is a list, the inner one has a truth value and a number as keys. -/
def nested : Store :=
  { tables := #[{ entries := [(.int 1, .table 1)] }, { entries := [(.bool false, .int 7), (.int 3, .bool true)] }] }

theorem nested_convertible : nested.Convertible (.table 0) := by
  have houter : (nested.table 0).entries = [(.int 1, .table 1)] := rfl
  have hinner : (nested.table 1).entries = [(.bool false, .int 7), (.int 3, .bool true)] := rfl
  refine .table ⟨⟨?_, ?_, ?_⟩, ?_⟩ fun e he => ?_
  · simp [houter, Value.keyForm, Value.isNaN]
  · simp [houter]
  · simp [houter]
  · simp [houter, Value.IsPlain]
  · obtain rfl : e = (.int 1, .table 1) := by simpa [houter] using he
    refine .table ⟨⟨?_, ?_, ?_⟩, ?_⟩ ?_
    · simp [hinner, Value.keyForm, Value.isNaN]
    · simp [hinner]
    · simp [hinner, Value.rawEq]
    · simp [hinner, Value.IsPlain]
    · rw [hinner]
      simpa using ⟨Convertible.atom rfl, Convertible.atom rfl⟩

theorem tables_as_data_of_nested : nested.Convertible (.table 0) ∧
    ∃ items, nested.toData (.table 0) = .ok (.list items) ∧ nested.ListOf (nested.table 0) (.int 1) items :=
  ⟨nested_convertible, (tables_as_data nested_convertible).1 _ (.inl rfl) (Table.numbered_singleton rfl)⟩

/-- A table with the key `true` only. -/
def loneTruth : Store := { tables := #[{ entries := [(.bool true, .int 7)] }] }

/-- A table with the keys `true` and `1`. -/
def truthBesideOne : Store := { tables := #[{ entries := [(.bool true, .int 7), (.int 1, .int 8)] }] }

theorem loneTruth_convertible : loneTruth.Convertible (.table 0) := by
  have hentries : (loneTruth.table 0).entries = [(.bool true, .int 7)] := rfl
  refine .table ⟨⟨?_, ?_, ?_⟩, ?_⟩ ?_
  · simp [hentries, Value.keyForm, Value.isNaN]
  · simp [hentries]
  · simp [hentries]
  · simp [hentries, Value.IsPlain]
  · rw [hentries]
    simpa using Convertible.atom rfl

theorem truthBesideOne_convertible : truthBesideOne.Convertible (.table 0) := by
  have hentries : (truthBesideOne.table 0).entries = [(.bool true, .int 7), (.int 1, .int 8)] := rfl
  refine .table ⟨⟨?_, ?_, ?_⟩, ?_⟩ ?_
  · simp [hentries, Value.keyForm, Value.isNaN]
  · simp [hentries]
  · simp [hentries, Value.rawEq]
  · simp [hentries, Value.IsPlain]
  · rw [hentries]
    simpa using ⟨Convertible.atom rfl, Convertible.atom rfl⟩

/-- **A truth value passes for a number.** A table with the one key `true` becomes a list, and a table with the keys `true` and `1` loses
an entry. -/
theorem truth_values_pass_for_numbers :
    (loneTruth.Convertible (.table 0) ∧ ¬ (loneTruth.table 0).Numbered (.int 1) ∧ ∃ items, loneTruth.toData (.table 0) = .ok (.list items)) ∧
    truthBesideOne.Convertible (.table 0) ∧
      ∃ es, truthBesideOne.toData (.table 0) = .ok (.dict es) ∧ es.length < (truthBesideOne.table 0).entries.length := by
  refine ⟨⟨loneTruth_convertible, fun hnum => ?_, ?_⟩, truthBesideOne_convertible, ?_⟩
  · have hone : Value.int 1 ∈ [Value.bool true] := (hnum _).mpr ⟨1, by decide, by decide, rfl⟩
    simp at hone
  · obtain ⟨items, hitems, -⟩ := loneTruth_convertible.list (.inr rfl) (Table.numbered_singleton rfl)
    exact ⟨items, hitems⟩
  · have hnone : ∀ one : Value, one.IsFirst → ¬ (truthBesideOne.table 0).Numbered one := fun one _ hnum => by
      have htwo : Value.int 2 ∈ [Value.bool true, .int 1] := (hnum _).mpr ⟨2, by decide, by decide, rfl⟩
      simp at htwo
    obtain ⟨es, hes, -, hfewer⟩ := truthBesideOne_convertible.dictionary hnone
    exact ⟨es, hes, hfewer fun hclear => hclear _ (.head _) _ (.tail _ (.head _)) .one⟩

end Store

end ScriptFlow.Script
