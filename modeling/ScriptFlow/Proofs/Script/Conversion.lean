import Mathlib
import ScriptFlow.Proofs.Script.Keys

/-!
# Tables as data

* `Store.Convertible` — values that have a form outside of scripts: their tables nest to a finite depth, their keys are plain and their leaves
  have a form.
* `Table.asData` — what becomes of a table, given what becomes of its values; `Store.Convertible.toData_table` — conversions compute that, however
  deep tables nest and whichever tables are shared.
-/

namespace ScriptFlow.Script

open Relation

/-! ## Entries in order -/

namespace Table

/-- Plain keys, as data. -/
structure PlainKeys (t : Table) : Prop extends t.WellFormed where
  plain : ∀ e ∈ t.entries, e.1.IsPlain

theorem PlainKeys.isKey {t : Table} (h : t.PlainKeys) {e : Value × Value} (he : e ∈ t.entries) : e.1.data.IsKey :=
  (h.plain e he).isKey (h.keys e he).2.1

/-- The entries in the order of a conversion. -/
def ordered (t : Table) : List (Value × Value) := t.entries.mergeSort fun a b => !Store.keyBefore b.1.data a.1.data

theorem ordered_perm (t : Table) : t.ordered.Perm t.entries := List.mergeSort_perm _ _

theorem mem_ordered {t : Table} {e : Value × Value} : e ∈ t.ordered ↔ e ∈ t.entries := t.ordered_perm.mem_iff

theorem PlainKeys.ordered_sorted {t : Table} (h : t.PlainKeys) : t.ordered.Pairwise fun a b => a.1.data.rank ≤ b.1.data.rank :=
  Data.sorted_mergeSort fun _ he => h.isKey he

/-- What becomes of a table when its values become what `val` says. -/
def asData (t : Table) (val : Value × Value → Data) : Data :=
  if Store.arePositions (t.ordered.map fun e => e.1.data) then .list (t.ordered.map val)
  else .dict ((t.ordered.map fun e => (e.1.data, val e)).foldl (fun acc e => Data.insertKey acc e.1 e.2) [])

end Table

/-! ## One table -/

namespace Store

theorem sameItems_iff {xs ys : List Data} : Data.sameItems xs ys = true ↔ List.Forall₂ (fun x y => x.same y = true) xs ys := by
  induction xs generalizing ys with
  | nil => cases ys <;> simp [Data.sameItems]
  | cons x xs ih => cases ys <;> simp [Data.sameItems, ih]

theorem arePositions_iff {ks : List Data} : arePositions ks = true ↔ ∀ i (h : i < ks.length), ks[i].same (.int (i + 1 : Nat)) = true := by
  rw [arePositions, sameItems_iff, List.forall₂_iff_get]
  simp

/-- Keys that are texts are no positions. -/
theorem not_arePositions_of_text {ks : List Data} (h : ∀ k ∈ ks, ∃ t, k = .str t) (hne : ks ≠ []) : arePositions ks = false := by
  refine Bool.eq_false_iff.mpr fun hpos => ?_
  have hlt : 0 < ks.length := List.length_pos_iff.mpr hne
  obtain ⟨t, ht⟩ := h _ (List.getElem_mem hlt)
  have hsame := arePositions_iff.mp hpos 0 hlt
  rw [ht, (Data.same_text_number (a := .int _) rfl t).1] at hsame
  cases hsame

theorem exists_of_forall₂ {α β : Type} {R : α → β → Prop} {xs : List α} {ys : List β} (h : List.Forall₂ R xs ys) {x : α} (hx : x ∈ xs) :
    ∃ y ∈ ys, R x y := by
  induction h with
  | nil => cases hx
  | cons hxy _ ih =>
    cases hx with
    | head => exact ⟨_, .head _, hxy⟩
    | tail _ hx =>
      obtain ⟨y, hy, hR⟩ := ih hx
      exact ⟨y, .tail _ hy, hR⟩

theorem bind_ok_iff {ε α β : Type} {x : Except ε α} {f : α → Except ε β} {b : β} :
    x >>= f = .ok b ↔ ∃ a, x = .ok a ∧ f a = .ok b := by
  cases x <;> simp [bind, Except.bind]

theorem map_ok_iff {α β : Type} {x : Except Fault α} {f : α → β} {b : β} : x.map f = .ok b ↔ ∃ a, x = .ok a ∧ f a = b := by
  cases x <;> simp [Except.map]

theorem mapM_ok_iff {α β : Type} {f : α → Except Fault β} {xs : List α} {ys : List β} :
    xs.mapM f = .ok ys ↔ List.Forall₂ (fun x y => f x = .ok y) xs ys := by
  induction xs generalizing ys with
  | nil => cases ys <;> simp [pure, Except.pure]
  | cons x xs ih =>
    simp only [List.mapM_cons, bind_ok_iff, ih]
    constructor
    · rintro ⟨y, hy, ys', hys, h⟩
      cases h
      exact .cons hy hys
    · intro h
      cases h with
      | cons hy hys => exact ⟨_, hy, _, hys, rfl⟩

variable {f : Value → Except Fault Data}

theorem convertAll_ok_iff {vs : List Value} {xs : List Data} : convertAll f vs = .ok xs ↔ List.Forall₂ (fun v x => f v = .ok x) vs xs := by
  have heq : convertAll f vs = vs.mapM f := by
    induction vs with
    | nil => rfl
    | cons v vs ih => rw [convertAll, List.mapM_cons, ih]
  rw [heq, mapM_ok_iff]

theorem collect_cons_ok_iff {e : Data × Value} {es : List (Data × Value)} {acc ds : List (Data × Data)} :
    collect f (e :: es) acc = .ok ds ↔
      ∃ x, f e.2 = .ok x ∧ e.1.isHashable = true ∧ collect f es (Data.insertKey acc e.1 x) = .ok ds := by
  simp only [collect, bind_ok_iff]
  refine exists_congr fun x => and_congr_right fun _ => ?_
  cases hk : e.1.isHashable with
  | false => simp [throw, throwThe, MonadExceptOf.throw, bind, Except.bind]
  | true => simp

/-- Strings are looked at before anything is converted. -/
theorem readEntry_ok_iff {e : Value × Value} {r : Data × Value} :
    readEntry f e = .ok r ↔ e.1.IsReadable ∧ e.2.IsReadable ∧ f e.1 = .ok r.1 ∧ e.2 = r.2 := by
  obtain ⟨k, v⟩ := e
  obtain ⟨d, v'⟩ := r
  have hreadable {v : Value} (h : ∀ bs, v ≠ .str bs) : v.IsReadable ↔ True := iff_true_intro (Value.isReadable_of_ne_str h)
  cases k with
  | str bs =>
    cases v with
    | str bs' => simp [readEntry, bind_ok_iff, map_ok_iff, Value.isReadable_str, pure, Except.pure]
    | _ => simp [readEntry, bind_ok_iff, map_ok_iff, Value.isReadable_str, hreadable, pure, Except.pure]
  | _ =>
    cases v with
    | str bs' => simp [readEntry, bind_ok_iff, map_ok_iff, Value.isReadable_str, hreadable, pure, Except.pure]
    | _ => simp [readEntry, bind_ok_iff, hreadable, pure, Except.pure]

theorem sortedEntries_ok_iff {t : Table} {es : List (Data × Value)} : sortedEntries f t = .ok es ↔
    ∃ rs, List.Forall₂ (fun e r => readEntry f e = .ok r) t.entries rs ∧ clash (rs.map Prod.fst) = false ∧
      rs.mergeSort (fun a b => !keyBefore b.1 a.1) = es := by
  simp only [sortedEntries, bind_ok_iff, mapM_ok_iff]
  refine exists_congr fun rs => and_congr_right fun _ => ?_
  cases hclash : clash (rs.map Prod.fst) with
  | false => simp [pure, Except.pure]
  | true => simp [throw, throwThe, MonadExceptOf.throw, bind, Except.bind]

theorem toDataWithin_table_ok_iff {s : Store} {fuel : Nat} {t : TableId} {d : Data} :
    s.toDataWithin (fuel + 1) (.table t) = .ok d ↔ ∃ es, sortedEntries (s.toDataWithin fuel) (s.table t) = .ok es ∧
      (arePositions (es.map Prod.fst) = true ∧
          (∃ xs, List.Forall₂ (fun v x => s.toDataWithin fuel v = .ok x) (es.map Prod.snd) xs ∧ .list xs = d) ∨
        arePositions (es.map Prod.fst) = false ∧ ∃ ds, collect (s.toDataWithin fuel) es [] = .ok ds ∧ .dict ds = d) := by
  rw [toDataWithin, bind_ok_iff]
  refine exists_congr fun es => and_congr_right fun _ => ?_
  cases arePositions (es.map Prod.fst) <;> simp [map_ok_iff, convertAll_ok_iff]

theorem collect_eq {es : List (Value × Value)} {val : Value × Value → Data}
    (h : ∀ e ∈ es, f e.2 = .ok (val e) ∧ e.1.data.isHashable = true) (acc : List (Data × Data)) :
    collect f (es.map fun e => (e.1.data, e.2)) acc =
      .ok ((es.map fun e => (e.1.data, val e)).foldl (fun acc e => Data.insertKey acc e.1 e.2) acc) := by
  induction es generalizing acc with
  | nil => rfl
  | cons e es ih =>
    obtain ⟨hval, hkey⟩ := h e (.head _)
    exact collect_cons_ok_iff.mpr ⟨val e, hval, hkey, ih (fun e he => h e (.tail _ he)) _⟩

theorem clash_eq_false {ks : List Data} (h : ∀ k ∈ ks, isOrdered k = true) : clash ks = false := by
  induction ks with
  | nil => rfl
  | cons k ks ih => simp [clash, h k (.head _), ih fun k hk => h k (.tail _ hk)]

theorem sortedEntries_eq {t : Table} (h : t.PlainKeys) (hf : ∀ e ∈ t.entries, f e.1 = .ok e.1.data)
    (hv : ∀ e ∈ t.entries, e.2.IsReadable) : sortedEntries f t = .ok (t.ordered.map fun e => (e.1.data, e.2)) := by
  refine sortedEntries_ok_iff.mpr ⟨t.entries.map fun e => (e.1.data, e.2), ?_, ?_, ?_⟩
  · rw [List.forall₂_map_right_iff, List.forall₂_same]
    exact fun e he => readEntry_ok_iff.mpr ⟨fun _ _ => h.plain e he, hv e he, hf e he, rfl⟩
  · refine clash_eq_false fun k hk => ?_
    obtain ⟨e, he, rfl⟩ : ∃ e ∈ t.entries, e.1.data = k := by simpa using hk
    exact (h.isKey he).isOrdered
  · unfold Table.ordered
    rw [List.map_mergeSort]
    intro a _ b _
    rfl

theorem toDataWithin_of_not_table {s : Store} {fuel : Nat} {v : Value} (h : ∀ t, v ≠ .table t) : s.toDataWithin fuel v = atomOf v :=
  toDataWithin.eq_2 s fuel v fun _ t _ hv => h t hv

theorem toDataWithin_plain {s : Store} {fuel : Nat} {v : Value} (h : v.IsPlain) : s.toDataWithin fuel v = .ok v.data := by
  rw [toDataWithin_of_not_table, h.atomOf]
  rintro t rfl
  exact h

theorem isReadable_of_toDataWithin {s : Store} {fuel : Nat} {v : Value} {d : Data} (h : s.toDataWithin fuel v = .ok d) : v.IsReadable := by
  rintro bs rfl
  rw [toDataWithin_of_not_table fun t => Value.noConfusion, atomOf, map_ok_iff] at h
  obtain ⟨t, ht, -⟩ := h
  exact ⟨t, ht⟩

/-- **A table converts by its ordered entries.** -/
theorem toDataWithin_table {s : Store} {fuel : Nat} {t : TableId} {val : Value × Value → Data} (h : (s.table t).PlainKeys)
    (hv : ∀ e ∈ (s.table t).entries, s.toDataWithin fuel e.2 = .ok (val e)) :
    s.toDataWithin (fuel + 1) (.table t) = .ok ((s.table t).asData val) := by
  have hsorted : sortedEntries (s.toDataWithin fuel) (s.table t) = .ok ((s.table t).ordered.map fun e => (e.1.data, e.2)) :=
    sortedEntries_eq h (fun e he => toDataWithin_plain (h.plain e he)) fun e he => isReadable_of_toDataWithin (hv e he)
  have hval : ∀ e ∈ (s.table t).ordered, s.toDataWithin fuel e.2 = .ok (val e) := fun e he => hv e (Table.mem_ordered.mp he)
  have hkeys : ((s.table t).ordered.map fun e => (e.1.data, e.2)).map Prod.fst = (s.table t).ordered.map fun e => e.1.data :=
    List.map_map
  have hvalues : ((s.table t).ordered.map fun e => (e.1.data, e.2)).map Prod.snd = (s.table t).ordered.map Prod.snd := List.map_map
  refine toDataWithin_table_ok_iff.mpr ⟨_, hsorted, ?_⟩
  rw [hkeys, hvalues]
  unfold Table.asData
  by_cases hlist : arePositions ((s.table t).ordered.map fun e => e.1.data) = true
  · refine .inl ⟨hlist, (s.table t).ordered.map val, ?_, by rw [if_pos hlist]⟩
    rw [List.forall₂_map_left_iff, List.forall₂_map_right_iff, List.forall₂_same]
    exact hval
  · refine .inr ⟨Bool.eq_false_iff.mpr hlist, _, collect_eq (fun e he => ⟨hval e he, ?_⟩) [], by rw [if_neg hlist]⟩
    exact (h.isKey (Table.mem_ordered.mp he)).isHashable

/-! ## Tables within tables -/

/-- Values that have a form outside of scripts. -/
inductive Convertible (s : Store) : Value → Prop where
  | atom {v : Value} {d : Data} (h : atomOf v = .ok d) : Convertible s v
  | table {t : TableId} (keys : (s.table t).PlainKeys) (values : ∀ e ∈ (s.table t).entries, Convertible s e.2) : Convertible s (.table t)

/-- A table is a value in another one. -/
def Holds (s : Store) (t u : TableId) : Prop := ∃ e ∈ (s.table t).entries, e.2 = .table u

theorem Holds.lt_size {s : Store} {t : TableId} {e : Value × Value} (h : e ∈ (s.table t).entries) : t < s.tables.size := by
  by_contra hge
  rw [table, Array.getElem?_eq_none (Nat.le_of_not_lt hge)] at h
  exact absurd h List.not_mem_nil

theorem Convertible.of_table {s : Store} {t : TableId} (h : s.Convertible (.table t)) :
    (s.table t).PlainKeys ∧ ∀ e ∈ (s.table t).entries, s.Convertible e.2 := by
  cases h with
  | atom h => cases h
  | table keys values => exact ⟨keys, values⟩

/-- Nothing nests without end below a value that has a form. -/
theorem Convertible.acc {s : Store} {v : Value} (h : s.Convertible v) : ∀ t, v = .table t → Acc (fun u t => s.Holds t u) t := by
  induction h with
  | atom h =>
    rintro t rfl
    cases h
  | @table t keys values ih =>
    intro u hu
    obtain rfl := Value.table.inj hu
    exact .intro t fun u ⟨e, he, hu⟩ => ih e he u hu

theorem Convertible.not_within_itself {s : Store} {t : TableId} (h : s.Convertible (.table t)) : ¬ TransGen s.Holds t t := by
  have hacc := (h.acc t rfl).transGen
  clear h
  intro hcycle
  induction hacc with
  | intro t _ ih => exact ih t (transGen_swap.mpr hcycle) hcycle

/-- A value converts as soon as there is fuel for the tables that are not above it. -/
theorem Convertible.exists_data {s : Store} {v : Value} (h : s.Convertible v) :
    ∃ d, ∀ (above : Finset TableId) (fuel : Nat), (∀ a ∈ above, a < s.tables.size ∧ ∀ t, v = .table t → TransGen s.Holds a t) →
      s.tables.size + 1 ≤ fuel + above.card → s.toDataWithin fuel v = .ok d := by
  induction h with
  | @atom v d h =>
    refine ⟨d, fun above fuel _ _ => ?_⟩
    rw [toDataWithin_of_not_table, h]
    rintro t rfl
    cases h
  | @table t keys values ih =>
    choose! val hval using ih
    refine ⟨(s.table t).asData val, fun above fuel habove hfuel => ?_⟩
    have hcard : above.card ≤ s.tables.size := by
      have hsub : above ⊆ Finset.range s.tables.size := fun a ha => Finset.mem_range.mpr (habove a ha).1
      simpa using Finset.card_le_card hsub
    obtain ⟨fuel, rfl⟩ : ∃ n, fuel = n + 1 := ⟨fuel - 1, by omega⟩
    refine toDataWithin_table keys fun e he => ?_
    have hfresh : t ∉ above := fun ht => (Convertible.table keys values).not_within_itself ((habove t ht).2 t rfl)
    refine hval e he (insert t above) fuel (fun a ha => ?_) ?_
    · obtain rfl | ha := Finset.mem_insert.mp ha
      · exact ⟨Holds.lt_size he, fun u hu => .single ⟨e, he, hu⟩⟩
      · exact ⟨(habove a ha).1, fun u hu => ((habove a ha).2 t rfl).tail ⟨e, he, hu⟩⟩
    · rw [Finset.card_insert_of_notMem hfresh]
      omega

/-- **A table becomes what its values become, however deep it nests.** -/
theorem Convertible.toData_table {s : Store} {t : TableId} (h : s.Convertible (.table t)) : ∃ val : Value × Value → Data,
    (∀ e ∈ (s.table t).entries, s.toData e.2 = .ok (val e)) ∧ s.toData (.table t) = .ok ((s.table t).asData val) := by
  obtain ⟨keys, values⟩ := h.of_table
  have hexists : ∀ e ∈ (s.table t).entries, ∃ d, s.toDataWithin s.tables.size e.2 = .ok d ∧ s.toData e.2 = .ok d := fun e he => by
    obtain ⟨d, hd⟩ := (values e he).exists_data
    refine ⟨d, hd {t} _ (fun a ha => ?_) (by simp), hd ∅ _ (by simp) (by simp)⟩
    obtain rfl := Finset.mem_singleton.mp ha
    exact ⟨Holds.lt_size he, fun u hu => .single ⟨e, he, hu⟩⟩
  choose! val hval using hexists
  exact ⟨val, fun e he => (hval e he).2, toDataWithin_table keys fun e he => (hval e he).1⟩

end Store

end ScriptFlow.Script
