import Mathlib
import ScriptFlow.Proofs.Script.Conversion
import ScriptFlow.Script.Environment

/-!
# Tables of options

* `Store.toDataWithin_mono` — what a value becomes outside of scripts does not depend on how deep the conversion may go.
* `Store.OptionTable` — a table that has a form outside of scripts, whatever its keys and values are; `Table.Named` — all its keys are
  texts; `Store.HasOption` — it has an option with a name and a value.
* `Store.OptionTable.fields` — **a function gets every option of a named table once, in the order of their names**.
* `Store.OptionTable.unnamed` — **a table with any other key is refused as a table of options**.
-/

namespace ScriptFlow

/-! ## Keys that are no texts -/

namespace Data

theorem eq_of_text? {k : Data} {t : String} (h : k.text? = some t) : k = str t := by
  cases k with
  | str s => rw [Option.some.inj h]
  | _ => cases h

theorem not_same_text {k : Data} (hk : k.isHashable = true) (h : k.text? = none) (t : String) : (str t).same k = false := by
  cases k with
  | str s => cases h
  | list xs => cases hk
  | dict es => cases hk
  | anything => cases hk
  | _ => rfl

/-- A key that is no text stays in a dictionary, or one that equals it. -/
theorem exists_unnamed_insertKey {acc : List (Data × Data)} {k : Data} (v : Data) (hk : k.isHashable = true)
    (h : k.text? = none ∨ ∃ a ∈ acc.map Prod.fst, a.text? = none) : ∃ a ∈ (insertKey acc k v).map Prod.fst, a.text? = none := by
  obtain ⟨⟨e, he, hsame⟩, hkeys⟩ | ⟨-, hkeys⟩ := keys_insertKey acc k v
  · rw [hkeys]
    obtain hnone | h := h
    · refine ⟨e.1, List.mem_map_of_mem he, ?_⟩
      by_contra htext
      obtain ⟨t, ht⟩ := Option.ne_none_iff_exists'.mp htext
      rw [eq_of_text? ht, not_same_text hk hnone] at hsame
      cases hsame
    · exact h
  · rw [hkeys]
    obtain hnone | ⟨a, ha, hnone⟩ := h
    · exact ⟨k, by simp, hnone⟩
    · exact ⟨a, by simp [ha], hnone⟩

/-- Texts are ordered as texts. -/
theorem rank_text_le {a b : String} : (str a).rank ≤ (str b).rank ↔ a ≤ b := by
  simp [rank, typeName, numeric?, text?, Prod.Lex.toLex_le_toLex]

end Data

namespace Script

/-! ## The depth of a conversion -/

namespace Store

section Mono

variable {f g : Value → Except Fault Data} (hfg : ∀ v d, f v = .ok d → g v = .ok d)

include hfg

theorem sortedEntries_mono {t : Table} {es : List (Data × Value)} (h : sortedEntries f t = .ok es) : sortedEntries g t = .ok es := by
  obtain ⟨rs, hread, hrs⟩ := sortedEntries_ok_iff.mp h
  refine sortedEntries_ok_iff.mpr ⟨rs, hread.imp fun e r he => ?_, hrs⟩
  obtain ⟨hk, hv, hkey, hvalue⟩ := readEntry_ok_iff.mp he
  exact readEntry_ok_iff.mpr ⟨hk, hv, hfg _ _ hkey, hvalue⟩

theorem collect_mono {es : List (Data × Value)} {acc ds : List (Data × Data)} (h : collect f es acc = .ok ds) : collect g es acc = .ok ds := by
  induction es generalizing acc with
  | nil => exact h
  | cons e es ih =>
    obtain ⟨x, hx, hk, hrest⟩ := collect_cons_ok_iff.mp h
    exact collect_cons_ok_iff.mpr ⟨x, hfg _ _ hx, hk, ih hrest⟩

end Mono

theorem toDataWithin_mono {s : Store} {fuel : Nat} {v : Value} {d : Data} (h : s.toDataWithin fuel v = .ok d) :
    s.toDataWithin (fuel + 1) v = .ok d := by
  induction fuel generalizing v d with
  | zero =>
    cases v with
    | table t => cases h
    | _ => exact h
  | succ fuel ih =>
    cases v with
    | table t =>
      obtain ⟨es, hes, hdata⟩ := toDataWithin_table_ok_iff.mp h
      refine toDataWithin_table_ok_iff.mpr ⟨es, sortedEntries_mono (fun _ _ => ih) hes, ?_⟩
      obtain ⟨hlist, xs, hxs, hd⟩ | ⟨hlist, ds, hds, hd⟩ := hdata
      · exact .inl ⟨hlist, xs, hxs.imp fun _ _ => ih, hd⟩
      · exact .inr ⟨hlist, ds, collect_mono (fun _ _ => ih) hds, hd⟩
    | _ => exact h

/-! ## What a conversion has looked at -/

theorem exists_of_collect {f : Value → Except Fault Data} {es : List (Data × Value)} {acc ds : List (Data × Data)}
    (h : collect f es acc = .ok ds) : ∀ e ∈ es, ∃ x, f e.2 = .ok x := by
  induction es generalizing acc with
  | nil => simp
  | cons e es ih =>
    obtain ⟨x, hx, -, hrest⟩ := collect_cons_ok_iff.mp h
    intro e' he'
    cases he' with
    | head => exact ⟨x, hx⟩
    | tail _ he' => exact ih hrest e' he'

theorem unnamed_of_collect {f : Value → Except Fault Data} {es : List (Data × Value)} {acc ds : List (Data × Data)}
    (h : collect f es acc = .ok ds) (hk : (∃ e ∈ es, e.1.text? = none) ∨ ∃ a ∈ acc.map Prod.fst, a.text? = none) :
    ∃ a ∈ ds.map Prod.fst, a.text? = none := by
  induction es generalizing acc with
  | nil =>
    cases h
    simpa using hk
  | cons e es ih =>
    obtain ⟨x, -, hhash, hrest⟩ := collect_cons_ok_iff.mp h
    refine ih hrest ?_
    obtain ⟨e', he', hnone⟩ | hacc := hk
    · cases he' with
      | head => exact .inr (Data.exists_unnamed_insertKey x hhash (.inl hnone))
      | tail _ he' => exact .inl ⟨e', he', hnone⟩
    · exact .inr (Data.exists_unnamed_insertKey x hhash (.inr hacc))

variable {s : Store} {t : TableId} {fuel : Nat}

/-- Every entry is among the sorted ones, its key converted. -/
theorem mem_of_sortedEntries {f : Value → Except Fault Data} {t : Table} {es : List (Data × Value)} (h : sortedEntries f t = .ok es) :
    ∀ e ∈ t.entries, ∃ k, f e.1 = .ok k ∧ (k, e.2) ∈ es := by
  obtain ⟨rs, hread, -, rfl⟩ := sortedEntries_ok_iff.mp h
  intro e he
  obtain ⟨⟨k, v⟩, hmem, hr⟩ := exists_of_forall₂ hread he
  obtain ⟨-, -, hkey, hvalue⟩ := readEntry_ok_iff.mp hr
  exact ⟨k, hkey, List.mem_mergeSort.mpr (hvalue ▸ hmem)⟩

theorem exists_of_toDataWithin_table {d : Data} (h : s.toDataWithin (fuel + 1) (.table t) = .ok d) :
    ∀ e ∈ (s.table t).entries, ∃ x, s.toDataWithin fuel e.2 = .ok x := by
  intro e he
  obtain ⟨es, hes, hdata⟩ := toDataWithin_table_ok_iff.mp h
  obtain ⟨k, -, hmem⟩ := mem_of_sortedEntries hes e he
  obtain ⟨-, xs, hxs, -⟩ | ⟨-, ds, hds, -⟩ := hdata
  · obtain ⟨x, -, hx⟩ := exists_of_forall₂ hxs (List.mem_map_of_mem hmem)
    exact ⟨x, hx⟩
  · exact exists_of_collect hds _ hmem

/-- What is no string becomes no text. -/
theorem text?_of_toDataWithin {v : Value} {k : Data} (h : s.toDataWithin fuel v = .ok k) (hv : ∀ key, v ≠ .ofText key)
    (hobject : ∀ n d, v = .object n d → d.text? = none) : k.text? = none := by
  cases v with
  | table t =>
    cases fuel with
    | zero => cases h
    | succ fuel =>
      obtain ⟨es, -, ⟨-, xs, -, rfl⟩ | ⟨-, ds, -, rfl⟩⟩ := toDataWithin_table_ok_iff.mp h <;> rfl
  | str bs =>
    rw [toDataWithin_of_not_table fun t => Value.noConfusion, atomOf, map_ok_iff] at h
    obtain ⟨key, hkey, -⟩ := h
    exact absurd (congrArg Value.str (Utf8.toUTF8_of_decode hkey).symm) (hv key)
  | object n d =>
    rw [toDataWithin_of_not_table fun t => Value.noConfusion] at h
    cases h
    exact hobject n _ rfl
  | function f =>
    rw [toDataWithin_of_not_table fun t => Value.noConfusion] at h
    cases h
  | _ =>
    rw [toDataWithin_of_not_table fun t => Value.noConfusion] at h
    cases h
    rfl

end Store

/-! ## Options -/

/-- All keys are texts. -/
def Table.Named (t : Table) : Prop := ∀ e ∈ t.entries, ∃ key, e.1 = .ofText key

namespace Store

variable {s : Store} {t : TableId}

/-- A table that has a form outside of scripts; what it holds of the host is no text. -/
structure OptionTable (s : Store) (t : TableId) : Prop where
  wellFormed : (s.table t).WellFormed
  objects : ∀ e ∈ (s.table t).entries, ∀ n d, e.1 = .object n d → d.text? = none
  converts : ∃ d, s.toData (.table t) = .ok d

/-- A table has an option, which is this value outside of scripts. -/
def HasOption (s : Store) (t : TableId) (key : String) (d : Data) : Prop :=
  ∃ v, (Value.ofText key, v) ∈ (s.table t).entries ∧ s.toData v = .ok d

/-- The options of a table, in the order of their names. -/
structure Fields (s : Store) (t : TableId) (fields : List (String × Data)) : Prop where
  mem_iff : ∀ key d, (key, d) ∈ fields ↔ s.HasOption t key d
  sorted : fields.Pairwise fun a b => a.1 < b.1

theorem data_ofText (key : String) : (Value.ofText key).data = .str key := by
  change ((Utf8.decode key.toUTF8).map Data.str).toOption.getD .null = .str key
  rw [Utf8.decode_toUTF8]
  rfl

theorem ofText_injective {a b : String} (h : Value.ofText a = .ofText b) : a = b := by
  have hdata := congrArg Value.data h
  rw [data_ofText, data_ofText] at hdata
  exact Data.str.inj hdata

theorem rawEq_ofText {a b : String} (h : (Value.ofText a).rawEq (.ofText b) = false) : a ≠ b := by
  rintro rfl
  have hself : (Value.ofText a).rawEq (.ofText a) = true := (BEq.rfl : (a.toUTF8.data == a.toUTF8.data) = true)
  rw [hself] at h
  cases h

theorem OptionTable.plainKeys (h : s.OptionTable t) (hn : (s.table t).Named) : (s.table t).PlainKeys where
  toWellFormed := h.wellFormed
  plain e he := by
    obtain ⟨key, hkey⟩ := hn e he
    rw [hkey]
    exact ⟨key, Utf8.decode_toUTF8 key⟩

theorem optionsOf_dict (es : List (Data × Data)) :
    Ask.optionsOf (.dict es) = es.mapM fun e => e.1.text?.map fun name => (name, e.2) := rfl

theorem optionsOf_object (fields : List (String × Data)) : Ask.optionsOf (.object fields) = some fields := by
  rw [Data.object, optionsOf_dict]
  induction fields with
  | nil => rfl
  | cons f fields ih =>
    rw [List.map_cons, List.mapM_cons, ih]
    rfl

theorem optionsOf_unnamed {es : List (Data × Data)} (h : ∃ a ∈ es.map Prod.fst, a.text? = none) : Ask.optionsOf (.dict es) = none := by
  rw [optionsOf_dict]
  induction es with
  | nil => simp at h
  | cons e es ih =>
    rw [List.mapM_cons]
    obtain ⟨a, ha, hnone⟩ := h
    cases ha with
    | head => simp [hnone]
    | tail _ ha =>
      rw [ih ⟨a, ha, hnone⟩]
      cases e.1.text? <;> rfl

/-- The name of an entry. -/
def nameOf (e : Value × Value) : String := e.1.data.text?.getD ""

/-- The options of a table when its values become what `val` says. -/
def fieldsOf (t : Table) (val : Value × Value → Data) : List (String × Data) := t.ordered.map fun e => (nameOf e, val e)

section Named

variable {t : Table} (hn : t.Named)

include hn

theorem ofText_nameOf {e : Value × Value} (he : e ∈ t.entries) : e.1 = .ofText (nameOf e) := by
  obtain ⟨key, hkey⟩ := hn e he
  rw [nameOf, hkey, data_ofText]
  rfl

theorem data_of_named {e : Value × Value} (he : e ∈ t.entries) : e.1.data = .str (nameOf e) := by
  have hdata := congrArg Value.data (ofText_nameOf hn he)
  rwa [data_ofText] at hdata

theorem ordered_names (hkeys : t.PlainKeys) : t.ordered.Pairwise fun a b => nameOf a < nameOf b := by
  have hapart : t.ordered.Pairwise fun a b => a.1 ≠ b.1 := by
    refine (t.ordered_perm.pairwise_iff fun h => h.symm).mpr (hkeys.apart.imp_of_mem fun {a b} ha _ hab heq => ?_)
    obtain ⟨key, hkey⟩ := hn a ha
    rw [← heq, hkey] at hab
    exact rawEq_ofText hab rfl
  refine (hapart.and hkeys.ordered_sorted).imp_of_mem fun {a b} ha hb ⟨hne, hle⟩ => ?_
  rw [data_of_named hn (Table.mem_ordered.mp ha), data_of_named hn (Table.mem_ordered.mp hb), Data.rank_text_le] at hle
  refine lt_of_le_of_ne hle fun heq => hne ?_
  rw [ofText_nameOf hn (Table.mem_ordered.mp ha), ofText_nameOf hn (Table.mem_ordered.mp hb), heq]

/-- A table with names for keys becomes a dictionary in the order of the names, unless it is empty. -/
theorem asData_named (hkeys : t.PlainKeys) (hne : t.ordered ≠ []) (val : Value × Value → Data) : t.asData val = .object (fieldsOf t val) := by
  have hdict : arePositions (t.ordered.map fun e => e.1.data) = false := by
    refine not_arePositions_of_text (fun k hk => ?_) (by simpa using hne)
    obtain ⟨e, he, rfl⟩ := List.mem_map.mp hk
    exact ⟨nameOf e, data_of_named hn (Table.mem_ordered.mp he)⟩
  have hobject : (t.ordered.map fun e => (e.1.data, val e)) = (fieldsOf t val).map fun f => (.str f.1, f.2) := by
    rw [fieldsOf, List.map_map]
    exact List.map_congr_left fun e he => congrArg (·, val e) (data_of_named hn (Table.mem_ordered.mp he))
  have hapart : ((fieldsOf t val).map fun f => (Data.str f.1, f.2)).Pairwise fun a b => a.1.same b.1 = false := by
    refine List.pairwise_map.mpr (List.pairwise_map.mpr ((ordered_names hn hkeys).imp fun hlt => ?_))
    rw [Data.same_text, decide_eq_false_iff_not]
    exact ne_of_lt hlt
  rw [Table.asData, if_neg (Bool.eq_false_iff.mp hdict), hobject, Data.foldl_insertKey_apart hapart]
  rfl

theorem optionsOf_asData (hkeys : t.PlainKeys) (val : Value × Value → Data) : Ask.optionsOf (t.asData val) = some (fieldsOf t val) := by
  by_cases hempty : t.ordered = []
  · have hlist : arePositions (t.ordered.map fun e => e.1.data) = true := by
      rw [hempty]
      rfl
    rw [Table.asData, if_pos hlist, fieldsOf, hempty]
    rfl
  · rw [asData_named hn hkeys hempty, optionsOf_object]

end Named

/-- **A function gets every option of a named table once, in the order of their names.** -/
theorem OptionTable.fields (h : s.OptionTable t) (hn : (s.table t).Named) :
    ∃ d fields, s.toData (.table t) = .ok d ∧ Ask.optionsOf d = some fields ∧ s.Fields t fields := by
  obtain ⟨d, hd⟩ := h.converts
  -- the values have a form because the table has one, and that form is the same at every depth
  choose! val hval using exists_of_toDataWithin_table hd
  have hkeys := h.plainKeys hn
  refine ⟨_, fieldsOf (s.table t) val, toDataWithin_table hkeys hval, optionsOf_asData hn hkeys val, fun key x => ?_, ?_⟩
  · constructor
    · intro hmem
      obtain ⟨e, he, heq⟩ := List.mem_map.mp hmem
      cases heq
      have he' := Table.mem_ordered.mp he
      refine ⟨e.2, ?_, toDataWithin_mono (hval e he')⟩
      rw [← ofText_nameOf hn he']
      exact he'
    · rintro ⟨v, hv, hx⟩
      have hval' : s.toData v = .ok (val (.ofText key, v)) := toDataWithin_mono (hval _ hv)
      have hname : nameOf (.ofText key, v) = key := ofText_injective (ofText_nameOf hn hv).symm
      obtain rfl : val (.ofText key, v) = x := Except.ok.inj (hval'.symm.trans hx)
      exact List.mem_map.mpr ⟨_, Table.mem_ordered.mpr hv, by rw [hname]⟩
  · exact List.pairwise_map.mpr (ordered_names hn hkeys)

/-- **A table with any other key is refused as a table of options.** -/
theorem OptionTable.unnamed (h : s.OptionTable t) (hn : ¬ (s.table t).Named) : ∃ d, s.toData (.table t) = .ok d ∧ Ask.optionsOf d = none := by
  obtain ⟨d, hd⟩ := h.converts
  obtain ⟨es, hes, hdata⟩ := toDataWithin_table_ok_iff.mp hd
  obtain ⟨e, he, hkey⟩ : ∃ e ∈ (s.table t).entries, ∀ key, e.1 ≠ .ofText key := by simpa [Table.Named] using hn
  obtain ⟨k, hk, hmem⟩ := mem_of_sortedEntries hes e he
  have hnone : k.text? = none := text?_of_toDataWithin hk hkey (h.objects e he)
  refine ⟨d, hd, ?_⟩
  obtain ⟨-, xs, hxs, rfl⟩ | ⟨-, ds, hds, rfl⟩ := hdata
  · obtain ⟨x, hx, -⟩ := exists_of_forall₂ hxs (List.mem_map_of_mem hmem)
    cases xs with
    | nil => cases hx
    | cons x xs => rfl
  · exact optionsOf_unnamed (unnamed_of_collect hds (.inl ⟨_, hmem, hnone⟩))

end Store

end Script

end ScriptFlow
