import Mathlib
import ScriptFlow.Plugin.Bundled
import ScriptFlow.Proofs.Data.Payload
import ScriptFlow.Proofs.Script.Options
import ScriptFlow.Proofs.Script.Sequences

/-!
# Tables, however they were built

* `Store.Alike` — values of two stores that are equal as trees: their tables have the same keys with the same under each, at whatever addresses they are, in
  whatever order they were filled and whatever was removed from them.
* `Table.PlainKeys.ordered_strict` — the order of a conversion is strict: no two keys of a table have the same place in it.
* `Table.ordered_keys_eq` — so the keys alone determine it.
* `Store.conversions_forget_construction` — **alike values become the same data**, the keys of each dictionary in order of their type's name and then their
  value; they are the same arguments and options of a call, and give the same text in JSON.
-/

namespace ScriptFlow

namespace Data

theorem Numeric.eq_of_height {a b : Numeric} (ha : a ≠ nan) (hb : b ≠ nan) (h : a.height = b.height) : a = b := by
  cases a with
  | nan => exact absurd rfl ha
  | infinite s =>
    cases b with
    | nan => exact absurd rfl hb
    | infinite s' => cases s <;> cases s' <;> simp [height] at h ⊢
    | finite n => cases s <;> simp [height] at h
  | finite n =>
    cases b with
    | nan => exact absurd rfl hb
    | infinite s' => cases s' <;> simp [height] at h
    | finite m =>
      simp only [height, WithBot.coe_inj, WithTop.coe_inj] at h
      rw [h]

/-- Keys in one place are of one type and equal. -/
theorem IsKey.same_of_rank {a b : Data} (ha : a.IsKey) (hb : b.IsKey) (h : a.rank = b.rank) : a.typeName = b.typeName ∧ a.same b = true := by
  simp only [rank, toLex_inj, Prod.mk.injEq] at h
  obtain ⟨htype, hheight, htext⟩ := h
  refine ⟨htype, ?_⟩
  cases ha with
  | number ha hm =>
    cases hb with
    | number hb hn =>
      simp only [ha, hb, Option.map_some, Option.getD_some] at hheight
      rw [same_number ha hb, Numeric.eq_of_height hm hn hheight]
      exact Numeric.same_self hn
    | text t => cases a <;> cases ha <;> simp [typeName] at htype
  | text s =>
    cases hb with
    | number hb => cases b <;> cases hb <;> simp [typeName] at htype
    | text t =>
      have hst : s = t := htext
      rw [same_text, decide_eq_true hst]

/-- Putting entries into a dictionary keeps the order of their keys. -/
theorem keys_foldl_insertKey_sublist (es acc : List (Data × Data)) :
    ((es.foldl (fun acc e => insertKey acc e.1 e.2) acc).map Prod.fst).Sublist (acc.map Prod.fst ++ es.map Prod.fst) := by
  induction es generalizing acc with
  | nil => simp
  | cons e es ih =>
    rw [List.foldl_cons, List.map_cons]
    refine (ih _).trans ?_
    obtain ⟨-, hkeys⟩ | ⟨-, hkeys⟩ := keys_insertKey acc e.1 e.2
    · rw [hkeys]
      exact (List.sublist_cons_self _ _).append_left _
    · rw [hkeys, List.append_assoc]
      exact .refl _

end Data

namespace Script

theorem Value.CountsAs.typeName_ne {v w : Value} (h : v.CountsAs w) : v.data.typeName ≠ w.data.typeName := by
  cases h <;> decide

namespace Table

variable {t t' : Table}

theorem PlainKeys.ranks_differ (h : t.PlainKeys) : t.entries.Pairwise fun a b => a.1.data.rank ≠ b.1.data.rank := by
  refine h.apart.imp_of_mem fun {a b} ha hb hab heq => ?_
  obtain ⟨htype, hsame⟩ := (h.isKey ha).same_of_rank (h.isKey hb) heq
  rcases Value.counts_of_same (h.plain a ha) (h.plain b hb) (h.keys a ha).1 (h.keys b hb).1 hab hsame with hcounts | hcounts
  · exact hcounts.typeName_ne htype
  · exact hcounts.typeName_ne htype.symm

/-- **The order of a conversion is strict.** -/
theorem PlainKeys.ordered_strict (h : t.PlainKeys) : t.ordered.Pairwise fun a b => a.1.data.rank < b.1.data.rank := by
  have hne : t.ordered.Pairwise fun a b => a.1.data.rank ≠ b.1.data.rank :=
    (t.ordered_perm.pairwise_iff fun {_ _} => Ne.symm).mpr h.ranks_differ
  exact (h.ordered_sorted.and hne).imp fun h => lt_of_le_of_ne h.1 h.2

/-- **The keys alone determine the order of a conversion.** -/
theorem ordered_keys_eq (h : t.PlainKeys) (h' : t'.PlainKeys) (hkeys : ∀ k, k ∈ t.keys ↔ k ∈ t'.keys) :
    t.ordered.map Prod.fst = t'.ordered.map Prod.fst := by
  have hperm : (t.ordered.map Prod.fst).Perm (t'.ordered.map Prod.fst) :=
    (t.ordered_perm.map _).trans (((List.perm_ext_iff_of_nodup h.keys_nodup h'.keys_nodup).mpr hkeys).trans (t'.ordered_perm.map _).symm)
  refine hperm.eq_of_pairwise (fun a b _ _ (hab : a.data.rank < b.data.rank) hba => absurd hab (lt_asymm hba)) ?_ ?_
  · exact List.pairwise_map.mpr h.ordered_strict
  · exact List.pairwise_map.mpr h'.ordered_strict

theorem PlainKeys.mem_get (h : t.PlainKeys) {k : Value} (hk : k ∈ t.keys) : (k, t.get k) ∈ t.entries := by
  obtain ⟨e, he, rfl⟩ := List.mem_map.mp hk
  rwa [h.get_of_mem he]

/-- What becomes of the entries in order, key by key. -/
theorem PlainKeys.map_ordered (h : t.PlainKeys) {α : Type} (f : Value × Value → α) :
    t.ordered.map f = (t.ordered.map Prod.fst).map fun k => f (k, t.get k) := by
  rw [List.map_map]
  refine List.map_congr_left fun e he => ?_
  rw [Function.comp_apply, h.get_of_mem (mem_ordered.mp he)]

/-- Tables with the same keys become the same when their values do. -/
theorem asData_congr (h : t.PlainKeys) (h' : t'.PlainKeys) (hkeys : ∀ k, k ∈ t.keys ↔ k ∈ t'.keys) {val val' : Value × Value → Data}
    (hval : ∀ k ∈ t.keys, val (k, t.get k) = val' (k, t'.get k)) : t.asData val = t'.asData val' := by
  have hkeyed : (t.ordered.map fun e => (e.1.data, val e)) = t'.ordered.map fun e => (e.1.data, val' e) := by
    rw [h.map_ordered, h'.map_ordered, ordered_keys_eq h h' hkeys]
    refine List.map_congr_left fun k hk => ?_
    obtain ⟨e, he, rfl⟩ := List.mem_map.mp hk
    rw [hval e.1 ((hkeys e.1).mpr (List.mem_map_of_mem (mem_ordered.mp he)))]
  have hsplit : ∀ (u : Table) (f : Value × Value → Data),
      (u.ordered.map fun e => e.1.data) = (u.ordered.map fun e => (e.1.data, f e)).map Prod.fst ∧
        u.ordered.map f = (u.ordered.map fun e => (e.1.data, f e)).map Prod.snd := by
    intro u f
    simp [List.map_map, Function.comp_def]
  unfold asData
  rw [(hsplit t val).1, (hsplit t val).2, hkeyed, (hsplit t' val').1, (hsplit t' val').2]

/-- A table becomes a list, or a dictionary with its keys in order. -/
theorem PlainKeys.asData_keys (h : t.PlainKeys) {val : Value × Value → Data} {es : List (Data × Data)} (hes : t.asData val = .dict es) :
    (es.map Prod.fst).Pairwise fun a b => a.rank < b.rank := by
  unfold asData at hes
  split at hes
  · cases hes
  · obtain rfl := Data.dict.inj hes
    have hsub := Data.keys_foldl_insertKey_sublist (t.ordered.map fun e => (e.1.data, val e)) []
    rw [List.map_nil, List.nil_append, List.map_map] at hsub
    exact (List.pairwise_map.mpr h.ordered_strict : (t.ordered.map fun e => e.1.data).Pairwise _).sublist hsub

end Table

namespace Store

/-- Values that are equal as trees. -/
inductive Alike (s s' : Store) : Value → Value → Prop where
  | leaf {v v' : Value} {d : Data} (h : atomOf v = .ok d) (h' : atomOf v' = .ok d) : Alike s s' v v'
  | table {t t' : TableId} (plain : (s.table t).PlainKeys) (plain' : (s'.table t').PlainKeys)
      (keys : ∀ k, k ∈ (s.table t).keys ↔ k ∈ (s'.table t').keys)
      (values : ∀ k ∈ (s.table t).keys, Alike s s' ((s.table t).get k) ((s'.table t').get k)) : Alike s s' (.table t) (.table t')

variable {s s' : Store} {v v' : Value}

theorem Alike.convertible (h : s.Alike s' v v') : s.Convertible v ∧ s'.Convertible v' := by
  induction h with
  | leaf h h' => exact ⟨.atom h, .atom h'⟩
  | table plain plain' keys values ih =>
    refine ⟨.table plain fun e he => ?_, .table plain' fun e he => ?_⟩
    · have hk := (ih e.1 (List.mem_map_of_mem he)).1
      rwa [plain.get_of_mem he] at hk
    · have hk := (ih e.1 ((keys e.1).mpr (List.mem_map_of_mem he))).2
      rwa [plain'.get_of_mem he] at hk

theorem toData_of_atom {d : Data} (h : atomOf v = .ok d) : s.toData v = .ok d := by
  rw [toData, toDataWithin_of_not_table, h]
  rintro t rfl
  cases h

/-- **Alike values become the same data.** -/
theorem Alike.toData_eq (h : s.Alike s' v v') : ∃ d, s.toData v = .ok d ∧ s'.toData v' = .ok d := by
  induction h with
  | leaf h h' => exact ⟨_, toData_of_atom h, toData_of_atom h'⟩
  | @table t t' plain plain' keys values ih =>
    obtain ⟨hconv, hconv'⟩ := (Alike.table plain plain' keys values).convertible
    obtain ⟨val, hval, hdata⟩ := hconv.toData_table
    obtain ⟨val', hval', hdata'⟩ := hconv'.toData_table
    refine ⟨_, hdata, ?_⟩
    rw [hdata', Table.asData_congr plain plain' keys fun k hk => ?_]
    obtain ⟨d, hd, hd'⟩ := ih k hk
    have hsame := (hval _ (plain.mem_get hk)).symm.trans hd
    have hsame' := (hval' _ (plain'.mem_get ((keys k).mp hk))).symm.trans hd'
    rw [Except.ok.inj hsame, Except.ok.inj hsame']

/-- Data that values have become: every dictionary that was a table has its keys in order. -/
inductive KeysInOrder (s : Store) : Value → Data → Prop where
  | leaf {v : Value} {d : Data} (h : atomOf v = .ok d) : KeysInOrder s v d
  | list {t : TableId} {val : Value × Value → Data} (values : ∀ e ∈ (s.table t).entries, KeysInOrder s e.2 (val e)) :
    KeysInOrder s (.table t) (.list ((s.table t).ordered.map val))
  | dict {t : TableId} {val : Value × Value → Data} {es : List (Data × Data)} (keys : (es.map Prod.fst).Pairwise fun a b => a.rank < b.rank)
      (values : ∀ e ∈ (s.table t).entries, KeysInOrder s e.2 (val e)) (from_table : ∀ x ∈ es, ∃ e ∈ (s.table t).entries, x.2 = val e) :
    KeysInOrder s (.table t) (.dict es)

theorem Convertible.keysInOrder (h : s.Convertible v) {d : Data} (hd : s.toData v = .ok d) : s.KeysInOrder v d := by
  induction h generalizing d with
  | atom h =>
    rw [toData_of_atom h] at hd
    exact .leaf (Except.ok.inj hd ▸ h)
  | @table t plain values ih =>
    obtain ⟨val, hval, hdata⟩ := (Convertible.table plain values).toData_table
    obtain rfl := Except.ok.inj (hdata.symm.trans hd)
    have hvalues : ∀ e ∈ (s.table t).entries, s.KeysInOrder e.2 (val e) := fun e he => ih e he (hval e he)
    by_cases hlist : arePositions ((s.table t).ordered.map fun e => e.1.data) = true
    · rw [Table.asData, if_pos hlist]
      exact .list hvalues
    · have hdict : (s.table t).asData val =
          .dict (((s.table t).ordered.map fun e => (e.1.data, val e)).foldl (fun acc e => Data.insertKey acc e.1 e.2) []) := if_neg hlist
      rw [hdict]
      refine .dict (plain.asData_keys hdict) hvalues fun x hx => ?_
      obtain ⟨x', hx', heq⟩ := Data.mem_foldl_insertKey hx
      obtain ⟨e, he, rfl⟩ := List.mem_map.mp ((List.nil_append _).subst hx' : x' ∈ (s.table t).ordered.map fun e => (e.1.data, val e))
      exact ⟨e, Table.mem_ordered.mp he, heq⟩

theorem toDataAll_eq {args args' : List Value} (h : List.Forall₂ (s.Alike s') args args') : s.toDataAll args = s'.toDataAll args' := by
  induction h with
  | nil => rfl
  | cons hv _ ih =>
    obtain ⟨d, hd, hd'⟩ := hv.toData_eq
    unfold toDataAll at ih ⊢
    rw [convertAll, convertAll, hd, hd', ih]

end Store

namespace Ask

/-- Alike values and options make the same call. -/
theorem ofInvocation_eq {s s' : Store} (module : Nat) (function : String) {args args' : List Value} {options options' : Option TableId}
    (hargs : List.Forall₂ (s.Alike s') args args') (hoptions : Option.Rel (fun t t' => s.Alike s' (.table t) (.table t')) options options') :
    ofInvocation s module function args options = ofInvocation s' module function args' options' := by
  unfold ofInvocation
  rw [Store.toDataAll_eq hargs]
  cases hoptions with
  | none => rfl
  | some h =>
    obtain ⟨d, hd, hd'⟩ := h.toData_eq
    simp only [hd, hd']

/-- The options of a call are those of its table, in order of their names. -/
theorem ofInvocation_fields {s : Store} {module : Nat} {function : String} {args : List Value} {t : TableId} (h : s.Convertible (.table t))
    {xs : List Data} {fields : List (String × Data)}
    (hask : ofInvocation s module function args (some t) = .ok (.invoke module function xs fields)) : s.Fields t fields := by
  obtain ⟨plain, -⟩ := h.of_table
  obtain ⟨val, -, hdata⟩ := h.toData_table
  have hobjects : ∀ e ∈ (s.table t).entries, ∀ n d, e.1 = .object n d → d.text? = none := by
    intro e he n d hobject
    have hplain := plain.plain e he
    rw [hobject] at hplain
    exact hplain.elim
  have htable : s.OptionTable t := ⟨plain.toWellFormed, hobjects, _, hdata⟩
  have hread : Ask.optionsOf ((s.table t).asData val) = some fields := by
    unfold ofInvocation at hask
    obtain ⟨ys, -, hask⟩ := Store.bind_ok_iff.mp hask
    simp only [hdata, bind, Except.bind] at hask
    split at hask <;> cases hask
    assumption
  by_cases hnamed : (s.table t).Named
  · obtain ⟨d, fields', hd, hfields, hall⟩ := htable.fields hnamed
    obtain rfl := Except.ok.inj (hdata.symm.trans hd)
    obtain rfl := Option.some.inj (hread.symm.trans hfields)
    exact hall
  · obtain ⟨d, hd, hnone⟩ := htable.unnamed hnamed
    obtain rfl := Except.ok.inj (hdata.symm.trans hd)
    rw [hread] at hnone
    cases hnone

end Ask

namespace Store

/-- **Conversions do not see how tables were built.** Values that are equal as trees become the same data, in which every dictionary that was a table has its keys
strictly in order of their type's name and then their value. So they are written as the same text in JSON, or fail with the same error, and a call with such
arguments and options is the same call, with its options in order of their names. -/
theorem conversions_forget_construction (s s' : Store) :
    (∀ v v', s.Alike s' v v' → ∃ d, s.toData v = .ok d ∧ s'.toData v' = .ok d ∧ s.KeysInOrder v d ∧ s'.KeysInOrder v' d ∧
      ∀ indent, (s.toData v >>= fun d => JsonText.dumps d indent) = s'.toData v' >>= fun d => JsonText.dumps d indent) ∧
    ∀ (module : Nat) (function : String) (args args' : List Value) (options options' : Option TableId), List.Forall₂ (s.Alike s') args args' →
      Option.Rel (fun t t' => s.Alike s' (.table t) (.table t')) options options' →
      Ask.ofInvocation s module function args options = Ask.ofInvocation s' module function args' options' ∧
      ∀ t xs fields, options = some t → Ask.ofInvocation s module function args options = .ok (.invoke module function xs fields) →
        s.Fields t fields := by
  refine ⟨fun v v' h => ?_, fun module function args args' options options' hargs hoptions => ⟨Ask.ofInvocation_eq module function hargs hoptions, ?_⟩⟩
  · obtain ⟨d, hd, hd'⟩ := h.toData_eq
    obtain ⟨hconv, hconv'⟩ := h.convertible
    exact ⟨d, hd, hd', hconv.keysInOrder hd, hconv'.keysInOrder hd', fun indent => by rw [hd, hd']⟩
  · rintro t xs fields rfl hask
    cases hoptions with
    | some h => exact Ask.ofInvocation_fields h.convertible.1 hask

/-- A table with two keys, the second put in last. -/
def filledForwards : Store :=
  { tables := #[(({} : Table).set (.ofText "a") (.int 1)).set (.int 2) (.table 1), ({} : Table).set (.bool true) (.int 7)] }

/-- The same at other addresses, filled the other way round, and with an entry that was removed again. -/
def filledBackwards : Store :=
  { tables := #[{}, ({} : Table).set (.bool true) (.int 7),
      (((({} : Table).set (.int 2) (.table 1)).set (.bool false) (.int 9)).set (.ofText "a") (.int 1)).set (.bool false) .nil] }

theorem filled_alike : filledForwards.Alike filledBackwards (.table 0) (.table 2) := by
  have hplain : ∀ name : String, (Value.ofText name).IsPlain := fun name => ⟨name, Utf8.decode_toUTF8 name⟩
  have houter : (filledForwards.table 0).entries = [(.ofText "a", .int 1), (.int 2, .table 1)] := rfl
  have hinner : (filledForwards.table 1).entries = [(.bool true, .int 7)] := rfl
  have houter' : (filledBackwards.table 2).entries = [(.int 2, .table 1), (.ofText "a", .int 1)] := rfl
  have hinner' : (filledBackwards.table 1).entries = [(.bool true, .int 7)] := rfl
  have hone : (filledForwards.table 0).PlainKeys :=
    { toWellFormed := (Table.wellFormed_empty.set Value.noConfusion rfl).set Value.noConfusion rfl
      plain := by simpa [houter] using ⟨hplain "a", trivial⟩ }
  have htwo : (filledBackwards.table 2).PlainKeys :=
    { toWellFormed := (((Table.wellFormed_empty.set Value.noConfusion rfl).set Value.noConfusion rfl).set Value.noConfusion rfl).set
        Value.noConfusion rfl
      plain := by simpa [houter'] using ⟨trivial, hplain "a"⟩ }
  have hthree : (filledForwards.table 1).PlainKeys :=
    { toWellFormed := Table.wellFormed_empty.set Value.noConfusion rfl, plain := by simp [hinner, Value.IsPlain] }
  have hfour : (filledBackwards.table 1).PlainKeys :=
    { toWellFormed := Table.wellFormed_empty.set Value.noConfusion rfl, plain := by simp [hinner', Value.IsPlain] }
  have hbelow : filledForwards.Alike filledBackwards (.table 1) (.table 1) := by
    refine .table hthree hfour (by simp [Table.keys, hinner, hinner']) fun k hk => ?_
    obtain rfl : k = .bool true := by simpa [Table.keys, hinner] using hk
    exact .leaf rfl rfl
  refine .table hone htwo (by simp [Table.keys, houter, houter', or_comm]) fun k hk => ?_
  obtain rfl | rfl : k = .ofText "a" ∨ k = .int 2 := by simpa [Table.keys, houter] using hk
  · have hget := hone.get_of_mem (e := (.ofText "a", .int 1)) (by simp [houter])
    have hget' := htwo.get_of_mem (e := (.ofText "a", .int 1)) (by simp [houter'])
    rw [hget, hget']
    exact .leaf rfl rfl
  · have hget := hone.get_of_mem (e := (.int 2, .table 1)) (by simp [houter])
    have hget' := htwo.get_of_mem (e := (.int 2, .table 1)) (by simp [houter'])
    rw [hget, hget']
    exact hbelow

theorem conversions_forget_construction_filled : filledForwards.Alike filledBackwards (.table 0) (.table 2) ∧
    (∃ d, filledForwards.toData (.table 0) = .ok d ∧ filledBackwards.toData (.table 2) = .ok d) ∧
    Ask.ofInvocation filledForwards 0 "f" [.table 0] (some 0) = Ask.ofInvocation filledBackwards 0 "f" [.table 2] (some 2) := by
  obtain ⟨d, hd, hd', -⟩ := (conversions_forget_construction filledForwards filledBackwards).1 _ _ filled_alike
  have hcall := ((conversions_forget_construction filledForwards filledBackwards).2 0 "f" _ _ (some 0) (some 2)
    (.cons filled_alike .nil) (.some filled_alike)).1
  exact ⟨filled_alike, ⟨d, hd, hd'⟩, hcall⟩

end Store

end Script

end ScriptFlow
