import Mathlib
import ScriptFlow.Durable.Primitives
import ScriptFlow.Proofs.Durable.Wire
import ScriptFlow.Proofs.Script.Construction
import ScriptFlow.Proofs.Script.Outcomes
import ScriptFlow.Proofs.Script.Pruning

/-!
# Values that scripts write as JSON and read again

* `Store.Copies` — a value of one store and its copy in another: equal leaves, and tables with the same keys that hold copies under each.
* `Store.JsonValue` — truth values, numbers, texts, and tables that are sequences or have names for keys; `Store.JsonValue.carried` — the data that
  such a value becomes has a JSON form and becomes a copy of the value in every store.
* `JsonText.style_lays` — the texts that `json.dumps` writes hold nothing but blanks between their marks.
* `JsonText.values_survive_json` — **what `json.loads` reads from the text of a value is a copy of it**, whatever the indent.
-/

namespace ScriptFlow

open Script

namespace Script.Store

/-! ## Copies -/

/-- A copy of a value in another store: the same leaf, or a table with the same keys and copies of the values under them. The tables of the copy are from `low` on,
and each of them refers to later ones only. -/
inductive Copies (s s' : Store) : Nat → Value → Value → Prop where
  | leaf {low : Nat} {v : Value} (h : ∀ t, v ≠ .table t) : Copies s s' low v v
  | table {low : Nat} {t t' : TableId} (new : low ≤ t') (present : t' < s'.tables.size) (keys : ∀ k, k ∈ (s.table t).keys ↔ k ∈ (s'.table t').keys)
      (values : ∀ k ∈ (s.table t).keys, Copies s s' (t' + 1) ((s.table t).get k) ((s'.table t').get k)) : Copies s s' low (.table t) (.table t')

variable {s s' : Store} {v w : Value} {low : Nat}

/-- Older tables of the store of the copy can change. -/
theorem Copies.mono (h : s.Copies s' low v w) {s'' : Store} (size : s'.tables.size ≤ s''.tables.size) {low' : Nat} (hlow : low' ≤ low)
    (same : ∀ u, low ≤ u → u < s'.tables.size → s''.tables[u]? = s'.tables[u]?) : s.Copies s'' low' v w := by
  induction h generalizing low' with
  | leaf h => exact .leaf h
  | @table low t t' new present keys values ih =>
    have htable : s''.table t' = s'.table t' := table_of_getElem? (same t' new present)
    refine .table (Nat.le_trans hlow new) (Nat.lt_of_lt_of_le present size) (htable ▸ keys) fun k hk => ?_
    rw [htable]
    exact ih k hk (Nat.le_refl _) fun u hu => same u (by omega)

theorem Copies.ne_nil (h : s.Copies s' low v w) (hv : v ≠ .nil) : w ≠ .nil := by
  cases h with
  | leaf => exact hv
  | table => exact Value.noConfusion

/-- Data becomes a copy of a value, and no table that was there is different. -/
def Rebuilds (s s' : Store) (v : Value) (d : Data) : Prop :=
  ∃ s'' w, s'.ofData d = .ok (s'', w) ∧ s'.ChangesOnly s'.tables.size s'' ∧ s.Copies s'' s'.tables.size v w

/-- An entry and its copy. -/
structure EntryCopies (s s' : Store) (low : Nat) (e e' : Value × Value) : Prop where
  key : e'.1 = e.1
  value : s.Copies s' low e.2 e'.2

/-- Keys that are texts or whole numbers come back from data. -/
def KeyReturns (k : Value) : Prop := k.data.IsTableKey ∧ k.data.keyValue = k

theorem KeyReturns.apart {k k' : Value} (h : KeyReturns k) (h' : KeyReturns k') (hne : k ≠ k') : k.rawEq k' = false := by
  have hdata : k.data ≠ k'.data := fun heq => hne (by rw [← h.2, heq, h'.2])
  have happart := h.1.rawEq_eq_false h'.1 hdata
  rwa [h.2, h'.2] at happart

theorem ordered_apart {t : Table} (h : t.PlainKeys) (hkeys : ∀ e ∈ t.entries, KeyReturns e.1) :
    (t.ordered.map Prod.fst).Pairwise fun k k' => k.rawEq k' = false := by
  have hnodup : (t.ordered.map Prod.fst).Nodup := (t.ordered_perm.map Prod.fst).nodup_iff.mpr h.keys_nodup
  have hmem {k : Value} (hk : k ∈ t.ordered.map Prod.fst) : KeyReturns k := by
    obtain ⟨e, he, rfl⟩ := List.mem_map.mp hk
    exact hkeys e (Table.mem_ordered.mp he)
  exact hnodup.imp_of_mem fun ha hb hne => (hmem ha).apart (hmem hb) hne

section Filling

variable {es : List (Value × Value)} {val : Value × Value → Data} (hkeys : ∀ e ∈ es, KeyReturns e.1) (hne : ∀ e ∈ es, e.2 ≠ .nil)
  (hvalues : ∀ e ∈ es, ∀ s', s.Rebuilds s' e.2 (val e))

include hkeys hne hvalues

/-- Entries with keys apart fill a table with copies, one after the other. -/
theorem ofEntries_copies (s' : Store) {t' : TableId} (ht : t' < s'.tables.size)
    (apart : ((s'.table t').entries.map Prod.fst ++ es.map Prod.fst).Pairwise fun k k' => k.rawEq k' = false) :
    ∃ s'' new, s'.ofEntries t' (es.map fun e => (e.1.data, val e)) = .ok s'' ∧ s'.ChangesOnly t' s'' ∧
      (s''.table t').entries = (s'.table t').entries ++ new ∧ List.Forall₂ (s.EntryCopies s'' (t' + 1)) es new := by
  induction es generalizing s' with
  | nil => exact ⟨s', [], rfl, .refl s' t', (List.append_nil _).symm, .nil⟩
  | cons e es ih =>
    obtain ⟨hkey, hreturns⟩ := hkeys e (.head _)
    obtain ⟨s₁, w, hdata, hchanges₁, hcopy⟩ := hvalues e (.head _) s'
    have habsent : ∀ x ∈ (s'.table t').entries, x.1.rawEq e.1.data.keyValue = false := fun x hx => by
      rw [hreturns]
      exact (List.pairwise_append.mp apart).2.2 _ (List.mem_map_of_mem hx) _ (.head _)
    obtain ⟨s₂, hrun, hsteps, hlater, -, hsome⟩ := ofEntries_cons hkey hdata hchanges₁ ht habsent (es.map fun e => (e.1.data, val e))
    have hput := hsome (hcopy.ne_nil (hne e (.head _)))
    rw [hreturns] at hput
    obtain ⟨s'', new, hok, hchanges, hentries, hnew⟩ := ih (fun e he => hkeys e (.tail _ he)) (fun e he => hne e (.tail _ he))
      (fun e he => hvalues e (.tail _ he)) s₂ (Nat.lt_of_lt_of_le ht hsteps.size) (by rw [hput]; simpa using apart)
    refine ⟨s'', (e.1, w) :: new, hrun.trans hok, hsteps.trans hchanges, by rw [hentries, hput]; simp, .cons ⟨rfl, ?_⟩ hnew⟩
    refine hcopy.mono (hlater.trans hchanges).size ht fun u hu hlt => ?_
    exact (hlater.trans hchanges).same u hlt (Nat.ne_of_gt (Nat.lt_of_lt_of_le ht hu))

end Filling

/-- A table with copies of the entries of another one is its copy. -/
theorem copies_filled {t t' : TableId} (h : (s.table t).PlainKeys) (hkeys : ∀ e ∈ (s.table t).entries, KeyReturns e.1) (hlow : low ≤ t')
    (ht : t' < s'.tables.size) (hentries : List.Forall₂ (s.EntryCopies s' (t' + 1)) (s.table t).ordered (s'.table t').entries) :
    s.Copies s' low (.table t) (.table t') := by
  have hsame : (s'.table t').entries.map Prod.fst = (s.table t).ordered.map Prod.fst := by
    refine map_eq_of_forall₂ ?_
    rw [List.forall₂_map_right_iff]
    exact hentries.flip.imp fun _ _ h => h.key
  have hapart : (s'.table t').entries.Pairwise fun a b => a.1.rawEq b.1 = false := List.pairwise_map.mp (hsame ▸ ordered_apart h hkeys)
  refine .table hlow ht (fun k => ?_) fun k hk => ?_
  · rw [Table.keys, Table.keys, hsame]
    exact ((s.table t).ordered_perm.map Prod.fst).mem_iff.symm
  · obtain ⟨e, he, rfl⟩ := List.mem_map.mp hk
    obtain ⟨e', he', hcopy⟩ := exists_of_forall₂ hentries (Table.mem_ordered.mpr he)
    obtain ⟨hform, hnan, -⟩ := h.keys e he
    have hget : (s'.table t').get e.1 = e'.2 := by
      rw [Table.get, hform, ← hcopy.key]
      refine Table.find_of_mem he' ?_ hapart
      rw [hcopy.key]
      exact Value.rawEq_self (h.plain e he) hnan
    rw [h.get_of_mem he, hget]
    exact hcopy.value

/-- A table is built again from its entries in order. -/
theorem rebuilds_table {t : TableId} {val : Value × Value → Data} (h : (s.table t).PlainKeys) (hkeys : ∀ e ∈ (s.table t).entries, KeyReturns e.1)
    (hvalues : ∀ e ∈ (s.table t).entries, ∀ s', s.Rebuilds s' e.2 (val e)) (s' : Store) :
    ∃ s'', (s'.newTable {}).1.ofEntries s'.tables.size ((s.table t).ordered.map fun e => (e.1.data, val e)) = .ok s'' ∧
      s'.ChangesOnly s'.tables.size s'' ∧ s.Copies s'' s'.tables.size (.table t) (.table s'.tables.size) := by
  have hempty : ((s'.newTable {}).1.table s'.tables.size).entries = [] := by simp [newTable, table]
  have hsize : s'.tables.size < (s'.newTable {}).1.tables.size := by simp [newTable]
  have hordered : ∀ e ∈ (s.table t).ordered, ∀ s', s.Rebuilds s' e.2 (val e) := fun e he => hvalues e (Table.mem_ordered.mp he)
  obtain ⟨s'', new, hok, hchanges, hentries, hnew⟩ := ofEntries_copies (fun e he => hkeys e (Table.mem_ordered.mp he))
    (fun e he => h.values e (Table.mem_ordered.mp he)) hordered _ hsize (by rw [hempty]; exact ordered_apart h hkeys)
  rw [hempty, List.nil_append] at hentries
  refine ⟨s'', hok, (ChangesOnly.newTable s' {}).trans hchanges, ?_⟩
  exact copies_filled h hkeys (Nat.le_refl _) (Nat.lt_of_lt_of_le hsize hchanges.size) (hentries ▸ hnew)

/-! ## Values with a form in JSON -/

/-- Truth values, whole numbers, finite numbers, texts, and tables of such values that are sequences or have names for keys. -/
inductive JsonValue (s : Store) : Value → Prop where
  | bool (b : Bool) : JsonValue s (.bool b)
  | int (n : Int64) : JsonValue s (.int n)
  | float {x : Float} (finite : x.isFinite = true) : JsonValue s (.float x)
  | text (t : String) : JsonValue s (.ofText t)
  | sequence {t : TableId} (wellFormed : (s.table t).WellFormed) (keys : (s.table t).Numbered (.int 1))
      (values : ∀ e ∈ (s.table t).entries, JsonValue s e.2) : JsonValue s (.table t)
  | named {t : TableId} (wellFormed : (s.table t).WellFormed) (keys : (s.table t).Named)
      (values : ∀ e ∈ (s.table t).entries, JsonValue s e.2) : JsonValue s (.table t)

theorem keyReturns_int (p : Int64) : KeyReturns (.int p) :=
  ⟨.int ⟨p.le_toInt, p.toInt_lt⟩, congrArg Value.int (Int64.ofInt_toInt p)⟩

theorem keyReturns_text (t : String) : KeyReturns (.ofText t) := by
  rw [KeyReturns, data_ofText]
  exact ⟨.str t, rfl⟩

theorem KeyReturns.isPlain {k : Value} (h : KeyReturns k) : k.IsPlain := h.2 ▸ h.1.isPlain

theorem plainKeys_of_returns {t : Table} (h : t.WellFormed) (hkeys : ∀ e ∈ t.entries, KeyReturns e.1) : t.PlainKeys where
  toWellFormed := h
  plain e he := (hkeys e he).isPlain

theorem place_int (p : Int64) : (Value.int 1).place p = .int p := by
  unfold Value.place
  split
  · next hone => rw [hone]
  · rfl

theorem Numbered.keyReturns {t : Table} (h : t.Numbered (.int 1)) : ∀ e ∈ t.entries, KeyReturns e.1 := fun e he => by
  obtain ⟨p, -, -, hkey⟩ := (h e.1).mp (List.mem_map_of_mem he)
  rw [hkey, place_int]
  exact keyReturns_int p

theorem Named.keyReturns {t : Table} (h : t.Named) : ∀ e ∈ t.entries, KeyReturns e.1 := fun e he => by
  obtain ⟨key, hkey⟩ := h e he
  rw [hkey]
  exact keyReturns_text key

/-- The data that a value becomes has a JSON form, is in order, and becomes a copy of the value. -/
structure Carries (s : Store) (v : Value) (d : Data) : Prop where
  converts : s.toData v = .ok d
  clean : d.IsClean
  arranged : d.arrange = d
  rebuilds : ∀ s', s.Rebuilds s' v d

theorem JsonValue.keys {t : TableId} (h : s.JsonValue (.table t)) : (s.table t).PlainKeys := by
  generalize hv : Value.table t = v at h
  cases h with
  | sequence wellFormed keys =>
    cases hv
    exact plainKeys_of_returns wellFormed (Numbered.keyReturns keys)
  | named wellFormed keys =>
    cases hv
    exact plainKeys_of_returns wellFormed (Named.keyReturns keys)
  | text => cases hv
  | _ => cases hv

theorem JsonValue.convertible (h : s.JsonValue v) : s.Convertible v := by
  induction h with
  | bool b => exact .atom rfl
  | int n => exact .atom rfl
  | float => exact .atom rfl
  | text t => exact .atom (d := .str t) (by rw [Value.ofText, atomOf, Utf8.decode_toUTF8]; rfl)
  | sequence wellFormed keys values ih => exact .table (plainKeys_of_returns wellFormed (Numbered.keyReturns keys)) ih
  | named wellFormed keys values ih => exact .table (plainKeys_of_returns wellFormed (Named.keyReturns keys)) ih

theorem rebuilds_leaf {d : Data} (hv : ∀ t, v ≠ .table t) (hd : ∀ s' : Store, s'.ofData d = .ok (s', v)) (s' : Store) : s.Rebuilds s' v d :=
  ⟨s', v, hd s', .refl s' _, .leaf hv⟩

section Tables

variable {t : TableId} {val : Value × Value → Data} (hplain : (s.table t).PlainKeys) (hval : ∀ e ∈ (s.table t).entries, s.Carries e.2 (val e))
  (hdata : s.toData (.table t) = .ok ((s.table t).asData val))

include hplain

omit hval hdata in
/-- The items of a sequence have their places for keys. -/
theorem numbered_ordered (hkeys : (s.table t).Numbered (.int 1)) :
    Data.numbered 1 ((s.table t).ordered.map val) = (s.table t).ordered.map fun e => (e.1.data, val e) := by
  have hlength : (Data.numbered 1 ((s.table t).ordered.map val)).length = (s.table t).ordered.length := by
    rw [← List.length_map Prod.snd, Data.numbered_snd, List.length_map]
  refine List.ext_getElem (by simpa using hlength) fun i hi hi' => Prod.ext ?_ ?_
  · have hlt : i < (s.table t).ordered.length := hlength ▸ hi
    have hkey : (s.table t).ordered[i].1 = .int (Int64.ofNat (i + 1)) := by
      have hplace : ((s.table t).ordered.map Prod.fst)[i]? = (Table.places (.int 1) (s.table t).entries.length)[i]? := by
        rw [hkeys.ordered_keys (.inl rfl) hplain]
      have hrange : i < (s.table t).entries.length := (s.table t).ordered_perm.length_eq ▸ hlt
      simpa [Table.places, hlt, hrange, place_int] using hplace
    have hplace := Table.toInt_ofNat_succ ((s.table t).ordered_perm.length_eq ▸ hlt) (hkeys.length_lt hplain)
    rw [Data.numbered_getElem, List.getElem_map, hkey]
    exact congrArg Data.int (by omega)
  · have hsnd : ((Data.numbered 1 ((s.table t).ordered.map val)).map Prod.snd)[i]? = ((s.table t).ordered.map val)[i]? := by
      rw [Data.numbered_snd]
    have hlt : i < (s.table t).ordered.length := hlength ▸ hi
    simpa [hlt, hi] using hsnd

include hval hdata

/-- A sequence is carried as a list. -/
theorem carries_list (hkeys : (s.table t).Numbered (.int 1)) : s.Carries (.table t) (.list ((s.table t).ordered.map val)) where
  converts := by rw [hdata, Table.asData, if_pos (hkeys.arePositions (.inl rfl) hplain)]
  clean := .list fun x hx => by
    obtain ⟨e, he, rfl⟩ := List.mem_map.mp hx
    exact (hval e (Table.mem_ordered.mp he)).clean
  arranged := by
    rw [Data.arrange, Data.arrangeItems_eq, List.map_map]
    exact congrArg Data.list (List.map_congr_left fun e he => (hval e (Table.mem_ordered.mp he)).arranged)
  rebuilds s' := by
    obtain ⟨s'', hok, hchanges, hcopies⟩ := rebuilds_table hplain (Numbered.keyReturns hkeys) (fun e he => (hval e he).rebuilds) s'
    refine ⟨s'', .table s'.tables.size, ?_, hchanges, hcopies⟩
    have hlength := hkeys.length_lt hplain
    rw [ofData]
    dsimp only [newTable] at hok ⊢
    rw [ofItems_eq (by rw [List.length_map, (s.table t).ordered_perm.length_eq]; omega), numbered_ordered hplain hkeys, hok]
    rfl

/-- A table with names is carried as a dictionary in the order of the names. -/
theorem carries_object (hkeys : (s.table t).Named) (hne : (s.table t).ordered ≠ []) :
    s.Carries (.table t) (.object (fieldsOf (s.table t) val)) := by
  have hentries : ((fieldsOf (s.table t) val).map fun f => (Data.str f.1, f.2)) = (s.table t).ordered.map fun e => (e.1.data, val e) := by
    rw [fieldsOf, List.map_map]
    exact List.map_congr_left fun e he => congrArg (·, val e) (data_of_named hkeys (Table.mem_ordered.mp he)).symm
  have hnames : (fieldsOf (s.table t) val).Pairwise fun a b => a.1 < b.1 := List.pairwise_map.mpr (ordered_names hkeys hplain)
  have hcarries : ∀ f ∈ fieldsOf (s.table t) val, f.2.IsClean ∧ f.2.arrange = f.2 := fun f hf => by
    obtain ⟨e, he, rfl⟩ := List.mem_map.mp hf
    have hcarried := hval e (Table.mem_ordered.mp he)
    exact ⟨hcarried.clean, hcarried.arranged⟩
  refine ⟨by rw [hdata, asData_named hkeys hplain hne], .dict (fun x hx => ?_) ?_ fun x hx => ?_, ?_, fun s' => ?_⟩
  · obtain ⟨f, -, rfl⟩ := List.mem_map.mp hx
    exact ⟨f.1, rfl⟩
  · rw [List.map_map]
    exact List.pairwise_map.mpr (hnames.imp fun hlt heq => absurd (Data.str.inj heq) (ne_of_lt hlt))
  · obtain ⟨f, hf, rfl⟩ := List.mem_map.mp hx
    exact (hcarries f hf).1
  · have hsame : ((fieldsOf (s.table t) val).map fun f => (Data.str f.1, f.2)).map (fun e => (e.1, e.2.arrange)) =
        (fieldsOf (s.table t) val).map fun f => (Data.str f.1, f.2) := by
      rw [List.map_map]
      exact List.map_congr_left fun f hf => congrArg (Data.str f.1, ·) (hcarries f hf).2
    rw [Data.object, Data.arrange, Data.arrangeEntries_eq, hsame]
    refine congrArg Data.dict (Data.mergeSort_of_sorted (k := Prod.fst) (fun x hx => ?_) ?_)
    · obtain ⟨f, -, rfl⟩ := List.mem_map.mp hx
      exact .text f.1
    · exact List.pairwise_map.mpr (hnames.imp fun hlt => Data.rank_text_le.mpr hlt.le)
  · obtain ⟨s'', hok, hchanges, hcopies⟩ := rebuilds_table hplain (Named.keyReturns hkeys) (fun e he => (hval e he).rebuilds) s'
    refine ⟨s'', .table s'.tables.size, ?_, hchanges, hcopies⟩
    rw [Data.object, ofData, hentries]
    dsimp only [newTable] at hok ⊢
    rw [hok]
    rfl

end Tables

/-- What the values of a table are carried by, and what becomes of the table. -/
theorem JsonValue.table_values {t : TableId} (h : s.JsonValue (.table t)) (ih : ∀ e ∈ (s.table t).entries, ∃ d, s.Carries e.2 d) :
    ∃ val : Value × Value → Data, (∀ e ∈ (s.table t).entries, s.Carries e.2 (val e)) ∧ s.toData (.table t) = .ok ((s.table t).asData val) := by
  obtain ⟨val, hval, hdata⟩ := h.convertible.toData_table
  refine ⟨val, fun e he => ?_, hdata⟩
  obtain ⟨d, hd⟩ := ih e he
  obtain rfl := Except.ok.inj (hd.converts.symm.trans (hval e he))
  exact hd

/-- A table without entries is a sequence. -/
theorem numbered_of_empty {t : Table} (h : t.entries = []) : t.Numbered (.int 1) := fun k => by
  rw [Table.keys, h]
  constructor
  · intro hk
    cases hk
  · rintro ⟨p, hpos, hle, -⟩
    simp at hle
    omega

theorem natAbs_lt_pow (n : Int64) {digits : Nat} (h : 19 ≤ digits) : n.toInt.natAbs < Nat.pow 10 digits := by
  have hsmall : n.toInt.natAbs < 10 ^ 19 := by
    have hlow := n.le_toInt
    have hhigh := n.toInt_lt
    omega
  exact Nat.lt_of_lt_of_le hsmall (Nat.pow_le_pow_right (by decide) h)

/-- **A value with a form in JSON is carried by data.** -/
theorem JsonValue.carried (h : s.JsonValue v) : ∃ d, s.Carries v d := by
  induction h with
  | bool b => exact ⟨.bool b, rfl, .bool b, rfl, rebuilds_leaf (fun t => Value.noConfusion) fun s' => rfl⟩
  | int n =>
    have hrange := (keyReturns_int n).1
    refine ⟨.int n.toInt, rfl, .int ?_, rfl, rebuilds_leaf (fun t => Value.noConfusion) fun s' => ?_⟩
    · apply natAbs_lt_pow
      decide
    · exact (hrange.keyOf s').trans (by rw [(keyReturns_int n).2])
  | @float x finite => exact ⟨.float x, rfl, .float (Json.readsBack finite), rfl, rebuilds_leaf (fun t => Value.noConfusion) fun s' => rfl⟩
  | text t =>
    have hatom : atomOf (.ofText t) = .ok (.str t) := by
      rw [Value.ofText, atomOf, Utf8.decode_toUTF8]
      rfl
    exact ⟨.str t, toData_of_atom hatom, .str t, rfl, rebuilds_leaf (fun t => Value.noConfusion) fun s' => rfl⟩
  | @sequence t wellFormed keys values ih =>
    have htable := JsonValue.sequence wellFormed keys values
    obtain ⟨val, hval, hdata⟩ := htable.table_values ih
    exact ⟨_, carries_list htable.keys hval hdata keys⟩
  | @named t wellFormed keys values ih =>
    have htable := JsonValue.named wellFormed keys values
    obtain ⟨val, hval, hdata⟩ := htable.table_values ih
    by_cases hempty : (s.table t).ordered = []
    · exact ⟨_, carries_list htable.keys hval hdata (numbered_of_empty ((s.table t).ordered_perm.symm.trans (hempty ▸ .refl _)).eq_nil)⟩
    · exact ⟨_, carries_object htable.keys hval hdata keys hempty⟩

end Script.Store

/-! ## Texts -/

namespace JsonText

/-- What an indent may be: nothing, or a positive count of blanks. -/
inductive IsIndent : Data → Prop where
  | none : IsIndent .null
  | blanks {n : Int} (h : 0 < n) : IsIndent (.int n)

/-- The texts that `json.dumps` writes hold nothing but blanks between their marks. -/
theorem style_lays {indent : Data} (h : IsIndent indent) : ∃ style space, JsonText.style indent = .ok style ∧ Json.Lays style space := by
  cases h with
  | none => exact ⟨_, _, rfl, Json.lays_compactSorted⟩
  | @blanks n h =>
    have htruthy : (Data.int n).truthy = true := by simpa [Data.truthy] using h.ne'
    refine ⟨{ sortKeys := true, indent := some (String.ofList (List.replicate n.toNat ' ')), itemSeparator := "," }, [' '], ?_, rfl, rfl,
      (by decide : ": ".toList = [':', ' ']), fun c hc => ?_, fun unit hunit c hc => ?_⟩
    · simp only [JsonText.style, indentText, bind, Except.bind, htruthy, if_true]
      rfl
    · obtain rfl := List.mem_singleton.mp hc
      rfl
    · obtain rfl := Option.some.inj hunit
      rw [String.toList_ofList] at hc
      rw [List.eq_of_mem_replicate hc]
      rfl

/-- The text of clean data in order is read as it. -/
theorem loads_dumps {d indent : Data} (hclean : d.IsClean) (harranged : d.arrange = d) (hindent : IsIndent indent) :
    ∃ text, dumps d indent = .ok (.str text) ∧ loads (.str text) = .ok d := by
  obtain ⟨style, space, hstyle, hlays⟩ := style_lays hindent
  obtain ⟨text, hwrite, hspells⟩ := hclean.spelled hlays 0
  rw [harranged] at hspells
  have hloads {t : String} (h : Json.Spells t.toList d) : loads (.str t) = .ok d := by
    rw [loads, h.read_eq]
    rfl
  by_cases hstring : ∃ t, d = .str t
  · obtain ⟨t, rfl⟩ := hstring
    exact ⟨Json.stringText t, rfl, hloads (Json.spells_str t)⟩
  · refine ⟨text, ?_, hloads hspells⟩
    rw [dumps.eq_2 _ _ fun t ht => hstring ⟨t, ht⟩, hstyle]
    simp only [bind, Except.bind, Json.write, hwrite]
    rfl

end JsonText

/-! ## Calls -/

namespace Session

variable {ε : Type} {s : Session ε} {number : Nat} {function : String}

/-- A function that gives its result at once. -/
theorem drive_now {store store' : Store} {frames : List Frame} {inv : Invocation} {vs : List Value} {table : Option TableId}
    (hsplit : Invocation.splitOptions store inv.args = (vs, table)) {args : List Data} {fields : List (String × Data)}
    (hask : Ask.ofInvocation store number function vs table = .ok (.invoke number function args fields)) {d : Data}
    (hinvoke : s.invoke number function args fields = pure (.now d)) {v : Value} (hd : store.ofData d = .ok (store', v)) (fuel : Nat) :
    s.drive (fuel + 1) (Machine.callsBuiltin store frames number function inv) = s.drive fuel ⟨store', .done [v], frames⟩ := by
  have hm := Machine.advance_builtin store frames number function inv
  rw [hsplit] at hm
  have ha : (⟨store, frames, Machine.afterReply⟩ : Suspension).ask (.invoke number function vs table) = .invoke number function args fields := by
    simp only [Suspension.ask, Ask.ofHostCall, hask]
  have hanswer : (⟨store, frames, Machine.afterReply⟩ : Suspension).answer (.value d) = ⟨store', .done [v], frames⟩ := by
    simp only [Suspension.answer, hd]
    rfl
  rw [drive_invoke hm ha, hinvoke, ← hanswer]
  rfl

end Session

namespace JsonText

section Arguments

variable {store : Store} {v : Value} {d : Data}

/-- A table that is taken for the options of a call when it is the last argument. -/
def IsOptions (store : Store) (t : TableId) : Prop := Act.shownMeta store (.table t) = .table store.optionsMark

/-- The arguments of a call that writes a value: it stands alone, or before an indent that is given by place or by name. -/
inductive Writes (store : Store) (v : Value) : List Value → Data → Prop where
  | alone (h : ∀ t, v = .table t → ¬ IsOptions store t) : Writes store v [v] .null
  | placed {n : Int64} (h : 0 < n.toInt) : Writes store v [v, .int n] (.int n.toInt)
  | named {n : Int64} {t : TableId} (h : 0 < n.toInt) (options : IsOptions store t) (entries : (store.table t).entries = [(.ofText "indent", .int n)]) :
      Writes store v [v, .table t] (.int n.toInt)

theorem Writes.isIndent {args : List Value} {indent : Data} (h : Writes store v args indent) : IsIndent indent := by
  cases h with
  | alone => exact .none
  | placed h => exact .blanks h
  | named h => exact .blanks h

theorem splitOptions_options {t : TableId} (h : IsOptions store t) (args : List Value) :
    Invocation.splitOptions store (args ++ [.table t]) = (args, some t) := by
  unfold IsOptions at h
  simp [Invocation.splitOptions, h]

theorem splitOptions_of_last {w : Value} (h : ∀ t, w = .table t → ¬ IsOptions store t) (args : List Value) :
    Invocation.splitOptions store (args ++ [w]) = (args ++ [w], none) := by
  unfold Invocation.splitOptions
  rw [List.getLast?_append_of_ne_nil _ (by simp)]
  cases w with
  | table t =>
    have hother := h t rfl
    unfold IsOptions at hother
    cases hm : Act.shownMeta store (.table t) with
    | table m =>
      have hne : (m == store.optionsMark) = false := by
        rw [beq_eq_false_iff_ne]
        rintro rfl
        exact hother hm
      simp [hm, hne]
    | _ => simp [hm]
  | _ => rfl

section Single

variable {t : TableId} {key : String} (h : (store.table t).entries = [(.ofText key, v)])

include h

theorem named_single : (store.table t).Named := fun e he => by
  rw [h, List.mem_singleton] at he
  exact ⟨key, by rw [he]⟩

theorem wellFormed_single (hv : v ≠ .nil) : (store.table t).WellFormed := by
  refine ⟨fun e he => ?_, fun e he => ?_, ?_⟩
  · rw [h, List.mem_singleton] at he
    rw [he]
    exact ⟨rfl, rfl, Value.noConfusion⟩
  · rw [h, List.mem_singleton] at he
    rw [he]
    exact hv
  · rw [h]
    exact List.pairwise_singleton _ _

/-- A table with one name is a dictionary with this name. -/
theorem toData_single (hv : v ≠ .nil) (hplain : v.IsPlain) : store.toData (.table t) = .ok (.object [(key, v.data)]) := by
  have hnamed := named_single h
  have hkeys := Store.plainKeys_of_returns (wellFormed_single h hv) (Store.Named.keyReturns hnamed)
  have hordered : (store.table t).ordered = [(.ofText key, v)] := by rw [Table.ordered, h, List.mergeSort_singleton]
  have hdata : store.toData (.table t) = .ok ((store.table t).asData fun e => e.2.data) := Store.toDataWithin_table hkeys fun e he => by
    rw [h, List.mem_singleton] at he
    rw [he]
    exact Store.toDataWithin_plain hplain
  rw [Store.asData_named hnamed hkeys (by rw [hordered]; exact List.cons_ne_nil _ _), Store.fieldsOf, hordered, List.map_singleton, Store.nameOf,
    Store.data_ofText] at hdata
  exact hdata

end Single

/-- What is asked for a call that writes a value. -/
theorem Writes.asks {args : List Value} {indent : Data} (h : Writes store v args indent) (hd : store.toData v = .ok d) (number : Nat) :
    ∃ vs table xs fields, Invocation.splitOptions store args = (vs, table) ∧
      Ask.ofInvocation store number "dumps" vs table = .ok (.invoke number "dumps" xs fields) ∧
      (fields.any fun o => Builtin.callParameters.contains o.1) = false ∧
      bindArguments [("value", none), ("indent", some .null)] xs fields = .ok [d, indent] := by
  have hall : store.toDataAll [v] = .ok [d] := by
    rw [Store.toDataAll, Store.convertAll_ok_iff]
    exact .cons hd .nil
  cases h with
  | alone h =>
    refine ⟨[v], none, [d], [], splitOptions_of_last h [], ?_, rfl, rfl⟩
    rw [Ask.ofInvocation, hall]
    rfl
  | @placed n =>
    have hboth : store.toDataAll [v, .int n] = .ok [d, .int n.toInt] := by
      rw [Store.toDataAll, Store.convertAll_ok_iff]
      exact .cons hd (.cons (Store.toDataWithin_plain trivial) .nil)
    refine ⟨[v, .int n], none, [d, .int n.toInt], [], splitOptions_of_last (fun t => Value.noConfusion) [v], ?_, rfl, rfl⟩
    rw [Ask.ofInvocation, hboth]
    rfl
  | @named n t _ options entries =>
    have hd' := toData_single entries Value.noConfusion trivial
    refine ⟨[v], some t, [d], [("indent", .int n.toInt)], splitOptions_options options [v], ?_, rfl, rfl⟩
    rw [Ask.ofInvocation, hall]
    simp only [bind, Except.bind, hd']
    rfl

end Arguments

section Functions

variable {ε : Type} {w : Primitives ε} {info : RunInfo} {s : Session ε} {number : Nat} (hmodule : s.module number = plugin.create w info)

include hmodule

theorem invoke_dumps {d indent : Data} {text : String} {xs : List Data} {fields : List (String × Data)}
    (hplain : (fields.any fun o => Builtin.callParameters.contains o.1) = false)
    (hbind : bindArguments [("value", none), ("indent", some .null)] xs fields = .ok [d, indent]) (hdumps : dumps d indent = .ok (.str text)) :
    s.invoke number "dumps" xs fields = pure (.now (.str text)) := by
  unfold Session.invoke
  rw [hmodule]
  change Builtin.call (.fixed [("value", none), ("indent", some .null)] _) s.thread xs fields = _
  rw [Builtin.call, hplain]
  simp only [Bool.false_eq_true, if_false, Builtin.fixed, hbind]
  change (do return Reply.now (← Flow.ofExcept (dumps d indent)) : Play ε (Reply ε)) = _
  rw [hdumps]
  rfl

theorem invoke_loads {d : Data} {text : String} (hloads : loads (.str text) = .ok d) : s.invoke number "loads" [.str text] [] = pure (.now d) := by
  unfold Session.invoke
  rw [hmodule]
  change (do return Reply.now (← Flow.ofExcept (loads (.str text))) : Play ε (Reply ε)) = _
  rw [hloads]
  rfl

end Functions

theorem asks_loads (store : Store) (number : Nat) (text : String) :
    Ask.ofInvocation store number "loads" [.ofText text] none = .ok (.invoke number "loads" [.str text] []) := by
  have hall : store.toDataAll [.ofText text] = .ok [.str text] := by
    rw [Store.toDataAll, Store.convertAll_ok_iff]
    have hplain : (Value.ofText text).IsPlain := ⟨text, Utf8.decode_toUTF8 text⟩
    refine .cons ?_ .nil
    rw [Store.toData, Store.toDataWithin_plain hplain, Store.data_ofText]
  rw [Ask.ofInvocation, hall]
  rfl

/-- **JSON texts bring values back.** A script that writes a value with a form in JSON goes on with a text, in the store as it was. A script that reads this text,
at any later time, goes on with a copy of the value as it was when it was written: equal leaves, whole numbers and floating-point numbers apart, and
tables with the same keys at every depth. All tables of the copy are new, and no other table changes. The value that is written is not itself
taken for the options of the call. -/
theorem values_survive_json {ε : Type} {w : Primitives ε} {info : RunInfo} {s : Session ε} {number : Nat}
    (hmodule : s.module number = plugin.create w info) {store : Store} {v : Value} (hv : store.JsonValue v) {indent : Data} {inv : Invocation}
    (hargs : Writes store v inv.args indent) (frames : List Frame) : ∃ text : String,
      (∀ fuel, s.drive (fuel + 1) (Machine.callsBuiltin store frames number "dumps" inv) = s.drive fuel ⟨store, .done [.ofText text], frames⟩) ∧
      ∀ (store' : Store) (frames' : List Frame) (inv' : Invocation), inv'.args = [.ofText text] → ∃ store'' v',
        (∀ fuel, s.drive (fuel + 1) (Machine.callsBuiltin store' frames' number "loads" inv') = s.drive fuel ⟨store'', .done [v'], frames'⟩) ∧
        store'.ChangesOnly store'.tables.size store'' ∧ store.Copies store'' store'.tables.size v v' := by
  obtain ⟨d, hconverts, hclean, harranged, hrebuilds⟩ := hv.carried
  obtain ⟨text, hdumps, hloads⟩ := loads_dumps hclean harranged hargs.isIndent
  obtain ⟨vs, table, xs, fields, hsplit, hask, hplain, hbind⟩ := hargs.asks hconverts number
  refine ⟨text, fun fuel => ?_, fun store' frames' inv' hinv' => ?_⟩
  · exact Session.drive_now hsplit hask (invoke_dumps hmodule hplain hbind hdumps) rfl fuel
  · obtain ⟨store'', v', hdata, hchanges, hcopies⟩ := hrebuilds store'
    have hsplit' : Invocation.splitOptions store' inv'.args = ([.ofText text], none) := by
      rw [hinv']
      exact splitOptions_of_last (fun t => Value.noConfusion) []
    exact ⟨store'', v', fun fuel => Session.drive_now hsplit' (asks_loads store' number text) (invoke_loads hmodule hloads) hdata fuel, hchanges, hcopies⟩

/-- A list with a record, and the options of a call. -/
def listed : Store :=
  { tables := #[{ entries := [(.int 1, .table 1)] }, { entries := [(.ofText "ratio", .float 0.5), (.ofText "name", .ofText "x")] },
      { entries := [(.ofText "indent", .int 2)], meta? := some 3 }, {}], optionsMark := 3 }

/-- A session with the module, on the durable engine. -/
def oneJson : Session Execution :=
  { environment := default
    modules := [("json", plugin.create Execution.primitives { identity := {}, environ := [], run := 0, number := 0 })]
    thread := { name := "", context := {}, run := 0 } }

theorem listed_record : listed.JsonValue (.table 1) := by
  have hcases {e : Value × Value} (he : e ∈ (listed.table 1).entries) : e = (.ofText "ratio", .float 0.5) ∨ e = (.ofText "name", .ofText "x") := by
    have hentries : (listed.table 1).entries = [(.ofText "ratio", .float 0.5), (.ofText "name", .ofText "x")] := rfl
    rw [hentries] at he
    simpa using he
  refine .named ⟨fun e he => ?_, fun e he => ?_, .cons (by simp; decide) (.cons (by simp) .nil)⟩ (fun e he => ?_) fun e he => ?_
  · obtain rfl | rfl := hcases he <;> exact ⟨rfl, rfl, Value.noConfusion⟩
  · obtain rfl | rfl := hcases he <;> exact Value.noConfusion
  · obtain rfl | rfl := hcases he <;> exact ⟨_, rfl⟩
  · obtain rfl | rfl := hcases he
    · exact .float (by decide +kernel)
    · exact .text "x"

theorem listed_list : listed.JsonValue (.table 0) := by
  have hentries : (listed.table 0).entries = [(.int 1, .table 1)] := rfl
  refine .sequence ⟨fun e he => ?_, fun e he => ?_, ?_⟩ (Table.numbered_singleton hentries) fun e he => ?_
  · obtain rfl := List.mem_singleton.mp (hentries ▸ he)
    exact ⟨rfl, rfl, Value.noConfusion⟩
  · obtain rfl := List.mem_singleton.mp (hentries ▸ he)
    exact Value.noConfusion
  · exact List.pairwise_singleton _ _
  · obtain rfl := List.mem_singleton.mp (hentries ▸ he)
    exact listed_record

theorem values_survive_json_listed : oneJson.module 0 = plugin.create Execution.primitives { identity := {}, environ := [], run := 0, number := 0 } ∧
    listed.JsonValue (.table 0) ∧ Writes listed (.table 0) [.table 0, .table 2] (.int 2) ∧ ∃ text : String,
      (∀ fuel, oneJson.drive (fuel + 1) (Machine.callsBuiltin listed [] 0 "dumps" { args := [.table 0, .table 2] }) =
        oneJson.drive fuel ⟨listed, .done [.ofText text], []⟩) ∧
      ∃ store v, (∀ fuel, oneJson.drive (fuel + 1) (Machine.callsBuiltin listed [] 0 "loads" { args := [.ofText text] }) =
        oneJson.drive fuel ⟨store, .done [v], []⟩) ∧ listed.ChangesOnly 4 store ∧ listed.Copies store 4 (.table 0) v := by
  have hmodule : oneJson.module 0 = plugin.create Execution.primitives { identity := {}, environ := [], run := 0, number := 0 } := rfl
  let inv : Invocation := { args := [.table 0, .table 2] }
  have hwrites : Writes listed (.table 0) inv.args (.int 2) := .named (n := 2) (by decide) rfl rfl
  obtain ⟨text, hdumps, hloads⟩ := values_survive_json hmodule listed_list hwrites []
  obtain ⟨store, v, hread, hchanges, hcopies⟩ := hloads listed [] { args := [.ofText text] } rfl
  exact ⟨hmodule, listed_list, hwrites, text, hdumps, store, v, hread, hchanges, hcopies⟩

/-- A record that is marked as the options of a call. -/
def markedRecord : Store := { tables := #[{ entries := [(.ofText "a", .int 1)], meta? := some 1 }, {}], optionsMark := 1 }

/-- What a call that writes a value ends with. -/
def dumping (store : Store) (v : Value) : Except Fault Data :=
  (Loop.runMain ({ engine := { identity := {} } } : World Execution) do
    let (store, r) ← oneJson.drive 9 (Machine.callsBuiltin store [] 0 "dumps" { args := [v] })
    Flow.ofExcept (r.bind store.toData)).1

/-- **A record that is marked as options is not written when it is the last argument**: the call has no value then. -/
theorem marked_record_is_not_written : markedRecord.JsonValue (.table 0) ∧ Session.ending (dumping markedRecord (.table 0)) = "TypeError" := by
  have hentries : (markedRecord.table 0).entries = [(.ofText "a", .int 1)] := rfl
  refine ⟨.named ⟨fun e he => ?_, fun e he => ?_, List.pairwise_singleton _ _⟩ (fun e he => ?_) fun e he => ?_, by decide +kernel⟩
  · obtain rfl := List.mem_singleton.mp (hentries ▸ he)
    exact ⟨rfl, rfl, Value.noConfusion⟩
  · obtain rfl := List.mem_singleton.mp (hentries ▸ he)
    exact Value.noConfusion
  · obtain rfl := List.mem_singleton.mp (hentries ▸ he)
    exact ⟨_, rfl⟩
  · obtain rfl := List.mem_singleton.mp (hentries ▸ he)
    exact .int 1

end JsonText

end ScriptFlow
