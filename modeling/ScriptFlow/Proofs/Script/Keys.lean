import Mathlib
import ScriptFlow.Proofs.Data.Keys
import ScriptFlow.Script.Convert

/-!
# Keys of tables as keys of dictionaries

* `Data.rank` — the order of numbers, truth values and texts: by the name of the type and then by value; `Data.keyBefore_eq` — conversions
  sort by that order.
* `Table.WellFormed` — what every table keeps to: one entry for a key, in key form; `Table.WellFormed.set` — writing keeps it.
* `Value.IsPlain` — truth values, numbers and texts in scripts; `Value.data` — what they are outside of scripts.
* `Value.counts_of_same` — **two keys of a table become one key only when one is a truth value and the other the number it counts as**.
-/

namespace ScriptFlow

namespace Data

theorem IsKey.isOrdered {d : Data} (h : d.IsKey) : Script.Store.isOrdered d = true := by
  cases h with
  | number h => cases d <;> first | rfl | cases h
  | text s => rfl

/-- The place of a key: the name of its type, then its value. -/
def rank (d : Data) : String ×ₗ WithBot (WithTop ℤ) ×ₗ String :=
  toLex (d.typeName, toLex ((d.numeric?.map Numeric.height).getD ⊥, d.text?.getD ""))

/-- The place of a key among those of its type. -/
theorem keyLess_eq {a b : Data} (ha : a.IsKey) (hb : b.IsKey) (ht : a.typeName = b.typeName) :
    Script.Store.keyLess a b = decide ((ofLex a.rank).2 < (ofLex b.rank).2) := by
  cases ha with
  | number ha hm =>
    cases hb with
    | number hb hn =>
      have hless := Numeric.less_eq hm hn
      cases a <;> cases ha <;> cases b <;> cases hb <;> first
        | (simp [rank, Script.Store.keyLess, numeric?, text?, Prod.Lex.toLex_lt_toLex, hless]; done)
        | (simp [typeName] at ht; done)
        | skip
      rename_i a b
      cases a <;> cases b <;> simp [rank, Script.Store.keyLess, numeric?, text?, Prod.Lex.toLex_lt_toLex, Numeric.height_ofInt_lt]
    | text t => cases a <;> cases ha <;> simp [typeName] at ht
  | text s =>
    cases hb with
    | number hb => cases b <;> cases hb <;> simp [typeName] at ht
    | text t => simp [rank, Script.Store.keyLess, numeric?, text?, Prod.Lex.toLex_lt_toLex]

/-- **Conversions sort keys by rank.** -/
theorem keyBefore_eq {a b : Data} (ha : a.IsKey) (hb : b.IsKey) : Script.Store.keyBefore a b = decide (a.rank < b.rank) := by
  by_cases ht : a.typeName = b.typeName
  · simp only [Script.Store.keyBefore, keyLess_eq ha hb ht]
    simp [rank, Prod.Lex.toLex_lt_toLex, ht]
  · simp [Script.Store.keyBefore, rank, Prod.Lex.toLex_lt_toLex, ht]

section Sorting

variable {α : Type} {k : α → Data} {l : List α}

theorem mergeSort_keyBefore (h : ∀ a ∈ l, (k a).IsKey) : (l.mergeSort fun a b => !Script.Store.keyBefore (k b) (k a)) =
    l.mergeSort fun a b => decide ((k a).rank ≤ (k b).rank) := by
  have hmap : (l.mergeSort fun a b => !Script.Store.keyBefore (k b) (k a)).map id =
      (l.map id).mergeSort fun a b => decide ((k a).rank ≤ (k b).rank) :=
    List.map_mergeSort fun a ha b hb => by
      rw [keyBefore_eq (h b hb) (h a ha)]
      simp [← not_lt]
  rwa [List.map_id, List.map_id] at hmap

/-- What a conversion has sorted stands in order. -/
theorem sorted_mergeSort (h : ∀ a ∈ l, (k a).IsKey) :
    (l.mergeSort fun a b => !Script.Store.keyBefore (k b) (k a)).Pairwise fun a b => (k a).rank ≤ (k b).rank := by
  have htotal (a b : α) : (decide ((k a).rank ≤ (k b).rank) || decide ((k b).rank ≤ (k a).rank)) = true := by
    simp only [Bool.or_eq_true, decide_eq_true_eq]
    exact le_total _ _
  have htrans (a b c : α) (hab : decide ((k a).rank ≤ (k b).rank) = true) (hbc : decide ((k b).rank ≤ (k c).rank) = true) :
      decide ((k a).rank ≤ (k c).rank) = true :=
    decide_eq_true (le_trans (of_decide_eq_true hab) (of_decide_eq_true hbc))
  rw [mergeSort_keyBefore h]
  exact (List.pairwise_mergeSort htrans htotal l).imp of_decide_eq_true

/-- What stands in order is not moved. -/
theorem mergeSort_of_sorted (h : ∀ a ∈ l, (k a).IsKey) (hsorted : l.Pairwise fun a b => (k a).rank ≤ (k b).rank) :
    (l.mergeSort fun a b => !Script.Store.keyBefore (k b) (k a)) = l := by
  rw [mergeSort_keyBefore h]
  exact List.mergeSort_of_pairwise (hsorted.imp decide_eq_true)

end Sorting

theorem rank_int_lt {a b : Int} : (int a).rank < (int b).rank ↔ a < b := by
  have h : (int a).rank < (int b).rank ↔ (Numeric.ofInt a).height < (Numeric.ofInt b).height := by
    simp [rank, typeName, numeric?, text?, Prod.Lex.toLex_lt_toLex]
  exact h.trans Numeric.height_ofInt_lt

/-- Keys of one type stand before those of another. -/
theorem rank_lt_of_typeName {a b : Data} (h : a.typeName < b.typeName) : a.rank < b.rank := Prod.Lex.toLex_lt_toLex.mpr (.inl h)

end Data

/-! ## Texts -/

theorem Utf8.decode_toUTF8 (t : String) : Utf8.decode t.toUTF8 = .ok t := by
  have hread : String.fromUTF8? t.toUTF8 = some t := by
    simp only [String.fromUTF8?, String.toUTF8_eq_toByteArray, dif_pos t.isValidUTF8]
    rfl
  rw [Utf8.decode, hread]

theorem Utf8.toUTF8_of_decode {bs : ByteArray} {t : String} (h : Utf8.decode bs = .ok t) : t.toUTF8 = bs := by
  unfold Utf8.decode at h
  split at h
  · rename_i u hread
    cases h
    unfold String.fromUTF8? at hread
    split at hread
    · cases hread
      rfl
    · cases hread
  · split at h <;> cases h

namespace Script

/-! ## Tables -/

/-- What every table keeps to. -/
structure Table.WellFormed (t : Table) : Prop where
  keys : ∀ e ∈ t.entries, e.1.keyForm = e.1 ∧ e.1.isNaN = false ∧ e.1 ≠ .nil
  values : ∀ e ∈ t.entries, e.2 ≠ .nil
  apart : t.entries.Pairwise fun a b => a.1.rawEq b.1 = false

namespace Value

theorem keyForm_keyForm (v : Value) : v.keyForm.keyForm = v.keyForm := by
  cases v with
  | float x =>
    cases h : wholeOf? x with
    | none => simp [keyForm, h]
    | some n => simp [keyForm, h]
  | _ => rfl

theorem isNaN_keyForm {v : Value} (h : v.isNaN = false) : v.keyForm.isNaN = false := by
  cases v with
  | float x =>
    unfold keyForm
    dsimp only
    split
    · rfl
    · exact h
  | _ => exact h

theorem keyForm_ne_nil {v : Value} (h : v ≠ .nil) : v.keyForm ≠ .nil := by
  cases v with
  | float x =>
    unfold keyForm
    dsimp only
    split <;> exact Value.noConfusion
  | _ => exact h

end Value

namespace Table

theorem wellFormed_empty : WellFormed {} := ⟨by simp, by simp, .nil⟩

/-- What is in a table after writing was there before or is what was written. -/
theorem mem_put {entries : List (Value × Value)} {key value : Value} {e : Value × Value} (h : e ∈ put entries key value) :
    (e.1 = key ∨ ∃ e' ∈ entries, e.1 = e'.1) ∧ (e.2 = value ∧ value ≠ .nil ∨ e ∈ entries) := by
  induction entries with
  | nil =>
    cases value <;> simp_all [put]
  | cons first rest ih =>
    obtain ⟨k, v⟩ := first
    unfold put at h
    split at h
    · split at h
      · exact ⟨.inr ⟨e, .tail _ h, rfl⟩, .inr (.tail _ h)⟩
      · rename_i hvalue
        cases h with
        | head => exact ⟨.inr ⟨(k, v), .head _, rfl⟩, .inl ⟨rfl, hvalue⟩⟩
        | tail _ h => exact ⟨.inr ⟨e, .tail _ h, rfl⟩, .inr (.tail _ h)⟩
    · cases h with
      | head => exact ⟨.inr ⟨(k, v), .head _, rfl⟩, .inr (.head _)⟩
      | tail _ h =>
        obtain ⟨hkey, hvalue⟩ := ih h
        exact ⟨hkey.imp_right fun ⟨e', he, hk⟩ => ⟨e', .tail _ he, hk⟩, hvalue.imp_right (.tail _)⟩

theorem put_apart {entries : List (Value × Value)} {key value : Value} (h : entries.Pairwise fun a b => a.1.rawEq b.1 = false) :
    (put entries key value).Pairwise fun a b => a.1.rawEq b.1 = false := by
  induction entries with
  | nil => cases value <;> simp [put]
  | cons first rest ih =>
    obtain ⟨k, v⟩ := first
    obtain ⟨hfirst, hrest⟩ := List.pairwise_cons.mp h
    unfold put
    split
    · split
      · exact hrest
      · exact List.pairwise_cons.mpr ⟨hfirst, hrest⟩
    · rename_i hkey
      refine List.pairwise_cons.mpr ⟨fun e he => ?_, ih hrest⟩
      obtain he | ⟨e', he', he⟩ := (mem_put he).1
      · rw [he]
        exact Bool.eq_false_iff.mpr hkey
      · rw [he]
        exact hfirst e' he'

/-- Writing under a key that tables can have keeps a table well-formed. -/
theorem WellFormed.set {t : Table} (h : t.WellFormed) {key value : Value} (hn : key ≠ .nil) (hnan : key.isNaN = false) :
    (t.set key value).WellFormed where
  keys e he := by
    obtain he | ⟨e', he', he⟩ := (mem_put he).1
    · rw [he]
      exact ⟨key.keyForm_keyForm, Value.isNaN_keyForm hnan, Value.keyForm_ne_nil hn⟩
    · rw [he]
      exact h.keys e' he'
  values e he := by
    obtain ⟨hv, hvalue⟩ | he := (mem_put he).2
    · rw [hv]
      exact hvalue
    · exact h.values e he
  apart := put_apart h.apart

end Table

/-! ## Keys inside of scripts -/

namespace Value

/-- Truth values, numbers and texts. -/
def IsPlain : Value → Prop
  | bool _ | int _ | float _ => True
  | str bs => ∃ t, Utf8.decode bs = .ok t
  | _ => False

/-- A string is a text. -/
def IsReadable (v : Value) : Prop := ∀ bs, v = str bs → v.IsPlain

theorem isReadable_str {bs : ByteArray} : (str bs).IsReadable ↔ ∃ t, Utf8.decode bs = .ok t :=
  ⟨fun h => h bs rfl, fun h _ _ => h⟩

theorem isReadable_of_ne_str {v : Value} (h : ∀ bs, v ≠ str bs) : v.IsReadable := fun bs hv => absurd hv (h bs)

/-- A value that is no table outside of scripts. -/
def data (v : Value) : Data := (Store.atomOf v).toOption.getD .null

theorem IsPlain.atomOf {v : Value} (h : v.IsPlain) : Store.atomOf v = .ok v.data := by
  cases v with
  | bool b => rfl
  | int n => rfl
  | float x => rfl
  | str bs =>
    obtain ⟨t, ht⟩ := h
    simp [Value.data, Store.atomOf, ht, Except.map, Except.toOption]
  | _ => exact h.elim

/-- A truth value counts as a number. -/
inductive CountsAs : Value → Value → Prop where
  | one : CountsAs (bool true) (int 1)
  | zero : CountsAs (bool false) (int 0)

theorem wholeOf?_of_same {x : Float} {n : Int64} (h : (Data.Numeric.ofFloat x).same (.ofInt n.toInt) = true) : wholeOf? x = some n := by
  have hlow := n.le_toInt
  have hhigh := n.toInt_lt
  rw [wholeOf?, exactInt?_of_same h]
  simp only [Int64.ofInt_toInt]
  rw [if_pos]
  simp only [Bool.and_eq_true, decide_eq_true_eq]
  exact ⟨hlow, hhigh⟩

theorem IsPlain.text {bs : ByteArray} (h : (str bs).IsPlain) : ∃ t, t.toUTF8 = bs ∧ (str bs).data = .str t := by
  obtain ⟨t, ht⟩ := h
  exact ⟨t, Utf8.toUTF8_of_decode ht, by simp [data, Store.atomOf, ht, Except.map, Except.toOption]⟩

theorem IsPlain.isKey {v : Value} (h : v.IsPlain) (hnan : v.isNaN = false) : v.data.IsKey := by
  cases v with
  | bool b => exact .number rfl Data.Numeric.noConfusion
  | int n => exact .number rfl Data.Numeric.noConfusion
  | float x => exact .number rfl (Data.Numeric.ofFloat_ne_nan hnan)
  | str bs =>
    obtain ⟨t, -, hdata⟩ := h.text
    rw [hdata]
    exact .text t
  | _ => exact h.elim

/-- A number that equals a whole number is not in key form. -/
theorem not_keyForm_of_same {x : Float} {n : Int64} (h : (Data.Numeric.ofFloat x).same (.ofInt n.toInt) = true) :
    (float x).keyForm ≠ float x := by
  rw [keyForm, wholeOf?_of_same h]
  exact Value.noConfusion

theorem counts_of_same_bool {b : Bool} {n : Int64} (h : (if b then 1 else 0) = n.toInt) : CountsAs (bool b) (int n) := by
  cases b with
  | false =>
    obtain rfl : n = 0 := Int64.toInt_inj.mp h.symm
    exact .zero
  | true =>
    obtain rfl : n = 1 := Int64.toInt_inj.mp h.symm
    exact .one

/-- A number that equals a truth value is not in key form. -/
theorem not_keyForm_of_same_bool {x : Float} {b : Bool} (h : (Data.Numeric.ofFloat x).same (.ofInt (if b then 1 else 0)) = true) :
    (float x).keyForm ≠ float x := by
  cases b with
  | false => exact not_keyForm_of_same (show (Data.Numeric.ofFloat x).same (.ofInt (0 : Int64).toInt) = true from h)
  | true => exact not_keyForm_of_same (show (Data.Numeric.ofFloat x).same (.ofInt (1 : Int64).toInt) = true from h)

theorem not_same_str_number {bs : ByteArray} {v : Value} {n : Data.Numeric} (h : (str bs).IsPlain) (hn : v.data.numeric? = some n) :
    (str bs).data.same v.data = false ∧ v.data.same (str bs).data = false := by
  obtain ⟨t, -, hdata⟩ := h.text
  rw [hdata]
  exact Data.same_text_number hn t

theorem eq_of_same_str {bs bs' : ByteArray} (h : (str bs).IsPlain) (h' : (str bs').IsPlain)
    (hs : (str bs).data.same (str bs').data = true) : bs = bs' := by
  obtain ⟨t, rfl, ht⟩ := h.text
  obtain ⟨t', rfl, ht'⟩ := h'.text
  rw [ht, ht', Data.same_text, decide_eq_true_eq] at hs
  rw [hs]

/-- **Keys that become the same key are a truth value and the number it counts as.** -/
theorem counts_of_same {v w : Value} (hv : v.IsPlain) (hw : w.IsPlain) (kv : v.keyForm = v) (kw : w.keyForm = w)
    (hne : v.rawEq w = false) (hs : v.data.same w.data = true) : CountsAs v w ∨ CountsAs w v := by
  cases v with
  | bool a =>
    cases w with
    | bool b =>
      have hab := Data.Numeric.same_ofInt.mp hs
      cases a <;> cases b <;> simp [rawEq] at hne hab
    | int n => exact .inl (counts_of_same_bool (Data.Numeric.same_ofInt.mp hs))
    | float x => exact absurd kw (not_keyForm_of_same_bool ((Data.Numeric.same_comm _ _).trans hs))
    | str bs => exact absurd hs (Bool.eq_false_iff.mp (not_same_str_number hw rfl).2)
    | _ => exact hw.elim
  | int n =>
    cases w with
    | bool b => exact .inr (counts_of_same_bool (Data.Numeric.same_ofInt.mp hs).symm)
    | int m =>
      obtain rfl := Int64.toInt_inj.mp (Data.Numeric.same_ofInt.mp hs)
      exact absurd BEq.rfl (Bool.eq_false_iff.mp hne)
    | float x => exact absurd kw (not_keyForm_of_same ((Data.Numeric.same_comm _ _).trans hs))
    | str bs => exact absurd hs (Bool.eq_false_iff.mp (not_same_str_number hw rfl).2)
    | _ => exact hw.elim
  | float x =>
    cases w with
    | bool b => exact absurd kv (not_keyForm_of_same_bool hs)
    | int n => exact absurd kv (not_keyForm_of_same hs)
    | float y => exact absurd (beq_of_same hs) (Bool.eq_false_iff.mp hne)
    | str bs => exact absurd hs (Bool.eq_false_iff.mp (not_same_str_number hw rfl).2)
    | _ => exact hw.elim
  | str bs =>
    cases w with
    | bool b => exact absurd hs (Bool.eq_false_iff.mp (not_same_str_number hv rfl).1)
    | int n => exact absurd hs (Bool.eq_false_iff.mp (not_same_str_number hv rfl).1)
    | float x => exact absurd hs (Bool.eq_false_iff.mp (not_same_str_number hv rfl).1)
    | str bs' =>
      obtain rfl := eq_of_same_str hv hw hs
      exact absurd (show (bs.data == bs.data) = true from BEq.rfl) (Bool.eq_false_iff.mp hne)
    | _ => exact hw.elim
  | _ => exact hv.elim

/-- A truth value and the number it counts as become the same key. -/
theorem CountsAs.same {v w : Value} (h : CountsAs v w) : v.data.same w.data = true := by
  cases h <;> exact Data.Numeric.same_ofInt.mpr rfl

end Value

end Script

end ScriptFlow
