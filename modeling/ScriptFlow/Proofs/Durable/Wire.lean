import Mathlib
import ScriptFlow.Durable.Wire
import ScriptFlow.Proofs.Data.NumberText
import ScriptFlow.Proofs.Data.Payload
import ScriptFlow.Proofs.Script.Pruning

/-!
# Data on the wire

* `Data.IsClean` — JSON data whose numbers are read back from their texts; `Json.readsBack` — finite numbers are.
* `Json.Lays` — a style that sorts keys and fills texts with blanks only; `Data.IsClean.spelled` — the text of clean data in such a style spells it, with the entries of
  dictionaries in order.
* `WirePayload.carry_eq` — **clean data arrives as it was sent**, up to the order of entries; `Data.IsClean.arrange_arrange` — after one trip
  another one changes nothing.
-/

namespace ScriptFlow

open Json

/-! ## Clean data -/

/-- The shortest text of a number is read back as the number. -/
def Json.ReadsBack (x : Float) : Prop :=
  numberAt ⟨0, (Float.shortestText interchangeNumber x).toList⟩ = .ok (.float x, ⟨(Float.shortestText interchangeNumber x).toList.length, []⟩)

/-- Finite numbers are read back. -/
theorem Json.readsBack {x : Float} (h : x.isFinite = true) : ReadsBack x := numberAt_shortestText h

namespace Data

/-- JSON data: absent values, truth values, whole numbers without too many digits, numbers whose texts are read back, texts, lists, and
dictionaries with distinct texts as keys. -/
inductive IsClean : Data → Prop where
  | null : IsClean .null
  | bool (b : Bool) : IsClean (.bool b)
  | int {n : Int} (h : n.natAbs < Nat.pow 10 4300) : IsClean (.int n)
  | float {x : Float} (h : ReadsBack x) : IsClean (.float x)
  | str (s : String) : IsClean (.str s)
  | list {xs : List Data} (items : ∀ x ∈ xs, IsClean x) : IsClean (.list xs)
  | dict {es : List (Data × Data)} (keys : ∀ e ∈ es, ∃ t, e.1 = .str t) (apart : (es.map Prod.fst).Nodup) (values : ∀ e ∈ es, IsClean e.2) :
      IsClean (.dict es)

theorem IsClean.wireForm_eq {d : Data} (h : d.IsClean) : WirePayload.wireForm d = d := by
  induction h with
  | list _ ih =>
    rename_i xs _
    have hitems (ys : List Data) (hys : ∀ y ∈ ys, WirePayload.wireForm y = y) : WirePayload.wireForms ys = ys := by
      induction ys with
      | nil => rfl
      | cons y ys ihys => rw [WirePayload.wireForms, hys y (.head _), ihys fun y hy => hys y (.tail _ hy)]
    rw [WirePayload.wireForm, hitems xs ih]
  | dict _ _ _ ih =>
    rename_i es _ _ _
    have hentries (fs : List (Data × Data)) (hfs : ∀ e ∈ fs, WirePayload.wireForm e.2 = e.2) : WirePayload.wireEntries fs = fs := by
      induction fs with
      | nil => rfl
      | cons e fs ihfs =>
        obtain ⟨k, v⟩ := e
        rw [WirePayload.wireEntries, hfs _ (.head _), ihfs fun e he => hfs e (.tail _ he)]
    rw [WirePayload.wireForm, hentries es ih]
  | _ => rfl

theorem IsClean.arrange {d : Data} (h : d.IsClean) : d.arrange.IsClean := by
  induction h with
  | null => exact .null
  | bool b => exact .bool b
  | int h => exact .int h
  | float h => exact .float h
  | str s => exact .str s
  | @list xs _ ih =>
    rw [Data.arrange, arrangeItems_eq]
    exact .list fun y hy => by
      obtain ⟨x, hx, rfl⟩ := List.mem_map.mp hy
      exact ih x hx
  | @dict es keys apart _ ih =>
    have hperm := (arrangeEntries es).mergeSort_perm fun a b => !Script.Store.keyBefore b.1 a.1
    rw [Data.arrange]
    rw [arrangeEntries_eq] at hperm ⊢
    have hmem {e : Data × Data} (he : e ∈ (es.map fun e => (e.1, e.2.arrange)).mergeSort fun a b => !Script.Store.keyBefore b.1 a.1) :
        ∃ e' ∈ es, (e'.1, e'.2.arrange) = e := List.mem_map.mp (hperm.mem_iff.mp he)
    refine .dict (fun e he => ?_) ?_ fun e he => ?_
    · obtain ⟨e', he', rfl⟩ := hmem he
      exact keys e' he'
    · refine (hperm.map Prod.fst).nodup_iff.mpr ?_
      rw [List.map_map]
      exact apart
    · obtain ⟨e', he', rfl⟩ := hmem he
      exact ih e' he'

theorem isKey_of_texts {es : List (Data × Data)} (keys : ∀ e ∈ es, ∃ t, e.1 = .str t) : ∀ e ∈ es, e.1.IsKey := fun e he => by
  obtain ⟨t, ht⟩ := keys e he
  exact ht ▸ .text t

/-- Data in order stays as it is. -/
theorem IsClean.arrange_arrange {d : Data} (h : d.IsClean) : d.arrange.arrange = d.arrange := by
  induction h with
  | null | bool | int | float | str => rfl
  | @list xs _ ih =>
    simp only [Data.arrange, arrangeItems_eq, List.map_map]
    exact congrArg Data.list (List.map_congr_left ih)
  | @dict es keys apart _ ih =>
    have hkeys : ∀ e ∈ es.map (fun e => (e.1, e.2.arrange)), e.1.IsKey := fun e he => by
      obtain ⟨e', he', rfl⟩ := List.mem_map.mp he
      exact isKey_of_texts keys e' he'
    have hperm := (es.map fun e => (e.1, e.2.arrange)).mergeSort_perm fun a b => !Script.Store.keyBefore b.1 a.1
    have hsorted := sorted_mergeSort (k := Prod.fst) hkeys
    have hsame : ∀ e ∈ (es.map fun e => (e.1, e.2.arrange)).mergeSort (fun a b => !Script.Store.keyBefore b.1 a.1), (e.1, e.2.arrange) = e :=
      fun e he => by
        obtain ⟨e', he', rfl⟩ := List.mem_map.mp (hperm.mem_iff.mp he)
        simp only [ih e' he']
    simp only [Data.arrange, arrangeEntries_eq]
    rw [List.map_congr_left (g := id) hsame, List.map_id,
      mergeSort_of_sorted (k := Prod.fst) (fun e he => hkeys e (hperm.mem_iff.mp he)) hsorted]

end Data

/-! ## Writing -/

namespace Json

/-- Keys are in order, and there are only blanks between the marks of a text: `space` behind colons, and perhaps lines. -/
structure Lays (style : JsonStyle) (space : List Char) : Prop where
  sortKeys : style.sortKeys = true
  comma : style.itemSeparator = ","
  colon : style.keySeparator.toList = ':' :: space
  blank : Blank space
  indent : ∀ unit ∈ style.indent, Blank unit.toList

/-- The form of payloads is one line without blanks. -/
theorem lays_compactSorted : Lays compactSorted [] := ⟨rfl, rfl, rfl, List.forall_mem_nil _, fun _ h => by cases h⟩

section Styles

variable {style : JsonStyle} {space : List Char} (hstyle : Lays style space)

include hstyle

theorem Lays.breaks (depth : Nat) : Breaks (lineBreak style depth).toList := by
  unfold lineBreak
  split
  · exact .nil
  · next unit hunit =>
    have hblank := hstyle.indent unit hunit
    have hjoin : ∀ n, (String.join (List.replicate n unit)).toList = (List.replicate n unit.toList).flatten := fun n => by
      rw [String.toList_join, List.flatMap_def, List.map_replicate]
    refine ⟨fun c hc => ?_, by simp⟩
    rw [String.toList_append, hjoin] at hc
    rcases List.mem_append.mp hc with hc | hc
    · rw [List.mem_singleton.mp hc]
      rfl
    · obtain ⟨cs, hcs, hc⟩ := List.mem_flatten.mp hc
      exact hblank c (List.eq_of_mem_replicate hcs ▸ hc)

theorem toList_bracket (depth : Nat) {left right : Char} {l r : String} (hl : l.toList = [left]) (hr : r.toList = [right]) (items : List String) :
    (bracket style depth l r items).toList =
      enclosed left right (lineBreak style (depth + 1)).toList (lineBreak style depth).toList (items.map String.toList) := by
  unfold bracket enclosed
  rw [List.isEmpty_map]
  split
  · simp [hl, hr]
  · simp [hl, hr, hstyle.comma, joined, String.toList_intercalate]

end Styles

/-- Texts are compared by their code points. -/
theorem keyLess_str (s t : String) : keyLess (.str s) (.str t) = decide (s < t) := by
  have hlist : ∀ cs ds : List Char, cs.map Char.toNat < ds.map Char.toNat ↔ cs < ds := fun cs => by
    induction cs with
    | nil => intro ds; cases ds <;> simp
    | cons c cs ih =>
      intro ds
      cases ds with
      | nil => simp
      | cons d ds =>
        rw [List.map_cons, List.map_cons, List.cons_lt_cons_iff, List.cons_lt_cons_iff, ih, Char.toNat_inj]
        exact Iff.rfl
  simp only [keyLess, codePoints?, hlist, String.lt_iff]

theorem keyBefore_str (s t : String) : Script.Store.keyBefore (.str s) (.str t) = keyLess (.str s) (.str t) := by
  simp [Script.Store.keyBefore, Data.typeName, Script.Store.keyLess, keyLess_str]

theorem incomparable?_texts {ks : List Data} (keys : ∀ k ∈ ks, ∃ t, k = .str t) : incomparable? ks = none := by
  induction ks with
  | nil => rfl
  | cons k ks ih =>
    cases ks with
    | nil => rfl
    | cons k' ks =>
      obtain ⟨t, rfl⟩ := keys _ (.head _)
      obtain ⟨t', rfl⟩ := keys _ (.tail _ (.head _))
      have hrest := ih fun k hk => keys k (.tail _ hk)
      simpa [incomparable?, keyClass] using hrest

/-- Entries under distinct texts are gathered as they are. -/
theorem gather_of_texts {es : List (Data × Data)} (keys : ∀ e ∈ es, ∃ t, e.1 = .str t) (apart : (es.map Prod.fst).Nodup) : gather es = es := by
  refine Data.foldl_insertKey_apart ((List.pairwise_map.mp apart).imp_of_mem fun {a b} ha hb hne => ?_)
  obtain ⟨s, hs⟩ := keys a ha
  obtain ⟨t, ht⟩ := keys b hb
  rw [hs, ht, Data.same_text, decide_eq_false]
  rintro rfl
  exact hne (hs.trans ht.symm)

section Entries

variable {es : List (Data × Data)} (keys : ∀ e ∈ es, ∃ t, e.1 = .str t) (apart : (es.map Prod.fst).Nodup) (style : JsonStyle) (depth : Nat)

theorem writeEntries_eq (es : List (Data × Data)) : writeEntries style depth es = es.map fun e => (e.1, writeAt style depth e.2) := by
  induction es with
  | nil => simp [writeEntries]
  | cons e es ih =>
    obtain ⟨k, v⟩ := e
    rw [writeEntries, ih, List.map_cons]

include keys apart

/-- The entry under a key. -/
theorem find?_same {e : Data × Data} (he : e ∈ es) : es.find? (fun e' => e'.1.same e.1) = some e := by
  induction es with
  | nil => cases he
  | cons e' es ih =>
    obtain ⟨t, ht⟩ := keys _ he
    obtain ⟨t', ht'⟩ := keys _ (.head _)
    rw [List.map_cons, List.nodup_cons] at apart
    by_cases heq : t' = t
    · have hhead : e = e' := by
        obtain rfl | he := List.mem_cons.mp he
        · rfl
        · exact absurd (List.mem_map.mpr ⟨e, he, by rw [ht, ht', heq]⟩) apart.1
      rw [hhead, List.find?_cons_of_pos]
      rw [ht', Data.same_text]
      exact decide_eq_true rfl
    · have hne : e ≠ e' := by
        rintro rfl
        exact heq (Data.str.inj (ht'.symm.trans ht))
      rw [List.find?_cons_of_neg]
      · exact ih (fun e he => keys e (.tail _ he)) apart.2 ((List.mem_cons.mp he).resolve_left hne)
      · rw [ht, ht', Data.same_text]
        simpa using heq

theorem reorder_eq {sorted : List (Data × Data)} (h : sorted.Perm es) : reorder sorted (writeEntries style depth es) =
    sorted.map fun e => (e.1, writeAt style depth e.2) := by
  refine List.map_congr_left fun e he => ?_
  have hfind := find?_same keys apart (h.mem_iff.mp he)
  rw [writeEntries_eq, List.find?_map]
  have hcomp : (fun w : Data × Except Fault String => w.1.same e.1) ∘ (fun e => (e.1, writeAt style depth e.2)) =
    fun e' : Data × Data => e'.1.same e.1 := rfl
  rw [hcomp, hfind]
  rfl

end Entries

theorem members_spell {style : JsonStyle} {space : List Char} (hstyle : Lays style space) {depth : Nat} {es : List (Data × Data)}
    (keys : ∀ e ∈ es, ∃ t, e.1 = .str t) (h : ∀ e ∈ es, ∃ t, writeAt style depth e.2 = .ok t ∧ Spells t.toList e.2.arrange) :
    ∃ texts, members style (es.map fun e => (e.1, writeAt style depth e.2)) = .ok texts ∧
      List.Forall₂ (SpellsEntry space) (texts.map String.toList) (es.map fun e => (e.1, e.2.arrange)) := by
  induction es with
  | nil => exact ⟨[], rfl, .nil⟩
  | cons e es ih =>
    obtain ⟨k, v⟩ := e
    obtain ⟨name, rfl⟩ := keys _ (.head _)
    obtain ⟨t, ht, hspells⟩ := h _ (.head _)
    obtain ⟨texts, htexts, hentries⟩ := ih (fun e he => keys e (.tail _ he)) fun e he => h e (.tail _ he)
    refine ⟨(stringText name ++ style.keySeparator ++ t) :: texts, ?_, .cons ⟨name, t.toList, rfl, by simp [hstyle.colon], hspells⟩ hentries⟩
    rw [List.map_cons, members, ht, htexts]
    · rfl
    · exact fun _ h => by cases h

end Json

namespace Data

section Styles

variable {style : JsonStyle} {space : List Char}

theorem writeItems_spell {depth : Nat} {xs : List Data} (h : ∀ x ∈ xs, ∃ t, writeAt style depth x = .ok t ∧ Spells t.toList x.arrange) :
    ∃ texts, writeItems style depth xs = .ok texts ∧ List.Forall₂ Spells (texts.map String.toList) (xs.map arrange) := by
  induction xs with
  | nil => exact ⟨[], by simp [writeItems], .nil⟩
  | cons x xs ih =>
    obtain ⟨t, ht, hspells⟩ := h _ (.head _)
    obtain ⟨texts, htexts, hitems⟩ := ih fun x hx => h x (.tail _ hx)
    refine ⟨t :: texts, ?_, .cons hspells hitems⟩
    rw [writeItems, ht, htexts]
    rfl

/-- The JSON text of clean data spells it, with the entries of dictionaries in order. -/
theorem IsClean.spelled {d : Data} (h : d.IsClean) (hstyle : Lays style space) (depth : Nat) :
    ∃ t, writeAt style depth d = .ok t ∧ Spells t.toList d.arrange := by
  induction h generalizing depth with
  | null => exact ⟨"null", by rw [writeAt], spells_null⟩
  | bool b => exact ⟨_, by rw [writeAt], spells_bool b⟩
  | @int n h => exact ⟨toString n, by rw [writeAt, intText_eq h], spells_int h⟩
  | float h => exact ⟨_, by rw [writeAt], spells_number h⟩
  | str s => exact ⟨_, by rw [writeAt], spells_str s⟩
  | @list xs _ ih =>
    obtain ⟨texts, htexts, hitems⟩ := writeItems_spell fun x hx => ih x hx (depth + 1)
    refine ⟨_, by rw [writeAt, htexts]; rfl, ?_⟩
    rw [toList_bracket hstyle depth rfl rfl, Data.arrange, arrangeItems_eq]
    exact spells_list (hstyle.breaks _).blank (hstyle.breaks _) hitems
  | @dict es keys apart _ ih =>
    have hperm := es.mergeSort_perm fun a b => !keyLess b.1 a.1
    have hsort : sortEntries es = .ok (es.mergeSort fun a b => !keyLess b.1 a.1) := by
      rw [sortEntries, incomparable?_texts fun k hk => ?_]
      obtain ⟨e, he, rfl⟩ := List.mem_map.mp hk
      exact keys e he
    obtain ⟨texts, htexts, hentries⟩ := members_spell hstyle (fun e he => keys e (hperm.mem_iff.mp he))
      fun e he => ih e (hperm.mem_iff.mp he) (depth + 1)
    have hmap : ((es.mergeSort fun a b => !keyLess b.1 a.1).map fun e => (e.1, e.2.arrange)) =
        (es.map fun e => (e.1, e.2.arrange)).mergeSort fun a b => !Script.Store.keyBefore b.1 a.1 :=
      List.map_mergeSort fun a ha b hb => by
        obtain ⟨s, hs⟩ := keys a ha
        obtain ⟨t, ht⟩ := keys b hb
        simp only [hs, ht, keyBefore_str]
    have hwrite : writeAt style depth (.dict es) = .ok (bracket style depth "\x7b" "\x7d" texts) := by
      rw [writeAt]
      simp only [hstyle.sortKeys, if_true, hsort, bind, Except.bind]
      rw [reorder_eq keys apart style (depth + 1) hperm, htexts]
      rfl
    refine ⟨_, hwrite, ?_⟩
    have hdict := spells_dict (hstyle.breaks (depth + 1)).blank (hstyle.breaks depth) hstyle.blank hentries
    rw [gather_of_texts (fun e he => ?_) ?_, hmap] at hdict
    · rw [toList_bracket hstyle depth rfl rfl, Data.arrange, arrangeEntries_eq]
      exact hdict
    · rw [List.map_map]
      exact (hperm.map Prod.fst).nodup_iff.mpr apart
    · obtain ⟨e', he', rfl⟩ := List.mem_map.mp he
      exact keys e' (hperm.mem_iff.mp he')

end Styles

end Data

namespace WirePayload

/-- **Clean data arrives as it was sent**, with the entries of dictionaries in order. -/
theorem carry_eq {d : Data} (h : d.IsClean) : carry d = .ok d.arrange := by
  obtain ⟨t, ht, hspells⟩ := h.spelled lays_compactSorted 0
  have hread : String.fromUTF8? t.toUTF8 = some t := by
    simp only [String.fromUTF8?, String.toUTF8_eq_toByteArray, dif_pos t.isValidUTF8]
    rfl
  have hdecode : decode { encoding := "json/plain", contents := t.toUTF8 } = .ok d.arrange := by
    simp only [decode, hread, hspells.read_eq]
    rfl
  have hjson : d ≠ .null → carry d = .ok d.arrange := fun hne => by
    have hencode : encode d = .ok { encoding := "json/plain", contents := t.toUTF8 } := by
      unfold encode
      split
      · exact absurd rfl hne
      · cases h
      · rw [h.wireForm_eq, Json.write, ht]
        rfl
    rw [carry, hencode]
    exact hdecode
  by_cases hnull : d = .null
  · subst hnull
    rfl
  · exact hjson hnull

end WirePayload

end ScriptFlow
