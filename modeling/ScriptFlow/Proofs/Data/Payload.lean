import Mathlib
import ScriptFlow.Data.Payload
import ScriptFlow.Proofs.Data.Keys

/-!
# Payloads as a canonical form

* `Data.Encodable` — values that can travel: no byte strings and no foreign values, and every key has a text.
* `Data.PayloadOf` — what arrives of a value: tuples are lists, keys are their texts, and of entries with one text the first gives the place and
  the last the value.
* `Data.IsJson` — JSON data with text keys.
* `Data.payload_canonical_form` — **byte strings travel unchanged; any other value travels exactly when it is encodable, arrives as
  its payload, and a second trip changes nothing**.
* `Data.writeAt_fails_as_canonical` — a trip fails where writing the JSON text fails, and with the same error.
-/

namespace ScriptFlow.Data

/-! ## Entries with text keys -/

theorem eraseDups_concat {α : Type} [DecidableEq α] (xs : List α) (x : α) :
    (xs ++ [x]).eraseDups = if x ∈ xs then xs.eraseDups else xs.eraseDups ++ [x] := by
  rw [List.eraseDups_append]
  by_cases h : x ∈ xs <;> simp [List.removeAll, List.eraseDups_cons, h]

theorem nodup_eraseDups {α : Type} [DecidableEq α] (xs : List α) : xs.eraseDups.Nodup := by
  induction xs using List.reverseRecOn with
  | nil => exact .nil
  | append_singleton xs x ih =>
    rw [eraseDups_concat]
    split
    · exact ih
    · rename_i hx
      exact ih.append (List.nodup_singleton x) (by simpa using hx)

section TextKeys

variable {acc : List (Data × Data)} {k : String} {v : Data}

theorem lookup?_insertKey (h : ∀ e ∈ acc, ∃ t, e.1 = .str t) (k' : String) :
    lookup? (insertKey acc (.str k) v) (.str k') = if k = k' then some v else lookup? acc (.str k') := by
  induction acc with
  | nil => by_cases hk : k = k' <;> simp [insertKey, lookup?, same_text, hk]
  | cons e acc ih =>
    obtain ⟨key, old⟩ := e
    obtain ⟨t, rfl⟩ : ∃ t, key = .str t := h _ (.head _)
    have hrest := ih fun e he => h e (.tail _ he)
    by_cases ht : t = k
    · by_cases hk : k = k' <;> simp [insertKey, lookup?, same_text, ht, hk]
    · have hstep : insertKey ((.str t, old) :: acc) (.str k) v = (.str t, old) :: insertKey acc (.str k) v := by
        simp [insertKey, same_text, ht]
      by_cases ht' : t = k'
      · have hk : k ≠ k' := fun hk => ht (ht'.trans hk.symm)
        rw [hstep]
        simp [lookup?, same_text, ht', hk]
      · rw [hstep]
        simpa [lookup?, same_text, ht'] using hrest

theorem keys_insertKey_text {names : List String} (h : acc.map Prod.fst = names.map .str) :
    (insertKey acc (.str k) v).map Prod.fst = (if k ∈ names then names else names ++ [k]).map .str := by
  have hmem : (∃ e ∈ acc, e.1.same (.str k) = true) ↔ k ∈ names := by
    constructor
    · rintro ⟨e, he, hsame⟩
      obtain ⟨t, ht, hkey⟩ := List.mem_map.mp (h ▸ List.mem_map_of_mem he)
      rw [← hkey, same_text, decide_eq_true_eq] at hsame
      exact hsame ▸ ht
    · intro hk
      obtain ⟨e, he, hkey⟩ := List.mem_map.mp (h ▸ List.mem_map_of_mem hk : Data.str k ∈ acc.map Prod.fst)
      exact ⟨e, he, by rw [hkey, same_text, decide_eq_true rfl]⟩
  obtain ⟨hpresent, hkeys⟩ | ⟨habsent, hkeys⟩ := keys_insertKey acc (.str k) v
  · rw [hkeys, h, if_pos (hmem.mp hpresent)]
  · have hnew : k ∉ names := fun hk => by
      obtain ⟨e, he, hsame⟩ := hmem.mpr hk
      exact Bool.eq_false_iff.mp (habsent e he) hsame
    rw [hkeys, h, if_neg hnew, List.map_append]
    rfl

end TextKeys

/-- **Entries put into a dictionary one after the other**: the first with a text gives the place, the last the value. -/
theorem foldl_insertKey_texts {es : List (Data × Data)} {names : List String} (h : es.map Prod.fst = names.map .str) :
    (es.foldl (fun acc e => insertKey acc e.1 e.2) []).map Prod.fst = names.eraseDups.map .str ∧
      ∀ j (hj : j < es.length) name, names[j]? = some name → (∀ k, j < k → names[k]? ≠ some name) →
        lookup? (es.foldl (fun acc e => insertKey acc e.1 e.2) []) (.str name) = some es[j].2 := by
  induction es using List.reverseRecOn generalizing names with
  | nil =>
    obtain rfl : names = [] := by simpa using h.symm
    exact ⟨rfl, fun j hj => absurd hj (Nat.not_lt_zero j)⟩
  | append_singleton es e ih =>
    obtain rfl | ⟨names, k, rfl⟩ := names.eq_nil_or_concat'
    · simp at h
    rw [List.map_append, List.map_append] at h
    obtain ⟨hnames, hlastKey⟩ := List.append_inj' h rfl
    have hk : e.1 = .str k := List.singleton_inj.mp hlastKey
    obtain ⟨hkeys, hlast⟩ := ih hnames
    have hlength : es.length = names.length := by simpa using congrArg List.length hnames
    have htexts : ∀ e' ∈ es.foldl (fun acc e => insertKey acc e.1 e.2) [], ∃ t, e'.1 = .str t := fun e' he' => by
      have hmem := List.mem_map_of_mem (f := Prod.fst) he'
      rw [hkeys] at hmem
      obtain ⟨t, -, ht⟩ := List.mem_map.mp hmem
      exact ⟨t, ht.symm⟩
    rw [List.foldl_append, List.foldl_cons, List.foldl_nil, hk]
    refine ⟨?_, fun j hj name hname hothers => ?_⟩
    · rw [keys_insertKey_text hkeys, eraseDups_concat]
      simp
    · rw [lookup?_insertKey htexts]
      by_cases hj' : j < es.length
      · have hne : k ≠ name := fun hkn => hothers names.length (by omega) (by simp [hkn])
        rw [if_neg hne, List.getElem_append_left hj']
        refine hlast j hj' name ?_ fun i hi hi' => ?_
        · rwa [List.getElem?_append_left (by omega)] at hname
        · have hlt : i < names.length := (List.getElem?_eq_some_iff.mp hi').1
          exact hothers i hi (by rwa [List.getElem?_append_left hlt])
      · have hj'' : j = es.length := by
          simp at hj
          omega
        subst hj''
        have hkn : k = name := by simpa [hlength] using hname
        simp [hkn]

theorem mem_insertKey {acc : List (Data × Data)} {k v : Data} {e : Data × Data} (h : e ∈ insertKey acc k v) : e.2 = v ∨ e ∈ acc := by
  induction acc with
  | nil => exact .inl (congrArg Prod.snd (List.mem_singleton.mp h))
  | cons first acc ih =>
    obtain ⟨k', v'⟩ := first
    unfold insertKey at h
    split at h
    · cases h with
      | head => exact .inl rfl
      | tail _ h => exact .inr (.tail _ h)
    · cases h with
      | head => exact .inr (.head _)
      | tail _ h => exact (ih h).imp_right (.tail _)

/-- What is in a dictionary was put there. -/
theorem mem_foldl_insertKey {es acc : List (Data × Data)} {e : Data × Data} (h : e ∈ es.foldl (fun acc e => insertKey acc e.1 e.2) acc) :
    ∃ e' ∈ acc ++ es, e.2 = e'.2 := by
  induction es generalizing acc with
  | nil => exact ⟨e, by simpa using h, rfl⟩
  | cons x es ih =>
    obtain ⟨e', he', heq⟩ := ih h
    obtain he' | he' := List.mem_append.mp he'
    · obtain hx | he' := mem_insertKey he'
      · exact ⟨x, by simp, heq.trans hx⟩
      · exact ⟨e', by simp [he'], heq⟩
    · exact ⟨e', by simp [he'], heq⟩

/-! ## Values that travel -/

/-- Neither a whole number, nor a text with halves of surrogate pairs, nor a container. -/
def isLeaf : Data → Bool
  | .int _ | .looseText _ | .list _ | .tuple _ | .dict _ => false
  | _ => true

/-- Keys without too many digits and without halves of surrogate pairs. -/
def KeyWithinLimits : Data → Prop
  | .int n => n.natAbs < Nat.pow 10 4300
  | .looseText _ => False
  | _ => True

/-- No whole number has too many digits, and no text has halves of surrogate pairs. -/
inductive WithinLimits : Data → Prop where
  | leaf {d : Data} (h : d.isLeaf = true) : WithinLimits d
  | int {n : Int} (h : n.natAbs < Nat.pow 10 4300) : WithinLimits (.int n)
  | list {xs : List Data} (items : ∀ x ∈ xs, WithinLimits x) : WithinLimits (.list xs)
  | tuple {xs : List Data} (items : ∀ x ∈ xs, WithinLimits x) : WithinLimits (.tuple xs)
  | dict {es : List (Data × Data)} (keys : ∀ e ∈ es, e.1.KeyWithinLimits) (values : ∀ e ∈ es, WithinLimits e.2) : WithinLimits (.dict es)

/-- Texts, numbers, truth values and the absent value. -/
def IsJsonKey : Data → Prop
  | .str _ | .int _ | .float _ | .bool _ | .null => True
  | _ => False

/-- Values that can travel: every value in them has a form, and every key a text. -/
inductive Encodable : Data → Prop where
  | null : Encodable .null
  | bool (b : Bool) : Encodable (.bool b)
  | int (n : Int) : Encodable (.int n)
  | float (x : Float) : Encodable (.float x)
  | str (s : String) : Encodable (.str s)
  | list {xs : List Data} (items : ∀ x ∈ xs, Encodable x) : Encodable (.list xs)
  | tuple {xs : List Data} (items : ∀ x ∈ xs, Encodable x) : Encodable (.tuple xs)
  | dict {es : List (Data × Data)} (keys : ∀ e ∈ es, e.1.IsJsonKey) (values : ∀ e ∈ es, Encodable e.2) : Encodable (.dict es)

/-- What arrives of a value. -/
inductive PayloadOf : Data → Data → Prop where
  | null : PayloadOf .null .null
  | bool (b : Bool) : PayloadOf (.bool b) (.bool b)
  | int (n : Int) : PayloadOf (.int n) (.int n)
  | float (x : Float) : PayloadOf (.float x) (.float x)
  | str (s : String) : PayloadOf (.str s) (.str s)
  | list {xs ys : List Data} (length : xs.length = ys.length) (items : ∀ i (h : i < xs.length) (h' : i < ys.length), PayloadOf xs[i] ys[i]) :
      PayloadOf (.list xs) (.list ys)
  | tuple {xs ys : List Data} (length : xs.length = ys.length) (items : ∀ i (h : i < xs.length) (h' : i < ys.length), PayloadOf xs[i] ys[i]) :
      PayloadOf (.tuple xs) (.list ys)
  /-- every text stands where it comes first, with the value of the last entry that has it -/
  | dict {es fs : List (Data × Data)} {names : List String} (texts : es.map (fun e => Json.keyText e.1) = names.map .ok)
      (places : fs.map Prod.fst = names.eraseDups.map .str)
      (values : ∀ j (h : j < es.length) name, names[j]? = some name → (∀ k, j < k → names[k]? ≠ some name) →
        ∀ p, lookup? fs (.str name) = some p → PayloadOf es[j].2 p) : PayloadOf (.dict es) (.dict fs)

/-- JSON data with text keys. -/
inductive IsJson : Data → Prop where
  | null : IsJson .null
  | bool (b : Bool) : IsJson (.bool b)
  | int {n : Int} (h : n.natAbs < Nat.pow 10 4300) : IsJson (.int n)
  | float (x : Float) : IsJson (.float x)
  | str (s : String) : IsJson (.str s)
  | list {xs : List Data} (items : ∀ x ∈ xs, IsJson x) : IsJson (.list xs)
  | dict {es : List (Data × Data)} {names : List String} (keys : es.map Prod.fst = names.map .str) (apart : names.Nodup)
      (values : ∀ e ∈ es, IsJson e.2) : IsJson (.dict es)

/-! ## JSON data -/

theorem intText_eq {n : Int} (h : n.natAbs < Nat.pow 10 4300) : Json.intText n = .ok (toString n) := if_pos h

theorem canonicalEntries_cons {k : Data} (h : k.KeyWithinLimits) (v : Data) (es : List (Data × Data)) :
    canonicalEntries ((k, v) :: es) = (do
      let name ← Json.keyText k
      let value ← canonical v
      let others ← canonicalEntries es
      pure ((.str name, value) :: others)) := by
  rw [canonicalEntries.eq_3 k v es (by rintro cs rfl; exact h)]
  generalize Json.keyText k = text
  cases text <;> rfl

/-- **JSON data is its own canonical form.** -/
theorem IsJson.canonical_eq {d : Data} (h : d.IsJson) : d.canonical = .ok d := by
  induction h with
  | null | bool | float | str => rfl
  | @int n h =>
    rw [canonical, intText_eq h]
    rfl
  | @list xs items ih =>
    have hitems : ∀ ys : List Data, (∀ y ∈ ys, y.canonical = .ok y) → canonicalItems ys = .ok ys := by
      intro ys hys
      induction ys with
      | nil => rfl
      | cons y ys ihys =>
        rw [canonicalItems, hys y (.head _), ihys fun y hy => hys y (.tail _ hy)]
        rfl
    rw [canonical, hitems xs ih]
    rfl
  | @dict es names keys apart values ih =>
    have htexts : ∀ e ∈ es, ∃ t, e.1 = .str t := fun e he => by
      obtain ⟨t, -, ht⟩ := List.mem_map.mp (keys ▸ List.mem_map_of_mem he)
      exact ⟨t, ht.symm⟩
    have hentries : ∀ fs : List (Data × Data), (∀ e ∈ fs, (∃ t, e.1 = .str t) ∧ e.2.canonical = .ok e.2) → canonicalEntries fs = .ok fs := by
      intro fs hfs
      induction fs with
      | nil => rfl
      | cons e fs ihfs =>
        obtain ⟨k, v⟩ := e
        obtain ⟨⟨t, rfl⟩, hv⟩ := hfs _ (.head _)
        rw [canonicalEntries_cons (k := .str t) trivial, hv, ihfs fun e he => hfs e (.tail _ he)]
        rfl
    have hapart : es.Pairwise fun a b => a.1.same b.1 = false := by
      have hnames : (es.map Prod.fst).Pairwise fun a b => a.same b = false := by
        rw [keys]
        exact List.pairwise_map.mpr (apart.imp fun hne => by simpa [same_text] using hne)
      exact List.pairwise_map.mp hnames
    rw [canonical, hentries es fun e he => ⟨htexts e he, ih e he⟩]
    exact congrArg (fun fs => Except.ok (Data.dict fs)) (foldl_insertKey_apart hapart)

/-! ## What a trip through JSON text does -/

/-- A value travels and arrives. -/
structure Arrives (d p : Data) : Prop where
  encodable : d.Encodable
  payload : PayloadOf d p
  json : p.IsJson

/-- The outcome of a trip of a value. -/
inductive Outcome (d : Data) : Except Fault Data → Prop where
  | arrived {p : Data} (h : Arrives d p) : Outcome d (.ok p)
  | refused {e : Fault} (h : ¬ d.Encodable) : Outcome d (.error e)

theorem canonicalItems_outcome {xs : List Data} (h : ∀ x ∈ xs, Outcome x x.canonical) :
    (∃ ys, canonicalItems xs = .ok ys ∧ List.Forall₂ Arrives xs ys) ∨ ∃ e, canonicalItems xs = .error e ∧ ∃ x ∈ xs, ¬ x.Encodable := by
  induction xs with
  | nil => exact .inl ⟨[], rfl, .nil⟩
  | cons x xs ih =>
    rw [canonicalItems]
    cases hx : x.canonical with
    | error e =>
      have hfirst := hx ▸ h x (.head _)
      cases hfirst with
      | refused hfirst => exact .inr ⟨e, rfl, x, .head _, hfirst⟩
    | ok y =>
      have hfirst := hx ▸ h x (.head _)
      cases hfirst with
      | arrived hfirst =>
        obtain ⟨ys, hys, hothers⟩ | ⟨e, he, x', hx', hother⟩ := ih fun x hx => h x (.tail _ hx)
        · exact .inl ⟨y :: ys, by rw [hys]; rfl, .cons hfirst hothers⟩
        · exact .inr ⟨e, by rw [he]; rfl, x', .tail _ hx', hother⟩

/-- Exactly the keys of JSON have a text. -/
theorem keyText_outcome {k : Data} (h : k.KeyWithinLimits) :
    (k.IsJsonKey ∧ ∃ name, Json.keyText k = .ok name) ∨ ¬ k.IsJsonKey ∧ ∃ e, Json.keyText k = .error e := by
  cases k with
  | int n => exact .inl ⟨trivial, _, intText_eq h⟩
  | str | float | bool | null => exact .inl ⟨trivial, _, rfl⟩
  | looseText => exact h.elim
  | _ => exact .inr ⟨id, _, rfl⟩

theorem canonicalEntries_outcome {es : List (Data × Data)} (hkeys : ∀ e ∈ es, e.1.KeyWithinLimits) (h : ∀ e ∈ es, Outcome e.2 e.2.canonical) :
    (∃ (names : List String) (fs : List (Data × Data)), canonicalEntries es = .ok fs ∧
      es.map (fun e => Json.keyText e.1) = names.map .ok ∧ fs.map Prod.fst = names.map .str ∧
      (∀ e ∈ es, e.1.IsJsonKey) ∧ List.Forall₂ (fun e f => Arrives e.2 f.2) es fs) ∨
    ∃ e, canonicalEntries es = .error e ∧ ∃ x ∈ es, ¬ (x.1.IsJsonKey ∧ x.2.Encodable) := by
  induction es with
  | nil => exact .inl ⟨[], [], rfl, rfl, rfl, by simp, .nil⟩
  | cons e es ih =>
    obtain ⟨k, v⟩ := e
    rw [canonicalEntries_cons (hkeys _ (.head _))]
    obtain ⟨hk, name, hname⟩ | ⟨hk, e, he⟩ := keyText_outcome (hkeys _ (.head _))
    · have hfirst : Outcome v v.canonical := h _ (.head _)
      rw [hname]
      cases hv : v.canonical with
      | error e =>
        rw [hv] at hfirst
        cases hfirst with
        | refused hfirst => exact .inr ⟨e, rfl, _, .head _, fun hboth => hfirst hboth.2⟩
      | ok p =>
        rw [hv] at hfirst
        cases hfirst with
        | arrived hfirst =>
          obtain ⟨names, fs, hfs, htexts, hfst, hjson, hothers⟩ | ⟨e, he, x, hx, hother⟩ :=
            ih (fun e he => hkeys e (.tail _ he)) fun e he => h e (.tail _ he)
          · refine .inl ⟨name :: names, (.str name, p) :: fs, by rw [hfs]; rfl, ?_, ?_, ?_, .cons hfirst hothers⟩
            · rw [List.map_cons, List.map_cons, hname, htexts]
            · rw [List.map_cons, List.map_cons, hfst]
            · exact List.forall_mem_cons.mpr ⟨hk, hjson⟩
          · exact .inr ⟨e, by rw [he]; rfl, x, .tail _ hx, hother⟩
    · exact .inr ⟨e, by rw [he]; rfl, _, .head _, fun hboth => hk hboth.1⟩

theorem arrives_list {xs ys : List Data} (h : List.Forall₂ Arrives xs ys) : Arrives (.list xs) (.list ys) ∧ Arrives (.tuple xs) (.list ys) := by
  have hitem : ∀ i (hi : i < xs.length) (hi' : i < ys.length), Arrives xs[i] ys[i] := (List.forall₂_iff_get.mp h).2
  have henc : ∀ x ∈ xs, x.Encodable := fun x hx => by
    obtain ⟨i, hi, rfl⟩ := List.getElem_of_mem hx
    exact (hitem i hi (h.length_eq ▸ hi)).encodable
  have hjson : (Data.list ys).IsJson := .list fun y hy => by
    obtain ⟨i, hi, rfl⟩ := List.getElem_of_mem hy
    exact (hitem i (h.length_eq ▸ hi) hi).json
  have hpayload : ∀ i (hi : i < xs.length) (hi' : i < ys.length), PayloadOf xs[i] ys[i] := fun i hi hi' => (hitem i hi hi').payload
  exact ⟨⟨.list henc, .list h.length_eq hpayload, hjson⟩, ⟨.tuple henc, .tuple h.length_eq hpayload, hjson⟩⟩

theorem arrives_dict {es fs : List (Data × Data)} {names : List String} (texts : es.map (fun e => Json.keyText e.1) = names.map .ok)
    (keys : fs.map Prod.fst = names.map .str) (hjson : ∀ e ∈ es, e.1.IsJsonKey) (h : List.Forall₂ (fun e f => Arrives e.2 f.2) es fs) :
    Arrives (.dict es) (.dict (fs.foldl (fun acc e => insertKey acc e.1 e.2) [])) := by
  obtain ⟨hplaces, hlast⟩ := foldl_insertKey_texts keys
  have hvalue : ∀ i (hi : i < es.length) (hi' : i < fs.length), Arrives es[i].2 fs[i].2 := (List.forall₂_iff_get.mp h).2
  refine ⟨.dict hjson fun e he => ?_, .dict texts hplaces fun j hj name hname hothers p hp => ?_, .dict hplaces (nodup_eraseDups names) fun e he => ?_⟩
  · obtain ⟨i, hi, rfl⟩ := List.getElem_of_mem he
    exact (hvalue i hi (h.length_eq ▸ hi)).encodable
  · have hj' : j < fs.length := h.length_eq ▸ hj
    obtain rfl : fs[j].2 = p := Option.some.inj ((hlast j hj' name hname hothers).symm.trans hp)
    exact (hvalue j hj hj').payload
  · obtain ⟨e', he', heq⟩ := mem_foldl_insertKey he
    obtain ⟨i, hi, rfl⟩ := List.getElem_of_mem (List.nil_append fs ▸ he')
    rw [heq]
    exact (hvalue i (h.length_eq ▸ hi) hi).json

/-- **A value arrives exactly when it is encodable.** -/
theorem WithinLimits.outcome {d : Data} (h : d.WithinLimits) : Outcome d d.canonical := by
  induction h with
  | @leaf d h =>
    cases d with
    | null => exact .arrived ⟨.null, .null, .null⟩
    | bool b => exact .arrived ⟨.bool b, .bool b, .bool b⟩
    | float x => exact .arrived ⟨.float x, .float x, .float x⟩
    | str s => exact .arrived ⟨.str s, .str s, .str s⟩
    | int | looseText | list | tuple | dict => cases h
    | _ => exact .refused fun henc => by cases henc
  | @int n h =>
    rw [canonical, intText_eq h]
    exact .arrived ⟨.int n, .int n, .int h⟩
  | @list xs items ih =>
    rw [canonical]
    obtain ⟨ys, hys, harrives⟩ | ⟨e, he, x, hx, hnot⟩ := canonicalItems_outcome ih
    · rw [hys]
      exact .arrived (arrives_list harrives).1
    · rw [he]
      refine .refused fun henc => ?_
      cases henc with
      | list items => exact hnot (items x hx)
  | @tuple xs items ih =>
    rw [canonical]
    obtain ⟨ys, hys, harrives⟩ | ⟨e, he, x, hx, hnot⟩ := canonicalItems_outcome ih
    · rw [hys]
      exact .arrived (arrives_list harrives).2
    · rw [he]
      refine .refused fun henc => ?_
      cases henc with
      | tuple items => exact hnot (items x hx)
  | @dict es keys values ih =>
    rw [canonical]
    obtain ⟨names, fs, hfs, htexts, hfst, hjson, harrives⟩ | ⟨e, he, x, hx, hnot⟩ := canonicalEntries_outcome keys ih
    · rw [hfs]
      exact .arrived (arrives_dict htexts hfst hjson harrives)
    · rw [he]
      refine .refused fun henc => ?_
      cases henc with
      | dict keys values => exact hnot ⟨keys x hx, values x hx⟩

theorem toPayload_of_ok {d p : Data} (hd : ∀ bs, d ≠ .bytes bs) (h : d.canonical = .ok p) : d.toPayload = .ok p := by
  rw [toPayload.eq_2 d hd, h]

/-- JSON data arrives as it is. -/
theorem IsJson.toPayload_eq {d : Data} (h : d.IsJson) : d.toPayload = .ok d :=
  toPayload_of_ok (by rintro bs rfl; cases h) h.canonical_eq

/-- **Payloads are a canonical form.** Byte strings travel unchanged. Any other value travels exactly when it is encodable; it arrives as
its payload, and a second trip changes nothing. JSON data arrives as it is. -/
theorem payload_canonical_form {d : Data} (h : d.WithinLimits) :
    (∀ bs, d = .bytes bs → d.toPayload = .ok d) ∧
    ((∀ bs, d ≠ .bytes bs) →
      (d.Encodable → ∃ p, d.toPayload = .ok p ∧ PayloadOf d p ∧ p.toPayload = .ok p) ∧
      (¬ d.Encodable → ∃ reason, d.toPayload = .error (.error .codec ("cannot encode " ++ d.typeName ++ ": " ++ reason)))) ∧
    (d.IsJson → d.toPayload = .ok d) := by
  refine ⟨fun bs hbs => hbs ▸ rfl, fun hd => ?_, IsJson.toPayload_eq⟩
  have houtcome := h.outcome
  cases hcanonical : d.canonical with
  | ok p =>
    rw [hcanonical] at houtcome
    cases houtcome with
    | arrived harrives =>
      exact ⟨fun _ => ⟨p, toPayload_of_ok hd hcanonical, harrives.payload, harrives.json.toPayload_eq⟩,
        fun hnot => absurd harrives.encodable hnot⟩
  | error e =>
    rw [hcanonical] at houtcome
    cases houtcome with
    | refused hnot =>
      refine ⟨fun henc => absurd henc hnot, fun _ => ⟨e.message, ?_⟩⟩
      rw [toPayload.eq_2 d hd, hcanonical]

/-- A dictionary whose two keys have the same text. -/
def sharedText : Data := .dict [(.null, .tuple [.bool true]), (.str "null", .str "last")]

example : sharedText.toPayload = .ok (.dict [(.str "null", .str "last")]) := rfl

theorem payload_canonical_form_of_sharedText : sharedText.WithinLimits ∧
    ∃ p, sharedText.toPayload = .ok p ∧ PayloadOf sharedText p ∧ p.toPayload = .ok p := by
  have hlimits : sharedText.WithinLimits :=
    .dict (List.forall_mem_cons.mpr ⟨trivial, List.forall_mem_singleton.mpr trivial⟩) (by simpa using ⟨.tuple (by simpa using .leaf rfl), .leaf rfl⟩)
  have hencodable : sharedText.Encodable := .dict (by simp [IsJsonKey]) (by simpa using ⟨.tuple (by simpa using .bool true), .str _⟩)
  exact ⟨hlimits, ((payload_canonical_form hlimits).2.1 fun _ => Data.noConfusion).1 hencodable⟩

/-! ## Failures -/

section Failures

variable {style : JsonStyle}

theorem map_unit_map {α β : Type} (x : Except Fault α) (f : α → β) : (x.map f).map (fun _ => ()) = x.map fun _ => () := by
  cases x <;> rfl

theorem map_unit_bind {α β γ δ : Type} {x : Except Fault α} {y : Except Fault β} {f : α → Except Fault γ} {g : β → Except Fault δ}
    (h : x.map (fun _ => ()) = y.map fun _ => ()) (hfg : ∀ a b, (f a).map (fun _ => ()) = (g b).map fun _ => ()) :
    (x >>= f).map (fun _ => ()) = (y >>= g).map fun _ => () := by
  cases x with
  | error e =>
    cases y with
    | error e' => exact congrArg Except.error (Except.error.inj h)
    | ok b => cases h
  | ok a =>
    cases y with
    | error e => cases h
    | ok b => exact hfg a b

mutual

/-- **The canonical form fails where writing the text fails, and in the same way.** -/
theorem writeAt_fails_as_canonical (hstyle : style.sortKeys = false) (depth : Nat) :
    ∀ d : Data, (Json.writeAt style depth d).map (fun _ => ()) = d.canonical.map fun _ => ()
  | .null | .bool _ | .float _ | .str _ | .looseText _ => rfl
  | .bytes _ | .span _ | .instant _ | .execution _ _ | .fault _ | .anything | .foreign _ _ => rfl
  | .int n => by
    rw [Json.writeAt, canonical]
    cases Json.intText n <;> rfl
  | .list xs => by
    rw [Json.writeAt, canonical, map_unit_map, ← writeItems_fails_as_canonical hstyle (depth + 1) xs]
    cases Json.writeItems style (depth + 1) xs <;> rfl
  | .tuple xs => by
    rw [Json.writeAt, canonical, map_unit_map, ← writeItems_fails_as_canonical hstyle (depth + 1) xs]
    cases Json.writeItems style (depth + 1) xs <;> rfl
  | .dict es => by
    rw [Json.writeAt, canonical, map_unit_map, ← members_fail_as_canonical hstyle (depth + 1) es, hstyle]
    cases hmembers : Json.members style (Json.writeEntries style (depth + 1) es) <;> simp [hmembers, Except.map, bind, Except.bind, pure, Except.pure]

theorem writeItems_fails_as_canonical (hstyle : style.sortKeys = false) (depth : Nat) :
    ∀ xs : List Data, (Json.writeItems style depth xs).map (fun _ => ()) = (canonicalItems xs).map fun _ => ()
  | [] => rfl
  | x :: xs => by
    have hfirst := writeAt_fails_as_canonical hstyle depth x
    have hothers := writeItems_fails_as_canonical hstyle depth xs
    rw [Json.writeItems, canonicalItems]
    exact map_unit_bind hfirst fun _ _ => map_unit_bind hothers fun _ _ => rfl

theorem members_fail_as_canonical (hstyle : style.sortKeys = false) (depth : Nat) :
    ∀ es : List (Data × Data),
      (Json.members style (Json.writeEntries style depth es)).map (fun _ => ()) = (canonicalEntries es).map fun _ => ()
  | [] => rfl
  | (k, x) :: es => by
    have hfirst := writeAt_fails_as_canonical hstyle depth x
    have hothers := members_fail_as_canonical hstyle depth es
    have hrest {name : String} {key : Data} :
        (do let value ← Json.writeAt style depth x
            let others ← Json.members style (Json.writeEntries style depth es)
            pure ((name ++ style.keySeparator ++ value) :: others) : Except Fault (List String)).map (fun _ => ()) =
          (do let value ← x.canonical
              let others ← canonicalEntries es
              pure ((key, value) :: others) : Except Fault (List (Data × Data))).map fun _ => () :=
      map_unit_bind hfirst fun _ _ => map_unit_bind hothers fun _ _ => rfl
    by_cases hk : ∃ cs, k = .looseText cs
    · obtain ⟨cs, rfl⟩ := hk
      exact hrest
    · rw [Json.writeEntries, Json.members.eq_3 _ _ _ _ fun cs h => hk ⟨cs, h⟩, canonicalEntries.eq_3 _ _ _ fun cs h => hk ⟨cs, h⟩]
      cases Json.keyText k with
      | error e => rfl
      | ok name => exact hrest

end

end Failures

end ScriptFlow.Data
