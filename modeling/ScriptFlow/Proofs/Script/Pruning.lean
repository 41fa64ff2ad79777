import Mathlib
import ScriptFlow.Proofs.Script.RoundTrip
import ScriptFlow.Script.Environment

/-!
# JSON data in scripts

* `Data.FitsScript` — JSON data whose whole numbers have 64 bits.
* `Data.prune` — what is left of it when absent values leave no entry: an empty object is an empty list, and a list with holes an object with
  positions as keys.
* `Data.Reordered` — equality up to the order of entries; `Data.Full` — data without holes.
* `Data.json_through_scripts` — **a trip into a script and back prunes**: it changes nothing but the order of entries exactly when there is nothing
  to prune, and a second trip changes nothing at all.
-/

namespace ScriptFlow.Data

open Script

/-! ## Pruning -/

/-- JSON data that scripts can hold. No list is longer than its positions reach. -/
inductive FitsScript : Data → Prop where
  | null : FitsScript .null
  | bool (b : Bool) : FitsScript (.bool b)
  | int {n : Int} (h : -2 ^ 63 ≤ n ∧ n < 2 ^ 63) : FitsScript (.int n)
  | float (x : Float) : FitsScript (.float x)
  | str (t : String) : FitsScript (.str t)
  | list {xs : List Data} (short : xs.length < 2 ^ 63) (items : ∀ x ∈ xs, FitsScript x) : FitsScript (.list xs)
  | dict {es : List (Data × Data)} (keys : ∀ e ∈ es, ∃ t, e.1 = .str t) (apart : (es.map Prod.fst).Nodup)
      (values : ∀ e ∈ es, FitsScript e.2) : FitsScript (.dict es)

def isNull : Data → Bool
  | .null => true
  | _ => false

/-- Nothing but absent items stand behind the first absent item. -/
def nullsTrail (xs : List Data) : Bool := (xs.dropWhile fun x => !x.isNull).all isNull

mutual

/-- Data without its absent values. -/
def prune : Data → Data
  | .list xs =>
    let es := pruneItems 1 xs
    if nullsTrail xs then .list (es.map Prod.snd) else .dict es
  | .dict es =>
    match pruneEntries es with
    | [] => .list []
    | es => .dict es
  | d => d

/-- The items that are there, under their positions. -/
def pruneItems (i : Nat) : List Data → List (Data × Data)
  | [] => []
  | x :: xs => if x.isNull then pruneItems (i + 1) xs else (.int i, prune x) :: pruneItems (i + 1) xs

/-- The entries that are there. -/
def pruneEntries : List (Data × Data) → List (Data × Data)
  | [] => []
  | (k, x) :: es => if x.isNull then pruneEntries es else (k, prune x) :: pruneEntries es

end

mutual

/-- Data with the entries of dictionaries in order. -/
def arrange : Data → Data
  | .list xs => .list (arrangeItems xs)
  | .dict es => .dict ((arrangeEntries es).mergeSort fun a b => !Store.keyBefore b.1 a.1)
  | d => d

def arrangeItems : List Data → List Data
  | [] => []
  | x :: xs => arrange x :: arrangeItems xs

def arrangeEntries : List (Data × Data) → List (Data × Data)
  | [] => []
  | (k, x) :: es => (k, arrange x) :: arrangeEntries es

end

/-- Equality up to the order of entries, at any depth. -/
inductive Reordered : Data → Data → Prop where
  | refl (d : Data) : Reordered d d
  | list {xs ys : List Data} (length : xs.length = ys.length) (items : ∀ i (h : i < xs.length) (h' : i < ys.length), Reordered xs[i] ys[i]) :
      Reordered (.list xs) (.list ys)
  | dict {es fs gs : List (Data × Data)} (keys : es.map Prod.fst = fs.map Prod.fst)
      (values : ∀ i (h : i < es.length) (h' : i < fs.length), Reordered es[i].2 fs[i].2) (perm : fs.Perm gs) : Reordered (.dict es) (.dict gs)

/-- Data with nothing to prune. -/
inductive Full : Data → Prop where
  | null : Full .null
  | bool (b : Bool) : Full (.bool b)
  | int (n : Int) : Full (.int n)
  | float (x : Float) : Full (.float x)
  | str (t : String) : Full (.str t)
  | list {xs : List Data} (present : ∀ x ∈ xs, x ≠ .null) (items : ∀ x ∈ xs, Full x) : Full (.list xs)
  | dict {es : List (Data × Data)} (entry : es ≠ []) (present : ∀ e ∈ es, e.2 ≠ .null) (values : ∀ e ∈ es, Full e.2) : Full (.dict es)

/-! ## Entries that are there -/

theorem isNull_iff {d : Data} : d.isNull = true ↔ d = .null := by
  cases d <;> simp [isNull]

/-- The entries with a value. -/
def present (es : List (Data × Data)) : List (Data × Data) := es.filter fun e => !e.2.isNull

theorem mem_present {es : List (Data × Data)} {e : Data × Data} : e ∈ present es ↔ e ∈ es ∧ e.2 ≠ .null := by
  rw [present, List.mem_filter, Bool.not_eq_true', ← Bool.not_eq_true, isNull_iff]

theorem present_eq_self {es : List (Data × Data)} (h : ∀ e ∈ es, e.2 ≠ .null) : present es = es :=
  List.filter_eq_self.mpr fun e he => (List.mem_filter.mp (mem_present.mpr ⟨he, h e he⟩)).2

/-- When as many entries are there as before, all are. -/
theorem ne_null_of_length (es : List (Data × Data)) (h : (present es).length = es.length) : ∀ e ∈ es, e.2 ≠ .null := fun e he => by
  have hall := List.length_filter_eq_length_iff.mp h e he
  exact fun hnull => by simp [hnull, isNull] at hall

theorem pruneEntries_eq (es : List (Data × Data)) : pruneEntries es = (present es).map fun e => (e.1, e.2.prune) := by
  induction es with
  | nil => rfl
  | cons e es ih =>
    obtain ⟨k, x⟩ := e
    cases hx : x.isNull <;> simp [pruneEntries, present, hx, ih]

theorem pruneItems_eq (i : Nat) (xs : List Data) : pruneItems i xs = pruneEntries (numbered i xs) := by
  induction xs generalizing i with
  | nil => rfl
  | cons x xs ih => rw [pruneItems, numbered, pruneEntries, ih]

theorem carryEntries_eq (es : List (Data × Data)) : carryEntries es = (present es).map fun e => (e.1, e.2.carry) := by
  induction es with
  | nil => rfl
  | cons e es ih =>
    obtain ⟨k, x⟩ := e
    cases x <;> simp [carryEntries, present, isNull, ih]

theorem arrangeItems_eq (xs : List Data) : arrangeItems xs = xs.map arrange := by
  induction xs with
  | nil => rfl
  | cons x xs ih => rw [arrangeItems, ih, List.map_cons]

theorem arrangeEntries_eq (es : List (Data × Data)) : arrangeEntries es = es.map fun e => (e.1, e.2.arrange) := by
  induction es with
  | nil => rfl
  | cons e es ih =>
    obtain ⟨k, x⟩ := e
    rw [arrangeEntries, ih, List.map_cons]

theorem FitsScript.carried {d : Data} (h : d.FitsScript) : d.Carried := by
  induction h with
  | null => exact .null
  | bool b => exact .bool b
  | int h => exact .int h
  | float x => exact .float x
  | str t => exact .str t
  | list short _ ih => exact .list short ih
  | dict keys apart _ ih =>
    refine .dict (fun e he => ?_) apart ih
    obtain ⟨t, ht⟩ := keys e he
    exact ht ▸ .str t

/-- What a trip keeps of entries is what pruning keeps of them. -/
theorem carryEntries_eq_arrange {es : List (Data × Data)} (h : ∀ e ∈ es, e.2.carry = e.2.prune.arrange) :
    carryEntries es = (pruneEntries es).map fun e => (e.1, e.2.arrange) := by
  rw [carryEntries_eq, pruneEntries_eq, List.map_map]
  exact List.map_congr_left fun e he => by simp [h e (mem_present.mp he).1]

/-! ## A trip prunes -/

theorem numbered_pairwise (i : Nat) (xs : List Data) : (numbered i xs).Pairwise fun a b => a.1.rank ≤ b.1.rank := by
  induction xs generalizing i with
  | nil => exact .nil
  | cons x xs ih =>
    refine List.pairwise_cons.mpr ⟨fun e he => ?_, ih (i + 1)⟩
    obtain ⟨⟨j, hij, -, hkey⟩, -⟩ := mem_numbered he
    rw [hkey]
    exact le_of_lt (rank_int_lt.mpr (by omega))

theorem gathered_nil : gathered [] = .list [] := by
  simp [gathered, Store.arePositions, sameItems]

/-- Entries in order are gathered as they are. -/
theorem gathered_of_sorted {es : List (Data × Data)} (hkeys : ∀ e ∈ es, e.1.IsKey) (h : es.Pairwise fun a b => a.1.rank ≤ b.1.rank) :
    gathered es = if Store.arePositions (es.map Prod.fst) then .list (es.map Prod.snd) else .dict es := by
  rw [gathered, mergeSort_of_sorted (k := Prod.fst) hkeys h]

theorem mem_pruneItems {i : Nat} {xs : List Data} {e : Data × Data} (h : e ∈ pruneItems i xs) :
    ∃ j : Nat, i ≤ j ∧ j < i + xs.length ∧ e.1 = .int j := by
  rw [pruneItems_eq, pruneEntries_eq] at h
  obtain ⟨e', he', rfl⟩ := List.mem_map.mp h
  exact (mem_numbered (mem_present.mp he').1).1

theorem pruneItems_eq_nil {i : Nat} {xs : List Data} : pruneItems i xs = [] ↔ xs.all isNull = true := by
  induction xs generalizing i with
  | nil => simp [pruneItems]
  | cons x xs ih => cases hx : x.isNull <;> simp [pruneItems, hx, ih]

/-- The items that are there stand at `i, i + 1, …` exactly when the absent ones stand behind them. -/
theorem pruneItems_positions (i : Nat) (xs : List Data) :
    (∀ j (h : j < (pruneItems i xs).length), (pruneItems i xs)[j].1 = .int (i + j : Nat)) ↔ nullsTrail xs = true := by
  induction xs generalizing i with
  | nil => simp [pruneItems, nullsTrail]
  | cons x xs ih =>
    cases hx : x.isNull with
    | true =>
      have hitems : pruneItems i (x :: xs) = pruneItems (i + 1) xs := by simp [pruneItems, hx]
      have htrail : nullsTrail (x :: xs) = xs.all isNull := by simp [nullsTrail, hx]
      rw [hitems, htrail, ← pruneItems_eq_nil (i := i + 1)]
      constructor
      · intro h
        by_contra hne
        have hlt : 0 < (pruneItems (i + 1) xs).length := List.length_pos_iff.mpr hne
        obtain ⟨j, hj, -, hkey⟩ := mem_pruneItems (List.getElem_mem hlt)
        have hij : (j : Int) = (i + 0 : Nat) := Data.int.inj (hkey.symm.trans (h 0 hlt))
        omega
      · intro hnil j h
        simp [hnil] at h
    | false =>
      have hitems : pruneItems i (x :: xs) = (.int i, prune x) :: pruneItems (i + 1) xs := by simp [pruneItems, hx]
      have htrail : nullsTrail (x :: xs) = nullsTrail xs := by simp [nullsTrail, hx]
      rw [htrail, ← ih (i + 1)]
      constructor
      · intro h j hj
        have hnext := h (j + 1) (by rw [hitems]; simpa using hj)
        simp only [hitems, List.getElem_cons_succ] at hnext
        rw [hnext]
        congr 2
        omega
      · intro h j hj
        simp only [hitems, List.length_cons] at hj
        simp only [hitems]
        cases j with
        | zero => rfl
        | succ j =>
          rw [List.getElem_cons_succ, h j (by omega)]
          congr 2
          omega

theorem arePositions_pruneItems (xs : List Data) : Store.arePositions ((pruneItems 1 xs).map Prod.fst) = nullsTrail xs := by
  rw [Bool.eq_iff_iff, ← pruneItems_positions 1 xs, Store.arePositions_iff]
  simp only [List.length_map, List.getElem_map]
  refine forall₂_congr fun j hj => ?_
  obtain ⟨m, -, -, hkey⟩ := mem_pruneItems (List.getElem_mem hj)
  rw [hkey, same_int, Nat.add_comm 1 j, Data.int.injEq]

theorem isKey_pruneItems {xs : List Data} : ∀ e ∈ pruneItems 1 xs, e.1.IsKey := fun e he => by
  obtain ⟨j, -, -, hkey⟩ := mem_pruneItems he
  rw [hkey]
  exact .number rfl Numeric.noConfusion

theorem pruneItems_sorted (xs : List Data) : (pruneItems 1 xs).Pairwise fun a b => a.1.rank ≤ b.1.rank := by
  rw [pruneItems_eq, pruneEntries_eq]
  exact List.pairwise_map.mpr ((numbered_pairwise 1 xs).sublist List.filter_sublist)

/-- **What tables keep of JSON data is what pruning keeps of it.** -/
theorem FitsScript.carry_eq {d : Data} (h : d.FitsScript) : d.carry = d.prune.arrange := by
  induction h with
  | null | bool | int | float | str => rfl
  | @list xs short items ih =>
    have hcarry : carryItems 1 xs = (pruneItems 1 xs).map fun e => (e.1, e.2.arrange) := by
      rw [carryItems_eq, pruneItems_eq]
      exact carryEntries_eq_arrange fun e he => ih e.2 (mem_numbered he).2
    have hkeys : ∀ e ∈ carryItems 1 xs, e.1.IsKey := by
      intro e he
      rw [hcarry] at he
      obtain ⟨e', he', rfl⟩ := List.mem_map.mp he
      exact isKey_pruneItems e' he'
    have hsorted : (carryItems 1 xs).Pairwise fun a b => a.1.rank ≤ b.1.rank := by
      rw [hcarry]
      exact List.pairwise_map.mpr (pruneItems_sorted xs)
    have hfst : (carryItems 1 xs).map Prod.fst = (pruneItems 1 xs).map Prod.fst := by
      rw [hcarry, List.map_map]
      rfl
    rw [carry, gathered_of_sorted hkeys hsorted, hfst, arePositions_pruneItems, prune]
    split
    · rw [arrange, arrangeItems_eq, hcarry, List.map_map, List.map_map]
      rfl
    · rw [arrange, arrangeEntries_eq, ← hcarry, mergeSort_of_sorted (k := Prod.fst) hkeys hsorted]
  | @dict es keys apart values ih =>
    have hcarry := carryEntries_eq_arrange ih
    rw [carry, prune]
    split
    · rename_i hnone
      rw [hcarry, hnone]
      exact gathered_nil
    · rename_i hsome
      have htexts : ∀ k ∈ ((carryEntries es).mergeSort fun a b => !Store.keyBefore b.1 a.1).map Prod.fst, ∃ t, k = .str t := by
        intro k hk
        have hk := ((List.mergeSort_perm _ _).map Prod.fst).mem_iff.mp hk
        obtain ⟨e, he, rfl⟩ := List.mem_map.mp ((keys_carryEntries es).subset hk)
        exact keys e he
      have hne : ((carryEntries es).mergeSort fun a b => !Store.keyBefore b.1 a.1).map Prod.fst ≠ [] := by
        rw [hcarry]
        intro hnil
        have hlength := congrArg List.length hnil
        simp at hlength
        exact hsome hlength
      rw [gathered, Store.not_arePositions_of_text htexts hne, arrange, arrangeEntries_eq, ← hcarry]
      rfl

/-! ## A second trip -/

/-- Data that a trip leaves as it is. -/
structure Settled (d : Data) : Prop where
  carried : d.Carried
  carry_eq : d.carry = d
  ne_null : d ≠ .null

theorem carryEntries_of_settled {es : List (Data × Data)} (h : ∀ e ∈ es, e.2.Settled) : carryEntries es = es := by
  rw [carryEntries_eq, present_eq_self fun e he => (h e he).ne_null]
  have hsame : es.map (fun e => (e.1, e.2.carry)) = es.map id := List.map_congr_left fun e he => by
    rw [(h e he).carry_eq]
    rfl
  rw [hsame, List.map_id]

theorem numbered_snd (i : Nat) (xs : List Data) : (numbered i xs).map Prod.snd = xs := by
  induction xs generalizing i with
  | nil => rfl
  | cons x xs ih => rw [numbered, List.map_cons, ih]

theorem numbered_getElem {i : Nat} {xs : List Data} {j : Nat} (h : j < (numbered i xs).length) : (numbered i xs)[j].1 = .int (i + j : Nat) := by
  induction xs generalizing i j with
  | nil => simp [numbered] at h
  | cons x xs ih =>
    cases j with
    | zero => rfl
    | succ j =>
      have hj : j < (numbered (i + 1) xs).length := by simpa [numbered] using h
      have hnext := ih hj
      simp only [numbered, List.getElem_cons_succ, hnext]
      congr 2
      omega

theorem arePositions_numbered (xs : List Data) : Store.arePositions ((numbered 1 xs).map Prod.fst) = true := by
  refine Store.arePositions_iff.mpr fun j hj => ?_
  rw [List.getElem_map, numbered_getElem, same_int, Nat.add_comm]

/-- No more positions are keys than fit into 64 bits. -/
theorem length_lt_of_arePositions {ks : List Data} (hkeys : ∀ k ∈ ks, k.IsTableKey) (h : Store.arePositions ks = true) : ks.length < 2 ^ 63 := by
  by_contra hlong
  have hlast : 2 ^ 63 - 1 < ks.length := by omega
  have hsame := Store.arePositions_iff.mp h _ hlast
  have hkey := hkeys _ (List.getElem_mem hlast)
  generalize ks[2 ^ 63 - 1] = k at hsame hkey
  cases hkey with
  | int hn =>
    have heq := same_int.mp hsame
    omega
  | str t =>
    rw [(same_text_number (a := .int _) rfl t).1] at hsame
    cases hsame

theorem settled_list {xs : List Data} (short : xs.length < 2 ^ 63) (h : ∀ x ∈ xs, x.Settled) : (Data.list xs).Settled where
  carried := .list short fun x hx => (h x hx).carried
  carry_eq := by
    have hkeys : ∀ e ∈ numbered 1 xs, e.1.IsKey := fun e he => (isTableKey_numbered short e he).isKey
    rw [carry, carryItems_eq, carryEntries_of_settled fun e he => h e.2 (mem_numbered he).2,
      gathered_of_sorted hkeys (numbered_pairwise 1 xs), arePositions_numbered, numbered_snd]
    rfl
  ne_null := Data.noConfusion

/-- What settled entries gather is settled. -/
theorem settled_gathered {es : List (Data × Data)} (keys : ∀ e ∈ es, e.1.IsTableKey) (apart : (es.map Prod.fst).Nodup)
    (h : ∀ e ∈ es, e.2.Settled) : (gathered es).Settled := by
  have hperm := es.mergeSort_perm fun a b => !Store.keyBefore b.1 a.1
  have hsorted := sorted_mergeSort (k := Prod.fst) fun e he => (keys e he).isKey
  rw [gathered]
  generalize (es.mergeSort fun a b => !Store.keyBefore b.1 a.1) = sorted at hperm hsorted
  have hkeys : ∀ e ∈ sorted, e.1.IsTableKey := fun e he => keys e (hperm.mem_iff.mp he)
  have hvalues : ∀ e ∈ sorted, e.2.Settled := fun e he => h e (hperm.mem_iff.mp he)
  split
  · rename_i hpos
    refine settled_list ?_ fun x hx => ?_
    · simpa using length_lt_of_arePositions (by simpa using fun k x he => hkeys (k, x) he) hpos
    · obtain ⟨e, he, rfl⟩ := List.mem_map.mp hx
      exact hvalues e he
  · rename_i hpos
    refine ⟨.dict hkeys ((hperm.map Prod.fst).nodup_iff.mpr apart) fun e he => (hvalues e he).carried, ?_, Data.noConfusion⟩
    rw [carry, carryEntries_of_settled hvalues, gathered_of_sorted (fun e he => (hkeys e he).isKey) hsorted, if_neg hpos]

/-- **After one trip another one changes nothing.** -/
theorem Carried.settled {d : Data} (h : d.Carried) (hne : d ≠ .null) : d.carry.Settled := by
  have hentries {es : List (Data × Data)} (keys : ∀ e ∈ es, e.1.IsTableKey) (apart : (es.map Prod.fst).Nodup)
      (ih : ∀ e ∈ es, e.2 ≠ .null → e.2.carry.Settled) : (gathered (carryEntries es)).Settled := by
    have hsub := keys_carryEntries es
    refine settled_gathered (fun e he => ?_) (apart.sublist hsub) fun e he => ?_
    · obtain ⟨e', he', hkey⟩ := List.mem_map.mp (hsub.subset (List.mem_map_of_mem he))
      exact hkey ▸ keys e' he'
    · rw [carryEntries_eq] at he
      obtain ⟨e', he', rfl⟩ := List.mem_map.mp he
      exact ih e' (mem_present.mp he').1 (mem_present.mp he').2
  induction h with
  | null => exact absurd rfl hne
  | bool b => exact ⟨.bool b, rfl, hne⟩
  | int h => exact ⟨.int h, rfl, hne⟩
  | float x => exact ⟨.float x, rfl, hne⟩
  | str t => exact ⟨.str t, rfl, hne⟩
  | @list xs short items ih =>
    rw [carry, carryItems_eq]
    exact hentries (isTableKey_numbered short) (nodup_numbered 1 xs) fun e he => ih e.2 (mem_numbered he).2
  | @dict es keys apart values ih =>
    rw [carry]
    exact hentries keys apart ih

/-! ## Up to the order of entries -/

/-- Putting entries in order changes nothing else. -/
theorem reordered_arrange : ∀ d : Data, Reordered d d.arrange
  | .list xs => by
    rw [arrange, arrangeItems_eq]
    refine .list (by simp) fun i h h' => ?_
    rw [List.getElem_map]
    exact reordered_arrange xs[i]
  | .dict es => by
    rw [arrange]
    refine @Reordered.dict es (arrangeEntries es) _ ?_ (fun i h h' => ?_) (List.mergeSort_perm _ _).symm
    · rw [arrangeEntries_eq, List.map_map]
      rfl
    · simp only [arrangeEntries_eq, List.getElem_map]
      exact reordered_arrange es[i].2
  | .null | .bool _ | .int _ | .float _ | .str _ | .looseText _ | .bytes _ | .tuple _ | .span _ | .instant _ | .execution _ _ | .fault _
  | .anything | .foreign _ _ => .refl _
termination_by d => sizeOf d
decreasing_by
  · have hlt := List.sizeOf_lt_of_mem (List.getElem_mem h)
    simp only [Data.list.sizeOf_spec]
    omega
  · have hlt := List.sizeOf_lt_of_mem (List.getElem_mem h)
    have hsnd : sizeOf es[i].2 < sizeOf es[i] := by
      cases es[i]
      simp
    simp only [Data.dict.sizeOf_spec]
    omega

theorem Reordered.of_list {xs : List Data} {w : Data} (h : Reordered (.list xs) w) : ∃ ys : List Data, w = .list ys ∧ xs.length = ys.length ∧
    ∀ i (_ : i < xs.length) (_ : i < ys.length), Reordered xs[i] ys[i] := by
  cases h with
  | refl => exact ⟨xs, rfl, rfl, fun _ _ _ => .refl _⟩
  | list length items => exact ⟨_, rfl, length, items⟩

theorem Reordered.of_dict {es : List (Data × Data)} {w : Data} (h : Reordered (.dict es) w) : ∃ fs gs : List (Data × Data), w = .dict gs ∧
    es.map Prod.fst = fs.map Prod.fst ∧ (∀ i (_ : i < es.length) (_ : i < fs.length), Reordered es[i].2 fs[i].2) ∧ fs.Perm gs := by
  cases h with
  | refl => exact ⟨es, es, rfl, rfl, fun _ _ _ => .refl _, .refl _⟩
  | dict keys values perm => exact ⟨_, _, rfl, keys, values, perm⟩

theorem pruneEntries_of_full {es : List (Data × Data)} (present : ∀ e ∈ es, e.2 ≠ .null) (h : ∀ e ∈ es, e.2.prune = e.2) :
    pruneEntries es = es := by
  have hsame : es.map (fun e => (e.1, e.2.prune)) = es.map id := List.map_congr_left fun e he => by
    rw [h e he]
    rfl
  rw [pruneEntries_eq, present_eq_self present, hsame, List.map_id]

theorem Full.prune_eq {d : Data} (h : d.Full) : d.prune = d := by
  induction h with
  | null | bool | int | float | str => rfl
  | @list xs present items ih =>
    have hitems (i : Nat) : pruneItems i xs = numbered i xs := by
      rw [pruneItems_eq]
      exact pruneEntries_of_full (fun e he => present e.2 (mem_numbered he).2) fun e he => ih e.2 (mem_numbered he).2
    have htrail : nullsTrail xs = true := (pruneItems_positions 1 xs).mp fun j hj => by
      simp only [hitems]
      exact numbered_getElem (hitems 1 ▸ hj)
    rw [prune, htrail, hitems, numbered_snd]
    rfl
  | @dict es entry present values ih =>
    rw [prune, pruneEntries_of_full present ih]
    split
    · contradiction
    · rfl

/-- A list that keeps its length has nothing to prune itself. -/
theorem items_of_length {xs ys : List Data} (hlength : xs.length = ys.length)
    (hys : (Data.list ((pruneItems 1 xs).map Prod.snd)).arrange = .list ys) :
    (∀ x ∈ xs, x ≠ .null) ∧ ys = xs.map fun x => x.prune.arrange := by
  have hpresent : ys = (present (numbered 1 xs)).map fun e => e.2.prune.arrange := by
    rw [arrange, arrangeItems_eq, pruneItems_eq, pruneEntries_eq, List.map_map, List.map_map] at hys
    exact (Data.list.inj hys).symm
  have hnumbered : (numbered 1 xs).length = xs.length := by
    simpa using congrArg List.length (numbered_snd 1 xs)
  have hall := ne_null_of_length (numbered 1 xs) (by rw [hnumbered, hlength, hpresent, List.length_map])
  constructor
  · intro x hx
    rw [← numbered_snd 1 xs] at hx
    obtain ⟨e, he, rfl⟩ := List.mem_map.mp hx
    exact hall e he
  · rw [hpresent, present_eq_self hall]
    conv_rhs => rw [← numbered_snd 1 xs, List.map_map]
    rfl

/-- Entries that keep their keys have nothing to prune themselves. -/
theorem entries_of_keys {es fs gs : List (Data × Data)} (apart : (es.map Prod.fst).Nodup) (hkeys : es.map Prod.fst = fs.map Prod.fst)
    (hperm : fs.Perm gs) (hgs : (Data.dict (pruneEntries es)).arrange = .dict gs) :
    (∀ e ∈ es, e.2 ≠ .null) ∧ ∀ i (_ : i < es.length) (_ : i < fs.length), fs[i].2 = es[i].2.prune.arrange := by
  have hpruned : fs.Perm ((present es).map fun e => (e.1, e.2.prune.arrange)) := by
    rw [arrange, arrangeEntries_eq, pruneEntries_eq, List.map_map] at hgs
    exact hperm.trans (Data.dict.inj hgs ▸ List.mergeSort_perm _ _)
  have hlength : es.length = fs.length := by simpa using congrArg List.length hkeys
  refine ⟨ne_null_of_length es (by rw [hlength, hpruned.length_eq, List.length_map]), fun i hi hi' => ?_⟩
  obtain ⟨e, he, hentry⟩ := List.mem_map.mp (hpruned.mem_iff.mp (List.getElem_mem hi'))
  have hkey : e.1 = es[i].1 := by
    have hget := congrArg (·[i]?) hkeys
    simp only [List.getElem?_map, List.getElem?_eq_getElem hi, List.getElem?_eq_getElem hi', Option.map_some, Option.some.injEq] at hget
    rw [hget, ← hentry]
  obtain rfl := List.inj_on_of_nodup_map apart (mem_present.mp he).1 (List.getElem_mem hi) hkey
  rw [← hentry]

/-- **There is nothing to prune exactly when pruning changes nothing but the order of entries.** -/
theorem FitsScript.reordered_iff {d : Data} (h : d.FitsScript) : Reordered d d.prune.arrange ↔ d.Full := by
  refine ⟨fun hre => ?_, fun hfull => hfull.prune_eq.symm ▸ reordered_arrange d⟩
  induction h with
  | null => exact .null
  | bool b => exact .bool b
  | int => exact .int _
  | float x => exact .float x
  | str t => exact .str t
  | @list xs short items ih =>
    obtain ⟨ys, hys, hlength, hitems⟩ := hre.of_list
    rw [prune] at hys
    split at hys
    · obtain ⟨hpresent, rfl⟩ := items_of_length hlength hys
      refine .list hpresent fun x hx => ih x hx ?_
      obtain ⟨i, hi, rfl⟩ := List.getElem_of_mem hx
      simpa using hitems i hi (hlength ▸ hi)
    · rw [arrange] at hys
      cases hys
  | @dict es keys apart values ih =>
    obtain ⟨fs, gs, hgs, hkeys, hvalues, hperm⟩ := hre.of_dict
    rw [prune] at hgs
    split at hgs
    · rw [arrange] at hgs
      cases hgs
    · rename_i hsome
      obtain ⟨hpresent, hpruned⟩ := entries_of_keys apart hkeys hperm hgs
      have hlength : es.length = fs.length := by simpa using congrArg List.length hkeys
      refine .dict (fun hnil => hsome (by rw [hnil]; rfl)) hpresent fun e he => ih e he ?_
      obtain ⟨i, hi, rfl⟩ := List.getElem_of_mem he
      exact hpruned i hi (hlength ▸ hi) ▸ hvalues i hi (hlength ▸ hi)

/-! ## Trips -/

theorem Carried.throughScript_eq {d : Data} (h : d.Carried) : throughScript d = .ok d.carry := by
  have htrip := h.trip {}
  cases h with
  | list | dict => exact htrip
  | _ => rfl

/-- **A trip into a script and back prunes JSON data.** It keeps it, up to the order of entries, exactly when there is nothing to prune, and a second
trip changes nothing. -/
theorem json_through_scripts {d : Data} (h : d.FitsScript) : ∃ w, (∀ s : Store, s.trip d = .ok w ∧ s.trip w = .ok w) ∧
    throughScript d = .ok w ∧ Reordered d.prune w ∧ (Reordered d w ↔ d.Full) := by
  have hagain (s : Store) : s.trip d.carry = .ok d.carry := by
    by_cases hnull : d = .null
    · subst hnull
      rfl
    · have hsettled := h.carried.settled hnull
      rw [hsettled.carried.trip, hsettled.carry_eq]
  refine ⟨d.carry, fun s => ⟨h.carried.trip s, hagain s⟩, h.carried.throughScript_eq, ?_, ?_⟩
  · rw [h.carry_eq]
    exact reordered_arrange _
  · rw [h.carry_eq]
    exact h.reordered_iff

/-- An object with a list with a hole, an absent value and an empty object. -/
def holes : Data := .dict [(.str "b", .list [.int 1, .null, .int 2, .null]), (.str "a", .null), (.str "c", .dict [])]

example : holes.prune = .dict [(.str "b", .dict [(.int 1, .int 1), (.int 3, .int 2)]), (.str "c", .list [])] := rfl

theorem json_through_scripts_of_holes : holes.FitsScript ∧ ∃ w, (∀ s : Store, s.trip holes = .ok w ∧ s.trip w = .ok w) ∧
    throughScript holes = .ok w ∧ Reordered holes.prune w ∧ (Reordered holes w ↔ holes.Full) := by
  have hlist : (Data.list [.int 1, .null, .int 2, .null]).FitsScript :=
    .list (by decide) (by simpa using ⟨FitsScript.int (by decide), FitsScript.null, FitsScript.int (by decide), FitsScript.null⟩)
  have hempty : (Data.dict []).FitsScript := .dict (by simp) .nil (by simp)
  have hfits : holes.FitsScript := .dict (by simp) (by simp) (by simpa using ⟨hlist, FitsScript.null, hempty⟩)
  exact ⟨hfits, json_through_scripts hfits⟩

end ScriptFlow.Data
