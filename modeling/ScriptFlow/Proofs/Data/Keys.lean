import Mathlib
import ScriptFlow.Proofs.Decimal.Comparison

/-!
# Keys of dictionaries

* `Data.IsKey` — numbers, truth values and texts: the keys that can be put in order.
* `Data.IsKey.same_comm` — which of two such keys comes first does not matter to their equality.
* `Data.foldl_insertKey_apart` — entries with keys apart are a dictionary in their order; `Data.length_foldl_insertKey_lt` — two entries
  with the same key leave fewer entries.
-/

namespace ScriptFlow

namespace Data

namespace Numeric

/-- The powers of two are hidden behind a function here, so that nothing computes them. -/
theorem mul_power_inj {power : Nat → Nat} {k : Nat} {a b : Int} (h : a * (power k : Nat) = b * (power k : Nat))
    (hp : ∀ i, power i = Nat.pow 2 i) : a = b := by
  rw [hp] at h
  have hpos : (0 : Int) < (Nat.pow 2 k : Nat) := Int.natCast_pos.mpr (Nat.two_pow_pos k)
  exact Int.eq_of_mul_eq_mul_right hpos.ne' h

theorem mul_power_lt {power : Nat → Nat} {k : Nat} {a b : Int} (hp : ∀ i, power i = Nat.pow 2 i) :
    a * (power k : Nat) < b * (power k : Nat) ↔ a < b := by
  rw [hp]
  have hpos : (0 : Int) < (Nat.pow 2 k : Nat) := Int.natCast_pos.mpr (Nat.two_pow_pos k)
  exact Int.mul_lt_mul_right hpos

theorem same_ofInt {a b : Int} : (ofInt a).same (ofInt b) = true ↔ a = b := by
  refine ⟨fun h => ?_, ?_⟩
  · exact mul_power_inj (same_finite.mp h) fun _ => rfl
  · rintro rfl
    exact same_finite.mpr rfl

theorem same_comm (a b : Numeric) : a.same b = b.same a := by
  cases a <;> cases b <;> simp [same, eq_comm]

theorem same_self {a : Numeric} (h : a ≠ nan) : a.same a = true := by
  cases a <;> simp_all [same]

theorem ofFloat_ne_nan {x : Float} (h : x.isNaN = false) : ofFloat x ≠ .nan := by
  have hb : Binary.ofFloat x ≠ .nan := of_decide_eq_false ((Binary.agrees_unpack x).isNaN.symm.trans h)
  unfold ofFloat
  cases hx : Binary.ofFloat x with
  | nan => exact absurd hx hb
  | infinite s => exact Numeric.noConfusion
  | finite s m e => exact Numeric.noConfusion

/-- Numbers in their order; a missing number has no place in it. -/
def height : Numeric → WithBot (WithTop ℤ)
  | nan | infinite true => ⊥
  | infinite false => (⊤ : WithTop ℤ)
  | finite n => (n : WithTop ℤ)

theorem less_eq {a b : Numeric} (ha : a ≠ nan) (hb : b ≠ nan) : a.less b = decide (a.height < b.height) := by
  have htop (n : ℤ) : ((n : WithTop ℤ) : WithBot (WithTop ℤ)) < (⊤ : WithTop ℤ) := WithBot.coe_lt_coe.mpr (WithTop.coe_lt_top n)
  cases a with
  | nan => exact absurd rfl ha
  | infinite s =>
    cases b with
    | nan => exact absurd rfl hb
    | infinite s' => cases s <;> cases s' <;> simp [less, height]
    | finite n => cases s <;> simp [less, height]
  | finite n =>
    cases b with
    | nan => exact absurd rfl hb
    | infinite s' =>
      cases s' with
      | false => exact (decide_eq_true (htop n)).symm
      | true => simp [less, height]
    | finite m => simp [less, height]

theorem height_ofInt_lt {a b : Int} : (ofInt a).height < (ofInt b).height ↔ a < b := by
  simp only [height, ofInt, WithBot.coe_lt_coe, WithTop.coe_lt_coe]
  exact mul_power_lt fun _ => rfl

end Numeric

/-! ## Keys outside of scripts -/

/-- Keys that can be put in order. -/
inductive IsKey : Data → Prop where
  | number {d : Data} {n : Numeric} (h : d.numeric? = some n) (hn : n ≠ .nan) : IsKey d
  | text (s : String) : IsKey (.str s)

theorem IsKey.isHashable {d : Data} (h : d.IsKey) : d.isHashable = true := by
  cases h with
  | number h => cases d <;> first | rfl | cases h
  | text s => rfl

theorem same_number {a b : Data} {m n : Numeric} (ha : a.numeric? = some m) (hb : b.numeric? = some n) : a.same b = m.same n := by
  cases a <;> cases ha <;> cases b <;> cases hb <;> rfl

theorem same_int {m n : Int} : (int m).same (.int n) = true ↔ m = n := Numeric.same_ofInt

theorem same_text (s t : String) : (str s).same (.str t) = decide (s = t) := by
  simp [same, sameLeaf, beq_eq_decide]

theorem same_text_number {a : Data} {m : Numeric} (ha : a.numeric? = some m) (s : String) :
    (str s).same a = false ∧ a.same (.str s) = false := by
  cases a <;> cases ha <;> exact ⟨rfl, rfl⟩

theorem IsKey.same_comm {a b : Data} (ha : a.IsKey) (hb : b.IsKey) : a.same b = b.same a := by
  cases ha with
  | number ha =>
    cases hb with
    | number hb => rw [same_number ha hb, same_number hb ha, Numeric.same_comm]
    | text t => rw [(same_text_number ha t).1, (same_text_number ha t).2]
  | text s =>
    cases hb with
    | number hb => rw [(same_text_number hb s).1, (same_text_number hb s).2]
    | text t => rw [same_text, same_text, decide_eq_decide.mpr eq_comm]

theorem IsKey.same_self {a : Data} (ha : a.IsKey) : a.same a = true := by
  cases ha with
  | number ha hn =>
    rw [same_number ha ha]
    exact Numeric.same_self hn
  | text s => rw [same_text, decide_eq_true rfl]

/-! ## Entries put into a dictionary -/

theorem insertKey_of_absent {acc : List (Data × Data)} {k v : Data} (h : ∀ e ∈ acc, e.1.same k = false) :
    insertKey acc k v = acc ++ [(k, v)] := by
  induction acc with
  | nil => rfl
  | cons first rest ih =>
    obtain ⟨k', v'⟩ := first
    have hfirst : k'.same k = false := h (k', v') (.head _)
    rw [insertKey, hfirst, ih fun e he => h e (.tail _ he)]
    rfl

/-- Entries with keys apart are put one behind the other. -/
theorem foldl_insertKey_apart {es acc : List (Data × Data)} (h : (acc ++ es).Pairwise fun a b => a.1.same b.1 = false) :
    es.foldl (fun acc e => insertKey acc e.1 e.2) acc = acc ++ es := by
  induction es generalizing acc with
  | nil => exact (List.append_nil acc).symm
  | cons e es ih =>
    have habsent : ∀ e' ∈ acc, e'.1.same e.1 = false := fun e' he' => (List.pairwise_append.mp h).2.2 e' he' e (.head _)
    have hsplit : acc ++ e :: es = acc ++ [e] ++ es := by simp
    rw [List.foldl_cons, insertKey_of_absent habsent, ih (hsplit ▸ h), hsplit]

theorem keys_insertKey_of_present {acc : List (Data × Data)} {k v : Data} (h : ∃ e ∈ acc, e.1.same k = true) :
    (insertKey acc k v).map Prod.fst = acc.map Prod.fst := by
  induction acc with
  | nil => simp at h
  | cons first rest ih =>
    obtain ⟨k', v'⟩ := first
    by_cases hk : k'.same k = true
    · simp [insertKey, hk]
    · have hrest : ∃ e ∈ rest, e.1.same k = true := by
        obtain ⟨e, he, hsame⟩ := h
        cases he with
        | head => exact absurd hsame hk
        | tail _ he => exact ⟨e, he, hsame⟩
      have hstep : insertKey ((k', v') :: rest) k v = (k', v') :: insertKey rest k v := by simp [insertKey, hk]
      rw [hstep]
      exact congrArg (k' :: ·) (ih hrest)

/-- Keys are kept, and one is added when it is not there. -/
theorem keys_insertKey (acc : List (Data × Data)) (k v : Data) :
    (∃ e ∈ acc, e.1.same k = true) ∧ (insertKey acc k v).map Prod.fst = acc.map Prod.fst ∨
      (∀ e ∈ acc, e.1.same k = false) ∧ (insertKey acc k v).map Prod.fst = acc.map Prod.fst ++ [k] := by
  by_cases h : ∃ e ∈ acc, e.1.same k = true
  · exact .inl ⟨h, keys_insertKey_of_present h⟩
  · have habsent : ∀ e ∈ acc, e.1.same k = false := fun e he => Bool.eq_false_iff.mpr fun hs => h ⟨e, he, hs⟩
    refine .inr ⟨habsent, ?_⟩
    rw [insertKey_of_absent habsent, List.map_append]
    rfl

theorem length_insertKey_le (acc : List (Data × Data)) (k v : Data) : (insertKey acc k v).length ≤ acc.length + 1 := by
  rw [← List.length_map Prod.fst]
  obtain ⟨-, hkeys⟩ | ⟨-, hkeys⟩ := keys_insertKey acc k v <;> simp [hkeys]

theorem length_foldl_insertKey_le (es acc : List (Data × Data)) :
    (es.foldl (fun acc e => insertKey acc e.1 e.2) acc).length ≤ acc.length + es.length := by
  induction es generalizing acc with
  | nil => simp
  | cons e es ih =>
    have hfirst := length_insertKey_le acc e.1 e.2
    have hothers := ih (insertKey acc e.1 e.2)
    simp only [List.foldl_cons, List.length_cons]
    omega

theorem length_foldl_insertKey_lt_of_present {es : List (Data × Data)} (acc : List (Data × Data))
    (h : ∃ k ∈ acc.map Prod.fst, ∃ e ∈ es, k.same e.1 = true) :
    (es.foldl (fun acc e => insertKey acc e.1 e.2) acc).length < acc.length + es.length := by
  induction es generalizing acc with
  | nil => simp at h
  | cons e es ih =>
    obtain ⟨k, hk, e', he', hsame⟩ := h
    simp only [List.foldl_cons, List.length_cons]
    cases he' with
    | head =>
      obtain ⟨e', he', rfl⟩ := List.mem_map.mp hk
      have hkeys := congrArg List.length (keys_insertKey_of_present (v := e.2) ⟨e', he', hsame⟩)
      have hothers := length_foldl_insertKey_le es (insertKey acc e.1 e.2)
      simp only [List.length_map] at hkeys
      omega
    | tail _ he' =>
      have hkept : k ∈ (insertKey acc e.1 e.2).map Prod.fst := by
        obtain ⟨-, hkeys⟩ | ⟨-, hkeys⟩ := keys_insertKey acc e.1 e.2 <;> simp [hkeys, hk]
      have hfirst := length_insertKey_le acc e.1 e.2
      have hothers := ih (insertKey acc e.1 e.2) ⟨k, hkept, e', he', hsame⟩
      omega

/-- Two entries with the same key leave fewer entries. -/
theorem length_foldl_insertKey_lt {es : List (Data × Data)} (acc : List (Data × Data))
    (h : ¬ es.Pairwise fun a b => a.1.same b.1 = false) :
    (es.foldl (fun acc e => insertKey acc e.1 e.2) acc).length < acc.length + es.length := by
  induction es generalizing acc with
  | nil => exact absurd .nil h
  | cons e es ih =>
    have hfirst := length_insertKey_le acc e.1 e.2
    simp only [List.foldl_cons, List.length_cons]
    by_cases hapart : ∀ e' ∈ es, e.1.same e'.1 = false
    · have hothers := ih (insertKey acc e.1 e.2) fun hes => h (List.pairwise_cons.mpr ⟨hapart, hes⟩)
      omega
    · obtain ⟨e', he', hsame⟩ : ∃ e' ∈ es, e.1.same e'.1 = true := by simpa using hapart
      obtain ⟨-, hkeys⟩ | ⟨-, hkeys⟩ := keys_insertKey acc e.1 e.2
      · have hothers := length_foldl_insertKey_le es (insertKey acc e.1 e.2)
        have hlength := congrArg List.length hkeys
        simp only [List.length_map] at hlength
        omega
      · have hothers := length_foldl_insertKey_lt_of_present (insertKey acc e.1 e.2) ⟨e.1, by simp [hkeys], e', he', hsame⟩
        omega

end Data

end ScriptFlow
