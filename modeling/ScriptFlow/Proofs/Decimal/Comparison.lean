import Mathlib
import ScriptFlow.Data.Basic

/-!
# Comparing floating-point numbers by their exact values

Plain data compares numbers as integers in units of the smallest positive number. Scripts compare them as the machine does, which orders them by exponent and then
by significand; in canonical form that is the order of the numbers they stand for.

* `Binary.Agrees` — a number taken apart here and in the floating-point model; `Binary.agrees_unpack` — both ways agree.
* `Binary.scaled_inj` — a value has one significand and one exponent.
* `beq_of_same` — **numbers that stand for the same value are equal to the machine**.
* `exactInt?_of_same` — a number that equals a whole number denotes it.
* `Binary.Canonical.compare_eq` — comparing exponents and then significands compares values; `decide_lt_eq_less` — **the machine orders numbers by their values**.
-/

namespace ScriptFlow

open Float.Model

theorem Data.Numeric.same_finite {a b : Int} : (Data.Numeric.finite a).same (.finite b) = true ↔ a = b := by
  simp [Data.Numeric.same]

namespace Binary

/-- The sign of a number, as the floating-point model has it. -/
def sign (negative : Bool) : UnpackedFloat.Sign := if negative then .negative else .positive

/-- A significand uses all its bits, unless the exponent is the least one. -/
structure Canonical (significand : Nat) (exponent : Int) : Prop where
  least : minExponent ≤ exponent
  fits : significand < 2 ^ 53
  full : minExponent < exponent → 2 ^ 52 ≤ significand

/-- The two ways to take a number apart agree. -/
inductive Agrees : Binary → UnpackedFloat → Prop where
  | nan : Agrees .nan .notANumber
  | infinite (negative : Bool) : Agrees (.infinite negative) (.infinity (sign negative))
  | zero (negative : Bool) : Agrees (.finite negative 0 minExponent) (.zero (sign negative))
  | finite (negative : Bool) {m : Nat} {e : Int} (h : Canonical m e) (hm : 0 < m) :
      Agrees (.finite negative m e) (.finite (sign negative) m e hm)

/-! ## Bits -/

theorem toNat_unpackMantissa (b : BitVec 64) : (@UnpackedFloat.unpackMantissa .binary64 b).toNat = b.toNat % 2 ^ 52 := by
  simp [UnpackedFloat.unpackMantissa]

theorem toNat_unpackExponent (b : BitVec 64) :
    (@UnpackedFloat.unpackExponent .binary64 b).toNat = b.toNat / 2 ^ 52 % 2 ^ 11 := by
  simp [UnpackedFloat.unpackExponent, Nat.shiftRight_eq_div_pow]

theorem ofBitVec_unpackSign (b : BitVec 64) :
    UnpackedFloat.Sign.ofBitVec (@UnpackedFloat.unpackSign .binary64 b) = sign (b.toNat / 2 ^ 63 == 1) := by
  have hlt := b.isLt
  have hbit : (@UnpackedFloat.unpackSign .binary64 b).toNat = b.toNat / 2 ^ 63 := by
    simp [UnpackedFloat.unpackSign, Nat.shiftRight_eq_div_pow]
    omega
  have hzero : @UnpackedFloat.unpackSign .binary64 b = 0#1 ↔ b.toNat / 2 ^ 63 = 0 := by
    rw [← BitVec.toNat_inj, hbit]
    rfl
  by_cases h : b.toNat / 2 ^ 63 = 0
  · rw [UnpackedFloat.Sign.ofBitVec, if_pos (hzero.mpr h), h]
    rfl
  · have hone : b.toNat / 2 ^ 63 = 1 := by omega
    rw [UnpackedFloat.Sign.ofBitVec, if_neg (mt hzero.mp h), hone]
    rfl

theorem unpackExponent_eq_iff (b : BitVec 64) (c : BitVec 11) :
    @UnpackedFloat.unpackExponent .binary64 b = c ↔ b.toNat / 2 ^ 52 % 2 ^ 11 = c.toNat := by
  rw [← BitVec.toNat_inj, toNat_unpackExponent]

theorem unpackMantissa_eq_zero_iff (b : BitVec 64) : @UnpackedFloat.unpackMantissa .binary64 b = 0#52 ↔ b.toNat % 2 ^ 52 = 0 := by
  rw [← BitVec.toNat_inj, toNat_unpackMantissa]
  rfl

/-- The leading bit of a normal number is not stored. -/
theorem toNat_append_unpackMantissa (b : BitVec 64) :
    (1#1 ++ @UnpackedFloat.unpackMantissa .binary64 b).toNat = 2 ^ 52 + b.toNat % 2 ^ 52 := by
  have hfraction : b.toNat % 2 ^ 52 < 2 ^ 52 := Nat.mod_lt _ (by decide)
  have hor := Nat.two_pow_add_eq_or_of_lt hfraction 1
  simp only [Nat.mul_one] at hor
  rw [BitVec.toNat_append, toNat_unpackMantissa, hor]
  rfl

theorem agrees_unpack (x : Float) : Agrees (ofFloat x) x.toModel.unpack := by
  have hbits : x.toBits.toNat = x.toModel.toBits.toBitVec.toNat := rfl
  have hfraction : x.toBits.toNat % 2 ^ 52 < 2 ^ 52 := Nat.mod_lt _ (by decide)
  have hspecial : @UnpackedFloat.unpackExponent .binary64 x.toModel.toBits.toBitVec = -1#11 ↔
      x.toBits.toNat / 2 ^ 52 % 2 ^ 11 = 2047 := unpackExponent_eq_iff _ _
  have hleast : @UnpackedFloat.unpackExponent .binary64 x.toModel.toBits.toBitVec = 0#11 ↔
      x.toBits.toNat / 2 ^ 52 % 2 ^ 11 = 0 := unpackExponent_eq_iff _ _
  have hnone : @UnpackedFloat.unpackMantissa .binary64 x.toModel.toBits.toBitVec = 0#52 ↔ x.toBits.toNat % 2 ^ 52 = 0 :=
    unpackMantissa_eq_zero_iff _
  have happend : (1#1 ++ @UnpackedFloat.unpackMantissa .binary64 x.toModel.toBits.toBitVec).toNat = 2 ^ 52 + x.toBits.toNat % 2 ^ 52 :=
    toNat_append_unpackMantissa _
  have hbias : ((x.toBits.toNat / 2 ^ 52 % 2 ^ 11 : Nat) : Int) - ((Format.exponentBias .binary64 : Nat) + (52 : Nat)) =
      (x.toBits.toNat / 2 ^ 52 % 2 ^ 11 : Nat) - 1075 := rfl
  unfold Float.Model.unpack UnpackedFloat.unpack ofFloat
  simp only [ofBitVec_unpackSign, ← hbits, hspecial, hleast, hnone, toNat_unpackExponent, toNat_unpackMantissa, happend, hbias,
    beq_iff_eq, Nat.pow_eq]
  by_cases h : x.toBits.toNat / 2 ^ 52 % 2 ^ 11 = 2047
  · by_cases hf : x.toBits.toNat % 2 ^ 52 = 0
    · simp only [if_pos h, if_pos hf]
      exact .infinite _
    · simp only [if_pos h, if_neg hf]
      exact .nan
  · by_cases h0 : x.toBits.toNat / 2 ^ 52 % 2 ^ 11 = 0
    · by_cases hf : x.toBits.toNat % 2 ^ 52 = 0
      · simp only [if_neg h, if_pos h0, hf]
        exact .zero _
      · simp only [dif_neg hf, h0]
        exact .finite _ ⟨Int.le_refl _, by omega, fun hlt => absurd hlt (Int.lt_irrefl _)⟩ _
    · simp only [if_neg h, if_neg h0]
      refine .finite _ ⟨?_, by omega, fun _ => Nat.le_add_right _ _⟩ _
      unfold minExponent
      omega

/-! ## Values -/

theorem Canonical.not_lt {m m' : Nat} {e e' : Int} (h : Canonical m e) (h' : Canonical m' e')
    (hv : m * 2 ^ (e - minExponent).toNat = m' * 2 ^ (e' - minExponent).toNat) : ¬ e < e' := by
  intro hlt
  obtain ⟨n, hn⟩ : ∃ n, (e' - minExponent).toNat = n + 1 + (e - minExponent).toNat :=
    ⟨(e' - minExponent).toNat - (e - minExponent).toNat - 1, by have := h.least; omega⟩
  rw [hn, Nat.pow_add, ← Nat.mul_assoc, Nat.pow_succ] at hv
  have hm : m = m' * (2 ^ n * 2) := Nat.eq_of_mul_eq_mul_right (Nat.two_pow_pos _) hv
  have hfull := h'.full (Int.lt_of_le_of_lt h.least hlt)
  have hfits := h.fits
  have hpos : 1 ≤ 2 ^ n := Nat.one_le_two_pow
  have hle : m' * (1 * 2) ≤ m := hm ▸ Nat.mul_le_mul_left m' (Nat.mul_le_mul_right 2 hpos)
  omega

/-- A value has one canonical form. -/
theorem Canonical.eq {m m' : Nat} {e e' : Int} (h : Canonical m e) (h' : Canonical m' e')
    (hv : m * 2 ^ (e - minExponent).toNat = m' * 2 ^ (e' - minExponent).toNat) : m = m' ∧ e = e' := by
  obtain rfl : e = e' := by
    have hle := h.not_lt h' hv
    have hge := h'.not_lt h hv.symm
    omega
  exact ⟨Nat.eq_of_mul_eq_mul_right (Nat.two_pow_pos _) hv, rfl⟩

theorem scaled_false (m : Nat) (e : Int) : scaled false m e = (m * 2 ^ (e - minExponent).toNat : Nat) := Int.one_mul _

theorem scaled_true (m : Nat) (e : Int) : scaled true m e = -(m * 2 ^ (e - minExponent).toNat : Nat) := Int.neg_one_mul _

/-- Numbers in units of the smallest one are equal only when the numbers are. -/
theorem scaled_inj {s s' : Bool} {m m' : Nat} {e e' : Int} (h : Canonical m e) (h' : Canonical m' e') (hm : 0 < m)
    (hv : scaled s m e = scaled s' m' e') : s = s' ∧ m = m' ∧ e = e' := by
  have hpos : 0 < m * 2 ^ (e - minExponent).toNat := Nat.mul_pos hm (Nat.two_pow_pos _)
  cases s with
  | false =>
    cases s' with
    | false =>
      rw [scaled_false, scaled_false] at hv
      exact ⟨rfl, h.eq h' (Int.ofNat.inj hv)⟩
    | true =>
      rw [scaled_false, scaled_true] at hv
      omega
  | true =>
    cases s' with
    | false =>
      rw [scaled_false, scaled_true] at hv
      omega
    | true =>
      rw [scaled_true, scaled_true] at hv
      exact ⟨rfl, h.eq h' (Int.ofNat.inj (Int.neg_inj.mp hv))⟩

theorem scaled_eq_zero {s : Bool} {m : Nat} {e : Int} : scaled s m e = 0 ↔ m = 0 := by
  have hpos := Nat.two_pow_pos (e - minExponent).toNat
  cases s <;> simp only [scaled_false, scaled_true, Int.neg_eq_zero, Int.natCast_eq_zero, Nat.mul_eq_zero] <;> omega

theorem Agrees.isNaN {b : Binary} {u : UnpackedFloat} (h : Agrees b u) : u.isNaN = decide (b = .nan) := by
  cases h <;> rfl

/-- The number that a number taken apart stands for. -/
def number : Binary → Data.Numeric
  | .nan => .nan
  | .infinite s => .infinite s
  | .finite s m e => .finite (scaled s m e)

/-- The same number is equal in the floating-point model. -/
theorem Agrees.beq {b b' : Binary} {u u' : UnpackedFloat} (h : Agrees b u) (h' : Agrees b' u') (hs : b.number.same b'.number = true) :
    u.beq u' = true := by
  cases h with
  | nan => cases hs
  | infinite s =>
    cases h' with
    | nan => cases hs
    | infinite s' => cases s <;> cases s' <;> first | rfl | cases hs
    | zero s' => cases hs
    | finite s' => cases hs
  | zero s =>
    cases h' with
    | nan => cases hs
    | infinite s' => cases hs
    | zero s' => rfl
    | finite s' _ hm' =>
      have hv := Data.Numeric.same_finite.mp hs
      rw [scaled_eq_zero.mpr rfl] at hv
      exact absurd (scaled_eq_zero.mp hv.symm) hm'.ne'
  | finite s hc hm =>
    cases h' with
    | nan => cases hs
    | infinite s' => cases hs
    | zero s' =>
      have hv := Data.Numeric.same_finite.mp hs
      rw [scaled_eq_zero.mpr (rfl : 0 = 0)] at hv
      exact absurd (scaled_eq_zero.mp hv) hm.ne'
    | finite s' hc' hm' =>
      obtain ⟨rfl, rfl, rfl⟩ := scaled_inj hc hc' hm (Data.Numeric.same_finite.mp hs)
      cases s <;> simp [UnpackedFloat.beq, UnpackedFloat.compare, sign]

theorem natAbs_signOf_mul (s : Bool) (m : Nat) : (signOf s * (m : Int)).natAbs = m := by
  cases s <;> simp [signOf]

/-- A value that is a whole number denotes that number. -/
theorem toInt?_of_scaled {s : Bool} {m k : Nat} {e n : Int} (hk : (k : Int) = -minExponent) (he : minExponent ≤ e)
    (h : scaled s m e = n * (Nat.pow 2 k : Nat)) : toInt? s m e = some n := by
  have hunits : signOf s * (m * 2 ^ (e - minExponent).toNat : Nat) = n * (2 ^ k : Nat) := h
  unfold toInt?
  split
  · rename_i hnonneg
    have hexp : (e - minExponent).toNat = e.toNat + k := by omega
    rw [hexp, Nat.pow_add, ← Nat.mul_assoc, Int.natCast_mul, ← Int.mul_assoc] at hunits
    exact congrArg some (Int.eq_of_mul_eq_mul_right (by positivity) hunits)
  · rename_i hneg
    have hexp : k = (-e).toNat + (e - minExponent).toNat := by omega
    rw [hexp, Nat.pow_add, Int.natCast_mul, Int.natCast_mul, ← Int.mul_assoc, ← Int.mul_assoc] at hunits
    have hm : signOf s * (m : Int) = n * (2 ^ (-e).toNat : Nat) := Int.eq_of_mul_eq_mul_right (by positivity) hunits
    have habs : m = n.natAbs * 2 ^ (-e).toNat := by
      rw [← natAbs_signOf_mul s m, hm, Int.natAbs_mul, Int.natAbs_natCast]
    have hn : signOf s * (n.natAbs : Int) = n := by
      rw [habs, Int.natCast_mul, ← Int.mul_assoc] at hm
      exact Int.eq_of_mul_eq_mul_right (by positivity) hm
    have hwhole : m % 2 ^ (-e).toNat = 0 := by
      rw [habs]
      exact Nat.mul_mod_left _ _
    have hquotient : m / 2 ^ (-e).toNat = n.natAbs := by
      rw [habs]
      exact Nat.mul_div_cancel _ (Nat.two_pow_pos _)
    simp only [Nat.pow_eq, hwhole, beq_self_eq_true, if_true, hquotient, hn]

/-- The whole number that a number taken apart denotes. -/
def whole? : Binary → Option Int
  | .finite s m e => toInt? s m e
  | _ => none

/-- The powers of two are hidden behind a function here, so that nothing computes the greatest of them. -/
theorem Agrees.whole? {b : Binary} {u : UnpackedFloat} (h : Agrees b u) {power : Nat → Nat} {k : Nat} {n : Int}
    (hs : b.number.same (.finite (n * (power k : Nat))) = true) (hk : (k : Int) = -minExponent) (hp : ∀ i, power i = Nat.pow 2 i) :
    b.whole? = some n := by
  rw [hp] at hs
  cases h with
  | nan => cases hs
  | infinite s => cases hs
  | zero s => exact toInt?_of_scaled hk (Int.le_refl _) (Data.Numeric.same_finite.mp hs)
  | finite s hc hm => exact toInt?_of_scaled hk hc.least (Data.Numeric.same_finite.mp hs)

end Binary

/-- **Floating-point numbers that stand for the same value are equal.** -/
theorem beq_of_same {x y : Float} (h : (Data.Numeric.ofFloat x).same (.ofFloat y) = true) : (x == y) = true :=
  (Binary.agrees_unpack x).beq (Binary.agrees_unpack y) h

/-- A floating-point number that stands for a whole number denotes it. -/
theorem exactInt?_of_same {x : Float} {n : Int} (h : (Data.Numeric.ofFloat x).same (.ofInt n) = true) : Float.exactInt? x = some n :=
  (Binary.agrees_unpack x).whole? h rfl fun _ => rfl

/-! ## Order -/

namespace Binary

theorem Canonical.lt_of_lt {m m' : Nat} {e e' : Int} (h : Canonical m e) (h' : Canonical m' e') (he : e < e') :
    m * 2 ^ (e - minExponent).toNat < m' * 2 ^ (e' - minExponent).toNat := by
  obtain ⟨n, hn⟩ : ∃ n, (e' - minExponent).toNat = n + 1 + (e - minExponent).toNat :=
    ⟨(e' - minExponent).toNat - (e - minExponent).toNat - 1, by have := h.least; omega⟩
  rw [hn, Nat.pow_add, ← Nat.mul_assoc]
  refine Nat.mul_lt_mul_of_pos_right ?_ (Nat.two_pow_pos _)
  have hfull := h'.full (Int.lt_of_le_of_lt h.least he)
  have hfits := h.fits
  calc m < 2 ^ 52 * 2 ^ 1 := by omega
    _ ≤ m' * 2 ^ (n + 1) := Nat.mul_le_mul hfull (Nat.pow_le_pow_right (by decide) (by omega))

/-- Exponents first, then significands. -/
theorem Canonical.compare_eq {m m' : Nat} {e e' : Int} (h : Canonical m e) (h' : Canonical m' e') :
    (compare e e').then (compare m m') = compare (m * 2 ^ (e - minExponent).toNat) (m' * 2 ^ (e' - minExponent).toNat) := by
  rcases lt_trichotomy e e' with he | rfl | he
  · rw [compare_lt_iff_lt.mpr he, compare_lt_iff_lt.mpr (h.lt_of_lt h' he)]
    rfl
  · rw [compare_eq_iff_eq.mpr rfl]
    have hpos := Nat.two_pow_pos (e - minExponent).toNat
    rcases lt_trichotomy m m' with hm | rfl | hm
    · rw [compare_lt_iff_lt.mpr hm, compare_lt_iff_lt.mpr (Nat.mul_lt_mul_of_pos_right hm hpos)]
      rfl
    · rw [compare_eq_iff_eq.mpr rfl, compare_eq_iff_eq.mpr rfl]
      rfl
    · rw [compare_gt_iff_gt.mpr hm, compare_gt_iff_gt.mpr (Nat.mul_lt_mul_of_pos_right hm hpos)]
      rfl
  · rw [compare_gt_iff_gt.mpr he, compare_gt_iff_gt.mpr (h'.lt_of_lt h he)]
    rfl

theorem some_beq_lt (a b : Nat) : (some (compare a b) == some .lt) = decide (a < b) := by
  rw [Bool.eq_iff_iff, beq_iff_eq, Option.some_inj, decide_eq_true_iff, compare_lt_iff_lt]

theorem scaled_pos {m : Nat} (hm : 0 < m) (e : Int) : 0 < scaled false m e := by
  rw [scaled_false]
  exact Int.natCast_pos.mpr (Nat.mul_pos hm (Nat.two_pow_pos _))

theorem scaled_neg {m : Nat} (hm : 0 < m) (e : Int) : scaled true m e < 0 := by
  rw [scaled_true, Int.neg_lt_zero_iff]
  exact Int.natCast_pos.mpr (Nat.mul_pos hm (Nat.two_pow_pos _))

/-- The order of the floating-point model is that of the numbers. -/
theorem Agrees.lt {b b' : Binary} {u u' : UnpackedFloat} (h : Agrees b u) (h' : Agrees b' u') : u.lt u' = b.number.less b'.number := by
  have hzero (s : Bool) : scaled s 0 minExponent = 0 := scaled_eq_zero.mpr rfl
  unfold UnpackedFloat.lt
  cases h with
  | nan => cases h' <;> rfl
  | infinite s =>
    cases h' with
    | nan => cases s <;> rfl
    | infinite s' => cases s <;> cases s' <;> rfl
    | zero s' => cases s <;> rfl
    | finite s' => cases s <;> rfl
  | zero s =>
    cases h' with
    | nan => rfl
    | infinite s' => cases s' <;> rfl
    | zero s' => simp [UnpackedFloat.compare, number, Data.Numeric.less, hzero]
    | @finite s' m' e' hc' hm' =>
      have hp := scaled_pos hm' e'
      have hn := scaled_neg hm' e'
      cases s' <;> simp [UnpackedFloat.compare, number, Data.Numeric.less, hzero, sign, hp, hn.not_gt]
  | @finite s m e hc hm =>
    have hp := scaled_pos hm e
    have hn := scaled_neg hm e
    cases h' with
    | nan => cases s <;> rfl
    | infinite s' => cases s <;> cases s' <;> rfl
    | zero s' => cases s <;> simp [UnpackedFloat.compare, number, Data.Numeric.less, hzero, sign, hn, hp.not_gt]
    | @finite s' m' e' hc' hm' =>
      have hp' := scaled_pos hm' e'
      have hn' := scaled_neg hm' e'
      cases s with
      | false =>
        cases s' with
        | false =>
          change (some ((compare e e').then (compare m m')) == some .lt) = decide (scaled false m e < scaled false m' e')
          rw [hc.compare_eq hc', scaled_false, scaled_false, some_beq_lt]
          exact decide_eq_decide.mpr Int.ofNat_lt.symm
        | true => simp [UnpackedFloat.compare, number, Data.Numeric.less, sign, (hn'.trans hp).not_gt]
      | true =>
        cases s' with
        | false => simp [UnpackedFloat.compare, number, Data.Numeric.less, sign, hn.trans hp']
        | true => 
          change (some ((compare e e').then (compare m m')).swap == some .lt) = decide (scaled true m e < scaled true m' e')
          rw [hc.compare_eq hc', scaled_true, scaled_true, Nat.compare_swap, some_beq_lt]
          exact decide_eq_decide.mpr (Int.neg_lt_neg_iff.trans Int.ofNat_lt).symm

end Binary

theorem Binary.number_ofFloat (x : Float) : (Binary.ofFloat x).number = Data.Numeric.ofFloat x := by
  unfold Data.Numeric.ofFloat
  cases Binary.ofFloat x <;> rfl

/-- **The machine orders floating-point numbers by their exact values.** -/
theorem decide_lt_eq_less (x y : Float) : decide (x < y) = (Data.Numeric.ofFloat x).less (.ofFloat y) := by
  rw [← Binary.number_ofFloat, ← Binary.number_ofFloat, ← (Binary.agrees_unpack x).lt (Binary.agrees_unpack y)]
  rw [Bool.eq_iff_iff, decide_eq_true_iff]
  exact (decide_eq_true_iff : decide (x.toModel < y.toModel) = true ↔ x.toModel < y.toModel)

end ScriptFlow
