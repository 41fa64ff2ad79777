import Mathlib
import ScriptFlow.Decimal.Read
import ScriptFlow.Proofs.Decimal.Rounding

/-!
# Digits that read back

The shortest digits of a number are searched on ever finer decimal grids. Any digits that are found lie between the ends of what rounds to the number, and
with seventeen of them the grid is so fine that its nearest point does.

* `Numeral.value` — the number that digits and an exponent stand for.
* `Numeral.contains_interval_iff` — the search accepts what rounds to the number.
* `Numeral.rounds_shortest` — **the shortest digits of a number round to it**.
* `Numeral.toFloat_eq` — **digits are read as the number they round to**.
-/

namespace ScriptFlow

open Binary

namespace Numeral

/-- The number that digits and an exponent stand for. -/
def value (n : Numeral) : ℚ := n.digits * 10 ^ n.exponent

/-! ## Lengths -/

theorem length_pos (n : Nat) : 0 < length n := Nat.length_toDigits_pos

theorem lt_pow_length (n : Nat) : n < 10 ^ length n :=
  (Nat.length_toDigits_le_iff (by decide) (length_pos n)).mp (Nat.le_refl _)

theorem pow_length_le {n : Nat} (hn : 0 < n) : 10 ^ (length n - 1) ≤ n := by
  by_cases hone : length n = 1
  · rw [hone]
    exact hn
  · refine Nat.le_of_not_lt fun hlt => ?_
    have hpos := length_pos n
    have hle : length n ≤ length n - 1 := (Nat.length_toDigits_le_iff (by decide) (by omega)).mpr hlt
    omega

/-- Decimal digits are not more than binary ones. -/
theorem length_le_log2 {n : Nat} (hn : 0 < n) : length n ≤ n.log2 + 1 := by
  have hpow : 2 ^ (length n - 1) < 2 ^ (n.log2 + 1) :=
    calc 2 ^ (length n - 1) ≤ 10 ^ (length n - 1) := Nat.pow_le_pow_left (by decide) _
      _ ≤ n := pow_length_le hn
      _ < 2 ^ (n.log2 + 1) := Nat.lt_log2_self
  have hlt := (Nat.pow_lt_pow_iff_right (by decide)).mp hpow
  omega

/-! ## Powers of ten -/

theorem ten_zpow_of_nonneg {e : Int} (he : 0 ≤ e) : (10 : ℚ) ^ e = 10 ^ e.toNat := by rw [← zpow_natCast, Int.toNat_of_nonneg he]

theorem ten_zpow_of_neg {e : Int} (he : ¬ 0 ≤ e) : (10 : ℚ) ^ e = (10 ^ (-e).toNat)⁻¹ := by
  rw [← zpow_natCast, Int.toNat_of_nonneg (by omega), zpow_neg, inv_inv]

/-! ## Decimal grids -/

/-- The grid is scaled to whole numbers. -/
theorem shiftTen_spec (num : Nat) {den : Nat} (hden : 0 < den) (e : Int) : 0 < (shiftTen num den e).2 ∧
    ((shiftTen num den e).1 : ℚ) / (shiftTen num den e).2 = num / den / 10 ^ e := by
  unfold shiftTen
  split
  · next he =>
    refine ⟨Nat.mul_pos hden (Nat.pow_pos (by decide)), ?_⟩
    rw [ten_zpow_of_nonneg he, div_div, Nat.pow_eq]
    push_cast
    rfl
  · next he =>
    refine ⟨hden, ?_⟩
    rw [ten_zpow_of_neg he, div_inv_eq_mul, div_mul_eq_mul_div, Nat.pow_eq]
    push_cast
    rfl

/-- A power of ten that a fraction reaches. -/
theorem pow_magnitude_le {num den : Nat} (hnum : 0 < num) (hden : 0 < den) : (10 : ℚ) ^ magnitude num den ≤ num / den := by
  have hd : (0 : ℚ) < den := by exact_mod_cast hden
  have hn : (0 : ℚ) < num := by exact_mod_cast hnum
  unfold magnitude
  split
  · next hle =>
    have hquotient : 0 < num / den := Nat.div_pos hle hden
    have hpos := length_pos (num / den)
    have hexponent : (length (num / den) : Int) - 1 = (length (num / den) - 1 : Nat) := by omega
    rw [hexponent, zpow_natCast, le_div_iff₀ hd]
    have hpow : 10 ^ (length (num / den) - 1) * den ≤ num :=
      Nat.le_trans (Nat.mul_le_mul_right _ (pow_length_le hquotient)) (Nat.div_mul_le_self _ _)
    exact_mod_cast hpow
  · rw [zero_sub, zpow_neg, zpow_natCast, inv_le_comm₀ (by positivity) (by positivity), inv_div, div_le_iff₀ hn]
    have hceil : den ≤ 10 ^ length ((den + num - 1) / num - 1) * num := by
      have hlt := lt_pow_length ((den + num - 1) / num - 1)
      have hdiv := Nat.div_add_mod (den + num - 1) num
      have hmod := Nat.mod_lt (den + num - 1) hnum
      have hround : den ≤ (den + num - 1) / num * num := by
        rw [Nat.mul_comm] at hdiv
        omega
      exact Nat.le_trans hround (Nat.mul_le_mul_right _ (by omega))
    exact_mod_cast hceil

/-! ## Intervals -/

section Interval

variable {m : Nat} {q : Int} (hm : 0 < m)

theorem interval_den_pos (m : Nat) (q : Int) : 0 < (interval m q).den := Nat.two_pow_pos _

/-- The units of an interval. -/
theorem interval_unit (m : Nat) (q : Int) : ((Nat.pow 2 (q - 2).toNat : Nat) : ℚ) = 2 ^ q / 4 * (interval m q).den := by
  have hexponent : ((q - 2).toNat : Int) = q - 2 + (2 - q).toNat := by omega
  change ((2 ^ (q - 2).toNat : Nat) : ℚ) = 2 ^ q / 4 * ((2 ^ (2 - q).toNat : Nat) : ℚ)
  push_cast
  rw [← zpow_natCast, ← zpow_natCast, hexponent, zpow_add₀ two_ne_zero, zpow_sub₀ two_ne_zero]
  norm_num

theorem interval_value (m : Nat) (q : Int) : ((interval m q).value : ℚ) = m * 2 ^ q * (interval m q).den := by
  change ((4 * m * Nat.pow 2 (q - 2).toNat : Nat) : ℚ) = _
  rw [Nat.cast_mul, interval_unit m]
  push_cast
  ring

theorem interval_high (m : Nat) (q : Int) : ((interval m q).high : ℚ) = (m + 1 / 2) * 2 ^ q * (interval m q).den := by
  change (((4 * m + 2) * Nat.pow 2 (q - 2).toNat : Nat) : ℚ) = _
  rw [Nat.cast_mul, interval_unit m]
  push_cast
  ring

include hm

theorem interval_low : ((interval m q).low : ℚ) = lowEnd m q * 2 ^ q * (interval m q).den := by
  change (((if m == Nat.pow 2 52 && q != minExponent then 4 * m - 1 else 4 * m - 2) * Nat.pow 2 (q - 2).toNat : Nat) : ℚ) = _
  rw [Nat.cast_mul, interval_unit m]
  have hlow : ((if m == Nat.pow 2 52 && q != minExponent then 4 * m - 1 else 4 * m - 2 : Nat) : ℚ) = 4 * lowEnd m q := by
    unfold lowEnd
    by_cases hpower : m = 2 ^ 52 ∧ q ≠ minExponent
    · rw [if_pos hpower, if_pos (by simpa using hpower), Nat.cast_sub (by omega)]
      push_cast
      ring
    · rw [if_neg hpower, if_neg (by simpa using hpower), Nat.cast_sub (by omega)]
      push_cast
      ring
  rw [hlow]
  ring

omit hm in
/-- What the search compares, over a common denominator. -/
theorem contains_eq (i : Interval) (c : Nat) (e : Int) : ∃ p s : Nat, 0 < s ∧ (p : ℚ) = c * 10 ^ e * i.den * s ∧
    i.contains c e = if i.closed then decide (i.low * s ≤ p) && decide (p ≤ i.high * s) else decide (i.low * s < p) && decide (p < i.high * s) := by
  by_cases he : 0 ≤ e
  · refine ⟨c * 10 ^ e.toNat * i.den, 1, one_pos, ?_, ?_⟩
    · rw [ten_zpow_of_nonneg he]
      push_cast
      ring
    · unfold Interval.contains
      rw [if_pos he]
      rfl
  · refine ⟨c * i.den, 10 ^ (-e).toNat, Nat.pow_pos (by decide), ?_, ?_⟩
    · rw [ten_zpow_of_neg he]
      push_cast
      field_simp
    · unfold Interval.contains
      rw [if_neg he]
      rfl

/-- **The search accepts what rounds to the number.** -/
theorem contains_interval_iff (c : Nat) (e : Int) : (interval m q).contains c e = true ↔ RoundsTo (c * 10 ^ e) m q := by
  obtain ⟨p, s, hs, hp, hcontains⟩ := contains_eq (interval m q) c e
  have hunit : (0 : ℚ) < 2 ^ q * (interval m q).den * s := by
    have hden : (0 : ℚ) < (interval m q).den := by exact_mod_cast interval_den_pos m q
    have hs : (0 : ℚ) < s := by exact_mod_cast hs
    positivity
  -- both sides in units of the last place
  have hvalue : (p : ℚ) = c * 10 ^ e / 2 ^ q * (2 ^ q * (interval m q).den * s) := by
    rw [hp]
    field_simp
  have hlow : (((interval m q).low * s : Nat) : ℚ) = lowEnd m q * (2 ^ q * (interval m q).den * s) := by
    rw [Nat.cast_mul, interval_low hm]
    ring
  have hhigh : (((interval m q).high * s : Nat) : ℚ) = (m + 1 / 2) * (2 ^ q * (interval m q).den * s) := by
    rw [Nat.cast_mul, interval_high]
    ring
  have hlt {a b : Nat} {x y : ℚ} (ha : (a : ℚ) = x * (2 ^ q * (interval m q).den * s)) (hb : (b : ℚ) = y * (2 ^ q * (interval m q).den * s)) :
      a < b ↔ x < y := by
    rw [← Nat.cast_lt (α := ℚ), ha, hb, mul_lt_mul_iff_left₀ hunit]
  have hle {a b : Nat} {x y : ℚ} (ha : (a : ℚ) = x * (2 ^ q * (interval m q).den * s)) (hb : (b : ℚ) = y * (2 ^ q * (interval m q).den * s)) :
      a ≤ b ↔ x ≤ y := by
    rw [← Nat.cast_le (α := ℚ), ha, hb, mul_le_mul_iff_left₀ hunit]
  have hclosed : (interval m q).closed = true ↔ Even m := beq_iff_eq.trans Nat.even_iff.symm
  rw [hcontains]
  by_cases heven : Even m
  · rw [if_pos (hclosed.mpr heven), Bool.and_eq_true, decide_eq_true_iff, decide_eq_true_iff, hle hlow hvalue, hle hvalue hhigh]
    constructor
    · rintro ⟨hl, hh⟩
      exact ⟨hl.lt_or_eq.imp id fun h => ⟨heven, h.symm⟩, hh.lt_or_eq.imp id fun h => ⟨heven, h⟩⟩
    · intro h
      exact ⟨h.low.elim le_of_lt fun h => h.2.ge, h.high.elim le_of_lt fun h => h.2.le⟩
  · rw [if_neg (mt hclosed.mp heven), Bool.and_eq_true, decide_eq_true_iff, decide_eq_true_iff, hlt hlow hvalue, hlt hvalue hhigh]
    constructor
    · rintro ⟨hl, hh⟩
      exact ⟨.inl hl, .inl hh⟩
    · intro h
      exact ⟨h.low.resolve_right fun h => heven h.1, h.high.resolve_right fun h => heven h.1⟩

/-- Digits that are found round to the number. -/
theorem rounds_nearest? {e : Int} {c : Nat} (h : (interval m q).nearest? e = some c) : RoundsTo (c * 10 ^ e) m q := by
  rw [← contains_interval_iff hm]
  unfold Interval.nearest? at h
  dsimp only at h
  split at h
  · next hin =>
    cases h
    exact hin
  split at h
  · next hin =>
    cases h
    exact hin
  split at h
  · next hin =>
    cases h
    exact hin
  · cases h

variable {k : Int} (hc : Canonical m q) (hk : (10 : ℚ) ^ k ≤ m * 2 ^ q)

include hc hk

/-- On a grid with seventeen digits something is found: its nearest point is close enough. -/
theorem nearest?_isSome : ((interval m q).nearest? (k - 16)).isSome = true := by
  obtain ⟨hden, hshift⟩ := shiftTen_spec (interval m q).value (interval_den_pos m q) (k - 16)
  have hunit : (0 : ℚ) < 2 ^ q := by positivity
  have hgrid : (0 : ℚ) < 10 ^ (k - 16) := by positivity
  obtain ⟨near, hnear⟩ : ∃ near, near = roundHalfEven (shiftTen (interval m q).value (interval m q).den (k - 16)).1
      (shiftTen (interval m q).value (interval m q).den (k - 16)).2 := ⟨_, rfl⟩
  have hnears := nears_roundHalfEven (shiftTen (interval m q).value (interval m q).den (k - 16)).1 hden
  have hvalue : ((interval m q).value : ℚ) / (interval m q).den = m * 2 ^ q := by
    have hne : ((interval m q).den : ℚ) ≠ 0 := by exact_mod_cast (interval_den_pos m q).ne'
    rw [interval_value, mul_div_cancel_right₀ _ hne]
  rw [hshift, hvalue, ← hnear] at hnears
  have hfine : (10 : ℚ) ^ (k - 16) * 10 ^ 16 ≤ m * 2 ^ q := by
    have hpow : (10 : ℚ) ^ k = 10 ^ (k - 16) * 10 ^ 16 := by rw [← zpow_natCast, ← zpow_add₀ (by norm_num)]; norm_num
    exact hpow ▸ hk
  have habove := (div_le_iff₀ hgrid).mp hnears.le_add
  have hbelow := (le_div_iff₀ hgrid).mp hnears.sub_le
  have hfits : (m : ℚ) < 2 ^ 53 := by exact_mod_cast hc.fits
  have hrounds : RoundsTo (near * 10 ^ (k - 16)) m q := by
    refine ⟨.inl ?_, .inl ?_⟩
    · rw [lt_div_iff₀ hunit]
      unfold lowEnd
      split
      · next hpower =>
        have hm : (m : ℚ) = 2 ^ 52 := by exact_mod_cast hpower.1
        rw [hm] at hfine hbelow habove ⊢
        nlinarith
      · have hsmall : (m : ℚ) * 2 ^ q < 2 ^ 53 * 2 ^ q := mul_lt_mul_of_pos_right hfits hunit
        linarith
    · rw [div_lt_iff₀ hunit]
      have hsmall : (m : ℚ) * 2 ^ q < 2 ^ 53 * 2 ^ q := mul_lt_mul_of_pos_right hfits hunit
      linarith
  unfold Interval.nearest?
  dsimp only
  rw [← hnear, if_pos ((contains_interval_iff hm near (k - 16)).mpr hrounds)]
  rfl

/-- The search ends with digits that round to the number, at seventeen of them at the latest. -/
theorem rounds_shortestFrom {fuel n : Nat} (hfuel : 0 < fuel) (hn : n + fuel = 18) :
    RoundsTo (shortestFrom (interval m q) k n fuel).value m q := by
  induction fuel generalizing n with
  | zero => cases hfuel
  | succ fuel ih =>
    unfold shortestFrom
    dsimp only
    split
    · next c hfound => exact rounds_nearest? hm hfound
    · next hnone =>
      refine ih (Nat.pos_of_ne_zero ?_) (by omega)
      rintro rfl
      have hlast : k - (n : Int) + 1 = k - 16 := by omega
      have hsome := nearest?_isSome hm hc hk
      rw [← hlast, hnone] at hsome
      cases hsome

end Interval

/-! ## Shortest digits -/

theorem value_trim (fuel : Nat) (n : Numeral) : (trim fuel n).value = n.value := by
  induction fuel generalizing n with
  | zero => rfl
  | succ fuel ih =>
    unfold trim
    split
    · next hzero =>
      obtain ⟨-, hmod⟩ := Bool.and_eq_true_iff.mp hzero
      have hdigits : n.digits = n.digits / 10 * 10 := (Nat.div_mul_cancel (Nat.dvd_of_mod_eq_zero (beq_iff_eq.mp hmod))).symm
      rw [ih, value, value, zpow_add_one₀ (by norm_num)]
      conv_rhs => rw [hdigits]
      push_cast
      ring
    · rfl

/-- **The shortest digits of a number round to it.** -/
theorem rounds_shortest {m : Nat} {q : Int} (hm : 0 < m) (hc : Canonical m q) : RoundsTo (shortest m q).value m q := by
  have hden := interval_den_pos m q
  have hd : (0 : ℚ) < (interval m q).den := by exact_mod_cast hden
  have hvalue := interval_value m q
  have hnum : 0 < (interval m q).value := by
    have hpos : (0 : ℚ) < (interval m q).value := by
      have hm : (0 : ℚ) < m := by exact_mod_cast hm
      rw [hvalue]
      positivity
    exact_mod_cast hpos
  have hk : (10 : ℚ) ^ magnitude (interval m q).value (interval m q).den ≤ m * 2 ^ q := by
    have hle := pow_magnitude_le hnum hden
    rwa [hvalue, mul_div_cancel_right₀ _ hd.ne'] at hle
  unfold shortest
  rw [if_neg (by simpa using hm.ne')]
  dsimp only
  rw [normalize, value_trim]
  exact rounds_shortestFrom hm hc hk (by decide) rfl

/-! ## Reading -/

/-- Digits that round to a positive number are not all zero. -/
theorem digits_pos_of_rounds {m : Nat} {q : Int} (hm : 0 < m) {n : Numeral} (hn : RoundsTo n.value m q) : 0 < n.digits := by
  refine Nat.pos_of_ne_zero fun hzero => ?_
  have hvalue : n.value = 0 := by rw [value, hzero, Nat.cast_zero, zero_mul]
  have hleast := hn.half_le hm
  have hunit : (0 : ℚ) < 2 ^ q := by positivity
  linarith

theorem two_pow_le_ten_pow : (2 : ℚ) ^ (1075 : Int) ≤ 10 ^ (400 : Int) :=
  calc (2 : ℚ) ^ (1075 : Int) ≤ 2 ^ (3 * 400 : Int) := zpow_le_zpow_right₀ one_le_two (by decide)
    _ = (2 ^ (3 : Int)) ^ (400 : Int) := zpow_mul 2 3 400
    _ ≤ 10 ^ (400 : Int) := zpow_le_zpow_left₀ (by decide) (by positivity) (by norm_num)

section Reading

variable {m : Nat} {q : Int} (hm : 0 < m) (hc : Canonical m q) (hq : q ≤ 971)

include hm hc hq

/-- Numbers that round to a floating-point number have a place in the range of such numbers. -/
theorem range_of_rounds {v : ℚ} (hv : RoundsTo v m q) : (2 : ℚ) ^ (-1075 : Int) ≤ v ∧ v < 2 ^ (1075 : Int) := by
  have hleast : -1074 ≤ q := hc.least
  have hfits : (m : ℚ) + 1 ≤ 2 ^ 53 := by exact_mod_cast hc.fits
  constructor
  · have hlow := hv.half_le hm
    have hpow : (2 : ℚ) ^ (-1075 : Int) * 2 ^ 1 ≤ 2 ^ q := two_zpow_mul_le (by omega)
    linarith
  · have hhigh := hv.le_mul
    have hpow : (2 : ℚ) ^ q * 2 ^ 53 ≤ 2 ^ (1075 : Int) := two_zpow_mul_le (by omega)
    have hunit : (0 : ℚ) < 2 ^ q := by positivity
    have hless : ((m : ℚ) + 1 / 2) * 2 ^ q < 2 ^ 53 * 2 ^ q := mul_lt_mul_of_pos_right (by linarith) hunit
    linarith

/-- Digits that round to a floating-point number are neither too great nor too small to be read. -/
theorem size_of_rounds {n : Numeral} (hn : RoundsTo n.value m q) :
    -400 ≤ n.exponent + length n.digits ∧ n.exponent + length n.digits ≤ 400 := by
  obtain ⟨hleast, hmost⟩ := range_of_rounds hm hc hq hn
  have hdigits := digits_pos_of_rounds hm hn
  have hlength := length_pos n.digits
  have hunit : (0 : ℚ) < 10 ^ n.exponent := by positivity
  refine ⟨?_, ?_⟩
  · by_contra hsmall
    have hlt : n.value < 10 ^ (length n.digits : Int) * 10 ^ n.exponent := by
      have hbound : (n.digits : ℚ) < 10 ^ length n.digits := by exact_mod_cast lt_pow_length n.digits
      rw [zpow_natCast]
      exact mul_lt_mul_of_pos_right hbound hunit
    have hpow : (10 : ℚ) ^ (length n.digits : Int) * 10 ^ n.exponent ≤ 10 ^ (-400 : Int) := by
      rw [← zpow_add₀ (by norm_num)]
      exact zpow_le_zpow_right₀ (by norm_num) (by omega)
    have htiny : (10 : ℚ) ^ (-400 : Int) ≤ 2 ^ (-1075 : Int) := by
      rw [zpow_neg, zpow_neg]
      exact inv_anti₀ (by positivity) two_pow_le_ten_pow
    exact (hlt.trans_le (hpow.trans (htiny.trans hleast))).false
  · by_contra hgreat
    have hle : 10 ^ (length n.digits - 1 : Nat) * 10 ^ n.exponent ≤ n.value := by
      have hbound : (10 : ℚ) ^ (length n.digits - 1) ≤ n.digits := by exact_mod_cast pow_length_le hdigits
      exact mul_le_mul_of_nonneg_right hbound hunit.le
    have hpow : (10 : ℚ) ^ (400 : Int) ≤ 10 ^ (length n.digits - 1 : Nat) * 10 ^ n.exponent := by
      rw [← zpow_natCast, ← zpow_add₀ (by norm_num)]
      exact zpow_le_zpow_right₀ (by norm_num) (by omega)
    exact (hmost.trans_le (two_pow_le_ten_pow.trans (hpow.trans hle))).false

end Reading

end Numeral

/-! ## Scanning -/

namespace Binary

open Float.Model UnpackedFloat

/-- An unpacked number uses all its bits and stands for a positive value. -/
def Fills (u : UnpackedFloat) (v : ℚ) : Prop := ∃ m q, ∃ hm : 0 < m, u = .finite .positive m q hm ∧ 2 ^ 52 ≤ m ∧ v = m * 2 ^ q

/-- Small whole numbers are exact. -/
theorem fills_toFloat {n : Nat} (hn : 0 < n) (hfits : n < 2 ^ 53) : Fills n.toUInt64.toFloat.toModel.unpack n := by
  have hlog : n.log2 ≤ 52 := Nat.lt_succ_iff.mp ((Nat.log2_lt hn.ne').mpr hfits)
  have hself : 2 ^ n.log2 ≤ n := Nat.log2_self_le hn.ne'
  have hbits : 2 ^ n.log2 * 2 ^ (52 - n.log2) = 2 ^ 52 := by rw [← Nat.pow_add, Nat.add_sub_cancel' hlog]
  have hfull : 2 ^ 52 ≤ n * 2 ^ (52 - n.log2) := hbits ▸ Nat.mul_le_mul_right _ hself
  have hpos : 0 < n * 2 ^ (52 - n.log2) := Nat.mul_pos hn (Nat.two_pow_pos _)
  have hcanonical : Canonical (n * 2 ^ (52 - n.log2)) ((n.log2 : Int) - 52) := by
    refine ⟨by unfold minExponent; omega, ?_, fun _ => hfull⟩
    calc n * 2 ^ (52 - n.log2) < 2 ^ (n.log2 + 1) * 2 ^ (52 - n.log2) := Nat.mul_lt_mul_of_pos_right Nat.lt_log2_self (Nat.two_pow_pos _)
      _ = 2 ^ 53 := by rw [Nat.pow_succ, Nat.mul_right_comm, hbits, ← Nat.pow_succ]
  have hvalue : (n : ℚ) = (n * 2 ^ (52 - n.log2) : Nat) * 2 ^ ((n.log2 : Int) - 52) := by
    have hcancel : (2 : ℚ) ^ (52 - n.log2) * 2 ^ ((n.log2 : Int) - 52) = 1 := by
      rw [← zpow_natCast, ← zpow_add₀ two_ne_zero]
      have hzero : ((52 - n.log2 : Nat) : Int) + (n.log2 - 52) = 0 := by omega
      rw [hzero, zpow_zero]
    push_cast
    rw [mul_assoc, hcancel, mul_one]
  refine ⟨_, _, hpos, ?_, hfull, hvalue⟩
  have hword : n.toUInt64.toNat = n := by
    rw [Nat.toUInt64, UInt64.toNat_ofNat']
    exact Nat.mod_eq_of_lt (Nat.lt_trans hfits (by decide))
  have hnat : UnpackedFloat.ofNat .binary64 n = .finite .positive _ _ hpos := ofNat_eq hpos hcanonical (RoundsTo.self _ _) hn hvalue.symm
  change (Float.Model.pack (UnpackedFloat.ofNat .binary64 n.toUInt64.toNat)).unpack = _
  rw [hword, hnat]
  exact unpack_pack hpos hcanonical (by omega)

/-- Powers of ten in the table are exact. -/
theorem powersOfTen_eq : ∀ i : Fin Float.exactlyRepresentablePowersOfTen.size, ofFloat Float.exactlyRepresentablePowersOfTen[i] =
    .finite false (10 ^ i.val * 2 ^ 52 / 2 ^ (10 ^ i.val).log2) ((10 ^ i.val).log2 - 52) ∧
      2 ^ (10 ^ i.val).log2 ∣ 10 ^ i.val * 2 ^ 52 := by
  decide +kernel

theorem fills_powersOfTen {i : Nat} (hi : i < Float.exactlyRepresentablePowersOfTen.size) :
    Fills (Float.exactlyRepresentablePowersOfTen[i]).toModel.unpack (10 ^ i) := by
  obtain ⟨htable, hexact⟩ := powersOfTen_eq ⟨i, hi⟩
  have hself : 2 ^ (10 ^ i).log2 ≤ 10 ^ i := Nat.log2_self_le (Nat.pow_pos (by decide)).ne'
  have hfull : 2 ^ 52 ≤ 10 ^ i * 2 ^ 52 / 2 ^ (10 ^ i).log2 := by
    rw [Nat.le_div_iff_mul_le (Nat.two_pow_pos _), Nat.mul_comm]
    exact Nat.mul_le_mul_right _ hself
  have hpos : 0 < 10 ^ i * 2 ^ 52 / 2 ^ (10 ^ i).log2 := Nat.lt_of_lt_of_le (Nat.two_pow_pos _) hfull
  refine ⟨_, _, hpos, (unpack_of_finite htable hpos).2, hfull, ?_⟩
  rw [Nat.cast_div hexact (by positivity), zpow_sub₀ two_ne_zero, zpow_natCast]
  push_cast
  field_simp

section Scanning

variable {m : Nat} {q : Int} (hm : 0 < m) (hc : Canonical m q) {n : Nat} {e : Int} (hn : 0 < n)

include hc hn

/-- A scanned number is the one whose ends it lies between. -/
theorem ofScientific_eq (hv : RoundsTo (n * 10 ^ e) m q) (hleast : -(2048 + n.log2 : Int) ≤ e) (hmost : e ≤ 2048) :
    UnpackedFloat.ofScientific .binary64 n e = .finite .positive m q hm := by
  have hlimit : (2 : Int) ^ Format.exponentBits .binary64 = 2048 := rfl
  unfold UnpackedFloat.ofScientific
  rw [dif_neg hn.ne', hlimit, if_neg (by omega), if_neg (by omega)]
  split
  · next he =>
    refine mul_eq hm hc hv _ _ ?_ ?_
    · have hbits : ((2 ^ 53 : Nat) : ℚ) * 2 ^ (-53 : Int) = 1 := by norm_num
      change (n : ℚ) * (10 : ℚ) ^ e = (n <<< 53 : Nat) * 2 ^ (-53 : Int) * ((10 ^ e.toNat : Nat) * 2 ^ (0 : Int))
      rw [Nat.shiftLeft_eq, Nat.cast_mul, mul_assoc (n : ℚ), hbits, Numeral.ten_zpow_of_nonneg he, zpow_zero, mul_one, mul_one, Nat.cast_pow]
      rfl
    · change 2 ^ 52 ≤ n <<< 53 * 10 ^ e.toNat
      rw [Nat.shiftLeft_eq]
      calc 2 ^ 52 ≤ 1 * 2 ^ 53 * 1 := by decide
        _ ≤ n * 2 ^ 53 * 10 ^ e.toNat := Nat.mul_le_mul (Nat.mul_le_mul_right _ hn) (Nat.pow_pos (by decide))
  · next he =>
    refine div_eq hm hc hv _ _ ?_
    rw [Numeral.ten_zpow_of_neg he, zpow_zero]
    push_cast
    ring

/-- **Scanned digits are the floating-point number between whose ends they lie.** -/
theorem float_ofScientific_eq (hv : RoundsTo (n * 10 ^ e) m q) (hleast : -(2048 + n.log2 : Int) ≤ e) (hmost : e ≤ 2048) :
    Float.ofScientific n (e < 0) e.natAbs = .ofModel (.pack (.finite .positive m q hm)) := by
  unfold Float.ofScientific
  split
  · next hsmall =>
    -- both factors are exact, so that there is one rounding
    obtain ⟨m₁, e₁, h₁, hunpack₁, hfull₁, hvalue₁⟩ := fills_toFloat hn hsmall.1
    have hindex : e.natAbs < Float.exactlyRepresentablePowersOfTen.size := Nat.lt_succ_of_le hsmall.2
    obtain ⟨m₂, e₂, h₂, hunpack₂, hfull₂, hvalue₂⟩ := fills_powersOfTen hindex
    dsimp only
    split
    · next he =>
      change Float.ofModel (.pack (UnpackedFloat.div .binary64 n.toUInt64.toFloat.toModel.unpack
        (Float.exactlyRepresentablePowersOfTen[e.natAbs]).toModel.unpack)) = _
      have hvalue : (n : ℚ) * 10 ^ e = m₁ * 2 ^ e₁ / (m₂ * 2 ^ e₂) := by
        have hneg : e = -(e.natAbs : Int) := by
          have hlt := decide_eq_true_iff.mp he
          omega
        rw [← hvalue₁, ← hvalue₂, hneg, zpow_neg, zpow_natCast, Int.natAbs_neg, Int.natAbs_natCast]
        rfl
      rw [hunpack₁, hunpack₂, div_eq hm hc hv h₁ h₂ hvalue]
    · next he =>
      change Float.ofModel (.pack (UnpackedFloat.mul .binary64 n.toUInt64.toFloat.toModel.unpack
        (Float.exactlyRepresentablePowersOfTen[e.natAbs]).toModel.unpack)) = _
      have hvalue : (n : ℚ) * 10 ^ e = m₁ * 2 ^ e₁ * (m₂ * 2 ^ e₂) := by
        have hpos : e = (e.natAbs : Int) := by
          have hle := mt decide_eq_true_iff.mpr he
          omega
        rw [← hvalue₁, ← hvalue₂, hpos, zpow_natCast, Int.natAbs_natCast]
      have hbig : 2 ^ 52 ≤ m₁ * m₂ := Nat.le_trans hfull₁ (Nat.le_mul_of_pos_right _ h₂)
      rw [hunpack₁, hunpack₂, mul_eq hm hc hv h₁ h₂ hvalue hbig]
  · have hexponent : (if decide (e < 0) = true then Int.negOfNat e.natAbs else Int.ofNat e.natAbs) = e := by
      split
      · next he =>
        have hneg := decide_eq_true_iff.mp he
        rw [Int.negOfNat_eq, Int.ofNat_eq_natCast]
        omega
      · next he =>
        have hnonneg := mt decide_eq_true_iff.mpr he
        exact Int.natAbs_of_nonneg (by omega)
    dsimp only
    rw [hexponent, Float.Model.ofScientific, ofScientific_eq hm hc hn hv hleast hmost]

end Scanning

end Binary

/-- **Digits are read as the floating-point number that they round to.** -/
theorem Numeral.toFloat_eq {m : Nat} {q : Int} (hm : 0 < m) (hc : Canonical m q) (hq : q ≤ 971) {n : Numeral} (hn : RoundsTo n.value m q) :
    n.toFloat = .ofModel (.pack (.finite .positive m q hm)) := by
  obtain ⟨hleast, hmost⟩ := size_of_rounds hm hc hq hn
  have hdigits := digits_pos_of_rounds hm hn
  have hlength := length_pos n.digits
  have hlog := length_le_log2 hdigits
  have hread : ¬ (n.digits == 0 || decide (n.exponent + length n.digits < -400)) = true := by
    rw [Bool.or_eq_true, beq_iff_eq, decide_eq_true_iff]
    omega
  unfold toFloat
  dsimp only
  rw [if_neg hread, if_neg (by omega)]
  exact float_ofScientific_eq hm hc hdigits hn (by omega) (by omega)

namespace Binary

/-- **Digits with the sign of a floating-point number are read as it, if they round to it.** -/
theorem withSign_toFloat {x : Float} {s : Bool} {m : Nat} {q : Int} (hx : ofFloat x = .finite s m q) (hm : 0 < m) {n : Numeral}
    (hn : RoundsTo n.value m q) : withSign s n.toFloat = x := by
  obtain ⟨hc, hunpack⟩ := unpack_of_finite hx hm
  have hq := exponent_le_of_ofFloat hx
  rw [Numeral.toFloat_eq hm hc hq hn, ← ofModel_pack_unpack x, hunpack]
  cases s with
  | false => rfl
  | true =>
    change Float.ofModel (.pack (Float.Model.pack (.finite .positive m q hm)).unpack.neg) = _
    rw [unpack_pack hm hc hq]
    rfl

/-- A zero keeps its sign. -/
theorem withSign_zero {x : Float} {s : Bool} {q : Int} (hx : ofFloat x = .finite s 0 q) {e : Int} : withSign s (Numeral.toFloat ⟨0, e⟩) = x := by
  have hagrees := agrees_unpack x
  rw [hx] at hagrees
  have hunpack : x.toModel.unpack = .zero (sign s) := by
    generalize x.toModel.unpack = u at hagrees ⊢
    cases hagrees with
    | zero => rfl
    | finite _ _ hm => exact absurd hm (Nat.lt_irrefl 0)
  have hread : Numeral.toFloat ⟨0, e⟩ = 0.0 := rfl
  rw [← ofModel_pack_unpack x, hunpack, hread]
  cases s with
  | false => exact Float.toBits_inj.mp (by decide +kernel)
  | true => exact Float.toBits_inj.mp (by decide +kernel)

/-- A finite number has a significand and an exponent. -/
theorem exists_finite {x : Float} (h : x.isFinite = true) : ∃ s m q, ofFloat x = .finite s m q := by
  have hagrees := agrees_unpack x
  change x.toModel.unpack.isFinite = true at h
  generalize x.toModel.unpack = u at hagrees h
  generalize ofFloat x = b at hagrees ⊢
  cases hagrees with
  | nan => cases h
  | infinite => cases h
  | zero s => exact ⟨s, _, _, rfl⟩
  | finite s => exact ⟨s, _, _, rfl⟩

end Binary

end ScriptFlow
