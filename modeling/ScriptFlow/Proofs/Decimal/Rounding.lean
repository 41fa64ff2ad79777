import Mathlib
import ScriptFlow.Proofs.Decimal.Comparison

/-!
# Rounding to floating-point numbers

The floating-point model rounds a significand that it cuts short. Two more bits go with it: one says whether a half is cut off, the other whether something smaller
is.

* `Nears` — the nearest whole number, a half going to the even neighbour; `Nears.eq` — there is only one.
* `Binary.Stands` — a significand with its two bits stands for a number; cutting keeps that, and `Binary.Stands.nears` — the two bits are enough to round.
* `Binary.RoundsTo` — a number lies between the ends of what rounds to a floating-point number.
* `Binary.roundWithAccuracy_eq` — **the model rounds every number to the floating-point number between whose ends it lies**; `Binary.mul_eq` and
  `Binary.div_eq` — so it does with products and quotients.
* `Binary.unpack_pack` — a packed number is unpacked as it was.
-/

namespace ScriptFlow

/-- A whole number is the nearest to a number; a half goes to the even neighbour. -/
structure Nears (y : ℚ) (r : Nat) : Prop where
  low : (r : ℚ) - 1 / 2 < y ∨ Even r ∧ y = r - 1 / 2
  high : y < r + 1 / 2 ∨ Even r ∧ y = r + 1 / 2

namespace Nears

variable {y : ℚ} {r r' : Nat}

theorem le_add (h : Nears y r) : y ≤ r + 1 / 2 := h.high.elim le_of_lt fun h => h.2.le

theorem sub_le (h : Nears y r) : (r : ℚ) - 1 / 2 ≤ y := h.low.elim le_of_lt fun h => h.2.ge

/-- A smaller number is not the nearest one too. -/
theorem not_lt (h : Nears y r) (h' : Nears y r') : ¬ r < r' := by
  intro hlt
  have hnext : (r : ℚ) + 1 ≤ r' := by exact_mod_cast hlt
  have hle := h.le_add
  have hge := h'.sub_le
  -- both are at the half between them, and one of them is odd
  have hhalf : y = r + 1 / 2 := by linarith
  have hhalf' : y = r' - 1 / 2 := by linarith
  have heven : Even r := h.high.elim (fun h => absurd hhalf h.ne) And.left
  have heven' : Even r' := h'.low.elim (fun h => absurd hhalf' h.ne') And.left
  have hsucc : r' = r + 1 := by
    have hq : (r' : ℚ) = r + 1 := by linarith
    exact_mod_cast hq
  rw [hsucc, Nat.even_add_one] at heven'
  exact heven' heven

/-- The nearest whole number is unique. -/
theorem eq (h : Nears y r) (h' : Nears y r') : r = r' :=
  Nat.le_antisymm (Nat.not_lt.mp (h'.not_lt h)) (Nat.not_lt.mp (h.not_lt h'))

end Nears

theorem nears_self (r : Nat) : Nears r r where
  low := .inl (by linarith)
  high := .inl (by linarith)

/-- A quotient is its whole part and the part of the remainder. -/
theorem div_eq_div_add_mod (a : Nat) {b : Nat} (hb : 0 < b) : (a : ℚ) / b = (a / b : Nat) + ((a % b : Nat) : ℚ) / b := by
  have hd : (b : ℚ) ≠ 0 := by exact_mod_cast hb.ne'
  have hdiv : (a : ℚ) = b * (a / b : Nat) + (a % b : Nat) := by exact_mod_cast (Nat.div_add_mod a b).symm
  field_simp
  exact hdiv

section Halves

variable (a : Nat) {b : Nat} (hb : 0 < b)

include hb

theorem div_lt_half_iff : (a : ℚ) / b < 1 / 2 ↔ 2 * a < b := by
  have hd : (0 : ℚ) < b := by exact_mod_cast hb
  rw [div_lt_div_iff₀ hd two_pos, one_mul, mul_comm]
  exact_mod_cast Iff.rfl

theorem half_lt_div_iff : 1 / 2 < (a : ℚ) / b ↔ b < 2 * a := by
  have hd : (0 : ℚ) < b := by exact_mod_cast hb
  rw [div_lt_div_iff₀ two_pos hd, one_mul, mul_comm (a : ℚ)]
  exact_mod_cast Iff.rfl

theorem div_eq_half_iff : (a : ℚ) / b = 1 / 2 ↔ 2 * a = b := by
  have hd : (b : ℚ) ≠ 0 := by exact_mod_cast hb.ne'
  rw [div_eq_div_iff hd two_ne_zero, one_mul, mul_comm]
  exact_mod_cast Iff.rfl

theorem mod_div_lt_one : ((a % b : Nat) : ℚ) / b < 1 := by
  have hd : (0 : ℚ) < b := by exact_mod_cast hb
  rw [div_lt_one hd]
  exact_mod_cast Nat.mod_lt a hb

end Halves

/-- The nearest whole quotient. -/
theorem nears_roundHalfEven (a : Nat) {b : Nat} (hb : 0 < b) : Nears ((a : ℚ) / b) (roundHalfEven a b) := by
  have hlt := mod_div_lt_one a hb
  have hnonneg : 0 ≤ ((a % b : Nat) : ℚ) / b := by positivity
  have hsucc : ((a / b + 1 : Nat) : ℚ) = (a / b : Nat) + 1 := Nat.cast_succ _
  rw [div_eq_div_add_mod a hb, roundHalfEven]
  split
  · next hbelow =>
    have hless := (div_lt_half_iff _ hb).mpr hbelow
    exact ⟨.inl (by linarith), .inl (by linarith)⟩
  split
  · next habove =>
    have hmore := (half_lt_div_iff _ hb).mpr habove
    exact ⟨.inl (by linarith), .inl (by linarith)⟩
  have hhalf : ((a % b : Nat) : ℚ) / b = 1 / 2 := (div_eq_half_iff _ hb).mpr (by omega)
  split
  · next heven => exact ⟨.inl (by linarith), .inr ⟨Nat.even_iff.mpr (beq_iff_eq.mp heven), by linarith⟩⟩
  · next hodd =>
    have heven : Even (a / b + 1) := Nat.even_add_one.mpr fun h => hodd (beq_iff_eq.mpr (Nat.even_iff.mp h))
    exact ⟨.inr ⟨heven, by linarith⟩, .inl (by linarith)⟩

namespace Binary

open Float.Model UnpackedFloat

/-! ## Significands cut short -/

/-- What the first bit after a significand counts. -/
def half (em : ExtendedMantissa) : ℚ := if em.roundBit then 1 / 2 else 0

/-- A significand with its two bits stands for a number. -/
structure Stands (em : ExtendedMantissa) (y : ℚ) : Prop where
  exact : em.stickyBit = false → y = em.mantissa + half em
  between : em.stickyBit = true → (em.mantissa : ℚ) + half em < y ∧ y < em.mantissa + half em + 1 / 2

theorem stands_exact (m : Nat) : Stands (.ofMantissaAndAccuracy m .exact) m where
  exact _ := by simp [ExtendedMantissa.ofMantissaAndAccuracy, half]
  between h := by cases h

/-- A quotient cut to a whole number. -/
theorem stands_quotient (a : Nat) {b : Nat} (hb : 0 < b) :
    Stands (.ofMantissaAndAccuracy (a / b) (accuracyOfFraction (a % b) b)) ((a : ℚ) / b) := by
  have hlt := mod_div_lt_one a hb
  rw [div_eq_div_add_mod a hb, accuracyOfFraction]
  split
  · next hzero =>
    rw [hzero, Nat.cast_zero, zero_div, add_zero]
    exact stands_exact _
  · next hne =>
    have hpos : 0 < ((a % b : Nat) : ℚ) / b := div_pos (by exact_mod_cast Nat.pos_of_ne_zero hne) (by exact_mod_cast hb)
    rcases lt_trichotomy (2 * (a % b)) b with h | h | h
    · have hless := (div_lt_half_iff _ hb).mpr h
      rw [compare_lt_iff_lt.mpr h]
      refine ⟨nofun, fun _ => ?_⟩
      simp only [ExtendedMantissa.ofMantissaAndAccuracy, half, Bool.false_eq_true, if_false]
      constructor <;> linarith
    · have hhalf := (div_eq_half_iff _ hb).mpr h
      rw [compare_eq_iff_eq.mpr h]
      refine ⟨fun _ => ?_, nofun⟩
      simp only [ExtendedMantissa.ofMantissaAndAccuracy, half, if_true]
      rw [hhalf]
    · have hmore := (half_lt_div_iff _ hb).mpr h
      rw [compare_gt_iff_gt.mpr h]
      refine ⟨nofun, fun _ => ?_⟩
      simp only [ExtendedMantissa.ofMantissaAndAccuracy, half, if_true]
      constructor <;> linarith

namespace Stands

variable {em : ExtendedMantissa} {y : ℚ}

/-- The significand is the whole part. -/
theorem bounds (h : Stands em y) : (em.mantissa : ℚ) ≤ y ∧ y < em.mantissa + 1 := by
  have hhalf : half em = 0 ∨ half em = 1 / 2 := by
    unfold half
    split <;> simp
  cases hs : em.stickyBit with
  | false =>
    have hy := h.exact hs
    rcases hhalf with h | h <;> constructor <;> linarith
  | true =>
    obtain ⟨hlow, hhigh⟩ := h.between hs
    rcases hhalf with h | h <;> constructor <;> linarith

/-- **The two bits are enough to round.** -/
theorem nears (h : Stands em y) : Nears y em.roundedMantissa := by
  obtain ⟨m, r, s⟩ := em
  cases s with
  | false =>
    have hy : y = m + (if r then 1 / 2 else 0) := h.exact rfl
    cases r with
    | false =>
      have hy : y = m := by simpa using hy
      exact hy ▸ nears_self m
    | true =>
      have hy : y = m + 1 / 2 := by simpa using hy
      change Nears y (m + m % 2)
      rcases Nat.mod_two_eq_zero_or_one m with heven | hodd
      · rw [heven, Nat.add_zero]
        exact ⟨.inl (by linarith), .inr ⟨Nat.even_iff.mpr heven, hy⟩⟩
      · rw [hodd]
        refine ⟨.inr ⟨Nat.even_iff.mpr (by omega), ?_⟩, .inl ?_⟩ <;> push_cast <;> linarith
  | true =>
    have hy : (m : ℚ) + (if r then 1 / 2 else 0) < y ∧ y < m + (if r then 1 / 2 else 0) + 1 / 2 := h.between rfl
    cases r with
    | false =>
      have hy : (m : ℚ) < y ∧ y < m + 1 / 2 := by simpa using hy
      change Nears y m
      exact ⟨.inl (by linarith), .inl hy.2⟩
    | true =>
      have hy : (m : ℚ) + 1 / 2 < y ∧ y < m + 1 / 2 + 1 / 2 := by simpa using hy
      change Nears y (m + 1)
      refine ⟨.inl ?_, .inl ?_⟩ <;> push_cast <;> linarith

/-- The last bit of the significand becomes the half, and what the half was becomes a rest. -/
theorem shiftRightOne (h : Stands em y) : Stands em.shiftRightOne (y / 2) := by
  have hcut : (em.mantissa : ℚ) = 2 * (em.shiftRightOne.mantissa + half em.shiftRightOne) := by
    change (em.mantissa : ℚ) = 2 * ((em.mantissa / 2 : Nat) + if (em.mantissa % 2 != 0) = true then 1 / 2 else 0)
    have hsplit : (em.mantissa : ℚ) = 2 * (em.mantissa / 2 : Nat) + (em.mantissa % 2 : Nat) := by exact_mod_cast (Nat.div_add_mod _ 2).symm
    rcases Nat.mod_two_eq_zero_or_one em.mantissa with hmod | hmod
    · rw [hmod] at hsplit ⊢
      simpa using hsplit
    · rw [hmod] at hsplit ⊢
      simp only [bne_iff_ne, ne_eq, one_ne_zero, not_false_eq_true, if_true]
      push_cast at hsplit
      linarith
  have hhalf (hr : em.roundBit = true) : half em = 1 / 2 := if_pos hr
  have hnone (hr : em.roundBit = false) : half em = 0 := if_neg (by simp [hr])
  refine ⟨fun hs => ?_, fun hs => ?_⟩
  · obtain ⟨hr, hs⟩ := Bool.or_eq_false_iff.mp hs
    have hy := h.exact hs
    rw [hnone hr] at hy
    linarith
  · cases hsticky : em.stickyBit with
    | false =>
      have hr : em.roundBit = true := (Bool.or_eq_true_iff.mp hs).resolve_right (by simp [hsticky])
      have hy := h.exact hsticky
      rw [hhalf hr] at hy
      constructor <;> linarith
    | true =>
      obtain ⟨hlow, hhigh⟩ := h.between hsticky
      cases hr : em.roundBit with
      | false =>
        rw [hnone hr] at hlow hhigh
        constructor <;> linarith
      | true =>
        rw [hhalf hr] at hlow hhigh
        constructor <;> linarith

/-- Cutting off several bits divides by a power of two. -/
theorem shiftRight (h : Stands em y) (n : Nat) : Stands (em >>> n) (y / 2 ^ n) := by
  induction n with
  | zero =>
    rw [pow_zero, div_one]
    exact h
  | succ n ih =>
    rw [pow_succ, ← div_div]
    exact ih.shiftRightOne

end Stands

/-! ## Intervals -/

/-- The lower end of what rounds to a significand, in units of its last place. Below a power of two the next number is half as far away. -/
def lowEnd (m : Nat) (q : Int) : ℚ := if m = 2 ^ 52 ∧ q ≠ minExponent then m - 1 / 4 else m - 1 / 2

/-- A number lies between the ends of what rounds to a floating-point number. The ends round to even significands. -/
structure RoundsTo (v : ℚ) (m : Nat) (q : Int) : Prop where
  low : lowEnd m q < v / 2 ^ q ∨ Even m ∧ v / 2 ^ q = lowEnd m q
  high : v / 2 ^ q < m + 1 / 2 ∨ Even m ∧ v / 2 ^ q = m + 1 / 2

theorem sub_half_le_lowEnd (m : Nat) (q : Int) : (m : ℚ) - 1 / 2 ≤ lowEnd m q := by
  unfold lowEnd
  split <;> linarith

theorem lowEnd_lt (m : Nat) (q : Int) : lowEnd m q < m := by
  unfold lowEnd
  split <;> linarith

/-- Powers of two, up to a factor. -/
theorem two_zpow_mul_le {a b : Int} {k : Nat} (h : b + k ≤ a) : (2 : ℚ) ^ b * 2 ^ k ≤ 2 ^ a := by
  rw [← zpow_natCast, ← zpow_add₀ two_ne_zero]
  exact zpow_le_zpow_right₀ one_le_two h

namespace RoundsTo

variable {v : ℚ} {m : Nat} {q : Int}

theorem self (m : Nat) (q : Int) : RoundsTo (m * 2 ^ q) m q := by
  have hvalue : (m : ℚ) * 2 ^ q / 2 ^ q = m := mul_div_cancel_right₀ _ (by positivity)
  refine ⟨.inl ?_, .inl ?_⟩
  · rw [hvalue]
    exact lowEnd_lt m q
  · rw [hvalue]
    linarith

theorem lowEnd_mul_le (h : RoundsTo v m q) : lowEnd m q * 2 ^ q ≤ v :=
  (le_div_iff₀ (by positivity)).mp (h.low.elim le_of_lt fun h => h.2.ge)

theorem le_mul (h : RoundsTo v m q) : v ≤ (m + 1 / 2) * 2 ^ q :=
  (div_le_iff₀ (by positivity)).mp (h.high.elim le_of_lt fun h => h.2.le)

/-- What rounds to a positive number is positive. -/
theorem half_le (h : RoundsTo v m q) (hm : 0 < m) : 1 / 2 * 2 ^ q ≤ v := by
  have hone : (1 : ℚ) ≤ m := by exact_mod_cast hm
  have hlow := sub_half_le_lowEnd m q
  exact le_trans (mul_le_mul_of_nonneg_right (by linarith) (by positivity)) h.lowEnd_mul_le

section Exponents

variable (h : RoundsTo v m q) (hc : Canonical m q) {T : Int} (hT : minExponent ≤ T)

include h hc hT

/-- A number that does not exceed a significand at a smaller exponent rounds to the least significand of the next one. -/
theorem nears_of_lt (hlt : T < q) (hfits : v < 2 ^ T * 2 ^ 53) : T + 1 = q ∧ m = 2 ^ 52 ∧ Nears (v / 2 ^ T) (2 ^ 53) := by
  have hlower := h.lowEnd_mul_le
  have hnormal : minExponent < q := lt_of_le_of_lt hT hlt
  have hfull := hc.full hnormal
  have hunit : (0 : ℚ) < 2 ^ q := by positivity
  have hpower : m = 2 ^ 52 := by
    by_contra hne
    have hsucc : (2 : ℚ) ^ 52 + 1 ≤ m := by exact_mod_cast Nat.lt_of_le_of_ne hfull (Ne.symm hne)
    have hend : lowEnd m q = m - 1 / 2 := if_neg fun h => hne h.1
    rw [hend] at hlower
    have hle : (2 : ℚ) ^ T * 2 ^ 1 ≤ 2 ^ q := two_zpow_mul_le (by omega)
    have hless : (2 : ℚ) ^ 52 * 2 ^ q ≤ (m - 1 / 2) * 2 ^ q := mul_le_mul_of_nonneg_right (by linarith) hunit.le
    linarith
  have hend : lowEnd m q = 2 ^ 52 - 1 / 4 := by
    rw [lowEnd, if_pos ⟨hpower, hnormal.ne'⟩, hpower]
    norm_num
  rw [hend] at hlower
  have hnext : T + 1 = q := by
    by_contra hne
    have hle : (2 : ℚ) ^ T * 2 ^ 2 ≤ 2 ^ q := two_zpow_mul_le (by omega)
    linarith
  have hdouble : (2 : ℚ) ^ q = 2 ^ T * 2 := by rw [← hnext, zpow_add_one₀ two_ne_zero]
  have hpos : (0 : ℚ) < 2 ^ T := by positivity
  rw [hdouble] at hlower
  have hge : (2 : ℚ) ^ 53 - 1 / 2 ≤ v / 2 ^ T := by
    rw [le_div_iff₀ hpos]
    linarith
  refine ⟨hnext, hpower, ?_, .inl ?_⟩
  · push_cast
    exact hge.lt_or_eq.imp id fun heq => ⟨by decide, heq.symm⟩
  · rw [div_lt_iff₀ hpos]
    push_cast
    linarith

omit hT in
/-- A number that fills a significand does not round to a number with a smaller exponent. -/
theorem not_lt (hfull : minExponent < T → 2 ^ T * 2 ^ 52 ≤ v) : ¬ q < T := by
  intro hgt
  have hupper := h.le_mul
  have hm : (m : ℚ) + 1 ≤ 2 ^ 53 := by exact_mod_cast hc.fits
  have hle : (2 : ℚ) ^ q * 2 ^ 1 ≤ 2 ^ T := two_zpow_mul_le (by omega)
  have hv := hfull (lt_of_le_of_lt hc.least hgt)
  have hless : (m + 1 / 2) * (2 : ℚ) ^ q ≤ (2 ^ 53 - 1 / 2) * 2 ^ q := mul_le_mul_of_nonneg_right (by linarith) (by positivity)
  have hunit : (0 : ℚ) < 2 ^ q := by positivity
  linarith

/-- A number that fills a significand at an exponent is rounded there; the significand is the one it rounds to, or the greatest one is exceeded. -/
theorem nears (hfull : minExponent < T → 2 ^ T * 2 ^ 52 ≤ v) (hfits : v < 2 ^ T * 2 ^ 53) :
    T = q ∧ Nears (v / 2 ^ T) m ∨ T + 1 = q ∧ m = 2 ^ 52 ∧ Nears (v / 2 ^ T) (2 ^ 53) := by
  rcases lt_trichotomy T q with hlt | rfl | hgt
  · exact .inr (h.nears_of_lt hc hT hlt hfits)
  · refine .inl ⟨rfl, ?_, h.high⟩
    by_cases hpower : m = 2 ^ 52 ∧ T ≠ minExponent
    · have hge : (2 : ℚ) ^ 52 ≤ v / 2 ^ T := by
        rw [le_div_iff₀ (by positivity), mul_comm]
        exact hfull (lt_of_le_of_ne hT (Ne.symm hpower.2))
      have hq : (m : ℚ) = 2 ^ 52 := by exact_mod_cast hpower.1
      exact .inl (by linarith)
    · have hend : lowEnd m T = m - 1 / 2 := if_neg hpower
      exact hend ▸ h.low
  · exact absurd hgt (h.not_lt hc hfull)

end Exponents

end RoundsTo

/-! ## Rounding -/

/-- The exponent at which a significand is rounded. -/
def target (m : Nat) (e : Int) : Int := max (m.log2 + e - 52) minExponent

theorem targetExponent_eq (m : Nat) (e : Int) : Format.targetExponent .binary64 (totalExponent m e) = target m e := by
  have hleast : Format.minExponent .binary64 = minExponent := rfl
  have hbits : ((Format.mantissaBits .binary64 : Nat) : Int) = 53 := rfl
  unfold Format.targetExponent totalExponent target
  rw [hleast, hbits]
  congr 1
  omega

theorem mantissa_ofMantissaAndAccuracy (m : Nat) (a : Accuracy) : (ExtendedMantissa.ofMantissaAndAccuracy m a).mantissa = m := by
  cases a with
  | exact => rfl
  | inexact o => cases o <;> rfl

/-- A significand with enough bits, or at a small exponent, is cut at its target. -/
theorem shiftToTargetExponent_eq {m : Nat} {e : Int} (h : e ≤ target m e) (a : Accuracy) :
    shiftToTargetExponent .binary64 m e a = (ExtendedMantissa.ofMantissaAndAccuracy m a >>> (target m e - e).toNat, target m e) := by
  unfold shiftToTargetExponent shiftToExponent
  rw [targetExponent_eq]
  dsimp only
  congr 1
  omega

/-- A significand that fits stays as it is. -/
theorem shiftToTargetExponent_fits {m : Nat} {e : Int} (hm : m < 2 ^ 53) (he : minExponent ≤ e) :
    shiftToTargetExponent .binary64 m e .exact = (⟨m, false, false⟩, e) := by
  have hlog : m.log2 < 53 := by
    by_cases hzero : m = 0
    · rw [hzero]
      decide
    · exact (Nat.log2_lt hzero).mpr hm
  have htarget : target m e = e ∨ target m e < e := by
    unfold target
    omega
  unfold shiftToTargetExponent shiftToExponent
  rw [targetExponent_eq]
  have hshift : (target m e - e).toNat = 0 := by omega
  dsimp only
  rw [hshift]
  exact Prod.ext rfl (Int.add_zero e)

/-- A significand that is exceeded by rounding goes to the next exponent. -/
theorem shiftToTargetExponent_carry {e : Int} (he : minExponent ≤ e) :
    shiftToTargetExponent .binary64 (2 ^ 53) e .exact = (⟨2 ^ 52, false, false⟩, e + 1) := by
  have htarget : target (2 ^ 53) e = e + 1 := by
    unfold target
    rw [Nat.log2_two_pow]
    omega
  rw [shiftToTargetExponent_eq (by omega), htarget]
  have hshift : (e + 1 - e).toNat = 1 := by omega
  rw [hshift]
  rfl

section Cutting

variable {m : Nat} {e : Int} {a : Accuracy} {v : ℚ}

theorem le_target (he : 2 ^ 52 ≤ m ∨ e ≤ minExponent) : e ≤ target m e := by
  unfold target
  rcases he with h | h
  · have hlog : 52 ≤ m.log2 := (Nat.le_log2 (by omega)).mpr h
    omega
  · omega

variable (hs : Stands (.ofMantissaAndAccuracy m a) (v / 2 ^ e))

include hs

/-- A number that is cut at its target fits there. -/
theorem lt_of_stands : v < 2 ^ target m e * 2 ^ 53 := by
  have hhigh := hs.bounds.2
  rw [mantissa_ofMantissaAndAccuracy, div_lt_iff₀ (by positivity)] at hhigh
  have hsucc : (m : ℚ) + 1 ≤ 2 ^ (m.log2 + 1) := by exact_mod_cast Nat.lt_log2_self
  calc v < (m + 1) * 2 ^ e := hhigh
    _ ≤ 2 ^ (m.log2 + 1) * 2 ^ e := mul_le_mul_of_nonneg_right hsucc (by positivity)
    _ ≤ 2 ^ target m e * 2 ^ 53 := by
      rw [← zpow_natCast, ← zpow_natCast, ← zpow_add₀ two_ne_zero, ← zpow_add₀ two_ne_zero]
      refine zpow_le_zpow_right₀ one_le_two ?_
      unfold target
      push_cast
      omega

/-- It fills a significand there, unless the target is the least exponent. -/
theorem le_of_stands (he : 2 ^ 52 ≤ m ∨ e ≤ minExponent) (hnormal : minExponent < target m e) : 2 ^ target m e * 2 ^ 52 ≤ v := by
  have hlow := hs.bounds.1
  rw [mantissa_ofMantissaAndAccuracy, le_div_iff₀ (by positivity)] at hlow
  have htarget : target m e = m.log2 + e - 52 := by
    unfold target at hnormal ⊢
    omega
  have hne : m ≠ 0 := by
    rintro rfl
    have hzero : Nat.log2 0 = 0 := rfl
    rw [htarget, hzero] at hnormal
    rcases he with h | h
    · exact absurd h (by decide)
    · omega
  have hself : (2 : ℚ) ^ m.log2 ≤ m := by exact_mod_cast Nat.log2_self_le hne
  calc (2 : ℚ) ^ target m e * 2 ^ 52 = 2 ^ m.log2 * 2 ^ e := by
        rw [← zpow_natCast, ← zpow_natCast, ← zpow_add₀ two_ne_zero, ← zpow_add₀ two_ne_zero, htarget]
        congr 1
        push_cast
        omega
    _ ≤ m * 2 ^ e := mul_le_mul_of_nonneg_right hself (by positivity)
    _ ≤ v := hlow

theorem stands_target (hcut : e ≤ target m e) :
    Stands (ExtendedMantissa.ofMantissaAndAccuracy m a >>> (target m e - e).toNat) (v / 2 ^ target m e) := by
  have hvalue : v / 2 ^ target m e = v / 2 ^ e / 2 ^ (target m e - e).toNat := by
    rw [div_div, ← zpow_natCast, ← zpow_add₀ two_ne_zero]
    congr 2
    omega
  exact hvalue ▸ hs.shiftRight _

end Cutting

section Rounded

variable {s : Sign} {m : Nat} {q : Int} {v : ℚ} (hm : 0 < m) (hc : Canonical m q) (hv : RoundsTo v m q)

include hc hv

/-- **The model rounds every number to the floating-point number between whose ends it lies.** -/
theorem roundWithAccuracy_eq {m' : Nat} {e : Int} {a : Accuracy} (hs : Stands (.ofMantissaAndAccuracy m' a) (v / 2 ^ e))
    (he : 2 ^ 52 ≤ m' ∨ e ≤ minExponent) : roundWithAccuracy .binary64 s m' e a = .finite s m q hm := by
  have hleast : minExponent ≤ target m' e := le_max_right _ _
  have hcut := le_target he
  have hround {r : Nat} (hr : Nears (v / 2 ^ target m' e) r) :
      (ExtendedMantissa.ofMantissaAndAccuracy m' a >>> (target m' e - e).toNat).roundedMantissa = r := (stands_target hs hcut).nears.eq hr
  unfold roundWithAccuracy
  rw [shiftToTargetExponent_eq hcut]
  dsimp only
  rcases hv.nears hc hleast (le_of_stands hs he) (lt_of_stands hs) with ⟨hq, hnear⟩ | ⟨hq, hpower, hnear⟩
  · rw [hround hnear, shiftToTargetExponent_fits hc.fits hleast]
    dsimp only
    rw [dif_neg hm.ne']
    simp only [hq]
  · rw [hround hnear, shiftToTargetExponent_carry hleast]
    dsimp only
    rw [dif_neg (by decide)]
    simp only [hq, hpower]

/-- **Products are rounded to the floating-point number between whose ends they lie.** -/
theorem mul_eq {m₁ m₂ : Nat} {e₁ e₂ : Int} (h₁ : 0 < m₁) (h₂ : 0 < m₂) (hvalue : v = m₁ * 2 ^ e₁ * (m₂ * 2 ^ e₂)) (hbig : 2 ^ 52 ≤ m₁ * m₂) :
    UnpackedFloat.mul .binary64 (.finite .positive m₁ e₁ h₁) (.finite .positive m₂ e₂ h₂) = .finite .positive m q hm := by
  refine roundWithAccuracy_eq hm hc hv ?_ (.inl hbig)
  have hproduct : v / 2 ^ (e₁ + e₂) = (m₁ * m₂ : Nat) := by
    rw [hvalue, zpow_add₀ two_ne_zero]
    push_cast
    field_simp
  exact hproduct ▸ stands_exact _

/-- **Quotients are rounded to the floating-point number between whose ends they lie.** -/
theorem div_eq {m₁ m₂ : Nat} {e₁ e₂ : Int} (h₁ : 0 < m₁) (h₂ : 0 < m₂) (hvalue : v = m₁ * 2 ^ e₁ / (m₂ * 2 ^ e₂)) :
    UnpackedFloat.div .binary64 (.finite .positive m₁ e₁ h₁) (.finite .positive m₂ e₂ h₂) = .finite .positive m q hm := by
  obtain ⟨t, ht⟩ : ∃ t, t = min (e₁ - e₂) (max (m₁.log2 + e₁ - (m₂.log2 + e₂) - 53) minExponent) := ⟨_, rfl⟩
  have htarget : min (e₁ - e₂) (Format.targetExponent .binary64 (totalExponent m₁ e₁ - totalExponent m₂ e₂)) = t := by
    have hleast : Format.minExponent .binary64 = minExponent := rfl
    have hbits : ((Format.mantissaBits .binary64 : Nat) : Int) = 53 := rfl
    rw [ht]
    unfold Format.targetExponent totalExponent
    rw [hleast, hbits]
    congr 2
    omega
  have hcore : divCore .binary64 m₁ e₁ m₂ e₂ =
      (m₁ * 2 ^ (e₁ - e₂ - t).toNat / m₂, t, accuracyOfFraction (m₁ * 2 ^ (e₁ - e₂ - t).toNat % m₂) m₂) := by
    unfold divCore
    rw [htarget]
    dsimp only
    rw [Nat.shiftLeft_eq]
  unfold UnpackedFloat.div
  simp only [hcore]
  refine roundWithAccuracy_eq hm hc hv ?_ ?_
  · have hquotient : v / 2 ^ t = (m₁ * 2 ^ (e₁ - e₂ - t).toNat : Nat) / (m₂ : ℚ) := by
      have hpower : (2 : ℚ) ^ (e₁ - e₂ - t).toNat = 2 ^ e₁ / 2 ^ e₂ / 2 ^ t := by
        rw [← zpow_sub₀ two_ne_zero, ← zpow_sub₀ two_ne_zero, ← zpow_natCast]
        congr 1
        omega
      push_cast
      rw [hvalue, hpower]
      field_simp
    exact hquotient ▸ stands_quotient _ h₂
  · by_cases hsmall : t ≤ minExponent
    · exact .inr hsmall
    · left
      -- the quotient of the leading bits leaves fifty-three bits
      obtain ⟨n, hn⟩ : ∃ n, (e₁ - e₂ - t).toNat + m₁.log2 = n + 53 + m₂.log2 := ⟨(e₁ - e₂ - t).toNat + m₁.log2 - 53 - m₂.log2, by omega⟩
      rw [Nat.le_div_iff_mul_le h₂]
      calc 2 ^ 52 * m₂ ≤ 2 ^ 52 * 2 ^ (m₂.log2 + 1) := Nat.mul_le_mul_left _ Nat.lt_log2_self.le
        _ ≤ 2 ^ (n + 53 + m₂.log2) := by
          rw [← Nat.pow_add]
          exact Nat.pow_le_pow_right two_pos (by omega)
        _ = 2 ^ m₁.log2 * 2 ^ (e₁ - e₂ - t).toNat := by rw [← hn, Nat.add_comm, Nat.pow_add]
        _ ≤ m₁ * 2 ^ (e₁ - e₂ - t).toNat := Nat.mul_le_mul_right _ (Nat.log2_self_le h₁.ne')

/-- **Whole numbers are rounded to the floating-point number between whose ends they lie.** -/
theorem ofNat_eq {n : Nat} (hn : 0 < n) (hvalue : v = n) : UnpackedFloat.ofNat .binary64 n = .finite .positive m q hm := by
  have hpositive : compare (n : Int) 0 = .gt := compare_gt_iff_gt.mpr (by exact_mod_cast hn)
  unfold UnpackedFloat.ofNat UnpackedFloat.ofInt UnpackedFloat.normalize
  rw [hpositive]
  dsimp only
  rw [Int.toNat_natCast]
  unfold UnpackedFloat.round decreaseExponent
  rw [targetExponent_eq]
  dsimp only
  have hself : 2 ^ n.log2 ≤ n := Nat.log2_self_le hn.ne'
  refine roundWithAccuracy_eq hm hc hv ?_ ?_
  · have hshifted : v / 2 ^ (0 - ((0 - target n 0).toNat : Int)) = (n <<< (0 - target n 0).toNat : Nat) := by
      rw [hvalue, Nat.shiftLeft_eq, zero_sub, zpow_neg, div_inv_eq_mul, zpow_natCast]
      push_cast
      rfl
    exact hshifted ▸ stands_exact _
  · left
    rw [Nat.shiftLeft_eq]
    by_cases hlog : 52 ≤ n.log2
    · calc 2 ^ 52 ≤ 2 ^ n.log2 := Nat.pow_le_pow_right two_pos hlog
        _ ≤ n := hself
        _ ≤ n * 2 ^ (0 - target n 0).toNat := Nat.le_mul_of_pos_right _ (Nat.two_pow_pos _)
    · have htarget : (0 - target n 0).toNat = 52 - n.log2 := by
        unfold target minExponent
        omega
      rw [htarget]
      calc 2 ^ 52 = 2 ^ n.log2 * 2 ^ (52 - n.log2) := by rw [← Nat.pow_add, Nat.add_sub_cancel' (by omega)]
        _ ≤ n * 2 ^ (52 - n.log2) := Nat.mul_le_mul_right _ hself

end Rounded

/-! ## Packing -/

section Packing

variable {s : Sign} {m : Nat} {q : Int} (hm : 0 < m)

theorem exponentBias_eq : ((Format.exponentBias .binary64 : Nat) : Int) = 1023 := rfl

theorem biasedExponent_eq {biased : Nat} (h : (biased : Int) = q + 1075) :
    (q + (Format.exponentBias .binary64 : Nat) + (52 : Nat)).toNat = biased := by
  rw [exponentBias_eq]
  omega

theorem unpackSign_packed (s : Sign) (c : BitVec 11) (d : BitVec 52) : unpackSign (packComponents .binary64 s c d) = s.toBitVec :=
  unpackSign_packComponents _ _ _

/-- A number that uses all its bits is packed with an exponent of its own. -/
theorem unpack_pack_full (hc : Canonical m q) (hfull : 2 ^ 52 ≤ m) (hq : q ≤ 971) :
    (Float.Model.pack (.finite s m q hm)).unpack = .finite s m q hm := by
  have hleast : -1074 ≤ q := hc.least
  have hfits := hc.fits
  obtain ⟨biased, hbiased⟩ : ∃ biased : Nat, (biased : Int) = q + 1075 := ⟨(q + 1075).toNat, by omega⟩
  have hlog : m.log2 = 52 := (Nat.log2_eq_iff hm.ne').mpr ⟨hfull, hfits⟩
  have hpacked : UnpackedFloat.pack .binary64 (.finite s m q hm) =
      packComponents .binary64 s (BitVec.ofNat 11 biased) (BitVec.ofNat 52 m) := by
    unfold UnpackedFloat.pack
    dsimp only
    rw [biasedExponent_eq hbiased, if_neg (by omega), if_pos (by rw [hlog]; rfl)]
  have hmantissa : (1#1 ++ unpackMantissa (packComponents .binary64 s (BitVec.ofNat 11 biased) (BitVec.ofNat 52 m))).toNat = m := by
    rw [toNat_append_unpackMantissa, ← toNat_unpackMantissa, unpackMantissa_packComponents, BitVec.toNat_ofNat]
    change 2 ^ 52 + m % 2 ^ 52 = m
    omega
  have hnumber : (BitVec.ofNat 11 biased).toNat = biased := by
    rw [BitVec.toNat_ofNat]
    omega
  have hspecial : BitVec.ofNat 11 biased ≠ -1#11 := fun h => by
    have hvalue := congrArg BitVec.toNat h
    rw [hnumber] at hvalue
    have hones : (-1#11 : BitVec 11).toNat = 2047 := rfl
    omega
  have hsubnormal : BitVec.ofNat 11 biased ≠ 0#11 := fun h => by
    have hvalue := congrArg BitVec.toNat h
    rw [hnumber] at hvalue
    have hzero : (0#11 : BitVec 11).toNat = 0 := rfl
    omega
  unfold Float.Model.unpack Float.Model.pack
  dsimp only
  rw [hpacked]
  unfold UnpackedFloat.unpack
  simp only [unpackExponent_packComponents, if_neg hspecial, if_neg hsubnormal, unpackSign_packed, Sign.ofBitVec_toBitVec, hmantissa, hnumber]
  congr 1
  rw [exponentBias_eq]
  omega

/-- A number that does not is packed with the exponent zero. -/
theorem unpack_pack_least (hsmall : m < 2 ^ 52) :
    (Float.Model.pack (.finite s m minExponent hm)).unpack = .finite s m minExponent hm := by
  have hlog : m.log2 < 52 := (Nat.log2_lt hm.ne').mpr hsmall
  have hpacked : UnpackedFloat.pack .binary64 (.finite s m minExponent hm) = packComponents .binary64 s 0#11 (BitVec.ofNat 52 m) := by
    have hbits : Format.mantissaBits .binary64 = 53 := rfl
    unfold UnpackedFloat.pack
    dsimp only
    rw [biasedExponent_eq (rfl : ((1 : Nat) : Int) = minExponent + 1075), if_neg (by decide), if_neg (by rw [hbits]; omega)]
  have hmantissa : (BitVec.ofNat 52 m).toNat = m := by
    rw [BitVec.toNat_ofNat]
    omega
  have hspecial : (0#11 : BitVec 11) ≠ -1#11 := by decide
  have hne : BitVec.ofNat 52 m ≠ 0#52 := fun h => by
    have hvalue := congrArg BitVec.toNat h
    rw [hmantissa] at hvalue
    exact hm.ne' hvalue
  unfold Float.Model.unpack Float.Model.pack
  dsimp only
  rw [hpacked]
  unfold UnpackedFloat.unpack
  simp only [unpackExponent_packComponents, unpackMantissa_packComponents, if_neg hspecial, if_true, dif_neg hne, unpackSign_packed,
    Sign.ofBitVec_toBitVec, hmantissa]
  congr 1

/-- **A packed number is unpacked as it was.** -/
theorem unpack_pack (hc : Canonical m q) (hq : q ≤ 971) : (Float.Model.pack (.finite s m q hm)).unpack = .finite s m q hm := by
  by_cases hfull : 2 ^ 52 ≤ m
  · exact unpack_pack_full hm hc hfull hq
  · obtain rfl : q = minExponent := Int.le_antisymm (Int.not_lt.mp fun h => hfull (hc.full h)) hc.least
    exact unpack_pack_least hm (Nat.not_le.mp hfull)

end Packing

/-- A number taken apart is unpacked so. -/
theorem unpack_of_finite {x : Float} {s : Bool} {m : Nat} {q : Int} (h : ofFloat x = .finite s m q) (hm : 0 < m) :
    Canonical m q ∧ x.toModel.unpack = .finite (sign s) m q hm := by
  have hagrees := agrees_unpack x
  rw [h] at hagrees
  generalize x.toModel.unpack = u at hagrees ⊢
  cases hagrees with
  | zero => exact absurd hm (Nat.lt_irrefl 0)
  | finite _ hc _ => exact ⟨hc, rfl⟩

theorem exponent_le_of_ofFloat {x : Float} {s : Bool} {m : Nat} {q : Int} (h : ofFloat x = .finite s m q) : q ≤ 971 := by
  unfold ofFloat at h
  dsimp only at h
  have hbiased : x.toBits.toNat / Nat.pow 2 52 % Nat.pow 2 11 < 2048 := Nat.mod_lt _ (by decide)
  split at h
  · split at h <;> cases h
  · next hspecial =>
    split at h
    · cases h
      decide
    · cases h
      have hne : x.toBits.toNat / Nat.pow 2 52 % Nat.pow 2 11 ≠ 2047 := fun h => hspecial (beq_iff_eq.mpr h)
      omega

/-- A number is packed as it was unpacked. -/
theorem ofModel_pack_unpack (x : Float) : Float.ofModel (.pack x.toModel.unpack) = x :=
  Float.toBits_inj.mp (UInt64.toBitVec_inj.mp (pack_unpack_of_valid x.toModel.valid))

end Binary

end ScriptFlow
