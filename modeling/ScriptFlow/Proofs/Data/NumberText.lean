import Mathlib
import ScriptFlow.Decimal.Text
import ScriptFlow.Proofs.Data.JsonText
import ScriptFlow.Proofs.Decimal.Digits

/-!
# Reading back numbers with a point or an exponent

The digits of a number are laid out with zeros around them, a point among them, or an exponent behind them; a reader gathers them again.

* `Json.Figures` — characters that are read as a number with a point or an exponent, and the digits that are gathered from them.
* `Json.figures_layout` — the layout of digits has the value of the digits.
* `Json.numberAt_shortestText` — **the shortest text of a finite number is read as the number**.
-/

namespace ScriptFlow.Json

open NumberFormat

/-! ## Digits -/

theorem digitsOf_digit {k : Nat} : ∀ c ∈ digitsOf k, c.isDigit = true := fun _ => toDigits_digit

theorem digitsOf_ne_nil (k : Nat) : digitsOf k ≠ [] := Nat.toDigits_ne_nil

theorem natOfDigits_digitsOf (k : Nat) : natOfDigits (digitsOf k) = k := natOfDigits_toDigits k

theorem natOfDigits_append_zeros (cs : List Char) (k : Nat) : natOfDigits (cs ++ List.replicate k '0') = natOfDigits cs * 10 ^ k := by
  induction k with
  | zero => rw [List.replicate_zero, List.append_nil, Nat.pow_zero, Nat.mul_one]
  | succ k ih =>
    rw [List.replicate_succ', ← List.append_assoc, natOfDigits, List.foldl_append, ← natOfDigits, ih, Nat.pow_succ, ← Nat.mul_assoc, Nat.mul_comm _ 10]
    rfl

theorem natOfDigits_zeros_append (k : Nat) (cs : List Char) : natOfDigits (List.replicate k '0' ++ cs) = natOfDigits cs := by
  induction k with
  | zero => rfl
  | succ k ih => exact ih

theorem wholeDigits_of_digits {cs : List Char} (h : ∀ c ∈ cs, c.isDigit = true) (hhead : cs.head? ≠ some '0') : wholeDigits cs = cs := by
  unfold wholeDigits
  split
  · exact absurd rfl hhead
  · exact List.takeWhile_eq_self_iff.mpr h

/-- An exponent is read as it was written. -/
theorem readExponent_exponentText (width : Nat) (e : Int) : readExponent ('e' :: exponentText width e) = (e, []) := by
  have hdigits : ∀ c ∈ zeroPad width (digitsOf e.natAbs), c.isDigit = true := fun c hc => by
    rcases List.mem_append.mp hc with hc | hc
    · rw [List.eq_of_mem_replicate hc]
      rfl
    · exact digitsOf_digit c hc
  have hspan : spanDigits (zeroPad width (digitsOf e.natAbs)) = (zeroPad width (digitsOf e.natAbs), []) :=
    Prod.ext (List.takeWhile_eq_self_iff.mpr hdigits) (List.dropWhile_eq_nil_iff.mpr hdigits)
  have hne : (zeroPad width (digitsOf e.natAbs)).isEmpty = false := by
    rw [zeroPad, List.isEmpty_eq_false_iff]
    exact List.append_ne_nil_of_right_ne_nil _ (digitsOf_ne_nil _)
  have hvalue : natOfDigits (zeroPad width (digitsOf e.natAbs)) = e.natAbs := by
    rw [zeroPad, natOfDigits_zeros_append, natOfDigits_digitsOf]
  have hsign : spanSign (exponentText width e) = (decide (e < 0), zeroPad width (digitsOf e.natAbs)) := by
    unfold exponentText
    by_cases he : e < 0
    · simp [he, spanSign]
    · simp [he, spanSign]
  unfold readExponent
  simp only [beq_self_eq_true, Bool.true_or, if_true, hsign, hspan, hne, Bool.false_eq_true, if_false, hvalue]
  refine Prod.ext ?_ rfl
  unfold Binary.signOf
  split
  · next he =>
    have hneg := decide_eq_true_iff.mp he
    change -1 * (e.natAbs : Int) = e
    omega
  · next he =>
    have hnonneg := mt decide_eq_true_iff.mpr he
    change 1 * (e.natAbs : Int) = e
    omega

/-! ## Figures -/

/-- What may stand behind the digits of a number: nothing, or an exponent. -/
inductive Mark : List Char → Int → Prop where
  | none : Mark [] 0
  | exponent (width : Nat) (e : Int) : Mark ('e' :: exponentText width e) e

theorem Mark.read {mark : List Char} {e : Int} (h : Mark mark e) : readExponent mark = (e, []) := by
  cases h with
  | none => rfl
  | exponent => exact readExponent_exponentText _ _

theorem Mark.head {mark : List Char} {e : Int} (h : Mark mark e) : ∀ c ∈ mark.head?, c = 'e' := by
  intro c hc
  cases h with
  | none => cases hc
  | exponent => exact (Option.some.inj hc).symm

/-- The point and the digits behind it, if there are any. -/
def pointed (fraction : List Char) : List Char := if fraction.isEmpty then [] else '.' :: fraction

/-- Characters that are read as a number with a point or an exponent, and the digits that are gathered from them. -/
inductive Figures : List Char → Numeral → Prop where
  | mk {whole fraction mark : List Char} {e : Int} (stays : wholeDigits whole = whole) (some : whole ≠ []) (digits : ∀ c ∈ whole, c.isDigit = true)
      (decimals : ∀ c ∈ fraction, c.isDigit = true) (marked : Mark mark e) (floats : fraction ≠ [] ∨ mark ≠ []) :
      Figures (whole ++ (pointed fraction ++ mark)) ⟨natOfDigits (whole ++ fraction), e - fraction.length⟩

section Parts

variable {fraction mark : List Char} {e : Int} (hdecimals : ∀ c ∈ fraction, c.isDigit = true) (hmark : Mark mark e)

include hmark

/-- What stands behind the whole part does not go on with digits. -/
theorem pointed_not_digit : ∀ c ∈ (pointed fraction ++ mark).head?, c.isDigit = false := by
  intro c hc
  unfold pointed at hc
  split at hc
  · rw [hmark.head c hc]
    rfl
  · obtain rfl := Option.some.inj hc
    rfl

include hdecimals

theorem fractionDigits_pointed : fractionDigits (pointed fraction ++ mark) = fraction := by
  have hmarkDigit : ∀ c ∈ mark.head?, c.isDigit = false := fun c hc => by
    rw [hmark.head c hc]
    rfl
  unfold pointed
  split
  · next hempty =>
    rw [List.isEmpty_iff.mp hempty, List.nil_append]
    cases hmark <;> rfl
  · change (fraction ++ mark).takeWhile Char.isDigit = fraction
    rw [takeWhile_append_of_closed hmarkDigit, List.takeWhile_eq_self_iff.mpr hdecimals]

theorem fractionWidth_pointed : fractionWidth (pointed fraction ++ mark) = (pointed fraction).length := by
  rw [fractionWidth, fractionDigits_pointed hdecimals hmark, pointed]
  split <;> rfl

end Parts

/-- **A number with a point or an exponent is read with the digits that are gathered from it.** -/
theorem numberAt_figures {cs : List Char} {n : Numeral} (h : Figures cs n) (negative : Bool) :
    numberAt ⟨0, (if negative then ['-'] else []) ++ cs⟩ =
      .ok (.float (withSign negative n.toFloat), ⟨((if negative then ['-'] else []) ++ cs).length, []⟩) := by
  obtain @⟨whole, fraction, mark, e, hstays, hne, hdigits, hdecimals, hmark, hfloats⟩ := h
  obtain ⟨text, htext⟩ : ∃ text, text = (if negative then ['-'] else []) ++ (whole ++ (pointed fraction ++ mark)) := ⟨_, rfl⟩
  have hsign : (text.head? == some '-') = negative := by
    rw [htext]
    cases negative with
    | true => rfl
    | false =>
      obtain ⟨d, rest, rfl⟩ := List.exists_cons_of_ne_nil hne
      have hd : d ≠ '-' := (ne_of_isDigit (x := '-') rfl (hdigits d (.head _))).symm
      simpa using hd
  have hbody : NumberParts.body text = whole ++ (pointed fraction ++ mark) := by
    rw [NumberParts.body, hsign, htext]
    cases negative <;> rfl
  have hwhole : wholeDigits (NumberParts.body text) = whole := by
    rw [hbody, wholeDigits_append (pointed_not_digit hmark), hstays]
  have hbehind : NumberParts.behindWhole text = pointed fraction ++ mark := by
    rw [NumberParts.behindWhole, hwhole, hbody, List.drop_left]
  have hfraction : NumberParts.behindFraction text = mark := by
    rw [NumberParts.behindFraction, hbehind, fractionWidth_pointed hdecimals hmark, List.drop_left]
  have hparts : NumberParts.of text = ⟨negative, whole, fraction, (pointed fraction).length, e, mark.length⟩ := by
    unfold NumberParts.of
    rw [hsign, hwhole, hbehind, hfraction, hmark.read, fractionDigits_pointed hdecimals hmark, fractionWidth_pointed hdecimals hmark]
    rfl
  have hwidth : (if negative then 1 else 0) + whole.length + (pointed fraction).length + mark.length = text.length := by
    rw [htext]
    cases negative <;> simp <;> omega
  have hvalue : (NumberParts.of text).value =
      .ok (.float (withSign negative (Numeral.toFloat ⟨natOfDigits (whole ++ fraction), e - fraction.length⟩))) := by
    have hfloat : ¬ ((pointed fraction).length == 0 && mark.length == 0) = true := by
      rw [Bool.and_eq_true, beq_iff_eq, beq_iff_eq]
      rintro ⟨hpointed, hlength⟩
      rcases hfloats with hsome | hsome
      · rw [pointed, if_neg (by simpa using hsome)] at hpointed
        cases hpointed
      · exact hsome (List.eq_nil_of_length_eq_zero hlength)
    rw [hparts, NumberParts.value, if_neg hfloat]
  rw [← htext, numberAt_eq]
  dsimp only
  rw [hvalue, hparts, if_neg (by simpa using hne), NumberParts.width]
  dsimp only
  rw [hwidth, Except.map, Cursor.advance, List.drop_length, Nat.zero_add]

/-! ## Layouts -/

section Layout

variable {n : Numeral} (hn : 0 < n.digits)

include hn

theorem digitsOf_head : (digitsOf n.digits).head? ≠ some '0' := fun h => hn.ne' (toDigits_head _ h)

/-- An exponent behind the digits: the first of them stands in front of the point. -/
theorem figures_marked (width : Nat) :
    Figures (pointAfterFirst (digitsOf n.digits) ++ 'e' :: exponentText width (n.exponent + (digitsOf n.digits).length - 1)) n := by
  obtain ⟨d, rest, hds⟩ := List.exists_cons_of_ne_nil (digitsOf_ne_nil n.digits)
  have hdigits := digitsOf_digit (k := n.digits)
  have hhead := digitsOf_head hn
  rw [hds] at hdigits hhead
  have hpoint : pointAfterFirst (digitsOf n.digits) = [d] ++ pointed rest := by
    rw [hds]
    cases rest <;> rfl
  have hvalue : natOfDigits ([d] ++ rest) = n.digits := by
    rw [List.singleton_append, ← hds, natOfDigits_digitsOf]
  have hfigures : Figures ([d] ++ (pointed rest ++ 'e' :: exponentText width (n.exponent + (digitsOf n.digits).length - 1)))
      ⟨natOfDigits ([d] ++ rest), n.exponent + (digitsOf n.digits).length - 1 - rest.length⟩ := by
    refine .mk (wholeDigits_of_digits ?_ hhead) (List.cons_ne_nil _ _) ?_ (fun c hc => hdigits c (.tail _ hc)) (.exponent _ _) (.inr (List.cons_ne_nil _ _))
    · exact fun c hc => List.mem_singleton.mp hc ▸ hdigits d (.head _)
    · exact fun c hc => List.mem_singleton.mp hc ▸ hdigits d (.head _)
  have hexponent : n.exponent + (digitsOf n.digits).length - 1 - rest.length = n.exponent := by
    rw [hds, List.length_cons]
    omega
  rw [hvalue, hexponent] at hfigures
  rw [hpoint, List.append_assoc]
  exact hfigures

omit hn in
/-- Zeros in front of the digits. -/
theorem figures_small {e : Int} (he : e = n.exponent + (digitsOf n.digits).length - 1) (hneg : e < 0) :
    Figures ('0' :: '.' :: (List.replicate (-e - 1).toNat '0' ++ digitsOf n.digits)) n := by
  have hne : List.replicate (-e - 1).toNat '0' ++ digitsOf n.digits ≠ [] := List.append_ne_nil_of_right_ne_nil _ (digitsOf_ne_nil _)
  have hpointed : pointed (List.replicate (-e - 1).toNat '0' ++ digitsOf n.digits) = '.' :: (List.replicate (-e - 1).toNat '0' ++ digitsOf n.digits) := by
    rw [pointed, if_neg (by simpa using hne)]
  have hvalue : natOfDigits (['0'] ++ (List.replicate (-e - 1).toNat '0' ++ digitsOf n.digits)) = n.digits := by
    rw [← List.append_assoc, ← List.replicate_one, List.replicate_append_replicate, natOfDigits_zeros_append, natOfDigits_digitsOf]
  have hfigures : Figures (['0'] ++ (pointed (List.replicate (-e - 1).toNat '0' ++ digitsOf n.digits) ++ []))
      ⟨natOfDigits (['0'] ++ (List.replicate (-e - 1).toNat '0' ++ digitsOf n.digits)),
        0 - ((List.replicate (-e - 1).toNat '0' ++ digitsOf n.digits).length : Nat)⟩ := by
    refine .mk rfl (List.cons_ne_nil _ _) ?_ ?_ .none (.inl hne)
    · exact fun c hc => List.mem_singleton.mp hc ▸ rfl
    · intro c hc
      rcases List.mem_append.mp hc with hc | hc
      · rw [List.eq_of_mem_replicate hc]
        rfl
      · exact digitsOf_digit c hc
  have hexponent : 0 - ((List.replicate (-e - 1).toNat '0' ++ digitsOf n.digits).length : Int) = n.exponent := by
    rw [List.length_append, List.length_replicate]
    omega
  rw [hvalue, hexponent, hpointed, List.append_nil] at hfigures
  exact hfigures

/-- Zeros behind the digits, and one behind the point. -/
theorem figures_whole (k : Nat) : Figures (digitsOf n.digits ++ List.replicate k '0' ++ ['.', '0']) ⟨n.digits * 10 ^ (k + 1), -1⟩ := by
  have hdigits : ∀ c ∈ digitsOf n.digits ++ List.replicate k '0', c.isDigit = true := fun c hc => by
    rcases List.mem_append.mp hc with hc | hc
    · exact digitsOf_digit c hc
    · rw [List.eq_of_mem_replicate hc]
      rfl
  have hhead : (digitsOf n.digits ++ List.replicate k '0').head? ≠ some '0' := by
    rw [List.head?_append_of_ne_nil _ (digitsOf_ne_nil _)]
    exact digitsOf_head hn
  have hvalue : natOfDigits (digitsOf n.digits ++ List.replicate k '0' ++ ['0']) = n.digits * 10 ^ (k + 1) := by
    rw [List.append_assoc, ← List.replicate_succ', natOfDigits_append_zeros, natOfDigits_digitsOf]
  have hfigures : Figures (digitsOf n.digits ++ List.replicate k '0' ++ (pointed ['0'] ++ []))
      ⟨natOfDigits (digitsOf n.digits ++ List.replicate k '0' ++ ['0']), 0 - (['0'] : List Char).length⟩ :=
    .mk (wholeDigits_of_digits hdigits hhead) (List.append_ne_nil_of_left_ne_nil (digitsOf_ne_nil _) _) hdigits
      (fun c hc => List.mem_singleton.mp hc ▸ rfl) .none (.inl (List.cons_ne_nil _ _))
  rw [hvalue] at hfigures
  exact hfigures

/-- The point among the digits. -/
theorem figures_split {k : Nat} (hpos : 0 < k) (hk : k < (digitsOf n.digits).length) (he : n.exponent = k - (digitsOf n.digits).length) :
    Figures ((digitsOf n.digits).take k ++ '.' :: (digitsOf n.digits).drop k) n := by
  have htake : (digitsOf n.digits).take k ≠ [] := by
    rw [ne_eq, List.take_eq_nil_iff]
    rintro (hzero | hnil)
    · omega
    · exact digitsOf_ne_nil _ hnil
  have hdrop : (digitsOf n.digits).drop k ≠ [] := by
    rw [ne_eq, List.drop_eq_nil_iff]
    omega
  have hdigits : ∀ c ∈ (digitsOf n.digits).take k, c.isDigit = true := fun c hc => digitsOf_digit c (List.mem_of_mem_take hc)
  have hhead : ((digitsOf n.digits).take k).head? ≠ some '0' := by
    rw [List.head?_take, if_neg hpos.ne']
    exact digitsOf_head hn
  have hfigures : Figures ((digitsOf n.digits).take k ++ (pointed ((digitsOf n.digits).drop k) ++ []))
      ⟨natOfDigits ((digitsOf n.digits).take k ++ (digitsOf n.digits).drop k), 0 - ((digitsOf n.digits).drop k).length⟩ :=
    .mk (wholeDigits_of_digits hdigits hhead) htake hdigits (fun c hc => digitsOf_digit c (List.mem_of_mem_drop hc)) .none (.inl hdrop)
  have hexponent : 0 - (((digitsOf n.digits).drop k).length : Int) = n.exponent := by
    rw [List.length_drop, he]
    omega
  rw [List.take_append_drop, hexponent, List.append_nil, pointed, if_neg (by simpa using hdrop), natOfDigits_digitsOf] at hfigures
  exact hfigures

/-- **The layout of digits has their value.** -/
theorem figures_layout {f : NumberFormat} (hf : f.keepsPoint = true) : ∃ n', Figures (f.layout n) n' ∧ n'.value = n.value := by
  have hlength : 0 < (digitsOf n.digits).length := Nat.length_toDigits_pos
  unfold layout
  rw [if_neg (by simpa using hn.ne')]
  split
  · exact ⟨n, figures_marked hn _, rfl⟩
  rw [hf]
  unfold positional
  split
  · next hneg => exact ⟨n, figures_small rfl hneg, rfl⟩
  · next hnonneg =>
    dsimp only
    split
    · next hshort =>
      obtain ⟨k, hk⟩ : ∃ k : Nat, n.exponent = k := ⟨n.exponent.toNat, by omega⟩
      have hzeros : (n.exponent + (digitsOf n.digits).length - 1).toNat + 1 - (digitsOf n.digits).length = k := by omega
      refine ⟨_, by rw [hzeros]; exact figures_whole hn k, ?_⟩
      rw [Numeral.value, Numeral.value, hk, zpow_natCast, zpow_neg_one]
      push_cast
      rw [pow_succ]
      field_simp
    · next hlong => exact ⟨n, figures_split hn (Nat.succ_pos _) (by omega) (by omega), rfl⟩

end Layout

/-- **The shortest text of a finite number is read as the number.** -/
theorem numberAt_shortestText {x : Float} (h : x.isFinite = true) :
    numberAt ⟨0, (Float.shortestText interchangeNumber x).toList⟩ =
      .ok (.float x, ⟨(Float.shortestText interchangeNumber x).toList.length, []⟩) := by
  obtain ⟨s, m, q, hx⟩ := Binary.exists_finite h
  have htext : (Float.shortestText interchangeNumber x).toList =
      (if s then ['-'] else []) ++ interchangeNumber.layout (Numeral.shortest m q) := by
    rw [Float.shortestText, hx, NumberFormat.write, String.toList_append, String.toList_ofList]
    cases s <;> rfl
  rw [htext]
  rcases Nat.eq_zero_or_pos m with rfl | hm
  · have hdigits : ∀ c ∈ ['0'], c.isDigit = true := fun c hc => List.mem_singleton.mp hc ▸ rfl
    have hfigures : Figures (['0'] ++ (pointed ['0'] ++ [])) ⟨natOfDigits (['0'] ++ ['0']), 0 - (['0'] : List Char).length⟩ :=
      .mk rfl (List.cons_ne_nil _ _) hdigits hdigits .none (.inl (List.cons_ne_nil _ _))
    have hzero : Figures (interchangeNumber.layout (Numeral.shortest 0 q)) ⟨0, -1⟩ := hfigures
    rw [numberAt_figures hzero s, Binary.withSign_zero hx]
  · obtain ⟨hc, -⟩ := Binary.unpack_of_finite hx hm
    have hrounds := Numeral.rounds_shortest hm hc
    obtain ⟨n, hfigures, hvalue⟩ := figures_layout (Numeral.digits_pos_of_rounds hm hrounds) (rfl : interchangeNumber.keepsPoint = true)
    rw [numberAt_figures hfigures s, Binary.withSign_toFloat hx hm (hvalue ▸ hrounds)]

end ScriptFlow.Json
