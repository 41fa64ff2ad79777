/-!
# Binary floating-point numbers and their decimal digits

A finite binary64 number is `± significand · 2 ^ exponent` with a natural significand. Everything that
prints or compares such numbers exactly works on that form.

* `Binary.ofFloat` takes a number apart;
* `Binary.scaled` is the number in units of the smallest positive one, so that the order of finite
  numbers is the order of integers.
* `Numeral.shortest` — the fewest digits that read back as the same binary64 number; among those
  the nearest, a tie going to the even last digit.
* `Numeral.rounded` — a given count of significant digits of the exact value.
* `Numeral.places` — a given count of digits after the point of the exact value.

All three decide by exact arithmetic on natural numbers. The reals that round to `m · 2 ^ q` form an
interval whose ends belong to it when `m` is even; if some decimal with `n` digits lies in it, then so
does one of the two neighbours of the value on that decimal grid, hence only those are tried.
-/

namespace ScriptFlow

/-! ## Binary numbers -/

/-- A binary64 number taken apart. -/
inductive Binary where
  | nan
  | infinite (negative : Bool)
  | finite (negative : Bool) (significand : Nat) (exponent : Int)
  deriving DecidableEq, Repr, Inhabited

namespace Binary

/-- Exponent of the smallest positive binary64 number. -/
def minExponent : Int := -1074

/-- Sign, significand and exponent of a binary64 number. -/
def ofFloat (x : Float) : Binary :=
  let bits : Nat := x.toBits.toNat
  let negative := bits / Nat.pow 2 63 == 1
  let biased : Nat := bits / Nat.pow 2 52 % Nat.pow 2 11
  let fraction : Nat := bits % Nat.pow 2 52
  if biased == 2047 then
    if fraction == 0 then .infinite negative else .nan
  else if biased == 0 then .finite negative fraction minExponent
  else .finite negative (Nat.pow 2 52 + fraction) ((biased : Int) - 1075)

/-- Minus one or one. -/
def signOf (negative : Bool) : Int := if negative then -1 else 1

/-- A finite number counted in units of the smallest positive one. -/
def scaled (negative : Bool) (significand : Nat) (exponent : Int) : Int :=
  signOf negative * (significand * Nat.pow 2 (exponent - minExponent).toNat : Nat)

/-- The whole number that a finite value denotes, if it denotes one. -/
def toInt? (negative : Bool) (significand : Nat) (exponent : Int) : Option Int :=
  if 0 ≤ exponent then some (signOf negative * (significand * Nat.pow 2 exponent.toNat : Nat))
  else
    let unit := Nat.pow 2 (-exponent).toNat
    if significand % unit == 0 then some (signOf negative * (significand / unit : Nat)) else none

/-- The largest whole number not above a finite value. -/
def floor (negative : Bool) (significand : Nat) (exponent : Int) : Int :=
  let signed := signOf negative * (significand : Int)
  if 0 ≤ exponent then signed * Nat.pow 2 exponent.toNat else signed.fdiv (Nat.pow 2 (-exponent).toNat)

/-- The whole part of a finite value, cut towards zero. -/
def truncate (negative : Bool) (significand : Nat) (exponent : Int) : Int :=
  let magnitude : Nat := if 0 ≤ exponent then significand * Nat.pow 2 exponent.toNat else significand / Nat.pow 2 (-exponent).toNat
  signOf negative * (magnitude : Int)

end Binary

/-- The exact whole number a floating-point number denotes, if it denotes one. -/
def Float.exactInt? (x : Float) : Option Int :=
  match Binary.ofFloat x with
  | .finite s m e => Binary.toInt? s m e
  | _ => none

/-- Nearest whole quotient, a half going to the even neighbour. -/
def roundHalfEven (num den : Nat) : Nat :=
  let q := num / den
  let twice := 2 * (num % den)
  if twice < den then q else if den < twice then q + 1 else if q % 2 == 0 then q else q + 1

/-- Nearest whole quotient of a signed number, a half going to the even neighbour. -/
def roundHalfEvenInt (num : Int) (den : Nat) : Int :=
  Binary.signOf (num < 0) * (roundHalfEven num.natAbs den : Int)

/-! ## Digits -/

/-- The nonnegative decimal number `digits · 10 ^ exponent`. -/
structure Numeral where
  digits : Nat
  exponent : Int
  deriving DecidableEq, Repr, Inhabited

namespace Numeral

/-- Count of decimal digits of a natural number; zero has one. -/
def length (n : Nat) : Nat := (Nat.toDigits 10 n).length

/-- `num · 10 ^ -e` as a fraction of natural numbers, for `num / den`. -/
def shiftTen (num den : Nat) (e : Int) : Nat × Nat :=
  if 0 ≤ e then (num, den * Nat.pow 10 e.toNat) else (num * Nat.pow 10 (-e).toNat, den)

/-- The integer `k` with `10 ^ k ≤ num / den < 10 ^ (k + 1)`, for positive `num` and `den`. -/
def magnitude (num den : Nat) : Int :=
  if den ≤ num then (length (num / den) : Int) - 1
  else 0 - (length ((den + num - 1) / num - 1) : Int)

/-- Drops zeros at the end of the digits; `fuel` bounds their number. -/
def trim (fuel : Nat) (n : Numeral) : Numeral :=
  match fuel with
  | 0 => n
  | fuel + 1 => if n.digits != 0 && n.digits % 10 == 0 then trim fuel ⟨n.digits / 10, n.exponent + 1⟩ else n

/-- The same number without zeros at the end of its digits. -/
def normalize (n : Numeral) : Numeral := trim (length n.digits) n

/-- The value and the ends of its rounding interval in quarter units, over a common denominator. -/
structure Interval where
  value : Nat
  low : Nat
  high : Nat
  den : Nat
  closed : Bool

/-- The reals that round to `m · 2 ^ q`. Below a power of two the gap is half as wide. -/
def interval (m : Nat) (q : Int) : Interval :=
  let up := Nat.pow 2 (q - 2).toNat
  let low := if m == Nat.pow 2 52 && q != Binary.minExponent then 4 * m - 1 else 4 * m - 2
  ⟨4 * m * up, low * up, (4 * m + 2) * up, Nat.pow 2 (2 - q).toNat, m % 2 == 0⟩

/-- Is `c · 10 ^ e` inside the interval? -/
def Interval.contains (i : Interval) (c : Nat) (e : Int) : Bool :=
  let (p, s) := if 0 ≤ e then (c * Nat.pow 10 e.toNat * i.den, 1) else (c * i.den, Nat.pow 10 (-e).toNat)
  if i.closed then decide (i.low * s ≤ p) && decide (p ≤ i.high * s) else decide (i.low * s < p) && decide (p < i.high * s)

/-- The nearest numeral with exponent `e` inside the interval, if there is one. -/
def Interval.nearest? (i : Interval) (e : Int) : Option Nat :=
  let (num, den) := shiftTen i.value i.den e
  let below := num / den
  let near := roundHalfEven num den
  if i.contains near e then some near
  else if i.contains below e then some below
  else if i.contains (below + 1) e then some (below + 1)
  else none

/-- Tries digit counts from `n` on, `fuel` of them. -/
def shortestFrom (i : Interval) (k : Int) (n fuel : Nat) : Numeral :=
  let e := k - n + 1
  match fuel with
  | 0 => ⟨i.value / i.den, 0⟩
  | fuel + 1 =>
    match i.nearest? e with
    | some c => ⟨c, e⟩
    | none => shortestFrom i k (n + 1) fuel

/-- The fewest digits that read back as `m · 2 ^ q`; seventeen always suffice. -/
def shortest (m : Nat) (q : Int) : Numeral :=
  if m == 0 then ⟨0, 0⟩
  else
    let i := interval m q
    normalize (shortestFrom i (magnitude i.value i.den) 1 17)

/-- `m · 2 ^ q` as a fraction. -/
def fraction (m : Nat) (q : Int) : Nat × Nat := (m * Nat.pow 2 q.toNat, Nat.pow 2 (-q).toNat)

/-- `n` significant digits of `m · 2 ^ q`, a tie going to the even last digit. -/
def rounded (m : Nat) (q : Int) (n : Nat) : Numeral :=
  if m == 0 then ⟨0, 0⟩
  else
    let (num, den) := fraction m q
    let e := magnitude num den - n + 1
    let (num', den') := shiftTen num den e
    let c := roundHalfEven num' den'
    if length c > n then ⟨c / 10, e + 1⟩ else ⟨c, e⟩

/-- `m · 2 ^ q` in units of `10 ^ -n`, a tie going to the even last digit. -/
def places (m : Nat) (q : Int) (n : Nat) : Nat :=
  let (num, den) := fraction m q
  roundHalfEven (num * Nat.pow 10 n) den

end Numeral

end ScriptFlow
