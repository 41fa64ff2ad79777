import ScriptFlow.Decimal.Shortest

/-!
# Decimal text of numbers

A `NumberFormat` record holds the decisions of one output form: where positional notation ends,
whether a whole number keeps a point, and the texts of the values that are no numbers. The digits
come from `ScriptFlow.Decimal.Shortest`.
-/

namespace ScriptFlow

/-- The decisions of one way to write floating-point numbers. -/
structure NumberFormat where
  /-- the least decimal exponent written positionally -/
  positionalFrom : Int := -4
  /-- the first decimal exponent written with an exponent mark -/
  exponentFrom : Int := 16
  /-- does a whole number written positionally end in `.0`? -/
  keepsPoint : Bool := true
  /-- least count of exponent digits -/
  exponentWidth : Nat := 2
  infinity : String := "inf"
  nan : String := "nan"

namespace NumberFormat

/-- Decimal digits of a natural number. -/
def digitsOf (n : Nat) : List Char := Nat.toDigits 10 n

/-- Pads with zeros on the left up to a width. -/
def zeroPad (width : Nat) (cs : List Char) : List Char := List.replicate (width - cs.length) '0' ++ cs

/-- A signed exponent of at least `width` digits. -/
def exponentText (width : Nat) (e : Int) : List Char :=
  (if e < 0 then '-' else '+') :: zeroPad width (digitsOf e.natAbs)

/-- Digits with the decimal point after the first one. -/
def pointAfterFirst : List Char → List Char
  | [] => []
  | [d] => [d]
  | d :: rest => d :: '.' :: rest

/-- Writes digits whose first one has weight `10 ^ e` positionally. -/
def positional (keepsPoint : Bool) (ds : List Char) (e : Int) : List Char :=
  if e < 0 then '0' :: '.' :: (List.replicate (-e - 1).toNat '0' ++ ds)
  else
    let whole := e.toNat + 1
    if ds.length ≤ whole then
      ds ++ List.replicate (whole - ds.length) '0' ++ (if keepsPoint then ['.', '0'] else [])
    else ds.take whole ++ '.' :: ds.drop whole

/-- Writes a numeral in the given form. -/
def layout (f : NumberFormat) (n : Numeral) : List Char :=
  let ds := digitsOf n.digits
  let e := n.exponent + ds.length - 1
  if n.digits == 0 then positional f.keepsPoint ['0'] 0
  else if e < f.positionalFrom || f.exponentFrom ≤ e then
    pointAfterFirst ds ++ 'e' :: exponentText f.exponentWidth e
  else positional f.keepsPoint ds e

/-- Writes a taken-apart number with the digits that `pick` gives. -/
def write (f : NumberFormat) (pick : Nat → Int → Numeral) : Binary → String
  | .nan => f.nan
  | .infinite negative => (if negative then "-" else "") ++ f.infinity
  | .finite negative m q =>
    (if negative then "-" else "") ++ String.ofList (f.layout (pick m q))

end NumberFormat

/-- Floating-point numbers in plain data: the shortest digits that read back, positional from `1e-04` to
below `1e+16`, always with a point or an exponent. -/
def dataNumber : NumberFormat := {}

/-- Floating-point numbers in interchange text: as in plain data, with the words that denote infinity and
the missing number spelled out. -/
def interchangeNumber : NumberFormat := { infinity := "Infinity", nan := "NaN" }

/-- The shortest text of a number in the given form. -/
def Float.shortestText (f : NumberFormat) (x : Float) : String :=
  f.write Numeral.shortest (Binary.ofFloat x)

/-- Numbers of scripts: fourteen significant digits without zeros at the end. -/
def scriptNumber : NumberFormat := { exponentFrom := 14, keepsPoint := false, nan := "-nan" }

/-- The text of a number with `n` significant digits in the given form, zeros at the end dropped. -/
def Float.roundedText (f : NumberFormat) (n : Nat) (x : Float) : String :=
  f.write (fun m q => (Numeral.rounded m q n).normalize) (Binary.ofFloat x)

example : Float.shortestText dataNumber 0.1 = "0.1" := by decide +kernel
example : Float.shortestText dataNumber 1e16 = "1e+16" := by decide +kernel
example : Float.shortestText dataNumber 123456789012345680.0 = "1.2345678901234568e+17" := by decide +kernel
example : Float.shortestText dataNumber 0.00001 = "1e-05" := by decide +kernel
example : Float.shortestText dataNumber (-0.0) = "-0.0" := by decide +kernel
example : Float.roundedText scriptNumber 14 3.141592653589793 = "3.1415926535898" := by decide +kernel

end ScriptFlow
