import ScriptFlow.Decimal.Shortest
import ScriptFlow.Text.Ranges

/-!
# Reading decimal numbers

* `Numeral.toFloat` — the binary64 number nearest to a decimal one.
* `readDecimal` — digits with an optional point and an optional exponent at the front of a text.
* `Text.int?`, `Text.float?` — whole and floating-point numbers as people write them: blanks around, a sign, digits of
  any script, single underscores between digits.
-/

namespace ScriptFlow

/-- The value of a run of decimal digits. -/
def natOfDigits (cs : List Char) : Nat := cs.foldl (fun n c => 10 * n + (c.toNat - 48)) 0

/-- The nearest binary64 number. Far outside of the range of such numbers the answer is known from the size alone. -/
def Numeral.toFloat (n : Numeral) : Float :=
  let size := n.exponent + Numeral.length n.digits
  if n.digits == 0 || size < -400 then 0.0
  else if size > 400 then 1.0 / 0.0
  else Float.ofScientific n.digits (n.exponent < 0) n.exponent.natAbs

/-- The ASCII digits at the front, and the rest. -/
def spanDigits (cs : List Char) : List Char × List Char := (cs.takeWhile Char.isDigit, cs.dropWhile Char.isDigit)

/-- An optional sign at the front: is it a minus, and the rest. -/
def spanSign : List Char → Bool × List Char
  | '-' :: rest => (true, rest)
  | '+' :: rest => (false, rest)
  | rest => (false, rest)

/-- An exponent at the front, if a complete one stands there. -/
def readExponent : List Char → Int × List Char
  | c :: rest =>
    if c == 'e' || c == 'E' then
      let (negative, after) := spanSign rest
      let (ds, tail) := spanDigits after
      if ds.isEmpty then (0, c :: rest)
      else (Binary.signOf negative * (natOfDigits ds : Int), tail)
    else (0, c :: rest)
  | [] => (0, [])

/-- Digits with an optional point and an optional exponent; at least one digit stands before or after the point. -/
def readDecimal (cs : List Char) : Option (Numeral × List Char) :=
  let (whole, rest) := spanDigits cs
  let (fraction, rest) := match rest with
    | '.' :: after => spanDigits after
    | _ => ([], rest)
  if whole.isEmpty && fraction.isEmpty then none
  else
    let (e, rest) := readExponent rest
    some (⟨natOfDigits (whole ++ fraction), e - fraction.length⟩, rest)

/-- The text with a sign applied to a number. -/
def withSign (negative : Bool) (x : Float) : Float := if negative then -x else x

namespace Text

/-- Digits of all scripts as ASCII digits, blanks as spaces; other characters stay. -/
def asciiDigits (cs : List Char) : List Char :=
  cs.map fun c => match digitValue? c with
    | some d => Char.ofNat (48 + d)
    | none => c

/-- Removes single underscores that stand between two digits; `none` when one stands elsewhere. -/
def dropUnderscores : List Char → Option (List Char)
  | [] => some []
  | '_' :: _ => none
  | [c] => some [c]
  | c :: '_' :: d :: rest =>
    if c.isDigit && d.isDigit then (dropUnderscores (d :: rest)).map (c :: ·) else none
  | c :: rest => (dropUnderscores rest).map (c :: ·)

/-- A whole number. -/
def int? (s : String) : Option Int :=
  let (negative, ds) := spanSign (asciiDigits (trim s.toList))
  match dropUnderscores ds with
  | some ds =>
    if ds.isEmpty || !ds.all Char.isDigit then none else some (Binary.signOf negative * (natOfDigits ds : Int))
  | none => none

/-- A floating-point number. -/
def float? (s : String) : Option Float :=
  let (negative, ds) := spanSign (asciiDigits (trim s.toList))
  let word := String.ofList (ds.map Char.toLower)
  if word == "inf" || word == "infinity" then some (withSign negative (1.0 / 0.0))
  else if word == "nan" then some (0.0 / 0.0)
  else match dropUnderscores ds with
    | some ds =>
      match readDecimal ds with
      | some (n, []) => some (withSign negative n.toFloat)
      | _ => none
    | none => none

/-- Does the text hold more digits than a whole number may have when it is read? -/
def tooManyDigits (s : String) : Bool := (s.toList.filter fun c => (digitValue? c).isSome).length > 4300

end Text

end ScriptFlow
