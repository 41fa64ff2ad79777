import ScriptFlow.Script.Value

/-!
# Numbers of scripts

Conversion between numbers and text, and arithmetic. Whole numbers wrap around at 64 bits; division and powers are
floating-point; the remainder takes the sign of the divisor.

* `Number.ofText?` — the number a text denotes: decimal or hexadecimal, blanks around it allowed.
* `Number.text` — fourteen significant digits for floating-point numbers, with `.0` where they would look whole.
* `Number.arith` — one arithmetic operation on two numbers.
-/

namespace ScriptFlow.Script

/-- Arithmetic and bitwise operations. -/
inductive ArithOp where
  | add | sub | mul | mod | pow | div | idiv
  | band | bor | bxor | shl | shr
  | unm | bnot
  deriving DecidableEq, Repr, Inhabited

namespace ArithOp

/-- The name of the operation in a metatable. -/
def event : ArithOp → String
  | add => "__add"
  | sub => "__sub"
  | mul => "__mul"
  | mod => "__mod"
  | pow => "__pow"
  | div => "__div"
  | idiv => "__idiv"
  | band => "__band"
  | bor => "__bor"
  | bxor => "__bxor"
  | shl => "__shl"
  | shr => "__shr"
  | unm => "__unm"
  | bnot => "__bnot"

/-- Operations on the bits of whole numbers. -/
def isBitwise : ArithOp → Bool
  | band | bor | bxor | shl | shr | bnot => true
  | _ => false

end ArithOp

namespace Number

/-- Blanks around a number in a text. -/
def isBlank (c : Char) : Bool := c == ' ' || (9 ≤ c.toNat && c.toNat ≤ 13)

def trimBlanks (cs : List Char) : List Char :=
  (((cs.dropWhile isBlank).reverse).dropWhile isBlank).reverse

/-- A hexadecimal digit. -/
def hexValue? (c : Char) : Option Nat :=
  let n := c.toNat
  if c.isDigit then some (n - 48)
  else if 97 ≤ n && n ≤ 102 then some (n - 87)
  else if 65 ≤ n && n ≤ 70 then some (n - 55)
  else none

def isHexDigit (c : Char) : Bool := (hexValue? c).isSome

/-- The value of a run of hexadecimal digits. -/
def natOfHex (cs : List Char) : Nat := cs.foldl (fun n c => 16 * n + (hexValue? c).getD 0) 0

/-- `m · 2 ^ e` rounded to the nearest floating-point number. -/
def scale (m : Nat) (e : Int) : Float :=
  if m == 0 then 0.0
  else
    -- sixty-four leading bits, the last one standing for everything below, round like the whole number
    let extra := m.log2 - 63
    let kept := m / Nat.pow 2 extra
    let kept := if m % Nat.pow 2 extra == 0 then kept else kept ||| 1
    let exponent := e + extra
    if exponent > 2000 then 1.0 / 0.0
    else if exponent < -2000 then 0.0
    else
      let lowest := max 0 (-1074 - exponent - 0)
      let drop := max (kept.log2 + 1 - 53 : Int) lowest
      let unit := Nat.pow 2 drop.toNat
      Float.scaleB (Float.ofNat (roundHalfEven kept unit)) (exponent + drop)

/-- A hexadecimal number after its `0x`: whole, or with a fraction or a binary exponent. -/
def hexNumber? (cs : List Char) : Option Value :=
  let whole := cs.takeWhile isHexDigit
  let rest := cs.dropWhile isHexDigit
  match rest with
  | [] => if whole.isEmpty then none else some (.int (Int64.ofInt (natOfHex whole)))
  | _ =>
    let (fraction, rest) := match rest with
      | '.' :: after => (after.takeWhile isHexDigit, after.dropWhile isHexDigit)
      | _ => ([], rest)
    if whole.isEmpty && fraction.isEmpty then none
    else
      let m := natOfHex (whole ++ fraction)
      let e : Int := -4 * fraction.length
      match rest with
      | [] => some (.float (scale m e))
      | p :: after =>
        if p == 'p' || p == 'P' then
          let (negative, after) := spanSign after
          let (ds, tail) := spanDigits after
          if ds.isEmpty || !tail.isEmpty then none
          else some (.float (scale m (e + Binary.signOf negative * (natOfDigits ds : Int))))
        else none

/-- A decimal number: whole when it is a run of digits that fits into 64 bits. -/
def decimalNumber? (negative : Bool) (cs : List Char) : Option Value :=
  let limit : Nat := if negative then Nat.pow 2 63 else Nat.pow 2 63 - 1
  if !cs.isEmpty && cs.all Char.isDigit && natOfDigits cs ≤ limit then
    some (.int (Int64.ofInt (Binary.signOf negative * (natOfDigits cs : Int))))
  else match readDecimal cs with
    | some (n, []) => some (.float (withSign negative n.toFloat))
    | _ => none

/-- The negated number. -/
def negate : Value → Value
  | .int n => .int (-n)
  | .float x => .float (-x)
  | v => v

/-- The number a text denotes. -/
def ofChars? (cs : List Char) : Option Value :=
  let (negative, body) := spanSign (trimBlanks cs)
  match body with
  | '0' :: x :: rest =>
    if x == 'x' || x == 'X' then (hexNumber? rest).map fun v => if negative then negate v else v
    else decimalNumber? negative body
  | _ => decimalNumber? negative body

/-- The characters of ASCII bytes; other bytes become characters that no number has. -/
def charsOf (s : ByteArray) : List Char := s.toList.map fun b => Char.ofNat b.toNat

/-- The number a byte string denotes. -/
def ofBytes? (s : ByteArray) : Option Value := ofChars? (charsOf s)

/-- Does a text look like a whole number? -/
def looksWhole (s : String) : Bool := s.toList.all fun c => c.isDigit || c == '-'

/-- The text of a floating-point number. -/
def floatText (x : Float) : String :=
  let s := Float.roundedText scriptNumber 14 x
  if looksWhole s then s ++ ".0" else s

/-- The text of a number. -/
def text : Value → String
  | .int n => toString n.toInt
  | .float x => floatText x
  | _ => ""

/-- The remainder of exact division cut towards zero, with the sign of the dividend. -/
def truncatedRemainder (a b : Float) : Float :=
  match Binary.ofFloat a, Binary.ofFloat b with
  | .finite s m e, .finite _ n f =>
    if n == 0 then 0.0 / 0.0
    else
      let low := min e f
      let r := (m * Nat.pow 2 (e - low).toNat) % (n * Nat.pow 2 (f - low).toNat)
      withSign s (scale r low)
  | .finite .., .infinite _ => a
  | _, _ => 0.0 / 0.0

/-- The remainder with the sign of the divisor. -/
def floorRemainder (a b : Float) : Float :=
  let m := truncatedRemainder a b
  if (m > 0.0 && b < 0.0) || (m < 0.0 && b > 0.0) then m + b else m

/-- A number as a floating-point number. -/
def toFloat : Value → Float
  | .int n => n.toFloat
  | .float x => x
  | _ => 0.0

/-- A number as a whole number, if it equals one. -/
def toInt? : Value → Option Int64
  | .int n => some n
  | .float x => Value.wholeOf? x
  | _ => none

/-- Why an operation on two numbers has no result. -/
inductive ArithError where
  | divisionByZero
  | remainderByZero
  | noInteger
  deriving DecidableEq, Repr

/-- Shifts to the left by a count, to the right when it is negative; far shifts leave nothing. -/
def shiftLeft (a b : Int64) : Int64 :=
  let bits := a.toUInt64
  let count := b.toInt
  if count ≤ -64 || 64 ≤ count then 0
  else if 0 ≤ count then (bits <<< UInt64.ofNat count.toNat).toInt64
  else (bits >>> UInt64.ofNat (-count).toNat).toInt64

/-- Whole-number arithmetic. -/
def intArith (op : ArithOp) (a b : Int64) : Except ArithError Value :=
  match op with
  | .add => .ok (.int (a + b))
  | .sub => .ok (.int (a - b))
  | .mul => .ok (.int (a * b))
  | .mod => if b == 0 then .error .remainderByZero else .ok (.int (Int64.ofInt (Int.fmod a.toInt b.toInt)))
  | .idiv => if b == 0 then .error .divisionByZero else .ok (.int (Int64.ofInt (Int.fdiv a.toInt b.toInt)))
  | .pow => .ok (.float (Float.pow a.toFloat b.toFloat))
  | .div => .ok (.float (a.toFloat / b.toFloat))
  | .band => .ok (.int (a &&& b))
  | .bor => .ok (.int (a ||| b))
  | .bxor => .ok (.int (a ^^^ b))
  | .shl => .ok (.int (shiftLeft a b))
  | .shr => .ok (.int (shiftLeft a (-b)))
  | .unm => .ok (.int (-a))
  | .bnot => .ok (.int (~~~a))

/-- Floating-point arithmetic. -/
def floatArith (op : ArithOp) (a b : Float) : Except ArithError Value :=
  match op with
  | .add => .ok (.float (a + b))
  | .sub => .ok (.float (a - b))
  | .mul => .ok (.float (a * b))
  | .mod => .ok (.float (floorRemainder a b))
  | .idiv => .ok (.float (a / b).floor)
  | .pow => .ok (.float (Float.pow a b))
  | .div => .ok (.float (a / b))
  | .unm => .ok (.float (-a))
  | _ => .error .noInteger

/-- One operation on two numbers. -/
def arith (op : ArithOp) (a b : Value) : Except ArithError Value :=
  if op.isBitwise then
    match toInt? a, toInt? b with
    | some m, some n => intArith op m n
    | _, _ => .error .noInteger
  else match a, b with
    | .int m, .int n => intArith op m n
    | a, b => floatArith op (toFloat a) (toFloat b)

/-- The exact number of a numeric value. -/
def numeric : Value → Data.Numeric
  | .int n => .ofInt n.toInt
  | .float x => .ofFloat x
  | _ => .nan

/-- Numeric order. -/
def less : Value → Value → Bool
  | .int a, .int b => a < b
  | .float a, .float b => a < b
  | a, b => (numeric a).less (numeric b)

/-- Numeric order with equality. -/
def lessEq : Value → Value → Bool
  | .int a, .int b => a ≤ b
  | .float a, .float b => a ≤ b
  | a, b => (numeric a).less (numeric b) || (numeric a).same (numeric b)

end Number

end ScriptFlow.Script
