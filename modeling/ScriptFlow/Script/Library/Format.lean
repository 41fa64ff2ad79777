import ScriptFlow.Script.Library.Arguments
import ScriptFlow.Script.Library.Pattern

/-!
# Formatted text

A format string is copied except for its directives, each of which shows one argument: whole numbers in several bases, floating-point numbers with
a fixed count of digits, strings, and values quoted so that they read back.
-/

namespace ScriptFlow.Script

namespace Format

/-- A directive: its marks, least width, precision and letter. -/
structure Directive where
  flags : List Char
  width : Nat
  precision : Option Nat
  letter : Char
  /-- the directive as written -/
  raw : List Char

/-- Takes at most two digits off a text. -/
def twoDigits (cs : List Char) : List Char × List Char :=
  let ds := (cs.take 2).takeWhile Char.isDigit
  (ds, cs.drop ds.length)

/-- The characters that may stand in front of the letter of a directive. -/
def isModifier (c : Char) : Bool := "-+#0 .".toList.contains c || c.isDigit

/-- Reads a directive behind its percent sign; it may use the given flags, and a precision if allowed. -/
def parse (allowed : List Char) (takesPrecision : Bool) (cs : List Char) (letter : Char) : Option Directive :=
  let flags := cs.takeWhile allowed.contains
  let rest := cs.drop flags.length
  let raw := cs ++ [letter]
  let (width, rest) := if rest.head? == some '0' then ([], rest) else twoDigits rest
  match rest with
  | [] => some ⟨flags, natOfDigits width, none, letter, raw⟩
  | '.' :: more =>
    if !takesPrecision then none
    else
      let (ds, tail) := twoDigits more
      if tail.isEmpty then some ⟨flags, natOfDigits width, some (natOfDigits ds), letter, raw⟩ else none
  | _ => none

/-- Pads to the least width: on the right with `-`, with zeros behind the sign when that is asked for and possible. -/
def pad (d : Directive) (zeros : Bool) (sign digits : List Char) : List Char :=
  let missing := d.width - (sign.length + digits.length)
  if d.flags.contains '-' then sign ++ digits ++ List.replicate missing ' '
  else if zeros && d.flags.contains '0' then sign ++ List.replicate missing '0' ++ digits
  else List.replicate missing ' ' ++ sign ++ digits

/-- The sign in front of a number. -/
def signOf (d : Directive) (negative : Bool) : List Char :=
  if negative then ['-'] else if d.flags.contains '+' then ['+'] else if d.flags.contains ' ' then [' '] else []

/-- Digits with zeros in front, up to the precision; zero with precision zero has no digits. -/
def wholeDigits (d : Directive) (base : Nat) (n : Nat) : List Char :=
  let ds := if n == 0 && d.precision == some 0 then [] else Nat.toDigits base n
  NumberFormat.zeroPad (d.precision.getD 0) ds

def signedText (d : Directive) (n : Int) : List Char :=
  pad d d.precision.isNone (signOf d (n < 0)) (wholeDigits d 10 n.natAbs)

def upperCase (cs : List Char) : List Char := cs.map Char.toUpper

def unsignedText (d : Directive) (n : Nat) : List Char :=
  match d.letter with
  | 'o' =>
    let ds := wholeDigits d 8 n
    pad d d.precision.isNone [] (if d.flags.contains '#' && ds.head? != some '0' then '0' :: ds else ds)
  | 'x' => pad d d.precision.isNone (if d.flags.contains '#' && n != 0 then ['0', 'x'] else []) (wholeDigits d 16 n)
  | 'X' =>
    pad d d.precision.isNone (if d.flags.contains '#' && n != 0 then ['0', 'X'] else []) (upperCase (wholeDigits d 16 n))
  | _ => pad d d.precision.isNone [] (wholeDigits d 10 n)

/-- `n` in units of `10 ^ -places`. -/
def pointed (alternate : Bool) (places n : Nat) : List Char :=
  let ds := NumberFormat.zeroPad (places + 1) (NumberFormat.digitsOf n)
  let whole := ds.take (ds.length - places)
  let fraction := ds.drop (ds.length - places)
  if fraction.isEmpty then (if alternate then whole ++ ['.'] else whole) else whole ++ '.' :: fraction

/-- Digits after the first one and an exponent. -/
def scientific (alternate : Bool) (places m : Nat) (q : Int) : List Char :=
  let n := Numeral.rounded m q (places + 1)
  let ds := NumberFormat.digitsOf n.digits
  let e := if n.digits == 0 then 0 else n.exponent + ds.length - 1
  let ds := ds ++ List.replicate (places + 1 - ds.length) '0'
  let body := match ds with
    | c :: [] => if alternate then [c, '.'] else [c]
    | c :: rest => c :: '.' :: rest
    | [] => []
  body ++ 'e' :: NumberFormat.exponentText 2 e

def dropZeros (cs : List Char) : List Char :=
  if cs.contains '.' then
    let r := (cs.reverse.dropWhile (· == '0'))
    (if r.head? == some '.' then r.drop 1 else r).reverse
  else cs

/-- The shorter of the two forms, with a count of significant digits. -/
def general (alternate : Bool) (digits m : Nat) (q : Int) : List Char :=
  let digits := max digits 1
  let n := Numeral.rounded m q digits
  let e := if n.digits == 0 then 0 else n.exponent + Numeral.length n.digits - 1
  if e < -4 || (digits : Int) ≤ e then
    let s := scientific alternate (digits - 1) m q
    if alternate then s
    else
      let mantissa := s.takeWhile (· != 'e')
      dropZeros mantissa ++ s.drop mantissa.length
  else
    let places := ((digits : Int) - 1 - e).toNat
    let s := pointed alternate places (Numeral.places m q places)
    if alternate then s else dropZeros s

/-- A finite number as a hexadecimal fraction with a binary exponent. -/
def hexFloat (d : Directive) (m : Nat) (q : Int) : List Char :=
  if m == 0 then "0x0p+0".toList
  else
    let shift := 52 - m.log2
    let full := m * Nat.pow 2 shift
    let e : Int := q - shift + 52
    let (lead, fraction, places) := match d.precision with
      | some p =>
        if p < 13 then
          let r := roundHalfEven full (Nat.pow 2 (4 * (13 - p)))
          (r / Nat.pow 2 (4 * p), r % Nat.pow 2 (4 * p), p)
        else (1, full % Nat.pow 2 52 * Nat.pow 16 (p - 13), p)
      | none => (1, full % Nat.pow 2 52, 13)
    let ds := (Text.hex places fraction)
    let ds := if d.precision.isNone then (ds.reverse.dropWhile (· == '0')).reverse else ds
    "0x".toList ++ NumberFormat.digitsOf lead ++ (if ds.isEmpty then [] else '.' :: ds) ++
      'p' :: NumberFormat.exponentText 1 e

def floatText (d : Directive) (x : Float) : List Char :=
  let alternate := d.flags.contains '#'
  let places := d.precision.getD 6
  match Binary.ofFloat x with
  | .nan => pad d false ['-'] "nan".toList
  | .infinite negative => pad d false (signOf d negative) "inf".toList
  | .finite negative m q =>
    let body := match d.letter.toLower with
      | 'f' => pointed alternate places (Numeral.places m q places)
      | 'e' => scientific alternate places m q
      | 'g' => general alternate places m q
      | _ => hexFloat d m q
    pad d true (signOf d negative) body

/-- A letter in capitals shows its number in capitals. -/
def inCase (d : Directive) (cs : List Char) : List Char := if d.letter.isUpper then upperCase cs else cs

/-- One byte of a quoted string; `next` is the byte behind it. -/
def quotedByte (b : UInt8) (next : Option UInt8) : List UInt8 :=
  if b == 34 || b == 92 || b == 10 then [92, b]
  else if b == 0 || Pattern.isControl b then
    let ds := NumberFormat.digitsOf b.toNat
    let ds := if (next.map Pattern.isDigit).getD false then NumberFormat.zeroPad 3 ds else ds
    92 :: ds.map fun c => UInt8.ofNat c.toNat
  else [b]

def quotedBytes : List UInt8 → List UInt8
  | [] => []
  | b :: rest => quotedByte b rest.head? ++ quotedBytes rest

/-- A value in a form that reads back. -/
def quoted? : Value → Option ByteArray
  | .str s => some ⟨(34 :: (quotedBytes s.toList ++ [34])).toArray⟩
  | .int n => some (if n == Int64.minValue then "0x8000000000000000" else toString n.toInt).toUTF8
  | .float x =>
    match Binary.ofFloat x with
    | .nan => some "(0/0)".toUTF8
    | .infinite negative => some (if negative then "-1e9999" else "1e9999").toUTF8
    | .finite negative m q =>
      some ((if negative then "-" else "") ++ String.ofList (hexFloat ⟨[], 0, none, 'a', []⟩ m q)).toUTF8
  | .nil => some "nil".toUTF8
  | .bool b => some (if b then "true" else "false").toUTF8
  | _ => none

end Format

namespace Invocation

/-- The unsigned number with the bits of a whole number. -/
def unsigned (n : Int) : Nat := (Int64.ofInt n).toUInt64.toNat

/-- The text of one directive for the argument at a place. -/
def directive (inv : Invocation) (n : Nat) (spec : List Char) (letter : Char) : Act ByteArray := do
  let bytes (cs : List Char) : ByteArray := (String.ofList cs).toUTF8
  let malformed : Act ByteArray :=
    inv.fail ("invalid conversion specification: '%" ++ String.ofList (spec ++ [letter]) ++ "'")
  let parsed (flags : String) (takesPrecision : Bool) : Option Format.Directive :=
    Format.parse flags.toList takesPrecision spec letter
  match letter with
  | 'c' =>
    let k ← inv.int n
    match parsed "-" false with
    | some d =>
      let missing : ByteArray := ⟨(List.replicate (d.width - 1) (32 : UInt8)).toArray⟩
      let c : ByteArray := ⟨#[UInt8.ofNat (unsigned k % 256)]⟩
      return if d.flags.contains '-' then c ++ missing else missing ++ c
    | none => malformed
  | 'd' | 'i' =>
    let k ← inv.int n
    match parsed "-+0 " true with
    | some d => return bytes (Format.signedText d k)
    | none => malformed
  | 'u' =>
    let k ← inv.int n
    match parsed "-0" true with
    | some d => return bytes (Format.unsignedText d (unsigned k))
    | none => malformed
  | 'o' | 'x' | 'X' =>
    let k ← inv.int n
    match parsed "-#0" true with
    | some d => return bytes (Format.unsignedText d (unsigned k))
    | none => malformed
  | 'a' | 'A' | 'e' | 'E' | 'f' | 'g' | 'G' =>
    let x ← inv.float n
    match parsed "-+#0 " true with
    | some d => return bytes (Format.inCase d (Format.floatText d x))
    | none => malformed
  | 'p' =>
    let v ← inv.any n
    match parsed "-" false with
    | some d =>
      let shown := match v with
        | .table t => Act.addressText t
        | .function f => Act.addressText f
        | _ => "(null)"
      return bytes (Format.pad d false [] shown.toList)
    | none => malformed
  | 'q' =>
    if !spec.isEmpty then inv.fail "specifier '%q' cannot have modifiers"
    match Format.quoted? (← inv.any n) with
    | some s => return s
    | none => inv.badArgumentText n "value has no literal form"
  | 's' =>
    let s ← Act.textOf .native (← inv.any n)
    if spec.isEmpty then return s
    inv.check (!s.toList.contains 0) n "string contains zeros"
    match parsed "-" true with
    | some d =>
      let s := match d.precision with
        | some p => s.extract 0 p
        | none => s
      let missing : ByteArray := ⟨(List.replicate (d.width - s.size) (32 : UInt8)).toArray⟩
      return if d.flags.contains '-' then s ++ missing else missing ++ s
    | none => malformed
  | _ => inv.fail ("invalid conversion '%" ++ String.ofList (spec ++ [letter]) ++ "' to 'format'")

/-- The text of a format string from some byte on; `n` is the place of the argument used last. -/
def formatFrom (inv : Invocation) : Nat → Nat → ByteArray → List UInt8 → Act ByteArray
  | 0, _, out, _ => pure out
  | _ + 1, _, out, [] => pure out
  | fuel + 1, n, out, b :: rest =>
    if b != 37 then formatFrom inv fuel n (out.push b) rest
    else match rest with
      | 37 :: rest => formatFrom inv fuel n (out.push 37) rest
      | rest => do
        let chars := rest.map fun b => Char.ofNat b.toNat
        let spec := chars.takeWhile Format.isModifier
        if n + 1 > inv.count then inv.badArgumentText (n + 1) "no value"
        if spec.length ≥ 22 then inv.fail "invalid format string to 'format'"
        match chars.drop spec.length with
        | letter :: _ =>
          let s ← inv.directive (n + 1) spec letter
          formatFrom inv fuel (n + 1) (out ++ s) (rest.drop (spec.length + 1))
        | [] => inv.fail ("invalid conversion '%" ++ String.ofList spec ++ "' to 'format'")

/-- Formatted text. -/
def format (inv : Invocation) : Act (List Value) := do
  let s ← inv.text 1
  return [.str (← inv.formatFrom (s.size + 1) 1 ByteArray.empty s.toList)]

end Invocation

end ScriptFlow.Script
