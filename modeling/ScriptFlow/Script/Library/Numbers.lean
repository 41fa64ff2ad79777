import ScriptFlow.Script.Library.Pattern
import ScriptFlow.Script.Library.Arguments
import ScriptFlow.Script.Token.Lexer

/-!
# Functions on numbers and on UTF-8

Functions that round give a whole number when it fits into 64 bits. The functions on UTF-8 read code points up to 31 bits when asked to
be lax.
-/

namespace ScriptFlow.Script

namespace Invocation

/-- A floating-point number as a whole one, if it fits. -/
def wholeOr (x : Float) : Value :=
  match Value.wholeOf? x with
  | some n => .int n
  | none => .float x

def rounding (inv : Invocation) (f : Float → Float) : Act (List Value) := do
  match inv.get 1 with
  | .int n => return [.int n]
  | _ => return [wholeOr (f (← inv.float 1))]

def pi : Float := 3.141592653589793

/-- The logarithm to a base. -/
def logarithm (x base : Float) : Float :=
  if base == 2.0 then Float.log2 x else if base == 10.0 then Float.log10 x else Float.log x / Float.log base

def extremum (inv : Invocation) (better : Value → Value → Bool) : Nat → Nat → Value → Act Value
  | 0, _, best => pure best
  | left + 1, n, best => do
    let v ← inv.number n
    extremum inv better left (n + 1) (if better v best then v else best)

def remainder (inv : Invocation) : Act (List Value) := do
  match inv.get 1, inv.get 2 with
  | .int a, .int b =>
    if b == 0 then inv.badArgumentText 2 "zero"
    else return [intValue (Int.tmod a.toInt b.toInt)]
  | _, _ => do
    let a ← inv.float 1
    let b ← inv.float 2
    return [.float (Number.truncatedRemainder a b)]

def one (inv : Invocation) (f : Float → Float) : Act (List Value) := do return [.float (f (← inv.float 1))]

/-- A function on numbers. -/
def runMath (inv : Invocation) (f : MathFunction) : Act (List Value) := do
  match f with
  | .abs =>
    match inv.get 1 with
    | .int n => return [.int (if n < 0 then -n else n)]
    | _ => inv.one Float.abs
  | .acos => inv.one Float.acos
  | .asin => inv.one Float.asin
  | .atan => do
    let y ← inv.float 1
    let x ← if inv.isAbsent 2 then pure 1.0 else inv.float 2
    return [.float (Float.atan2 y x)]
  | .ceil => inv.rounding Float.ceil
  | .floor => inv.rounding Float.floor
  | .cos => inv.one Float.cos
  | .sin => inv.one Float.sin
  | .tan => inv.one Float.tan
  | .deg => inv.one (· * (180.0 / pi))
  | .rad => inv.one (· * (pi / 180.0))
  | .exp => inv.one Float.exp
  | .sqrt => inv.one Float.sqrt
  | .log => do
    let x ← inv.float 1
    if inv.isAbsent 2 then return [.float (Float.log x)]
    return [.float (logarithm x (← inv.float 2))]
  | .fmod => inv.remainder
  | .max => do
    inv.check (inv.count ≥ 1) 1 "value expected"
    let v ← inv.number 1
    return [← inv.extremum (fun a b => Number.less b a) (inv.count - 1) 2 v]
  | .min => do
    inv.check (inv.count ≥ 1) 1 "value expected"
    let v ← inv.number 1
    return [← inv.extremum Number.less (inv.count - 1) 2 v]
  | .modf =>
    match inv.get 1 with
    | .int n => return [.float n.toFloat, .float 0.0]
    | _ => do
      let x ← inv.float 1
      let n := if x < 0.0 then x.ceil else x.floor
      return [.float n, .float (if n == x then 0.0 else x - n)]
  | .tointeger =>
    match (Act.asNumber? (inv.get 1)).bind Number.toInt? with
    | some n => return [.int n]
    | none => do
      discard (inv.any 1)
      return [.nil]
  | .type =>
    match ← inv.any 1 with
    | .int _ => return [.ofText "integer"]
    | .float _ => return [.ofText "float"]
    | _ => return [.nil]
  | .ult => do
    let a ← inv.int 1
    let b ← inv.int 2
    return [.bool ((Int64.ofInt a).toUInt64 < (Int64.ofInt b).toUInt64)]

/-! ### UTF-8 -/

/-- The code point that starts at a position, with its size; code points beyond the standard's only when lax. -/
def codeAt? (s : ByteArray) (lax : Bool) (i : Nat) : Option (Nat × Nat) :=
  let b := (Pattern.byteAt s i).toNat
  if i ≥ s.size then none
  else if b < 0x80 then some (b, 1)
  else if b < 0xC0 then none
  else
    let count := if b < 0xE0 then 1 else if b < 0xF0 then 2 else if b < 0xF8 then 3 else if b < 0xFC then 4 else if b < 0xFE then 5 else 0
    if count == 0 then none
    else
      let tails := (List.range count).map fun k => (Pattern.byteAt s (i + 1 + k)).toNat
      if i + count ≥ s.size || tails.any fun t => t < 0x80 || 0xC0 ≤ t then none
      else
        let lead := b % Nat.pow 2 (6 - count)
        let code := tails.foldl (fun n t => n * 64 + t % 64) lead
        let least := [0x80, 0x80, 0x800, 0x10000, 0x200000, 0x4000000].getD count 0
        if code < least then none
        else if !lax && (code > 0x10FFFF || (0xD800 ≤ code && code < 0xE000)) then none
        else some (code, count + 1)

def isTailAt (s : ByteArray) (i : Int) : Bool :=
  if i < 0 then false
  else match s.data[i.toNat]? with
    | some b => 0x80 ≤ b && b < 0xC0
    | none => false

def place (i : Int) (length : Nat) : Int := if 0 ≤ i then i else if -i > length then 0 else length + i + 1

def utf8Chars (inv : Invocation) : Nat → Nat → Act (List UInt8)
  | 0, _ => pure []
  | left + 1, n => do
    let c ← inv.int n
    inv.check (0 ≤ c && c ≤ 0x7FFFFFFF) n "value out of range"
    return Lexer.encodeCode c.toNat ++ (← utf8Chars inv left (n + 1))

def codepoints (inv : Invocation) (s : ByteArray) (lax : Bool) (stop : Int) : Nat → Nat → Act (List Value)
  | 0, _ => pure []
  | fuel + 1, i => do
    if (i : Int) ≥ stop then return []
    match codeAt? s lax i with
    | some (c, n) => return intValue c :: (← codepoints inv s lax stop fuel (i + n))
    | none => inv.fail "invalid UTF-8 code"

/-- How many code points start between two places; `none` with the place of what is none. -/
def countCodes (s : ByteArray) (lax : Bool) (stop : Int) : Nat → Nat → Nat → Except Nat Nat
  | 0, _, count => .ok count
  | fuel + 1, i, count =>
    if (i : Int) > stop then .ok count
    else match codeAt? s lax i with
      | some (_, n) => countCodes s lax stop fuel (i + n) (count + 1)
      | none => .error (i + 1)

def skipTails (s : ByteArray) : Nat → Int → Int
  | 0, i => i
  | fuel + 1, i => if isTailAt s i then skipTails s fuel (i + 1) else i

def backTails (s : ByteArray) : Nat → Int → Int
  | 0, i => i
  | fuel + 1, i => if 0 < i && isTailAt s i then backTails s fuel (i - 1) else i

/-- Where the `n`-th code point from a place starts. -/
def offsetFrom (s : ByteArray) : Nat → Int → Int → Option Int
  | 0, _, _ => none
  | fuel + 1, n, i =>
    if n == 0 then some i
    else if n < 0 then
      if i ≤ 0 then none else offsetFrom s fuel (n + 1) (backTails s (s.size + 1) (i - 1))
    else if i ≥ s.size then none
    else offsetFrom s fuel (n - 1) (skipTails s (s.size + 1) (i + 1))

/-- A function on UTF-8. -/
def runUtf8 (inv : Invocation) (f : Utf8Function) : Act (List Value) := do
  match f with
  | .char => do return [.str ⟨(← inv.utf8Chars inv.count 1).toArray⟩]
  | .codepoint => do
    let s ← inv.text 1
    let i := place (← inv.intOr 2 1) s.size
    let j := place (← inv.intOr 3 i) s.size
    inv.check (i ≥ 1) 2 "out of bounds"
    inv.check (j ≤ s.size) 3 "out of bounds"
    inv.codepoints s (inv.get 4).truthy j (s.size + 1) (i - 1).toNat
  | .len => do
    let s ← inv.text 1
    let i := place (← inv.intOr 2 1) s.size
    let j := place (← inv.intOr 3 (-1)) s.size
    inv.check (1 ≤ i && i - 1 ≤ s.size) 2 "initial position out of bounds"
    inv.check (j - 1 < s.size) 3 "final position out of bounds"
    match countCodes s (inv.get 4).truthy (j - 1) (s.size + 1) (i - 1).toNat 0 with
    | .ok n => return [intValue n]
    | .error p => return [.nil, intValue p]
  | .offset => do
    let s ← inv.text 1
    let n ← inv.int 2
    let start : Int := if n > 0 then 1 else s.size + 1
    let i := place (← inv.intOr 3 start) s.size
    inv.check (1 ≤ i && i - 1 ≤ s.size) 3 "position out of bounds"
    let i := i - 1
    if n == 0 then return [intValue (backTails s (s.size + 1) i + 1)]
    if isTailAt s i then inv.fail "initial position is a continuation byte"
    match offsetFrom s (s.size + 2) (if n > 0 then n - 1 else n) i with
    | some p => return [intValue (p + 1)]
    | none => return [.nil]
  | .codes => do
    let s ← inv.text 1
    let lax := (inv.get 2).truthy
    inv.check (!isTailAt s 0) 1 "invalid UTF-8 code"
    return [← Act.newNative (.codesNext lax), .str s, intValue 0]

/-- The next code point of a string and where it starts. -/
def codesNext (inv : Invocation) (lax : Bool) : Act (List Value) := do
  let s ← inv.text 1
  let n ← inv.int 2
  let i : Int := if n > 0 then skipTails s (s.size + 1) n else 0
  if i ≥ s.size then return []
  match codeAt? s lax i.toNat with
  | some (c, size) =>
    if isTailAt s (i + size) then inv.fail "invalid UTF-8 code"
    return [intValue (i + 1), intValue c]
  | none => inv.fail "invalid UTF-8 code"

end Invocation

end ScriptFlow.Script
