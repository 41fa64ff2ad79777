import ScriptFlow.Script.Library.Format

/-!
# Functions on strings

Strings are bytes. Places count from one, negative places from the end. Searching and replacing work with `ScriptFlow.Script.Library.Pattern`.
-/

namespace ScriptFlow.Script

namespace Invocation

/-- The longest string that is made. -/
def maxText : Nat := Nat.pow 2 32

/-! ### Captures -/

/-- The value of a capture; without captures the whole match is the only one. -/
def captureValue (inv : Invocation) (s : ByteArray) (start stop : Nat) (caps : List Capture) (i : Nat) : Act Value :=
  match caps[i]? with
  | some (.part a n) => pure (.str (s.extract a (a + n)))
  | some (.position a) => pure (intValue (a + 1))
  | some (.opened _) => inv.fail "unfinished capture"
  | none => if i == 0 then pure (.str (s.extract start stop)) else inv.fail ("invalid capture index %" ++ toString (i + 1))

/-- The values of all captures; `whole` asks for the whole match when there are none. -/
def captureValues (inv : Invocation) (s : ByteArray) (start stop : Nat) (caps : List Capture) (whole : Bool) :
    Act (List Value) :=
  let count := if caps.isEmpty && whole then 1 else caps.length
  (List.range count).mapM (inv.captureValue s start stop caps)

/-- A match at a position; a malformed pattern is an error of the call. -/
def matchAt (inv : Invocation) (s p : ByteArray) (i j : Nat) : Act (Option (Nat × List Capture)) :=
  match Pattern.matchAt s p i j with
  | .ok r => pure r
  | .error e => inv.fail e

/-- The first match from a position on, with its start. -/
def firstMatch (inv : Invocation) (s p : ByteArray) (j : Nat) : Nat → Nat → Act (Option (Nat × Nat × List Capture))
  | 0, _ => pure none
  | fuel + 1, i => do
    match ← inv.matchAt s p i j with
    | some (stop, caps) => return some (i, stop, caps)
    | none => if i < s.size then firstMatch inv s p j fuel (i + 1) else return none

/-- Where a string starts inside another, from a position on. -/
def plainSearch (s p : ByteArray) : Nat → Nat → Option Nat
  | 0, _ => none
  | fuel + 1, i =>
    if i + p.size > s.size then none
    else if s.extract i (i + p.size) == p then some i
    else plainSearch s p fuel (i + 1)

/-- The bytes with a meaning of their own in patterns. -/
def hasSpecials (p : ByteArray) : Bool := p.toList.any fun b => "^$*+?.([%-".toUTF8.toList.contains b

/-- Searches for a pattern; `find` asks for the place in front of the captures. -/
def search (inv : Invocation) (find : Bool) : Act (List Value) := do
  let s ← inv.text 1
  let p ← inv.text 2
  let start := (startPlace (← inv.intOr 3 1) s.size).toNat - 1
  if start > s.size then return [.nil]
  if find && ((inv.get 4).truthy || !hasSpecials p) then
    match plainSearch s p (s.size + 1) start with
    | some i => return [intValue (i + 1), intValue (i + p.size)]
    | none => return [.nil]
  let anchored := p.size > 0 && Pattern.byteAt p 0 == 94
  let found ← if anchored then do
      match ← inv.matchAt s p start 1 with
      | some (stop, caps) => pure (some (start, stop, caps))
      | none => pure none
    else inv.firstMatch s p 0 (s.size + 2) start
  match found with
  | some (i, stop, caps) =>
    if find then
      return intValue (i + 1) :: intValue stop :: (← inv.captureValues s i stop caps false)
    else inv.captureValues s i stop caps true
  | none => return [.nil]

/-! ### All matches -/

def gmatch (inv : Invocation) : Act (List Value) := do
  let s ← inv.text 1
  let p ← inv.text 2
  let start := (startPlace (← inv.intOr 3 1) s.size).toNat - 1
  let position ← Act.newCell (intValue (min start (s.size + 1)))
  let last ← Act.newCell (intValue (-1))
  return [← Act.newNative (.gmatchNext s p position last)]

/-- The next match that does not end where the last one ended. -/
def nextMatch (inv : Invocation) (s p : ByteArray) (last : Int) : Nat → Nat → Act (Option (Nat × Nat × List Capture))
  | 0, _ => pure none
  | fuel + 1, i => do
    if i > s.size then return none
    match ← inv.matchAt s p i 0 with
    | some (stop, caps) =>
      if (stop : Int) == last then nextMatch inv s p last fuel (i + 1) else return some (i, stop, caps)
    | none => nextMatch inv s p last fuel (i + 1)

def gmatchNext (inv : Invocation) (s p : ByteArray) (position last : CellId) : Act (List Value) := do
  let (i, e) ← Act.read fun st => (st.cell position, st.cell last)
  match i, e with
  | .int i, .int e =>
    match ← inv.nextMatch s p e.toInt (s.size + 2) i.toInt.toNat with
    | some (start, stop, caps) => do
      Act.write fun st => (st.setCell position (intValue stop)).setCell last (intValue stop)
      inv.captureValues s start stop caps true
    | none => return [.nil]
  | _, _ => return [.nil]

/-! ### Replacement -/

/-- A replacement string with the captures put in. -/
def expand (inv : Invocation) (s : ByteArray) (start stop : Nat) (caps : List Capture) : List UInt8 → Act ByteArray
  | [] => pure ByteArray.empty
  | 37 :: b :: rest => do
    let part ← if b == 37 then pure ⟨#[37]⟩
      else if b == 48 then pure (s.extract start stop)
      else if Pattern.isDigit b then do
        let i := b.toNat - 49
        if i ≥ max caps.length 1 then inv.fail ("invalid capture index %" ++ toString (i + 1) ++ " in replacement string")
        let v ← inv.captureValue s start stop caps i
        pure ((Act.plainText? v).getD ByteArray.empty)
      else inv.fail "invalid use of '%' in replacement string"
    return part ++ (← expand inv s start stop caps rest)
  | [37] => inv.fail "invalid use of '%' in replacement string"
  | b :: rest => do return (⟨#[b]⟩ : ByteArray) ++ (← expand inv s start stop caps rest)

/-- What replaces one match. -/
def replacement (inv : Invocation) (s : ByteArray) (start stop : Nat) (caps : List Capture) (with' : Value) :
    Act ByteArray := do
  let whole := s.extract start stop
  let chosen ← match with' with
    | .table _ => Act.index .native none with' (← inv.captureValue s start stop caps 0)
    | .function _ => do
      let vs ← inv.captureValues s start stop caps true
      pure (first (← Act.call with' vs { blocks := true, nests := true }))
    | v => pure (.str (← inv.expand s start stop caps ((Act.plainText? v).getD ByteArray.empty).toList))
  if !chosen.truthy then return whole
  match Act.plainText? chosen with
  | some t => return t
  | none => inv.fail ("invalid replacement value (a " ++ chosen.typeName ++ ")")

/-- Replaces matches from a position on; `left` more of them may be replaced. -/
def replaceFrom (inv : Invocation) (s p : ByteArray) (j : Nat) (with' : Value) :
    Nat → Nat → Int → Int → Nat → ByteArray → Act (ByteArray × Nat)
  | 0, i, _, _, n, out => pure (out ++ s.extract i s.size, n)
  | fuel + 1, i, last, left, n, out => do
    if left ≤ 0 then return (out ++ s.extract i s.size, n)
    let found ← inv.matchAt s p i j
    let fresh := match found with
      | some (stop, caps) => if (stop : Int) == last then none else some (stop, caps)
      | none => none
    match fresh with
    | some (stop, caps) => do
      let t ← inv.replacement s i stop caps with'
      let out := out ++ t
      if j == 1 then return (out ++ s.extract stop s.size, n + 1)
      replaceFrom inv s p j with' fuel stop stop (left - 1) (n + 1) out
    | none =>
      if i < s.size && j == 0 then
        replaceFrom inv s p j with' fuel (i + 1) last left n (out ++ s.extract i (i + 1))
      else return (out ++ s.extract i s.size, n)

def gsub (inv : Invocation) : Act (List Value) := do
  let s ← inv.text 1
  let p ← inv.text 2
  let with' := inv.get 3
  match with' with
  | .int _ | .float _ | .str _ | .table _ | .function _ => pure ()
  | _ => inv.expected 3 "string/function/table"
  let limit ← inv.intOr 4 (s.size + 1)
  let j := if p.size > 0 && Pattern.byteAt p 0 == 94 then 1 else 0
  let (out, n) ← inv.replaceFrom s p j with' (2 * s.size + 4) 0 (-1) limit 0 ByteArray.empty
  return [.str out, intValue n]

/-! ### Parts and copies -/

def byteValues (inv : Invocation) : Act (List Value) := do
  let s ← inv.text 1
  let i ← inv.intOr 2 1
  let from' := startPlace i s.size
  let to' := endPlace (← inv.intOr 3 from') s.size
  return (slice s from' to').toList.map fun b => intValue b.toNat

/-- The bytes with given numbers. -/
def chars (inv : Invocation) : Nat → Nat → Act (List UInt8)
  | 0, _ => pure []
  | left + 1, n => do
    let c ← inv.int n
    inv.check (0 ≤ c && c ≤ 255) n "value out of range"
    return UInt8.ofNat c.toNat :: (← chars inv left (n + 1))

/-- A string again and again, with a separator. -/
def repeated (s sep : ByteArray) : Nat → ByteArray → ByteArray
  | 0, out => out
  | 1, out => out ++ s
  | n + 1, out => repeated s sep n (out ++ s ++ sep)

def rep (inv : Invocation) : Act (List Value) := do
  let s ← inv.text 1
  let n ← inv.int 2
  let sep ← inv.textOr 3 ByteArray.empty
  if n ≤ 0 then return [.str ByteArray.empty]
  let total := (s.size + sep.size) * n.toNat
  if total ≥ Nat.pow 2 63 then inv.fail "resulting string too large"
  if total > maxText then Act.raise (.ofText "not enough memory")
  if total == 0 then return [.str ByteArray.empty]
  return [.str (repeated s sep n.toNat ByteArray.empty)]

/-- A function on strings. -/
def runText (inv : Invocation) (f : TextFunction) : Act (List Value) := do
  match f with
  | .byte => inv.byteValues
  | .char => do return [.str ⟨(← inv.chars inv.count 1).toArray⟩]
  | .dump =>
    match inv.get 1 with
    | .function _ => inv.fail "unable to dump given function"
    | _ => inv.expected 1 "function"
  | .find => inv.search true
  | .matchOne => inv.search false
  | .format => inv.format
  | .gmatch => inv.gmatch
  | .gsub => inv.gsub
  | .len => do return [intValue (← inv.text 1).size]
  | .lower => do return [.str ⟨(← inv.text 1).data.map Pattern.toLower⟩]
  | .upper => do return [.str ⟨(← inv.text 1).data.map Pattern.toUpper⟩]
  | .rep => inv.rep
  | .reverse => do return [.str ⟨(← inv.text 1).data.reverse⟩]
  | .sub => do
    let s ← inv.text 1
    let i := startPlace (← inv.int 2) s.size
    let j := endPlace (← inv.intOr 3 (-1)) s.size
    return [.str (slice s i j)]
  | .pack | .packsize | .unpack => inv.fail "invalid format option"

/-- Arithmetic on strings that denote numbers; otherwise the metatable of the second operand decides. -/
def runTextArith (inv : Invocation) (op : ArithOp) : Act (List Value) := do
  let a := inv.get 1
  let b := inv.get 2
  match Act.asNumber? a, Act.asNumber? b with
  | some m, some n => return [← Act.arith .native op none none m n]
  | _, _ =>
    let handler ← match b with
      | .str _ => pure Value.nil
      | b => Act.read (·.metaEntry b op.event)
    match handler with
    | .nil =>
      inv.fail ("attempt to " ++ Act.eventName op ++ " a '" ++ a.typeName ++ "' with a '" ++ b.typeName ++ "'")
    | h => return [first (← Act.call h [a, b] { blocks := true, nests := true })]

end Invocation

end ScriptFlow.Script
