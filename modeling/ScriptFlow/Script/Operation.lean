import ScriptFlow.Script.Act
import ScriptFlow.Script.Convert

/-!
# Operators of scripts

What reading and writing an entry, arithmetic, comparison, joining, length and conversion to text mean, with the metatables that can change
it. Every operation knows who performs it (`Caller`): a script, whose place an error names, or a native function, across which
a script cannot pause.
-/

namespace ScriptFlow.Script

/-- Who performs an operation. -/
structure Caller where
  site : Site := none
  /-- can a metamethod not pause the script? -/
  blocks : Bool := true

namespace Caller

/-- A script at a place. -/
def script (chunk : ByteArray) (line : Nat) : Caller := { site := some (chunk, line), blocks := false }

/-- A native function. -/
def native : Caller := {}

/-- A function of the environment itself, of which no place is shown. -/
def hidden : Caller := { blocks := false }

/-- How a metamethod is called. -/
def callSite (c : Caller) (event : String) : CallSite :=
  { site := c.site, naming := if c.site.isSome then some (.ofText "metamethod" event) else none, blocks := c.blocks, nests := true }

end Caller

namespace Act

/-- A name at the end of an error. -/
def namingText : Option Naming → ByteArray
  | some n => (" (" ++ n.kind ++ " '").toUTF8 ++ n.name ++ "')".toUTF8
  | none => ByteArray.empty

/-- The error for a value that an operation does not accept. -/
def typeError {α : Type} (c : Caller) (what : String) (v : Value) (naming : Option Naming) : Act α := do
  let name ← read (·.typeName v)
  fail c.site (("attempt to " ++ what ++ " a ").toUTF8 ++ name ++ " value".toUTF8 ++ namingText naming)

/-- Lifts a conversion that can fail; failures become errors of the script. -/
def convert {α : Type} (f : Store → Except Fault (Store × α)) : Act α := fun k => .touch fun s =>
  match f s with
  | .ok (s, a) => (s, k a)
  | .error e => let (s, v) := s.newObject (.fault e); (s, .raise v)

/-- Raises an error of the host. -/
def raiseFault {α : Type} (e : Fault) : Act α := convert fun _ => .error e

/-- The longest chain of tables that stand in for one another. -/
def maxChain : Nat := 2000

/-! ### Host objects -/

/-- The attributes of an error that a script can read. -/
def faultAttribute? (e : Fault) (name : String) : Option Data :=
  match e, name with
  | .custom reason _, "reason" => some (.str reason)
  | .custom _ details, "details" => some (.tuple details)
  | .missingKey key, "args" => some (.tuple [key])
  | e, "args" => some (.tuple [.str e.message])
  | _, _ => none

/-- The error for a place that scripts have no access to. -/
def noAccess (key : Data) : Fault := .error .access ("access to '" ++ key.text ++ "' is not allowed")

/-- The item of a host sequence. -/
def sequenceItem (xs : List Data) (key : Data) : Except Fault Data :=
  let at? (i : Int) : Except Fault Data :=
    let i := if i < 0 then i + xs.length else i
    match (if i < 0 then none else xs[i.toNat]?) with
    | some d => .ok d
    | none => .error (.error .outOfRange "tuple index out of range")
  match key with
  | .int i => at? i
  | .bool b => at? (if b then 1 else 0)
  | _ => .error (.error .misuse "indices must be integers or slices")

/-- A part of a host object: items of sequences and dictionaries, attributes of everything else. -/
def objectPart (d key : Data) : Except Fault Data :=
  match d with
  | .list xs | .tuple xs => sequenceItem xs key
  | .dict es =>
    if !key.isHashable then .error unhashable
    else match Data.lookup? es key with
      | some v => .ok v
      | none => .error (.missingKey key)
  | d =>
    match key with
    | .str name =>
      if name.startsWith "_" then .error (noAccess key)
      else match d with
        | .fault e => match faultAttribute? e name with
          | some v => .ok v
          | none => .error (.error .access ("'" ++ e.name ++ "' object has no attribute '" ++ name ++ "'"))
        | .execution id runId =>
          if name == "id" then .ok (.str id) else if name == "run_id" then .ok (.str runId)
          else .error (.error .access ("no attribute '" ++ name ++ "'"))
        | d => .error (.error .access ("'" ++ d.typeName ++ "' object has no attribute '" ++ name ++ "'"))
    | key => .error (noAccess key)

/-- Reads a part of a host object. -/
def objectIndex (d : Data) (key : Value) : Act Value := convert fun s => do
  let part ← objectPart d (← s.toData key)
  s.shallow part

/-! ### Entries -/

/-- Reads an entry; `naming` names the value in an error. -/
def indexWithin (c : Caller) : Nat → Option Naming → Value → Value → Act Value
  | 0, _, _, _ => failText c.site "'__index' chain too long; possibly a loop"
  | fuel + 1, naming, v, key => do
    match v with
    | .object _ d => objectIndex d key
    | v =>
      let (found, handler) ← read fun s => match v with
        | .table t =>
          match (s.table t).get key with
          | .nil => (Value.nil, s.metaEntry v "__index")
          | x => (x, .nil)
        | v => (.nil, s.metaEntry v "__index")
      match v, handler with
      | .table _, .nil => return found
      | v, .nil => typeError c "index" v naming
      | v, .function f => return first (← call (.function f) [v, key] (c.callSite "index"))
      | _, other => indexWithin c fuel none other key

def index (c : Caller) (naming : Option Naming) (v key : Value) : Act Value := indexWithin c maxChain naming v key

/-- Writes an entry of a table without asking its metatable. -/
def rawSet (site : Site) (t : TableId) (key v : Value) : Act Unit := do
  match key with
  | .nil => failText site "table index is nil"
  | key =>
    if key.isNaN then failText site "table index is NaN"
    else write (·.setTable t (·.set key v))

/-- Writes an entry. -/
def setIndexWithin (c : Caller) : Nat → Option Naming → Value → Value → Value → Act Unit
  | 0, _, _, _, _ => failText c.site "'__newindex' chain too long; possibly a loop"
  | fuel + 1, naming, v, key, new => do
    match v with
    | .object _ (.list _) | .object _ (.tuple _) | .object _ (.dict _) => raiseFault (.error .misuse "item assignment")
    | .object .. => do
      let name ← convert fun s => do
        let d ← s.toData key
        pure (s, d)
      raiseFault (noAccess name)
    | v =>
      let (present, handler) ← read fun s => match v with
        | .table t =>
          match (s.table t).get key with
          | .nil => (false, s.metaEntry v "__newindex")
          | _ => (true, .nil)
        | v => (false, s.metaEntry v "__newindex")
      match v, present, handler with
      | .table t, true, _ => rawSet c.site t key new
      | .table t, false, .nil => rawSet c.site t key new
      | v, _, .nil => typeError c "index" v naming
      | v, _, .function f => do
        let _ ← call (.function f) [v, key, new] (c.callSite "newindex")
        return ()
      | _, _, other => setIndexWithin c fuel none other key new

def setIndex (c : Caller) (naming : Option Naming) (v key new : Value) : Act Unit :=
  setIndexWithin c maxChain naming v key new

/-! ### Arithmetic and joining -/

/-- A metamethod of the first operand, or else of the second. -/
def binaryHandler (event : String) (a b : Value) : Act Value := read fun s =>
  match s.metaEntry a event with
  | .nil => s.metaEntry b event
  | h => h

def isNumber : Value → Bool
  | .int _ | .float _ => true
  | _ => false

/-- A number, also one denoted by a string. -/
def asNumber? : Value → Option Value
  | .str s => Number.ofBytes? s
  | .int n => some (.int n)
  | .float x => some (.float x)
  | _ => none

/-- The result of arithmetic on plain operands; strings count as numbers for operations on bits. -/
def plainArith (op : ArithOp) (a b : Value) : Option (Except Number.ArithError Value) :=
  if op.isBitwise then
    match (asNumber? a).bind Number.toInt?, (asNumber? b).bind Number.toInt? with
    | some m, some n => some (Number.intArith op m n)
    | _, _ => none
  else if isNumber a && isNumber b then some (Number.arith op a b)
  else none

/-- The name of an event without its mark. -/
def eventName (op : ArithOp) : String := String.ofList (op.event.toList.drop 2)

/-- Arithmetic; `na` and `nb` name the operands in an error. -/
def arith (c : Caller) (op : ArithOp) (na nb : Option Naming) (a b : Value) : Act Value := do
  match plainArith op a b with
  | some (.ok v) => return v
  | some (.error .divisionByZero) => failText c.site "attempt to perform 'n//0'"
  | some (.error .remainderByZero) => failText c.site "attempt to perform 'n%%0'"
  | some (.error .noInteger) => failText c.site "number has no integer representation"
  | none =>
    match ← binaryHandler op.event a b with
    | .nil =>
      if op.isBitwise then
        if isNumber a && isNumber b then
          let naming := if (Number.toInt? a).isSome then nb else na
          fail c.site ("number".toUTF8 ++ namingText naming ++ " has no integer representation".toUTF8)
        else if isNumber a then typeError c "perform bitwise operation on" b nb
        else typeError c "perform bitwise operation on" a na
      else if isNumber a then typeError c "perform arithmetic on" b nb
      else typeError c "perform arithmetic on" a na
    | h => return first (← call h [a, b] (c.callSite (eventName op)))

/-- The text of a string or a number. -/
def plainText? : Value → Option ByteArray
  | .str s => some s
  | .int n => some (toString n.toInt).toUTF8
  | .float x => some (Number.floatText x).toUTF8
  | _ => none

/-- Joins two texts. -/
def concat (c : Caller) (na nb : Option Naming) (a b : Value) : Act Value := do
  match plainText? a, plainText? b with
  | some s, some t => return .str (s ++ t)
  | pa, _ =>
    match ← binaryHandler "__concat" a b with
    | .nil => if pa.isSome then typeError c "concatenate" b nb else typeError c "concatenate" a na
    | h => return first (← call h [a, b] (c.callSite "concat"))

/-- The length of a value. -/
def length (c : Caller) (naming : Option Naming) (v : Value) : Act Value := do
  match v with
  | .str s => return .int (Int64.ofNat s.size)
  | v =>
    let (handler, size) ← read fun s => (s.metaEntry v "__len", match v with
      | .table t => some (s.table t).length
      | _ => none)
    match handler, size with
    | .nil, some n => return .int (Int64.ofNat n)
    | .nil, none => typeError c "get length of" v naming
    | h, _ => return first (← call h [v, v] (c.callSite "len"))

/-! ### Comparison -/

/-- Equality. -/
def equal (c : Caller) (a b : Value) : Act Bool := do
  if a.rawEq b then return true
  match a, b with
  | .table _, .table _ =>
    match ← binaryHandler "__eq" a b with
    | .nil => return false
    | h => return (first (← call h [a, b] (c.callSite "eq"))).truthy
  | _, _ => return false

/-- Order of byte strings. -/
def bytesLess : List UInt8 → List UInt8 → Bool
  | _, [] => false
  | [], _ :: _ => true
  | a :: as, b :: bs => a < b || (a == b && bytesLess as bs)

/-- The error for values without an order. -/
def orderError {α : Type} (c : Caller) (a b : Value) : Act α := do
  let (s, t) ← read fun st => (st.typeName a, st.typeName b)
  if s == t then fail c.site ("attempt to compare two ".toUTF8 ++ s ++ " values".toUTF8)
  else fail c.site ("attempt to compare ".toUTF8 ++ s ++ " with ".toUTF8 ++ t)

/-- A comparison that metatables decide. -/
def orderBy (c : Caller) (event name : String) (a b : Value) : Act Bool := do
  match ← binaryHandler event a b with
  | .nil => orderError c a b
  | h => return (first (← call h [a, b] (c.callSite name))).truthy

def less (c : Caller) (a b : Value) : Act Bool := do
  match a, b with
  | .str s, .str t => return bytesLess s.toList t.toList
  | a, b => if isNumber a && isNumber b then return Number.less a b else orderBy c "__lt" "lt" a b

def lessEq (c : Caller) (a b : Value) : Act Bool := do
  match a, b with
  | .str s, .str t => return !bytesLess t.toList s.toList
  | a, b => if isNumber a && isNumber b then return Number.lessEq a b else orderBy c "__le" "le" a b

/-! ### Text of values -/

/-- The text of an address. -/
def addressText (n : Nat) : String := "0x" ++ String.ofList (Text.hex 12 (0x550000000000 + 64 * n))

/-- The text of a value without metamethods. -/
def bareText (s : Store) (v : Value) : ByteArray :=
  let kind := match s.metaEntry v "__name" with
    | .str n => n
    | _ => v.typeName.toUTF8
  match v with
  | .nil => "nil".toUTF8
  | .bool b => (if b then "true" else "false").toUTF8
  | .table t => kind ++ (": " ++ addressText t).toUTF8
  | .function f => kind ++ (": " ++ addressText f).toUTF8
  | .object _ d => d.text.toUTF8
  | v => (plainText? v).getD ByteArray.empty

/-- The text of a value, asked from its metatable first. -/
def textOf (c : Caller) (v : Value) : Act ByteArray := do
  match ← read (·.metaEntry v "__tostring") with
  | .nil => read fun s => bareText s v
  | h =>
    match first (← call h [v] { site := none, blocks := true, nests := true }) with
    | .str s => return s
    | .int n => return (toString n.toInt).toUTF8
    | .float x => return (Number.floatText x).toUTF8
    | _ => failText c.site "'__tostring' must return a string"

/-- The metatable of a value as scripts see it. -/
def shownMeta (s : Store) (v : Value) : Value :=
  match s.meta? v with
  | none => .nil
  | some m =>
    match (s.table m).get (.ofText "__metatable") with
    | .nil => .table m
    | shown => shown

/-- The text of a value as scripts see it: tables and functions show their kind and never their address, unless
their metatable has a text of its own for them. -/
def stableText (v : Value) : Act ByteArray := do
  match v with
  | .function _ => return "function".toUTF8
  | .table _ =>
    match ← read (shownMeta · v) with
    | .nil => return "table".toUTF8
    | .table m =>
      match ← index .hidden none (.table m) (.ofText "__tostring") with
      | .nil => return "table".toUTF8
      | _ => textOf .hidden v
    | _ => textOf .hidden v
  | v => textOf .hidden v

end Act

end ScriptFlow.Script
