import ScriptFlow.Script.Library.Arguments

/-!
# Basic functions

Errors and their handling, raw access to tables, metatables, conversion, and iteration. `pairs` visits keys in one order whatever the table's
history: by the name of their type and then by value; the keys are listed when the loop starts.
-/

namespace ScriptFlow.Script

namespace Value

/-- Order of keys: by the name of their type, then `false` before `true`, numbers by value, strings by their bytes. -/
def keyLess (a b : Value) : Bool :=
  if a.typeName != b.typeName then decide (a.typeName < b.typeName)
  else match a, b with
    | bool a, bool b => !a && b
    | str a, str b => Act.bytesLess a.toList b.toList
    | a, b => Act.isNumber a && Act.isNumber b && Number.less a b

end Value

/-- The keys of a table in order. -/
def Table.sortedKeys (t : Table) : List Value := t.keys.mergeSort fun a b => !b.keyLess a

namespace Invocation

/-- The place that a message of some level names: level one is where the failing function was called. -/
def placeOf (places : List Site) (level : Int) : Site :=
  if level ≤ 0 then none else (places[(level - 1).toNat]?).getD none

/-- Ends with an error value; a string gets the place of the given level in front. -/
def raiseAt (v : Value) (level : Int) : Act (List Value) := do
  match v with
  | .str s =>
    let places ← Act.places
    Act.raise ((placeOf places level).text s)
  | v => Act.raise v

def error (inv : Invocation) : Act (List Value) := do
  let level ← inv.intOr 2 1
  raiseAt (inv.get 1) level

def assert (inv : Invocation) : Act (List Value) := do
  if (inv.get 1).truthy then return inv.args
  discard (inv.any 1)
  raiseAt ((inv.at? 2).getD (.ofText "assertion failed!")) 1

def select (inv : Invocation) : Act (List Value) := do
  let n := inv.count
  match inv.get 1 with
  | .str s =>
    if s.data[0]? == some 35 then return [intValue (n - 1)]
    rest n
  | _ => rest n
where
  /-- the values from a place on -/
  rest (n : Nat) : Act (List Value) := do
    let i ← inv.int 1
    let i := if i < 0 then n + i else if i > n then n else i
    inv.check (1 ≤ i) 1 "index out of range"
    return inv.args.drop i.toNat

/-- The digit that a character stands for in bases up to thirty-six. -/
def digitOf? (c : Char) : Option Nat :=
  if c.isDigit then some (c.toNat - 48) else if c.isAlpha then some (c.toLower.toNat - 87) else none

/-- The whole number that a text denotes in a base. -/
def inBase? (base : Nat) (cs : List Char) : Option Value :=
  let (negative, ds) := match Number.trimBlanks cs with
    | '-' :: rest => (true, rest)
    | rest => (false, rest)
  match ds.mapM digitOf? with
  | some (d :: ds) =>
    if (d :: ds).any (· ≥ base) then none
    else some (intValue (Binary.signOf negative * ((d :: ds).foldl (fun n d => n * base + d) 0 : Nat)))
  | _ => none

def tonumber (inv : Invocation) : Act (List Value) := do
  if inv.isAbsent 2 then
    match Act.asNumber? (inv.get 1) with
    | some v => return [v]
    | none => do
      discard (inv.any 1)
      return [.nil]
  let base ← inv.int 2
  match inv.get 1 with
  | .str s =>
    inv.check (2 ≤ base && base ≤ 36) 2 "base out of range"
    return [(inBase? base.toNat (Number.charsOf s)).getD .nil]
  | _ => inv.expected 1 "string"

/-! ### Tables and metatables -/

def rawget (inv : Invocation) : Act (List Value) := do
  let t ← inv.table 1
  let k ← inv.any 2
  return [(← Act.table t).get k]

def rawset (inv : Invocation) : Act (List Value) := do
  let t ← inv.table 1
  discard (inv.any 2)
  discard (inv.any 3)
  Act.rawSet none t (inv.get 2) (inv.get 3)
  return [.table t]

def rawlen (inv : Invocation) : Act (List Value) := do
  match inv.get 1 with
  | .str s => return [intValue s.size]
  | .table t => return [intValue (← Act.table t).length]
  | _ => inv.expected 1 "table or string"

/-- Gives a table a metatable, unless the one it has is protected. -/
def setMeta (site : Site) (t : TableId) (m : Option TableId) : Act (List Value) := do
  match ← Act.read (·.metaEntry (.table t) "__metatable") with
  | .nil =>
    Act.write (·.setTable t fun table => { table with meta? := m })
    return [.table t]
  | _ => Act.failText site "cannot change a protected metatable"

def setmetatable (inv : Invocation) : Act (List Value) := do
  let t ← inv.table 1
  match inv.at? 2 with
  | some .nil => setMeta inv.site t none
  | some (.table m) => setMeta inv.site t (some m)
  | _ => inv.expected 2 "nil or table"

def getmetatable (inv : Invocation) : Act (List Value) := do
  let v ← inv.any 1
  return [← Act.read (Act.shownMeta · v)]

/-! ### Iteration -/

def ipairsNext (inv : Invocation) : Act (List Value) := do
  let i ← inv.int 2
  let i : Value := .int (Int64.ofInt i + 1)
  match ← Act.index .native none (inv.get 1) i with
  | .nil => return [.nil]
  | v => return [i, v]

/-- The keys of an argument that has to be a table. -/
def sortedKeys (v : Value) : Act (List Value) := do
  match v with
  | .table t => return (← Act.table t).sortedKeys
  | v =>
    let got ← Act.read (·.typeName v)
    Act.fail none ("bad argument #1 to 'for iterator' (table expected, got ".toUTF8 ++ got ++ ")".toUTF8)

def pairs (inv : Invocation) : Act (List Value) := do
  let v := inv.get 1
  let keys ← sortedKeys v
  let position ← Act.newCell (intValue 0)
  return [← Act.newNative (.pairsNext v keys.toArray position), v, .nil]

/-- The next of the keys listed at the start, with the value it has now. -/
def pairsNext (subject : Value) (keys : Array Value) (position : CellId) : Act (List Value) := do
  let i ← Act.modifyGet fun s =>
    let i : Nat := match s.cell position with
      | .int i => i.toInt.toNat
      | _ => 0
    (s.setCell position (intValue (i + 1)), i)
  match keys[i]? with
  | some k => return [k, ← Act.index .hidden none subject k]
  | none => return []

end Invocation

end ScriptFlow.Script
