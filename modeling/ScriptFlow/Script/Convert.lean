import ScriptFlow.Script.Store
import ScriptFlow.Text.Utf8

/-!
# Data and script values

* `Store.ofData` brings plain data into a script: lists, tuples and dictionaries become new tables, atoms become atoms, everything else a host
  object. An absent item leaves no entry.
* `Store.toData` takes a value out: a table whose keys are exactly `1 … n` becomes a list, any other table a dictionary with its keys in
  order of their type's name and then their value. The order in which a table was filled has no influence.
* `Store.shallow` is what a script gets when it reads a part of a host object.
-/

namespace ScriptFlow.Script

/-- The error for a whole number that does not fit into 64 bits. -/
def integerOverflow : Fault := .error .overflow "Python int too large to convert to C long"

/-- The error for values that refer to themselves. -/
def endlessNesting : Fault := .error .recursion "maximum recursion depth exceeded"

/-- The error for a key that no dictionary can have. -/
def unhashable : Fault := .error .misuse "unhashable key"

namespace Store

/-- Data as a value, containers as host objects. -/
def shallow (s : Store) (d : Data) : Except Fault (Store × Value) :=
  match d with
  | .null => .ok (s, .nil)
  | .bool b => .ok (s, .bool b)
  | .int n => if -Nat.pow 2 63 ≤ n && n < Nat.pow 2 63 then .ok (s, .int (Int64.ofInt n)) else .error integerOverflow
  | .float x => .ok (s, .float x)
  | .str t => .ok (s, .ofText t)
  | .looseText cs => .error (Utf8.encodeFault cs)
  | .bytes bs => .ok (s, .str bs)
  | d => .ok (s.newObject d)

/-- A key of a dictionary as a key of a table. -/
def keyOf (s : Store) (d : Data) : Except Fault (Store × Value) :=
  match d with
  | .null => .ok (s.newObject .null)
  | d => s.shallow d

mutual

/-- Data as a value, containers as new tables. -/
def ofData (s : Store) : Data → Except Fault (Store × Value)
  | .list xs | .tuple xs => do
    let (s, t) := s.newTable {}
    let s ← ofItems s t 1 xs
    pure (s, .table t)
  | .dict es => do
    let (s, t) := s.newTable {}
    let s ← ofEntries s t es
    pure (s, .table t)
  | d => s.shallow d

/-- Fills a table from a position on. -/
def ofItems (s : Store) (t : TableId) (i : Nat) : List Data → Except Fault Store
  | [] => .ok s
  | x :: xs => do
    let (s, v) ← ofData s x
    ofItems (s.setTable t (·.set (.int (Int64.ofInt i)) v)) t (i + 1) xs

/-- Fills a table with the entries of a dictionary. -/
def ofEntries (s : Store) (t : TableId) : List (Data × Data) → Except Fault Store
  | [] => .ok s
  | (k, x) :: es => do
    let (s, v) ← ofData s x
    let (s, key) ← keyOf s k
    ofEntries (s.setTable t (·.set key v)) t es

end

/-- A value that is no table. -/
def atomOf : Value → Except Fault Data
  | .nil => .ok .null
  | .bool b => .ok (.bool b)
  | .int n => .ok (.int n.toInt)
  | .float x => .ok (.float x)
  | .str s => (Utf8.decode s).map .str
  | .object _ d => .ok d
  | .function _ => .error (.error .codec "cannot convert Lua function to a Python value")
  | .table _ => .error endlessNesting

/-- Order of keys of one type. -/
def keyLess : Data → Data → Bool
  | .bool a, .bool b => !a && b
  | .str a, .str b => decide (a < b)
  | .span a, .span b | .instant a, .instant b => decide (a < b)
  | a, b =>
    match a.numeric?, b.numeric? with
    | some m, some n => m.less n
    | _, _ => false

/-- Order of keys: by the name of their type and then by value. -/
def keyBefore (a b : Data) : Bool :=
  decide (a.typeName < b.typeName) || (a.typeName == b.typeName && keyLess a b)

/-- Keys of types without an order cannot stand together. -/
def isOrdered : Data → Bool
  | .bool _ | .int _ | .float _ | .str _ | .list _ | .tuple _ | .bytes _ | .span _ | .instant _ => true
  | _ => false

/-- Do two keys make sorting fail? -/
def clash : List Data → Bool
  | [] => false
  | k :: ks => (!isOrdered k && ks.any fun k' => k'.typeName == k.typeName) || clash ks

/-- Are keys exactly `1 … n`? -/
def arePositions (keys : List Data) : Bool := Data.sameItems keys ((List.range keys.length).map fun i => .int (Int.ofNat (i + 1)))

/-- Values converted one after the other. -/
def convertAll {α : Type} (f : Value → Except Fault α) : List Value → Except Fault (List α)
  | [] => .ok []
  | v :: vs => do
    let x ← f v
    let xs ← convertAll f vs
    pure (x :: xs)

/-- Entries put into a dictionary in order; each value is converted before its key is looked at. -/
def collect (f : Value → Except Fault Data) : List (Data × Value) → List (Data × Data) → Except Fault (List (Data × Data))
  | [], acc => .ok acc
  | (k, v) :: es, acc => do
    let x ← f v
    unless k.isHashable do throw unhashable
    collect f es (Data.insertKey acc k x)

/-- Checks the strings among the entries of a table, which are read before anything is converted. -/
def readEntry (f : Value → Except Fault Data) (e : Value × Value) : Except Fault (Data × Value) := do
  let peek : Value → Except Fault Unit
    | .str s => (Utf8.decode s).map fun _ => ()
    | _ => .ok ()
  peek e.1
  peek e.2
  let k ← f e.1
  pure (k, e.2)

/-- Key and value of every entry, the keys converted, in order of the keys. -/
def sortedEntries (f : Value → Except Fault Data) (t : Table) : Except Fault (List (Data × Value)) := do
  let es ← t.entries.mapM (readEntry f)
  if clash (es.map Prod.fst) then throw (.error .misuse "keys without an order")
  pure (es.mergeSort fun a b => !keyBefore b.1 a.1)

/-- A value as data; tables nest at most as deep as there are tables. -/
def toDataWithin (s : Store) : Nat → Value → Except Fault Data
  | fuel + 1, .table t => do
    let es ← sortedEntries (toDataWithin s fuel) (s.table t)
    if arePositions (es.map Prod.fst) then
      (convertAll (toDataWithin s fuel) (es.map Prod.snd)).map .list
    else (collect (toDataWithin s fuel) es []).map .dict
  | _, v => atomOf v

/-- A value as data. -/
def toData (s : Store) (v : Value) : Except Fault Data := toDataWithin s (s.tables.size + 1) v

/-- All values as data, up to the first that has no form. -/
def toDataAll (s : Store) (vs : List Value) : Except Fault (List Data) := convertAll s.toData vs

end Store

end ScriptFlow.Script
