import ScriptFlow.Script.Library.Arguments

/-!
# Functions on tables

The functions work on the entries `1 … n` of a table, read and written as scripts do. `sort` exchanges entries in place, in the order in which a quicksort with the
median of three does; it is not stable, and a comparison that is no order is noticed when a search
runs out of the table.
-/

namespace ScriptFlow.Script

namespace Invocation

/-- Reads an entry at a position. -/
def entry (inv : Invocation) (i : Int) : Act Value := Act.index .native none (inv.get 1) (intValue i)

/-- Writes an entry at a position. -/
def setEntry (inv : Invocation) (i : Int) (v : Value) : Act Unit := Act.setIndex .native none (inv.get 1) (intValue i) v

/-- The argument must be a table, or behave like one. -/
def tableLike (inv : Invocation) (n : Nat) (events : List String) : Act Unit := do
  match inv.get n with
  | .table _ => pure ()
  | v =>
    let ok ← Act.read fun s => (s.meta? v).isSome && events.all fun e => match s.metaEntry v e with
      | .nil => false
      | _ => true
    if ok then pure () else discard (inv.table n)

/-- The length of an argument. -/
def lengthOf (inv : Invocation) (n : Nat) : Act Int := do
  match ← Act.length .native none (inv.get n) with
  | .int i => return i.toInt
  | v =>
    match Number.toInt? v with
    | some i => return i.toInt
    | none => inv.fail "object length is not an integer"

/-! ### Joining, adding, removing, moving -/

def concatFrom (inv : Invocation) (sep : ByteArray) : Nat → Int → ByteArray → Act ByteArray
  | 0, _, out => pure out
  | left + 1, i, out => do
    match Act.plainText? (← inv.entry i) with
    | some s => concatFrom inv sep left (i + 1) (if left == 0 then out ++ s else out ++ s ++ sep)
    | none => inv.fail ("invalid value (at index " ++ toString i ++ ") in table for 'concat'")

def concat (inv : Invocation) : Act (List Value) := do
  inv.tableLike 1 ["__index", "__len"]
  let n ← inv.lengthOf 1
  let sep ← inv.textOr 2 ByteArray.empty
  let i ← inv.intOr 3 1
  let j ← inv.intOr 4 n
  return [.str (← inv.concatFrom sep (j - i + 1).toNat i ByteArray.empty)]

/-- Moves entries up by one, from the end of a range down to its start. -/
def shiftUp (inv : Invocation) : Nat → Int → Act Unit
  | 0, _ => pure ()
  | left + 1, i => do
    inv.setEntry i (← inv.entry (i - 1))
    shiftUp inv left (i - 1)

def insert (inv : Invocation) : Act (List Value) := do
  inv.tableLike 1 ["__index", "__newindex", "__len"]
  let stop := (← inv.lengthOf 1) + 1
  match inv.count with
  | 2 =>
    inv.setEntry stop (inv.get 2)
    return []
  | 3 =>
    let i ← inv.int 2
    inv.check (1 ≤ i && i ≤ stop) 2 "position out of bounds"
    inv.shiftUp (stop - i).toNat stop
    inv.setEntry i (inv.get 3)
    return []
  | _ => inv.fail "wrong number of arguments to 'insert'"

/-- Moves entries down by one. -/
def shiftDown (inv : Invocation) : Nat → Int → Act Unit
  | 0, _ => pure ()
  | left + 1, i => do
    inv.setEntry i (← inv.entry (i + 1))
    shiftDown inv left (i + 1)

def remove (inv : Invocation) : Act (List Value) := do
  inv.tableLike 1 ["__index", "__newindex", "__len"]
  let size ← inv.lengthOf 1
  let i ← inv.intOr 2 size
  if inv.count ≥ 2 && i != size then inv.check (1 ≤ i && i ≤ size + 1) 2 "position out of bounds"
  let v ← inv.entry i
  inv.shiftDown (size - i).toNat i
  inv.setEntry (max i size) .nil
  return [v]

def moveUp (inv : Invocation) (target : Value) (from' to' : Int) : Nat → Nat → Act Unit
  | 0, _ => pure ()
  | left + 1, i => do
    Act.setIndex .native none target (intValue (to' + i)) (← inv.entry (from' + i))
    moveUp inv target from' to' left (i + 1)

def moveDown (inv : Invocation) (target : Value) (from' to' : Int) : Nat → Act Unit
  | 0 => pure ()
  | left + 1 => do
    Act.setIndex .native none target (intValue (to' + left)) (← inv.entry (from' + left))
    moveDown inv target from' to' left

def move (inv : Invocation) : Act (List Value) := do
  inv.tableLike 1 ["__index"]
  let f ← inv.int 2
  let e ← inv.int 3
  let t ← inv.int 4
  let targetPlace := if inv.isAbsent 5 then 1 else 5
  inv.tableLike targetPlace ["__newindex"]
  let target := inv.get targetPlace
  if e ≥ f then
    inv.check (f > 0 || e < Nat.pow 2 63 - 1 + f) 3 "too many elements to move"
    inv.check (t ≤ Nat.pow 2 63 - 1 - (e - f + 1) + 1) 4 "destination wrap around"
    let n := (e - f + 1).toNat
    if t > e || t ≤ f || (targetPlace == 5 && !target.rawEq (inv.get 1)) then inv.moveUp target f t n 0
    else inv.moveDown target f t n
  return [target]

/-! ### Packing -/

def pack (inv : Invocation) : Act (List Value) := do
  let table := ((Table.ofList inv.args).set (.ofText "n") (intValue inv.count))
  return [← Act.newTable { table with layout := { table.layout with room := 1, taken := [.ofText "n"] } }]

/-- The most results a call can have. -/
def maxResults : Nat := 1000000

def entries (inv : Invocation) : Nat → Int → Act (List Value)
  | 0, _ => pure []
  | left + 1, i => do
    let v ← inv.entry i
    return v :: (← entries inv left (i + 1))

def unpack (inv : Invocation) : Act (List Value) := do
  let i ← inv.intOr 2 1
  let e ← if inv.isAbsent 3 then inv.lengthOf 1 else inv.int 3
  if i > e then return []
  if e - i ≥ maxResults - 10 then inv.fail "too many results to unpack"
  inv.entries (e - i + 1).toNat i

/-! ### Sorting -/

/-- Does one value come before another? -/
def before (inv : Invocation) (a b : Value) : Act Bool := do
  match inv.get 2 with
  | .nil => Act.less .native a b
  | f => return (first (← Act.call f [a, b] { blocks := true, nests := true })).truthy

/-- Exchanges two entries whose values are known. -/
def exchange (inv : Invocation) (i j : Int) (atI atJ : Value) : Act Unit := do
  inv.setEntry i atJ
  inv.setEntry j atI

def badOrder {α : Type} (inv : Invocation) : Act α := inv.fail "invalid order function for sorting"

/-- From a position up, the first entry that does not come before the pivot. -/
def scanUp (inv : Invocation) (pivot : Value) (limit : Int) : Nat → Int → Act (Int × Value)
  | 0, i => do return (i, ← inv.entry i)
  | fuel + 1, i => do
    let v ← inv.entry i
    if ← inv.before v pivot then
      if i == limit then inv.badOrder else scanUp inv pivot limit fuel (i + 1)
    else return (i, v)

/-- From a position down, the first entry that the pivot does not come before. -/
def scanDown (inv : Invocation) (pivot : Value) (limit : Int) : Nat → Int → Act (Int × Value)
  | 0, j => do return (j, ← inv.entry j)
  | fuel + 1, j => do
    let v ← inv.entry j
    if ← inv.before pivot v then
      if j < limit then inv.badOrder else scanDown inv pivot limit fuel (j - 1)
    else return (j, v)

/-- Parts the entries between two positions at a pivot; gives where the pivot ends up. -/
def partition (inv : Invocation) (pivot : Value) (up : Int) : Nat → Int → Int → Act Int
  | 0, i, _ => pure i
  | fuel + 1, i, j => do
    let size := (up - i + 2).toNat + (j + 2).toNat
    let (i, vi) ← inv.scanUp pivot (up - 1) size (i + 1)
    let (j, vj) ← inv.scanDown pivot i size (j - 1)
    if j < i then
      let last ← inv.entry (up - 1)
      inv.exchange (up - 1) i last vi
      return i
    inv.exchange i j vi vj
    partition inv pivot up fuel i j

/-- Sorts the entries between two positions. -/
def sortRange (inv : Invocation) : Nat → Int → Int → Act Unit
  | 0, _, _ => pure ()
  | fuel + 1, lo, up => do
    if lo ≥ up then return ()
    let a ← inv.entry lo
    let b ← inv.entry up
    if ← inv.before b a then inv.exchange lo up a b
    if up - lo == 1 then return ()
    let p := (lo + up) / 2
    let vp ← inv.entry p
    let vl ← inv.entry lo
    if ← inv.before vp vl then inv.exchange p lo vp vl
    else
      let vu ← inv.entry up
      if ← inv.before vu vp then inv.exchange p up vp vu
    if up - lo == 2 then return ()
    let pivot ← inv.entry p
    let v ← inv.entry (up - 1)
    inv.exchange p (up - 1) pivot v
    let m ← inv.partition pivot up (up - lo + 2).toNat lo (up - 1)
    if m - lo < up - m then
      sortRange inv fuel lo (m - 1)
      sortRange inv fuel (m + 1) up
    else
      sortRange inv fuel (m + 1) up
      sortRange inv fuel lo (m - 1)

def sort (inv : Invocation) : Act (List Value) := do
  inv.tableLike 1 ["__index", "__newindex", "__len"]
  let n ← inv.lengthOf 1
  if n > 1 then
    inv.check (n < Nat.pow 2 31 - 1) 1 "array too big"
    unless inv.isAbsent 2 do
      match inv.get 2 with
      | .function _ => pure ()
      | _ => inv.expected 2 "function"
    inv.sortRange (n.toNat + 1) 1 n
  return []

/-- A function on tables. -/
def runTable (inv : Invocation) (f : TableFunction) : Act (List Value) :=
  match f with
  | .concat => inv.concat
  | .insert => inv.insert
  | .move => inv.move
  | .pack => inv.pack
  | .remove => inv.remove
  | .sort => inv.sort
  | .unpack => inv.unpack

end Invocation

end ScriptFlow.Script
