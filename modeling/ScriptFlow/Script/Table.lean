import ScriptFlow.Script.Value

/-!
# Tables

A table is a finite map from keys to values that are not `nil`. Its contents are a list of entries (`Table.get`, `Table.set`, with the laws
`get_set_self` and `get_set_other`).

The length of a table is a border: a count `n` such that entry `n` is present and entry `n + 1` is not. A table with holes has several; which one is
chosen depends on how the entries were put in, and `Layout` keeps just enough of that: how many places the sequence part has, and which keys
fill the rest. The layout never influences the contents.
-/

namespace ScriptFlow.Script

/-- How much room a table has. -/
structure Layout where
  /-- keys from one up to this count have a place of their own -/
  places : Nat := 0
  /-- places for all other keys -/
  room : Nat := 0
  /-- the keys that took up such a place -/
  taken : List Value := []
  deriving Inhabited

structure Table where
  entries : List (Value × Value) := []
  layout : Layout := {}
  meta? : Option TableId := none
  deriving Inhabited

/-- The key of an entry, if it is a whole number from one on. -/
def Value.position? : Value → Option Nat
  | .int n => if 0 < n then some n.toInt.toNat else none
  | _ => none

namespace Layout

/-- The least power of two that is not below a count; nothing needs no room. -/
def roomFor (n : Nat) : Nat := if n == 0 then 0 else if n == 1 then 1 else Nat.pow 2 ((n - 1).log2 + 1)

/-- Is there a place for the key already? -/
def holds (l : Layout) (key : Value) : Bool :=
  (match key.position? with
    | some n => decide (n ≤ l.places)
    | none => false) || l.taken.any (·.rawEq key)

/-- The greatest power of two such that more than half of the positions up to it are in use. -/
def bestPlaces (positions : List Nat) : Nat :=
  (List.range 32).foldl (fun best i =>
    let count := (positions.filter (· ≤ Nat.pow 2 i)).length
    if count > Nat.pow 2 i / 2 then Nat.pow 2 i else best) 0

/-- A new layout for the keys in use and one more. -/
def rebuilt (keys : List Value) (key : Value) : Layout :=
  let all := key :: keys
  let places := bestPlaces (all.filterMap Value.position?)
  let others := all.filter fun k => match k.position? with
    | some n => decide (places < n)
    | none => true
  { places := places, room := roomFor others.length, taken := others }

/-- Makes a place for a key; `keys` are the keys in use. -/
def makeRoom (l : Layout) (keys : List Value) (key : Value) : Layout :=
  if l.holds key then l
  else if l.taken.length < l.room then { l with taken := key :: l.taken }
  else rebuilt keys key

/-- The layout of a new table with the given counts of positions and of other keys. -/
def withRoom (places others : Nat) : Layout := { places := places, room := roomFor others }

end Layout

namespace Table

/-- The value under a key in its key form. -/
def find (entries : List (Value × Value)) (key : Value) : Value :=
  match entries with
  | [] => .nil
  | (k, v) :: rest => if k.rawEq key then v else find rest key

/-- Entries with the value under a key replaced, added or, by `nil`, removed. -/
def put (entries : List (Value × Value)) (key value : Value) : List (Value × Value) :=
  match entries with
  | [] => match value with
    | .nil => []
    | v => [(key, v)]
  | (k, v) :: rest =>
    if k.rawEq key then
      match value with
      | .nil => rest
      | v' => (k, v') :: rest
    else (k, v) :: put rest key value

def get (t : Table) (key : Value) : Value := find t.entries key.keyForm

def set (t : Table) (key value : Value) : Table :=
  let key := key.keyForm
  let layout := match value with
    | .nil => t.layout
    | _ => if t.layout.holds key then t.layout else t.layout.makeRoom (t.entries.map Prod.fst) key
  { t with entries := put t.entries key value, layout := layout }

def getInt (t : Table) (n : Int64) : Value := find t.entries (.int n)

/-- Is there an entry at a position? -/
def hasAt (t : Table) (n : Nat) : Bool :=
  match t.getInt (Int64.ofInt n) with
  | .nil => false
  | _ => true

/-- A position with an entry whose successor has none, between one that has an entry (or zero) and one that has none. -/
def borderBetween (t : Table) : Nat → Nat → Nat → Nat
  | 0, low, _ => low
  | fuel + 1, low, high =>
    if high - low ≤ 1 then low
    else
      let middle := (low + high) / 2
      if t.hasAt middle then borderBetween t fuel middle high else borderBetween t fuel low middle

/-- Doubles a position until there is no entry. -/
def firstAbsent (t : Table) : Nat → Nat → Nat → Nat × Nat
  | 0, low, high => (low, high)
  | fuel + 1, low, high => if t.hasAt high then firstAbsent t fuel high (2 * high) else (low, high)

/-- The length of a table. -/
def length (t : Table) : Nat :=
  let limit := t.layout.places
  if 0 < limit && !t.hasAt limit then
    if 2 ≤ limit && t.hasAt (limit - 1) then limit - 1 else borderBetween t 64 0 limit
  else if !t.hasAt (limit + 1) then limit
  else
    let (low, high) := if limit == 0 then firstAbsent t 64 0 1 else firstAbsent t 64 limit (2 * limit)
    borderBetween t 64 low high

/-- The keys in use. -/
def keys (t : Table) : List Value := t.entries.map Prod.fst

/-- A table of positional values. -/
def ofList (vs : List Value) : Table :=
  let entries := (vs.zipIdx 1).filterMap fun e => match e.1 with
    | .nil => none
    | v => some (.int (Int64.ofInt e.2), v)
  { entries := entries, layout := .withRoom vs.length 0 }

end Table

end ScriptFlow.Script
