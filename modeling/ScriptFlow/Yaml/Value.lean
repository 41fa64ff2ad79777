import ScriptFlow.Data.Instant
import ScriptFlow.Data.Text
import ScriptFlow.Decimal.Read
import ScriptFlow.Yaml.Node
import ScriptFlow.Yaml.Token.Lexer

/-!
# Values of YAML documents

`Yaml.read` gives the value of the one document of a text; a text without a document has the value null. A node must fit its tag. Dates are values of a type of
their own; the entries that a merge key takes over come before the mapping's own ones, so the latter win.
-/

namespace ScriptFlow

namespace Yaml

def unfit {α : Type} (kind : FaultKind) (message : String) : Result α := .error (.unfit (.error kind message))

/-! ### Numbers -/

/-- The value of a digit in a base. -/
def digitIn? (base : Nat) (c : Char) : Option Nat :=
  match hexDigit? c with
  | some d => if d < base then some d else none
  | none => none

/-- A whole number in a base other than ten. -/
def intIn (base : Nat) (s : String) (ds : List Char) : Result Int :=
  let values := ds.filterMap (digitIn? base)
  if ds.isEmpty || values.length != ds.length then
    unfit .badValue ("invalid literal for int() with base " ++ toString base ++ ": " ++ Text.quoted s)
  else .ok ((values.foldl (fun n d => base * n + d) 0 : Nat) : Int)

def intOf (s : String) : Result Int := (Text.readInt s).mapError .unfit

def floatOf (s : String) : Result Float :=
  match Text.float? s with
  | some x => .ok x
  | none => unfit .badValue ("could not convert string to float: " ++ Text.quoted s)

/-- The digits of a number without fillers, and its sign. -/
def signed (s : String) : Result (Bool × List Char) :=
  match s.toList.filter (· != '_') with
  | '-' :: rest => .ok (true, rest)
  | '+' :: rest => .ok (false, rest)
  | [] => unfit .outOfRange "string index out of range"
  | rest => .ok (false, rest)

/-- A whole number in sixties. -/
def wholeSixties (ds : List Char) : Result Int := do
  let parts ← (Tag.colonParts ds).mapM fun p => intOf (String.ofList p)
  return parts.foldl (fun n d => 60 * n + d) 0

/-- A floating-point number in sixties, added up from its last part. -/
def realSixties (ds : List Char) : Result Float := do
  let parts ← (Tag.colonParts ds).mapM fun p => floatOf (String.ofList p)
  return (parts.reverse.foldl (fun (x, base) d => (x + d * base, base * 60.0)) ((0.0 : Float), (1.0 : Float))).1

def wholeDigits (ds : List Char) : Result Int :=
  let text := String.ofList ds
  match ds with
  | ['0'] => .ok 0
  | '0' :: 'b' :: rest => intIn 2 (String.ofList rest) rest
  | '0' :: 'x' :: rest => intIn 16 (String.ofList rest) rest
  | '0' :: _ => intIn 8 text ds
  | [] => unfit .outOfRange "string index out of range"
  | _ => if ds.contains ':' then wholeSixties ds else intOf text

def whole (s : String) : Result Data := do
  let (negative, ds) ← signed s
  let n ← wholeDigits ds
  return .int (if negative then -n else n)

def realDigits (ds : List Char) : Result Float :=
  let text := String.ofList ds
  if text == ".inf" then .ok (1.0 / 0.0)
  else if text == ".nan" then .ok (0.0 / 0.0)
  else if ds.contains ':' then realSixties ds
  else floatOf text

def real (s : String) : Result Data := do
  let (negative, ds) ← signed s
  let x ← realDigits (ds.map Char.toLower)
  return .float (if negative then -1.0 * x else x)

/-! ### Dates -/

/-- A date and time as a text. -/
def Timestamp.text (t : Timestamp) : String :=
  let date := padded 4 t.year ++ "-" ++ padded 2 t.month ++ "-" ++ padded 2 t.day
  match t.time with
  | none => date
  | some (hour, minute, second, micros) =>
    let clock := Span.clock 2 (((hour * 60 + minute) * 60 + second) * 1000000 + micros)
    let zone := match t.zone with
      | none => ""
      | some n => (if n < 0 then "-" else "+") ++ padded 2 (n.natAbs / 60) ++ ":" ++ padded 2 (n.natAbs % 60)
    date ++ "T" ++ clock ++ zone

/-- The value of a date whose parts are in range. -/
def Timestamp.value (t : Timestamp) : Result Data :=
  if t.year == 0 then unfit .badValue "year 0 is out of range"
  else if t.month < 1 || t.month > 12 then unfit .badValue "month must be in 1..12"
  else if t.day < 1 || t.day > Calendar.daysIn t.year t.month then unfit .badValue "day is out of range for month"
  else
    match t.time with
    | none => .ok (.foreign "date" t.text)
    | some (hour, minute, second, _) =>
      if hour > 23 then unfit .badValue "hour must be in 0..23"
      else if minute > 59 then unfit .badValue "minute must be in 0..59"
      else if second > 59 then unfit .badValue "second must be in 0..59"
      else if (t.zone.getD 0).natAbs ≥ 1440 then
        unfit .badValue "offset must be a timedelta strictly between -timedelta(hours=24) and timedelta(hours=24)."
      else .ok (.foreign "datetime" t.text)

/-! ### Bytes -/

/-- The value of a character of base 64. -/
def base64Value? (c : Char) : Option Nat :=
  if 'A' ≤ c && c ≤ 'Z' then some (c.toNat - 65)
  else if 'a' ≤ c && c ≤ 'z' then some (c.toNat - 71)
  else if c.isDigit then some (c.toNat + 4)
  else if c == '+' then some 62
  else if c == '/' then some 63
  else none

/-- Bytes from groups of four; characters outside of the alphabet are passed over. -/
def base64Bytes : List Nat → ByteArray → Result ByteArray
  | a :: b :: c :: d :: rest, acc =>
    base64Bytes rest (((acc.push (UInt8.ofNat (a * 4 + b / 16))).push (UInt8.ofNat (b * 16 + c / 4))).push (UInt8.ofNat (c * 64 + d)))
  | [a, b, c], acc => .ok ((acc.push (UInt8.ofNat (a * 4 + b / 16))).push (UInt8.ofNat (b * 16 + c / 4)))
  | [a, b], acc => .ok (acc.push (UInt8.ofNat (a * 4 + b / 16)))
  | [_], _ => malformed "failed to decode base64 data"
  | [], acc => .ok acc

/-- The bytes of a text in base 64, which is filled up to groups of four. -/
def binary (s : String) : Result Data := do
  let front := s.toList.takeWhile (· != '=')
  let values := front.filterMap base64Value?
  let filling := (s.toList.filter (· == '=')).length
  if s.toList.any fun c => c.toNat ≥ 128 then malformed "failed to convert base64 data into ascii"
  else if values.length % 4 != 0 && filling < 4 - values.length % 4 then malformed "failed to decode base64 data"
  else return .bytes (← base64Bytes values ByteArray.empty)

/-! ### Nodes -/

def scalarData (tag : Tag) (s : String) : Result Data :=
  match tag with
  | .null => .ok .null
  | .bool =>
    match Tag.truthWords.lookup (String.ofList (s.toList.map Char.toLower)) with
    | some b => .ok (.bool b)
    | none => .error (.unfit (.missingKey (.str (String.ofList (s.toList.map Char.toLower)))))
  | .int => whole s
  | .float => real s
  | .timestamp =>
    match Timestamp.read? s.toList with
    | some t => t.value
    | none => unfit .access "no date"
  | .binary => binary s
  | .str => .ok (.str s)
  | _ => malformed "could not determine a constructor for the tag"

/-- The value of a mapping whose keys can be keys. -/
def mappingOf (entries : List (Data × Data)) : Result Data := do
  if entries.all fun e => e.1.isHashable then return Data.ofEntries entries else malformed "found unhashable key"

/-- Pairs, from mappings of one entry each. -/
def pairsOf (entries : List (List (Data × Data))) : Result Data := do
  let pairs ← entries.mapM fun es => match es with
    | [(k, v)] => pure (Data.tuple [k, v])
    | _ => malformed "expected a mapping of length 1"
  return .list pairs

mutual

/-- The value of a node. -/
def Node.toData : Node → Result Data
  | .scalar tag s => scalarData tag s
  | .sequence tag items =>
    match tag with
    | .seq => do return .list (← itemsData items)
    | .omap | .pairs => do pairsOf (← itemEntries items)
    | _ => malformed "expected another kind of node"
  | .mapping tag entries =>
    match tag with
    | .map => do
      let (merged, own) ← entriesData entries
      mappingOf (merged ++ own)
    | .set => do
      let (merged, own) ← entriesData entries
      discard (mappingOf (merged ++ own))
      return .foreign "set" "set"
    | .str => valueEntry entries
    | _ => malformed "expected another kind of node"

def itemsData : List Node → Result (List Data)
  | [] => .ok []
  | n :: rest => do
    let d ← n.toData
    return d :: (← itemsData rest)

/-- The entries of mappings. -/
def itemEntries : List Node → Result (List (List (Data × Data)))
  | [] => .ok []
  | n :: rest => do
    let es ← n.plainEntries
    return es :: (← itemEntries rest)

/-- The entries of a mapping as they are written. -/
def Node.plainEntries : Node → Result (List (Data × Data))
  | .mapping _ entries => pairEntries entries
  | _ => malformed "expected a mapping of length 1"

def pairEntries : List (Node × Node) → Result (List (Data × Data))
  | [] => .ok []
  | (k, v) :: rest => do
    let key ← k.toData
    let value ← v.toData
    return (key, value) :: (← pairEntries rest)

/-- The entries that a mapping takes over, and its own ones. -/
def entriesData : List (Node × Node) → Result (List (Data × Data) × List (Data × Data))
  | [] => .ok ([], [])
  | (k, v) :: rest => do
    match k with
    | .scalar .merge _ => do
      let taken ← v.mergedEntries
      let (merged, own) ← entriesData rest
      return (taken ++ merged, own)
    | .scalar .value s => do
      let value ← v.toData
      let (merged, own) ← entriesData rest
      return (merged, (.str s, value) :: own)
    | k => do
      let key ← k.toData
      let value ← v.toData
      let (merged, own) ← entriesData rest
      return (merged, (key, value) :: own)

/-- The entries that a merge key takes from a mapping, or from mappings of which the first counts most. -/
def Node.mergedEntries : Node → Result (List (Data × Data))
  | .mapping _ entries => do
    let (merged, own) ← entriesData entries
    return merged ++ own
  | .sequence _ items => mergedItems items
  | .scalar .. => malformed "expected a mapping or list of mappings for merging"

def mergedItems : List Node → Result (List (Data × Data))
  | [] => .ok []
  | n :: rest => do
    let es ← n.ownEntries
    let later ← mergedItems rest
    return later ++ es

/-- All entries of a mapping. -/
def Node.ownEntries : Node → Result (List (Data × Data))
  | .mapping _ entries => do
    let (merged, own) ← entriesData entries
    return merged ++ own
  | _ => malformed "expected a mapping for merging"

/-- The text that a mapping stands for: that of its value key. -/
def valueEntry : List (Node × Node) → Result Data
  | [] => malformed "expected a scalar node"
  | (k, v) :: rest =>
    match k with
    | .scalar .value _ => v.asText
    | _ => valueEntry rest

def Node.asText : Node → Result Data
  | .scalar _ s => .ok (.str s)
  | .mapping _ entries => valueEntry entries
  | .sequence .. => malformed "expected a scalar node"

end

/-- The value of the document of a text. -/
def read (s : String) : Result Data := do
  match ← Node.ofTokens (← tokens s) with
  | some n => n.toData
  | none => return .null

end Yaml

end ScriptFlow
