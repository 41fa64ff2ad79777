import ScriptFlow.Data.Text

/-!
# JSON text

`Json.write` prints plain data as JSON in ASCII. A `JsonStyle` holds what varies: whether the keys are sorted,
whether the text is broken into indented lines, and the separators.

Writing fails at the first value, in order of the text, that has no JSON form: byte strings, spans and values of unknown
types, and keys that are neither texts, numbers, truth values nor absent. With sorted keys it also
fails on keys that cannot be compared.
-/

namespace ScriptFlow

/-- How JSON text is laid out. -/
structure JsonStyle where
  sortKeys : Bool := false
  /-- what one level of nesting adds at the front of a line; without it the text is one line -/
  indent : Option String := none
  itemSeparator : String := ", "
  keySeparator : String := ": "

/-- No blanks, keys in order: the form of payloads. -/
def compactSorted : JsonStyle := { sortKeys := true, itemSeparator := ",", keySeparator := ":" }

namespace Json

/-- Hexadecimal escape of a UTF-16 unit. -/
def unitEscape (n : Nat) : List Char := '\\' :: 'u' :: Text.hex 4 n

/-- One code point inside a JSON text. -/
def escapeCode (n : Nat) : List Char :=
  if n == 34 then ['\\', '"']
  else if n == 92 then ['\\', '\\']
  else if n == 10 then ['\\', 'n']
  else if n == 13 then ['\\', 'r']
  else if n == 9 then ['\\', 't']
  else if n == 8 then ['\\', 'b']
  else if n == 12 then ['\\', 'f']
  else if 32 ≤ n && n < 127 then [Char.ofNat n]
  else if n < 0x10000 then unitEscape n
  else unitEscape (0xD800 + (n - 0x10000) / 0x400) ++ unitEscape (0xDC00 + (n - 0x10000) % 0x400)

/-- A text as a JSON string. -/
def stringText (s : String) : String :=
  String.ofList ('"' :: (s.toList.flatMap (fun c => escapeCode c.toNat) ++ ['"']))

/-- Loose code points as a JSON string. -/
def looseStringText (codePoints : List Nat) : String :=
  String.ofList ('"' :: (codePoints.flatMap escapeCode ++ ['"']))

/-- The error for a value that has no JSON form. -/
def notSerializable (d : Data) : Fault :=
  .error .misuse ("Object of type " ++ d.typeName ++ " is not JSON serializable")

/-- More digits than a whole number may have when it is written. -/
def digitLimitFault : Fault :=
  .error .badValue "Exceeds the limit (4300 digits) for integer string conversion; use sys.set_int_max_str_digits() to increase the limit"

/-- The decimal text of a whole number. -/
def intText (n : Int) : Except Fault String :=
  if n.natAbs < Nat.pow 10 4300 then .ok (toString n) else .error digitLimitFault

/-- The text of a key. -/
def keyText : Data → Except Fault String
  | .str s => .ok s
  | .float x => .ok (Float.shortestText interchangeNumber x)
  | .bool b => .ok (if b then "true" else "false")
  | .null => .ok "null"
  | .int n => intText n
  | d => .error (.error .misuse ("keys must be str, int, float, bool or None, not " ++ d.typeName))

/-- Classes of keys that can be compared with each other. -/
inductive KeyClass where
  | text | number | other
  deriving DecidableEq

def keyClass : Data → KeyClass
  | .str _ | .looseText _ => .text
  | .bool _ | .int _ | .float _ => .number
  | _ => .other

/-- The code points of a text. -/
def codePoints? : Data → Option (List Nat)
  | .str s => some (s.toList.map Char.toNat)
  | .looseText cs => some cs
  | _ => none

/-- Order of keys of one class: texts by code points, numbers by value. -/
def keyLess (a b : Data) : Bool :=
  match codePoints? a, codePoints? b with
  | some s, some t => decide (s < t)
  | _, _ => match a.numeric?, b.numeric? with
    | some m, some n => m.less n
    | _, _ => false

/-- The first key that cannot be compared with the one before it, and that one. -/
def incomparable? : List Data → Option (Data × Data)
  | a :: b :: rest => if keyClass a == .other || keyClass a != keyClass b then some (b, a) else incomparable? (b :: rest)
  | _ => none

/-- Entries sorted by key, or an error when two keys cannot be compared. -/
def sortEntries (entries : List (Data × Data)) : Except Fault (List (Data × Data)) :=
  match incomparable? (entries.map Prod.fst) with
  | some (a, b) =>
    .error (.error .misuse ("'<' not supported between instances of '" ++ a.typeName ++ "' and '" ++ b.typeName ++ "'"))
  | none => .ok (entries.mergeSort fun a b => !keyLess b.1 a.1)

/-- The line break before an item at a depth. -/
def lineBreak (style : JsonStyle) (depth : Nat) : String :=
  match style.indent with
  | none => ""
  | some unit => "\n" ++ String.join (List.replicate depth unit)

/-- A bracketed sequence of written items. -/
def bracket (style : JsonStyle) (depth : Nat) (left right : String) (items : List String) : String :=
  if items.isEmpty then left ++ right
  else
    left ++ lineBreak style (depth + 1) ++ (style.itemSeparator ++ lineBreak style (depth + 1)).intercalate items ++
      lineBreak style depth ++ right

/-- Pairs keys with written values in the order of the keys. -/
def reorder (sorted : List (Data × Data)) (written : List (Data × Except Fault String)) : List (Data × Except Fault String) :=
  sorted.map fun e => (e.1, match written.find? (fun w => w.1.same e.1) with
    | some w => w.2
    | none => .ok "")

/-- Joins keys and values; the first that fails decides. -/
def members (style : JsonStyle) : List (Data × Except Fault String) → Except Fault (List String)
  | [] => .ok []
  | (k, v) :: rest => do
    let name ← match k with
      | .looseText cs => pure (looseStringText cs)
      | k => do pure (stringText (← keyText k))
    let value ← v
    let others ← members style rest
    pure ((name ++ style.keySeparator ++ value) :: others)

mutual

/-- Writes a value at a depth of nesting. -/
def writeAt (style : JsonStyle) (depth : Nat) : Data → Except Fault String
  | .null => .ok "null"
  | .bool b => .ok (if b then "true" else "false")
  | .int n => intText n
  | .float x => .ok (Float.shortestText interchangeNumber x)
  | .str s => .ok (stringText s)
  | .looseText cs => .ok (looseStringText cs)
  | .list xs => do pure (bracket style depth "[" "]" (← writeItems style (depth + 1) xs))
  | .tuple xs => do pure (bracket style depth "[" "]" (← writeItems style (depth + 1) xs))
  | .dict es => do
    let sorted ← if style.sortKeys then sortEntries es else pure es
    let written := writeEntries style (depth + 1) es
    pure (bracket style depth "\x7b" "\x7d" (← members style (if style.sortKeys then reorder sorted written else written)))
  | d => .error (notSerializable d)

def writeItems (style : JsonStyle) (depth : Nat) : List Data → Except Fault (List String)
  | [] => .ok []
  | x :: xs => do
    let first ← writeAt style depth x
    let others ← writeItems style depth xs
    pure (first :: others)

/-- Every entry with its written value, the failures kept where they are. -/
def writeEntries (style : JsonStyle) (depth : Nat) : List (Data × Data) → List (Data × Except Fault String)
  | [] => []
  | (k, v) :: es => (k, writeAt style depth v) :: writeEntries style depth es

end

/-- JSON text of a value. -/
def write (style : JsonStyle) (d : Data) : Except Fault String := writeAt style 0 d

end Json

end ScriptFlow
