import ScriptFlow.Data.Basic
import ScriptFlow.Decimal.Read

/-!
# Reading JSON text

A reader that walks the text once and reports the first thing it cannot accept together with its place. Objects become
dictionaries with text keys, a repeated key keeping its first place and its last value. Numbers with
a point or an exponent are floating-point numbers, all others whole numbers; the words for infinity and the missing number are
accepted. A string may escape half of a surrogate pair, which gives loose text.
-/

namespace ScriptFlow

namespace Json

/-- What a reader expected, or found wrong. -/
inductive Complaint where
  | value
  | propertyName
  | colon
  | comma
  | extraData
  | unterminatedString
  | controlCharacter
  | escape
  | unicodeEscape
  | byteOrderMark
  deriving DecidableEq, Repr

def Complaint.message : Complaint → String
  | value => "Expecting value"
  | propertyName => "Expecting property name enclosed in double quotes"
  | colon => "Expecting ':' delimiter"
  | comma => "Expecting ',' delimiter"
  | extraData => "Extra data"
  | unterminatedString => "Unterminated string starting at"
  | controlCharacter => "Invalid control character at"
  | escape => "Invalid \\escape"
  | unicodeEscape => "Invalid \\uXXXX escape"
  | byteOrderMark => "Unexpected UTF-8 BOM (decode using utf-8-sig)"

/-- A failure to read: a complaint at a place, or a whole number with too many digits. -/
inductive ReadError where
  | at (position : Nat) (complaint : Complaint)
  | digits (count : Nat)
  deriving DecidableEq, Repr

/-- A place in the text and what follows it. -/
structure Cursor where
  position : Nat
  rest : List Char

namespace Cursor

def advance (c : Cursor) (n : Nat) : Cursor := ⟨c.position + n, c.rest.drop n⟩

def isSpace (c : Char) : Bool := c == ' ' || c == '\t' || c == '\n' || c == '\r'

def skipSpace (c : Cursor) : Cursor := c.advance (c.rest.takeWhile isSpace).length

/-- Passes a given text if it stands here. -/
def pass? (c : Cursor) (word : String) : Option Cursor :=
  if word.toList.isPrefixOf c.rest then some (c.advance word.toList.length) else none

end Cursor

def fail {α : Type} (c : Cursor) (complaint : Complaint) : Except ReadError α := .error (.at c.position complaint)

/-- The value of a hexadecimal digit. -/
def hexValue? (c : Char) : Option Nat :=
  let n := c.toNat
  if c.isDigit then some (n - 48)
  else if 97 ≤ n && n ≤ 102 then some (n - 87)
  else if 65 ≤ n && n ≤ 70 then some (n - 55)
  else none

/-- Four hexadecimal digits at the front. -/
def hex4? (cs : List Char) : Option Nat :=
  match cs with
  | a :: b :: c :: d :: _ => do
    let a ← hexValue? a
    let b ← hexValue? b
    let c ← hexValue? c
    let d ← hexValue? d
    pure (((a * 16 + b) * 16 + c) * 16 + d)
  | _ => none

def isHighSurrogate (n : Nat) : Bool := 0xD800 ≤ n && n < 0xDC00
def isLowSurrogate (n : Nat) : Bool := 0xDC00 ≤ n && n < 0xE000

/-- The character a simple escape stands for. -/
def simpleEscape? : Char → Option Nat
  | '"' => some 34
  | '\\' => some 92
  | '/' => some 47
  | 'b' => some 8
  | 'f' => some 12
  | 'n' => some 10
  | 'r' => some 13
  | 't' => some 9
  | _ => none

/-- Reads an escape after its backslash; `c` stands on the letter. At least one character follows the digits of a numeric escape. -/
def escapeAt (c : Cursor) (letter : Char) : Except ReadError (Nat × Cursor) :=
  if letter == 'u' then
    let digits := c.advance 1
    if (digits.rest.drop 4).isEmpty then fail digits .unicodeEscape
    else match hex4? digits.rest with
      | none => fail c .unicodeEscape
      | some high =>
        let after := digits.advance 4
        if isHighSurrogate high && !(after.rest.drop 6).isEmpty && (after.pass? "\\u").isSome then
          match hex4? (after.rest.drop 2) with
          | none => .error (.at (after.position + 1) .unicodeEscape)
          | some low =>
            if isLowSurrogate low then
              .ok (0x10000 + (high - 0xD800) * 0x400 + (low - 0xDC00), after.advance 6)
            else .ok (high, after)
        else .ok (high, after)
  else match simpleEscape? letter with
    | some n => .ok (n, c.advance 1)
    | none => .error (.at (c.position - 1) .escape)

/-- Reads the inside of a string that began at `start`; the code points are gathered backwards. -/
def stringFrom (start : Nat) (fuel : Nat) (c : Cursor) (acc : List Nat) : Except ReadError (List Nat × Cursor) :=
  match fuel with
  | 0 => .error (.at start .unterminatedString)
  | fuel + 1 =>
    match c.rest with
    | [] => .error (.at start .unterminatedString)
    | '"' :: _ => .ok (acc.reverse, c.advance 1)
    | '\\' :: [] => .error (.at start .unterminatedString)
    | '\\' :: letter :: _ => do
      let (n, c') ← escapeAt (c.advance 1) letter
      stringFrom start fuel c' (n :: acc)
    | ch :: _ =>
      if ch.toNat ≤ 0x1F then fail c .controlCharacter else stringFrom start fuel (c.advance 1) (ch.toNat :: acc)

/-- A text of code points; loose when some of them are no characters. -/
def textOf (codePoints : List Nat) : Data :=
  if codePoints.all fun n => n.isValidChar then .str (String.ofList (codePoints.map Char.ofNat)) else .looseText codePoints

/-- Reads a string whose opening quote stands here. -/
def stringAt (fuel : Nat) (c : Cursor) : Except ReadError (Data × Cursor) := do
  let (codes, c') ← stringFrom c.position fuel (c.advance 1) []
  pure (textOf codes, c')

/-- The digits of a whole number without sign: a zero, or a run that starts with another digit. -/
def wholeDigits (cs : List Char) : List Char :=
  match cs with
  | '0' :: _ => ['0']
  | _ => cs.takeWhile Char.isDigit

/-- The fraction at the front: a point with digits after it. -/
def fractionDigits : List Char → List Char
  | '.' :: rest => rest.takeWhile Char.isDigit
  | _ => []

/-- Reads a number; where none stands, a value is missing. -/
def numberAt (c : Cursor) : Except ReadError (Data × Cursor) :=
  let negative := c.rest.head? == some '-'
  let body := if negative then c.rest.drop 1 else c.rest
  let whole := wholeDigits body
  if whole.isEmpty then fail c .value
  else
    let afterWhole := body.drop whole.length
    let fraction := fractionDigits afterWhole
    let fractionWidth := if fraction.isEmpty then 0 else fraction.length + 1
    let (e, tail) := readExponent (afterWhole.drop fractionWidth)
    let exponentWidth := (afterWhole.drop fractionWidth).length - tail.length
    let c' := c.advance ((if negative then 1 else 0) + whole.length + fractionWidth + exponentWidth)
    if fractionWidth == 0 && exponentWidth == 0 then
      if whole.length > 4300 then .error (.digits whole.length)
      else .ok (.int (Binary.signOf negative * (natOfDigits whole : Int)), c')
    else .ok (.float (withSign negative (Numeral.toFloat ⟨natOfDigits (whole ++ fraction), e - fraction.length⟩)), c')

/-- Words with a value of their own. -/
def words : List (String × Data) :=
  [("null", .null), ("true", .bool true), ("false", .bool false), ("NaN", .float (0.0 / 0.0)),
   ("Infinity", .float (1.0 / 0.0)), ("-Infinity", .float (-1.0 / 0.0))]

/-- Reads a word, if one stands here. -/
def wordAt? (c : Cursor) : Option (Data × Cursor) :=
  words.findSome? fun (w, d) => (c.pass? w).map fun c' => (d, c')

/-- Puts a member into an object read so far. -/
def addMember (entries : List (Data × Data)) (key value : Data) : List (Data × Data) := Data.insertKey entries key value

mutual

/-- Reads a value. -/
def valueAt (fuel : Nat) (c : Cursor) : Except ReadError (Data × Cursor) :=
  match fuel with
  | 0 => fail c .value
  | fuel + 1 =>
    match c.rest with
    | '"' :: _ => stringAt fuel c
    | '\x7b' :: _ =>
      let c' := (c.advance 1).skipSpace
      match c'.pass? "\x7d" with
      | some c'' => .ok (.dict [], c'')
      | none => objectFrom fuel c' []
    | '[' :: _ =>
      let c' := (c.advance 1).skipSpace
      match c'.pass? "]" with
      | some c'' => .ok (.list [], c'')
      | none => arrayFrom fuel c' []
    | _ =>
      match wordAt? c with
      | some r => .ok r
      | none => numberAt c

/-- Reads the items of an array from the first value on; they are gathered backwards. -/
def arrayFrom (fuel : Nat) (c : Cursor) (acc : List Data) : Except ReadError (Data × Cursor) :=
  match fuel with
  | 0 => fail c .value
  | fuel + 1 => do
    let (item, c) ← valueAt fuel c
    let c := c.skipSpace
    match c.pass? "]" with
    | some c' => pure (.list (item :: acc).reverse, c')
    | none =>
      match c.pass? "," with
      | none => fail c .comma
      | some c' => arrayFrom fuel c'.skipSpace (item :: acc)

/-- Reads the members of an object from the first name on. -/
def objectFrom (fuel : Nat) (c : Cursor) (acc : List (Data × Data)) : Except ReadError (Data × Cursor) :=
  match fuel with
  | 0 => fail c .value
  | fuel + 1 => do
    if c.rest.head? != some '"' then fail c .propertyName
    else
      let (key, c) ← stringAt fuel c
      let c := c.skipSpace
      match c.pass? ":" with
      | none => fail c .colon
      | some c' =>
        let (value, c) ← valueAt fuel c'.skipSpace
        let c := c.skipSpace
        let acc := (key, value) :: acc
        match c.pass? "\x7d" with
        | some c' => pure (.dict (acc.reverse.foldl (fun es e => addMember es e.1 e.2) []), c')
        | none =>
          match c.pass? "," with
          | none => fail c .comma
          | some c' => objectFrom fuel c'.skipSpace acc

end

/-- Reads a whole text as one value with blanks around it. -/
def read (s : String) : Except ReadError Data :=
  let cs := s.toList
  if cs.head? == some '\ufeff' then .error (.at 0 .byteOrderMark)
  else do
    let start := Cursor.skipSpace ⟨0, cs⟩
    let (value, c) ← valueAt (2 * cs.length + 2) start
    let c := c.skipSpace
    if c.rest.isEmpty then pure value else fail c .extraData

/-- Line and column of a place, both counted from one. -/
def lineAndColumn (s : String) (position : Nat) : Nat × Nat :=
  let before := s.toList.take position
  (before.countP (· == '\n') + 1, (before.reverse.takeWhile (· != '\n')).length + 1)

/-- The error that a failed reading is reported as. -/
def ReadError.fault (s : String) : ReadError → Fault
  | .at position complaint =>
    let (line, column) := lineAndColumn s position
    .error .jsonDecode (complaint.message ++ ": line " ++ toString line ++ " column " ++ toString column ++
      " (char " ++ toString position ++ ")")
  | .digits count =>
    .error .badValue ("Exceeds the limit (4300 digits) for integer string conversion: value has " ++ toString count ++
      " digits; use sys.set_int_max_str_digits() to increase the limit")

end Json

end ScriptFlow
