import ScriptFlow.Text.Utf8
import ScriptFlow.Yaml.Token

/-!
# Texts of scalars and names

The parts of a document that are read character by character: quoted, plain and block scalars, names of anchors, tags and directives. Each reader starts at the
first character of its part and gives what it has read and the place behind it.

A line break inside a flow scalar counts as a blank, unless empty lines follow, which then stand for themselves.
-/

namespace ScriptFlow

namespace Yaml

/-- A reader of a part of the text. -/
abbrev Scan (α : Type) := Cursor → Result (α × Cursor)

def hexDigit? (c : Char) : Option Nat :=
  if c.isDigit then some (c.toNat - 48)
  else if 'a' ≤ c && c ≤ 'f' then some (c.toNat - 87)
  else if 'A' ≤ c && c ≤ 'F' then some (c.toNat - 55)
  else none

/-- A number of so many hexadecimal digits. -/
def hexNumber (count : Nat) : Scan Nat := fun c =>
  let digits := (c.rest.take count).filterMap hexDigit?
  if digits.length == count then .ok (digits.foldl (fun n d => 16 * n + d) 0, c.skip count)
  else malformed "expected hexadecimal digits"

/-! ### Line breaks inside flow scalars -/

/-- The line breaks that follow, each with the blanks of its line. -/
def emptyLines (blank : Char → Bool) : Nat → Cursor → List Char → List Char × Cursor
  | 0, c, acc => (acc, c)
  | fuel + 1, c, acc =>
    let c := c.skipWhile blank
    match c.lineBreak with
    | (some x, c) => if c.separates then (acc ++ [x], c) else emptyLines blank fuel c (acc ++ [x])
    | (none, c) => (acc, c)

/-- What a line break and the empty lines after it stand for. -/
def folded (lineBreak : Char) (empty : List Char) : List Char :=
  if lineBreak != '\n' then lineBreak :: empty
  else if empty.isEmpty then [' ']
  else empty

/-- The empty lines inside a quoted scalar; a separator of documents must not stand there. -/
def quotedLines : Scan (List Char) := fun c =>
  if c.separates then malformed "unexpected document separator"
  else
    let (empty, c) := emptyLines (fun x => x == ' ' || x == '\t') c.bound c []
    if c.separates && c.column == 0 then malformed "unexpected document separator" else .ok (empty, c)

/-! ### Quoted scalars -/

/-- Escapes of one character. -/
def simpleEscape? : Char → Option Char
  | '0' => some '\x00'
  | 'a' => some '\x07'
  | 'b' => some '\x08'
  | 't' | '\t' => some '\t'
  | 'n' => some '\n'
  | 'v' => some '\x0b'
  | 'f' => some '\x0c'
  | 'r' => some '\r'
  | 'e' => some '\x1b'
  | ' ' => some ' '
  | '"' => some '"'
  | '\\' => some '\\'
  | '/' => some '/'
  | 'N' => some '\x85'
  | '_' => some '\xa0'
  | 'L' => some '\u2028'
  | 'P' => some '\u2029'
  | _ => none

/-- The digits of a numeric escape. -/
def escapeDigits? : Char → Option Nat
  | 'x' => some 2
  | 'u' => some 4
  | 'U' => some 8
  | _ => none

/-- The character with a number; halves of surrogate pairs have none. -/
def character (n : Nat) : Result Char :=
  if n < 0x110000 then .ok (if n.isValidChar then Char.ofNat n else '\ufffd')
  else .error (.unfit (.error .badValue "chr() arg not in range(0x110000)"))

/-- An escape, after the backslash. -/
def escape : Scan (List Char) := fun c =>
  match c.peek with
  | none => malformed "unknown escape character"
  | some x =>
    match simpleEscape? x, escapeDigits? x with
    | some y, _ => .ok ([y], c.next)
    | none, some count => do
      let (n, c) ← hexNumber count c.next
      return ([← character n], c)
    | none, none =>
      if isBreak x then quotedLines c.next else malformed "unknown escape character"

/-- The rest of a quoted scalar. -/
def quotedRest (double : Bool) : Nat → List Char → Scan String
  | 0, _, _ => malformed "unexpected end of stream"
  | fuel + 1, acc, c =>
    match c.peek with
    | none => malformed "unexpected end of stream"
    | some x =>
      if x == '\'' && !double then
        if c.peek 1 == some '\'' then quotedRest double fuel (acc ++ ['\'']) (c.skip 2)
        else .ok (String.ofList acc, c.next)
      else if x == '"' && double then .ok (String.ofList acc, c.next)
      else if x == '\\' && double then do
        let (more, c) ← escape c.next
        quotedRest double fuel (acc ++ more) c
      else if x == ' ' || x == '\t' || isBreak x then do
        let (blanks, c) := c.takeWhile fun y => y == ' ' || y == '\t'
        match c.lineBreak with
        | (some y, c) => do
          let (empty, c) ← quotedLines c
          quotedRest double fuel (acc ++ folded y empty) c
        | (none, c) => quotedRest double fuel (acc ++ blanks) c
      else
        let (word, c) := c.takeWhile fun y => !(y == '\'' || y == '"' || y == '\\' || isBlank y)
        if word.isEmpty then quotedRest double fuel (acc ++ [x]) c.next
        else quotedRest double fuel (acc ++ word) c

def quotedScalar (double : Bool) : Scan String := fun c => quotedRest double (c.bound + 1) [] c.next

/-! ### Plain scalars -/

/-- How many characters a word of a plain scalar has. -/
def plainLength (inFlow : Bool) : List Char → Nat
  | [] => 0
  | x :: rest =>
    let ends := isBlank x ||
      (x == ':' && (endsWord rest.head? || (inFlow && hasCharacter (",[]\x7b\x7d".toList.contains ·) rest.head?))) ||
      (inFlow && ",?[]\x7b\x7d".toList.contains x)
    if ends then 0 else plainLength inFlow rest + 1

/-- The blanks between two words: what they stand for, or nothing at the end of a scalar; and whether a line was left. -/
def plainBlanks (c : Cursor) : List Char × Bool × Cursor :=
  let (blanks, c) := c.takeWhile (· == ' ')
  match c.lineBreak with
  | (none, c) => (blanks, false, c)
  | (some x, c) =>
    if c.separates then ([], true, c)
    else
      let (empty, c) := emptyLines (· == ' ') c.bound c []
      if c.separates && c.column == 0 then ([], true, c) else (folded x empty, true, c)

/-- A plain scalar: its text, and whether a line was left behind its last word. -/
def plainRest (inFlow : Bool) (indent : Int) : Nat → List Char → Bool → Cursor → (List Char × Bool) × Cursor
  | 0, acc, left, c => ((acc, left), c)
  | fuel + 1, acc, left, c =>
    if c.peek == some '#' then ((acc, left), c)
    else
      let n := plainLength inFlow c.rest
      if n == 0 then ((acc, left), c)
      else
        let word := acc ++ c.rest.take n
        let (blanks, crossed, c) := plainBlanks (c.skip n)
        if blanks.isEmpty || c.peek == some '#' || (!inFlow && decide ((c.column : Int) < indent)) then ((word, crossed), c)
        else
          -- blanks count only before another word
          match plainRest inFlow indent fuel [] crossed c with
          | (([], crossed), c) => ((word, crossed), c)
          | ((more, crossed), c) => ((word ++ blanks ++ more, crossed), c)

def plainScalar (inFlow : Bool) (indent : Int) (c : Cursor) : (String × Bool) × Cursor :=
  let ((text, left), c) := plainRest inFlow indent c.bound [] false c
  ((String.ofList text, left), c)

/-! ### Block scalars -/

/-- What happens to the line breaks at the end of a block scalar. -/
inductive Chomping where
  | strip
  | clip
  | keep
  deriving DecidableEq, Repr

/-- The head of a block scalar: its chomping and its indentation, if it is given. -/
def blockHead : Scan (Chomping × Option Nat) := fun c =>
  let mark? : Option Char → Option Chomping
    | some '+' => some .keep
    | some '-' => some .strip
    | _ => none
  let digit? : Option Char → Option Nat
    | some x => if x.isDigit then some (x.toNat - 48) else none
    | none => none
  let (chomping, c) := match mark? c.peek with
    | some m => (some m, c.next)
    | none => (none, c)
  let (increment, c) := match digit? c.peek with
    | some n => (some n, c.next)
    | none => (none, c)
  let (chomping, c) := match chomping, increment, mark? c.peek with
    | none, some _, some m => (some m, c.next)
    | chomping, _, _ => (chomping, c)
  if increment == some 0 then malformed "expected an indentation indicator"
  else
    let isPlain := endsPlainly c.peek
    let c := c.skipWhile (· == ' ')
    let c := if c.peek == some '#' then c.skipWhile (!isBreak ·) else c
    if isPlain && endsLine c.peek then .ok ((chomping.getD .clip, increment), c.lineBreak.2)
    else malformed "expected chomping or indentation indicators"

/-- Empty lines before the first line of a block scalar, and the deepest blank seen. -/
def blockIndentation : Nat → Cursor → List Char → Nat → List Char × Nat × Cursor
  | 0, c, acc, deepest => (acc, deepest, c)
  | fuel + 1, c, acc, deepest =>
    match c.peek with
    | some ' ' => blockIndentation fuel c.next acc (max deepest c.next.column)
    | _ =>
      match c.lineBreak with
      | (some x, c) => blockIndentation fuel c (acc ++ [x]) deepest
      | (none, c) => (acc, deepest, c)

/-- Passes blanks up to a column. -/
def toColumn (column : Nat) (c : Cursor) : Cursor := c.skip ((c.rest.take (column - c.column)).takeWhile (· == ' ')).length

/-- Empty lines inside a block scalar. -/
def blockBreaks (column : Nat) : Nat → Cursor → List Char → List Char × Cursor
  | 0, c, acc => (acc, c)
  | fuel + 1, c, acc =>
    match (toColumn column c).lineBreak with
    | (some x, c) => blockBreaks column fuel c (acc ++ [x])
    | (none, c) => (acc, c)

/-- The lines of a block scalar: the text without its last line break, that break, and the empty lines after it. -/
def blockLines (folds : Bool) (column : Nat) : Nat → List Char → List Char → Cursor → (List Char × List Char × List Char) × Cursor
  | 0, acc, breaks, c => ((acc, [], breaks), c)
  | fuel + 1, acc, breaks, c =>
    if c.column != column || c.peek.isNone then ((acc, [], breaks), c)
    else
      let startsDark := !hasCharacter (fun x => x == ' ' || x == '\t') c.peek
      let (line, c) := c.takeWhile (!isBreak ·)
      let acc := acc ++ breaks ++ line
      let (lineBreak, c) := c.lineBreak
      let ending := lineBreak.toList
      let (breaks, c) := blockBreaks column c.bound c []
      if c.column == column && c.peek.isSome then
        let goesOnDark := !hasCharacter (fun x => x == ' ' || x == '\t') c.peek
        let joint :=
          if folds && lineBreak == some '\n' && startsDark && goesOnDark then (if breaks.isEmpty then [' '] else [])
          else ending
        blockLines folds column fuel (acc ++ joint) breaks c
      else ((acc, ending, breaks), c)

/-- A block scalar below an indentation. -/
def blockScalar (folds : Bool) (indent : Int) : Scan String := fun c => do
  let ((chomping, increment), c) ← blockHead c.next
  let least := (max (indent + 1) 1).toNat
  let (breaks, column, c) := match increment with
    | none =>
      let (breaks, deepest, c) := blockIndentation c.bound c [] 0
      (breaks, max least deepest, c)
    | some n =>
      let column := least + n - 1
      let (breaks, c) := blockBreaks column c.bound c []
      (breaks, column, c)
  let ((text, ending, rest), c) := blockLines folds column c.bound [] breaks c
  let text := match chomping with
    | .strip => text
    | .clip => text ++ ending
    | .keep => text ++ ending ++ rest
  return (String.ofList text, c)

/-! ### Names, tags and directives -/

/-- The name of an anchor or alias, after its mark. -/
def anchorName : Scan String := fun c =>
  let (name, c) := c.next.takeWhile isNameCharacter
  let ends := endsWord c.peek || hasCharacter ("?:,]\x7d%@`".toList.contains ·) c.peek
  if name.isEmpty || !ends then malformed "expected a name" else .ok (String.ofList name, c)

/-- A tag handle: a mark, or a name between two marks. -/
def tagHandle : Scan String := fun c =>
  if c.peek != some '!' then malformed "expected '!'"
  else
    let (name, after) := c.next.takeWhile isNameCharacter
    if after.peek == some '!' then .ok (String.ofList ('!' :: name ++ ['!']), after.next)
    else if name.isEmpty && c.peek 1 == some ' ' then .ok ("!", c.next)
    else malformed "expected '!'"

def isTagCharacter (c : Char) : Bool := c.isAlphanum || "-;/?:@&=+$,_.!~*'()[]".toList.contains c

/-- Characters of a tag as bytes, with escapes as two hexadecimal digits. -/
def tagBytes : Nat → List UInt8 → Scan (List UInt8)
  | 0, acc, c => .ok (acc, c)
  | fuel + 1, acc, c =>
    match c.peek with
    | some '%' => do
      let (n, c) ← hexNumber 2 c.next
      tagBytes fuel (acc ++ [UInt8.ofNat n]) c
    | some x => if isTagCharacter x then tagBytes fuel (acc ++ [UInt8.ofNat x.toNat]) c.next else .ok (acc, c)
    | none => .ok (acc, c)

def tagText : Scan String := fun c => do
  let (bytes, c) ← tagBytes c.bound [] c
  match bytes, Utf8.decode ⟨bytes.toArray⟩ with
  | _ :: _, .ok s => return (s, c)
  | _, _ => malformed "expected a tag"

/-- A tag: written out between angle brackets, or a handle with the rest. -/
def tagToken : Scan Token := fun c =>
  match c.peek 1 with
  | some '<' => do
    let (suffix, c) ← tagText (c.skip 2)
    if c.peek == some '>' && endsPlainly c.next.peek then return (.tag none suffix, c.next) else malformed "expected '>'"
  | x =>
    if endsWord x then if endsPlainly x then .ok (.tag none "!", c.next) else malformed "expected a blank"
    else do
      let word := c.next.rest.takeWhile fun y => !(y == ' ' || isBreak y)
      let (handle, c) ← if word.contains '!' then tagHandle c else pure ("!", c.next)
      let (suffix, c) ← tagText c
      if endsPlainly c.peek then return (.tag (some handle) suffix, c) else malformed "expected a blank"

def number : Scan Nat := fun c =>
  let (digits, c) := c.takeWhile Char.isDigit
  if digits.isEmpty then malformed "expected a digit" else .ok (digits.foldl (fun n d => 10 * n + (d.toNat - 48)) 0, c)

/-- The rest of a directive's line. -/
def directiveEnd : Scan Unit := fun c =>
  let c := c.skipWhile (· == ' ')
  let c := if c.peek == some '#' then c.skipWhile (!isBreak ·) else c
  if endsLine c.peek then .ok ((), c.lineBreak.2) else malformed "expected a comment or a line break"

/-- A directive. -/
def directive : Scan Token := fun c => do
  let (name, c) := c.next.takeWhile isNameCharacter
  if name.isEmpty || !endsPlainly c.peek then malformed "expected a directive name"
  else
    let (t, c) ← match String.ofList name with
      | "YAML" => do
        let (major, c) ← number (c.skipWhile (· == ' '))
        if c.peek != some '.' then malformed "expected a digit or '.'"
        else
          let (minor, c) ← number c.next
          if endsPlainly c.peek then pure (Token.version major minor, c) else malformed "expected a digit or ' '"
      | "TAG" => do
        let (handle, c) ← tagHandle (c.skipWhile (· == ' '))
        if c.peek != some ' ' then malformed "expected ' '"
        else
          let (expansion, c) ← tagText (c.skipWhile (· == ' '))
          if endsPlainly c.peek then pure (Token.handle handle expansion, c) else malformed "expected ' '"
      | _ => pure (Token.otherDirective, c.skipWhile (!isBreak ·))
    let ((), c) ← directiveEnd c
    return (t, c)

end Yaml

end ScriptFlow
