import ScriptFlow.Yaml.Token.Scalar

/-!
# The YAML lexer

Structure by indentation becomes tokens: a column deeper than the present one opens a block, a column less deep closes blocks. A mapping key is recognised only when
the colon after it is met, so every place where a key may begin gets an empty slot among the tokens (`Lexer.slots`), which the colon then fills. A
key must end on its line and within 1024 characters; where a block mapping goes on, there must be one.
-/

namespace ScriptFlow

namespace Yaml

/-- A place where a key may have begun. -/
structure PendingKey where
  slot : Nat
  /-- has the block mapping no other way to go on? -/
  required : Bool
  index : Nat
  line : Nat
  column : Nat

structure Lexer where
  cursor : Cursor
  slots : Array (List Token) := #[]
  flowLevel : Nat := 0
  indent : Int := -1
  /-- the indentations of the blocks around -/
  outer : List Int := []
  keyAllowed : Bool := true
  /-- by flow level -/
  pending : List (Nat × PendingKey) := []

namespace Lexer

def emit (l : Lexer) (t : Token) : Lexer := { l with slots := l.slots.push [t] }

def inFlow (l : Lexer) : Bool := l.flowLevel != 0

/-- Gives up the key that may have begun on this flow level. -/
def dropPending (l : Lexer) : Result Lexer :=
  match l.pending.lookup l.flowLevel with
  | some k => if k.required then malformed "could not find expected ':'"
    else .ok { l with pending := l.pending.filter (·.1 != l.flowLevel) }
  | none => .ok l

/-- Gives up keys that are too long. -/
def dropStale (l : Lexer) : Result Lexer :=
  let stale (k : PendingKey) : Bool := k.line != l.cursor.line || decide (l.cursor.index - k.index > 1024)
  if l.pending.any fun p => stale p.2 && p.2.required then malformed "could not find expected ':'"
  else .ok { l with pending := l.pending.filter fun p => !stale p.2 }

/-- A key may begin here. -/
def savePending (l : Lexer) : Result Lexer := do
  if l.keyAllowed then
    let l ← l.dropPending
    let c := l.cursor
    let k : PendingKey :=
      { slot := l.slots.size, required := !l.inFlow && l.indent == (c.column : Int), index := c.index, line := c.line, column := c.column }
    return { l with slots := l.slots.push [], pending := (l.flowLevel, k) :: l.pending }
  else return l

/-- Closes the blocks that are deeper than a column. -/
def unwind (column : Int) : List Int → Lexer → Lexer
  | [], l => l
  | i :: rest, l => if l.indent > column then unwind column rest { l.emit .blockEnd with indent := i, outer := rest } else l

def closeBlocks (l : Lexer) (column : Int) : Lexer := if l.inFlow then l else unwind column l.outer l

/-- Goes to a deeper column; tells whether it is deeper. -/
def deepen (l : Lexer) (column : Nat) : Lexer × Bool :=
  if l.indent < (column : Int) then ({ l with indent := column, outer := l.indent :: l.outer }, true) else (l, false)

def advance (l : Lexer) (n : Nat := 1) : Lexer := { l with cursor := l.cursor.skip n }

/-- A token that a key cannot contain and that no key may follow at once. -/
def documentMark (l : Lexer) (t : Token) : Result Lexer := do
  let l ← (l.closeBlocks (-1)).dropPending
  return ({ l with keyAllowed := false }.advance 3).emit t

/-- Reads a part that may be, or begin, a key. -/
def keyPart (l : Lexer) (scan : Scan Token) : Result Lexer := do
  let l ← l.savePending
  let (t, c) ← scan l.cursor
  return { l with cursor := c, keyAllowed := false }.emit t

/-- An entry of a block: opens one if the column is deeper. -/
def openBlock (l : Lexer) (start : Token) : Result Lexer :=
  if l.inFlow then .ok l
  else if !l.keyAllowed then malformed "block entries are not allowed here"
  else
    match l.deepen l.cursor.column with
    | (l, true) => .ok (l.emit start)
    | (l, false) => .ok l

/-- A colon: fills the slot of the key that has begun, or follows a key that was marked. -/
def valueMark (l : Lexer) : Result Lexer := do
  match l.pending.lookup l.flowLevel with
  | some k =>
    let l := { l with pending := l.pending.filter (·.1 != l.flowLevel) }
    let (l, opens) := if l.inFlow then (l, false) else l.deepen k.column
    let ts := if opens then [Token.blockMappingStart, Token.key] else [Token.key]
    return ({ l with slots := l.slots.modify k.slot fun _ => ts, keyAllowed := false }.emit .value).advance
  | none => do
    let l ← l.openBlock .blockMappingStart
    let l ← { l with keyAllowed := !l.inFlow }.dropPending
    return (l.emit .value).advance

/-- Opens a flow collection. -/
def openFlow (l : Lexer) (t : Token) : Result Lexer := do
  let l ← l.savePending
  return ({ l with flowLevel := l.flowLevel + 1, keyAllowed := true }.emit t).advance

/-- Closes a flow collection. -/
def closeFlow (l : Lexer) (t : Token) : Result Lexer := do
  let l ← l.dropPending
  if l.inFlow then return ({ l with flowLevel := l.flowLevel - 1, keyAllowed := false }.emit t).advance
  else malformed "unexpected end of a flow collection"

def plain (l : Lexer) : Result Lexer := do
  let l ← l.savePending
  let ((text, left), c) := plainScalar l.inFlow (l.indent + 1) l.cursor
  return { l with cursor := c, keyAllowed := left }.emit (.scalar text true)

def blockText (l : Lexer) (folds : Bool) : Result Lexer := do
  let l ← { l with keyAllowed := true }.dropPending
  let (text, c) ← blockScalar folds l.indent l.cursor
  return { l with cursor := c }.emit (.scalar text false)

/-- Can a plain scalar begin with a character? -/
def startsPlain (l : Lexer) (x : Char) : Bool :=
  !(isBlank x || "-?:,[]\x7b\x7d#&*!|>'\"%@`".toList.contains x) ||
    (!endsWord (l.cursor.peek 1) && (x == '-' || (!l.inFlow && (x == '?' || x == ':'))))

/-- Reads what begins with a character. -/
def fetch (l : Lexer) (x : Char) : Result Lexer :=
  let c := l.cursor
  let isWord := endsWord (c.peek 1)
  let text (double : Bool) : Scan Token := fun c => do
    let (s, c) ← quotedScalar double c
    return (.scalar s false, c)
  let name (f : String → Token) : Scan Token := fun c => do
    let (s, c) ← anchorName c
    return (f s, c)
  if x == '%' && c.column == 0 then do
    let l ← (l.closeBlocks (-1)).dropPending
    let (t, c) ← directive l.cursor
    return { l with cursor := c, keyAllowed := false }.emit t
  else if c.column == 0 && c.isAtSeparator '-' then l.documentMark .documentStart
  else if c.column == 0 && c.isAtSeparator '.' then l.documentMark .documentEnd
  else if x == '[' then l.openFlow .flowSequenceStart
  else if x == '\x7b' then l.openFlow .flowMappingStart
  else if x == ']' then l.closeFlow .flowSequenceEnd
  else if x == '\x7d' then l.closeFlow .flowMappingEnd
  else if x == ',' then do
    let l ← { l with keyAllowed := true }.dropPending
    return (l.emit .flowEntry).advance
  else if x == '-' && isWord then do
    let l ← l.openBlock .blockSequenceStart
    let l ← { l with keyAllowed := true }.dropPending
    return (l.emit .blockEntry).advance
  else if x == '?' && (l.inFlow || isWord) then do
    let l ← l.openBlock .blockMappingStart
    let l ← { l with keyAllowed := !l.inFlow }.dropPending
    return (l.emit .key).advance
  else if x == ':' && (l.inFlow || isWord) then l.valueMark
  else if x == '*' then l.keyPart (name .alias)
  else if x == '&' then l.keyPart (name .anchor)
  else if x == '!' then l.keyPart tagToken
  else if x == '|' && !l.inFlow then l.blockText false
  else if x == '>' && !l.inFlow then l.blockText true
  else if x == '\'' then l.keyPart (text false)
  else if x == '"' then l.keyPart (text true)
  else if l.startsPlain x then l.plain
  else malformed "found a character that cannot start any token"

/-- Reads up to the end of the text. -/
def run : Nat → Lexer → Result Lexer
  | 0, l => .ok l
  | fuel + 1, l => do
    let (c, left) := l.cursor.toContent l.cursor.bound false
    let l := { l with cursor := c, keyAllowed := l.keyAllowed || (left && !l.inFlow) }
    let l ← l.dropStale
    match c.peek with
    | none => (l.closeBlocks (-1)).dropPending
    | some x => do run fuel (← (l.closeBlocks c.column).fetch x)

end Lexer

/-- Line ends of all systems as one. -/
def unifyBreaks : List Char → List Char
  | '\r' :: '\n' :: rest => '\n' :: unifyBreaks rest
  | '\r' :: rest => '\n' :: unifyBreaks rest
  | c :: rest => c :: unifyBreaks rest
  | [] => []

/-- The tokens of a text. -/
def tokens (s : String) : Result (List Token) := do
  let cs := unifyBreaks s.toList
  if cs.all isPrintable then
    let cursor : Cursor := { rest := cs }
    let cursor := if cursor.peek == some '\ufeff' then cursor.next else cursor
    let l ← Lexer.run (cs.length + 2) { cursor := cursor }
    return l.slots.toList.flatten
  else malformed "special characters are not allowed"

end Yaml

end ScriptFlow
