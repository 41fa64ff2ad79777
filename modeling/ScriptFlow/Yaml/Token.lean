import ScriptFlow.Data.Basic

/-!
# Tokens of YAML

A YAML document is read in three steps: `Yaml.tokens` cuts the text into tokens, `Yaml.Node.ofTokens` builds the tree of nodes, and `Yaml.Node.toData` says
which values the nodes stand for. The rules are those of version 1.1. The end of the list of tokens is the end of the text.
-/

namespace ScriptFlow

namespace Yaml

inductive Token where
  | version (major minor : Nat)
  /-- an abbreviation of tags -/
  | handle (name expansion : String)
  /-- a directive that means nothing here -/
  | otherDirective
  | documentStart
  | documentEnd
  | blockSequenceStart
  | blockMappingStart
  | blockEnd
  | flowSequenceStart
  | flowSequenceEnd
  | flowMappingStart
  | flowMappingEnd
  | blockEntry
  | flowEntry
  | key
  | value
  | alias (name : String)
  | anchor (name : String)
  /-- a tag: its handle, if it is not written out, and the rest -/
  | tag (handle : Option String) (suffix : String)
  | scalar (text : String) (plain : Bool)
  deriving DecidableEq, Repr, Inhabited

/-- What can be wrong with a document. -/
inductive Problem where
  /-- the text is no YAML, or uses what is not known here -/
  | malformed (what : String)
  /-- a scalar has a tag that its text does not fit -/
  | unfit (e : Fault)
  deriving Inhabited

abbrev Result (α : Type) := Except Problem α

def malformed {α : Type} (what : String) : Result α := .error (.malformed what)

/-- May the character stand in a document? -/
def isPrintable (c : Char) : Bool :=
  let n := c.toNat
  n == 0x09 || n == 0x0A || n == 0x0D || (0x20 ≤ n && n ≤ 0x7E) || n == 0x85 || (0xA0 ≤ n && n ≤ 0xD7FF) ||
    (0xE000 ≤ n && n ≤ 0xFFFD) || 0x10000 ≤ n

/-- Does the character end a line? -/
def isBreak (c : Char) : Bool := c == '\n' || c == '\x85' || c == '\u2028' || c == '\u2029'

def isBlank (c : Char) : Bool := c == ' ' || c == '\t' || isBreak c

/-- Is this the end of a word, which the end of the text is too? -/
def endsWord : Option Char → Bool
  | none => true
  | some c => isBlank c

/-- Is this a blank other than a tab, or the end? -/
def endsPlainly : Option Char → Bool
  | none => true
  | some c => c == ' ' || isBreak c

def endsLine : Option Char → Bool
  | none => true
  | some c => isBreak c

def isNameCharacter (c : Char) : Bool := c.isAlphanum || c == '-' || c == '_'

/-- Does an optional character satisfy a test? -/
def hasCharacter (p : Char → Bool) : Option Char → Bool
  | none => false
  | some c => p c

/-! ### Places -/

/-- A place in the text. -/
structure Cursor where
  rest : List Char
  index : Nat := 0
  line : Nat := 0
  column : Nat := 0
  deriving Inhabited

namespace Cursor

def peek (c : Cursor) (n : Nat := 0) : Option Char := c.rest[n]?

def next (c : Cursor) : Cursor :=
  match c.rest with
  | [] => c
  | x :: rest =>
    if isBreak x then { rest := rest, index := c.index + 1, line := c.line + 1, column := 0 }
    else { rest := rest, index := c.index + 1, line := c.line, column := if x == '\ufeff' then c.column else c.column + 1 }

def skip (c : Cursor) : Nat → Cursor
  | 0 => c
  | n + 1 => c.next.skip n

/-- The characters up to the first that fails a test, and the place behind them. -/
def takeWhile (c : Cursor) (p : Char → Bool) : List Char × Cursor :=
  let word := c.rest.takeWhile p
  (word, c.skip word.length)

def skipWhile (c : Cursor) (p : Char → Bool) : Cursor := (c.takeWhile p).2

/-- A line break, as it counts in texts. -/
def lineBreak (c : Cursor) : Option Char × Cursor :=
  match c.peek with
  | some '\n' | some '\x85' => (some '\n', c.next)
  | some x => if isBreak x then (some x, c.next) else (none, c)
  | none => (none, c)

/-- Is there a mark of three equal characters that separates documents? -/
def isAtSeparator (c : Cursor) (mark : Char) : Bool :=
  c.rest.take 3 == [mark, mark, mark] && endsWord (c.peek 3)

/-- Is there a separator of documents? -/
def separates (c : Cursor) : Bool := c.isAtSeparator '-' || c.isAtSeparator '.'

/-- More steps than are left in the text. -/
def bound (c : Cursor) : Nat := c.rest.length + 1

/-- The next place with something on it: blanks, comments and line breaks are passed. Tells whether a line was left. -/
def toContent : Nat → Cursor → Bool → Cursor × Bool
  | 0, c, left => (c, left)
  | fuel + 1, c, left =>
    let c := c.skipWhile (· == ' ')
    let c := if c.peek == some '#' then c.skipWhile (!isBreak ·) else c
    match c.lineBreak with
    | (some _, c) => toContent fuel c true
    | (none, c) => (c, left)

end Cursor

end Yaml

end ScriptFlow
