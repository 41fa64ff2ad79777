import ScriptFlow.Script.Syntax

/-!
# From script text to tokens

`Token.scanAll` lists the tokens of a text. A place from which no token can be read becomes a last token that carries the error, so that an
error of the syntax in front of it is reported first. `Token.shown` is the text by which an error names a token: names, numbers and strings are
shown as they were read, all others by their spelling.

Strings stand between quotes, with escapes, or between long brackets; line ends inside them count as one line feed. Comments and
blanks are skipped.
-/

namespace ScriptFlow.Script

/-! ## Tokens -/

/-- A piece of script text. -/
inductive Token where
  /-- a reserved word, an operator or a mark -/
  | mark (spelling : String)
  /-- a byte that starts no token -/
  | stray (b : UInt8)
  | name (s : ByteArray)
  | number (c : Constant) (raw : ByteArray)
  | text (s raw : ByteArray)
  | finish
  /-- text that no token can be read from, with what is wrong -/
  | broken (message : ByteArray)
  deriving Inhabited

/-- A token with its place. -/
structure PlacedToken where
  token : Token
  /-- the line on which the token ends -/
  line : Nat
  deriving Inhabited

/-- The words that are no names. -/
def reservedWords : List String :=
  ["and", "break", "do", "else", "elseif", "end", "false", "for", "function", "goto", "if", "in", "local", "nil", "not", "or",
   "repeat", "return", "then", "true", "until", "while"]

/-- The operators and marks, longer ones first. -/
def operatorMarks : List String :=
  ["...", "..", "==", "~=", "<=", ">=", "//", "::", "<<", ">>", "+", "-", "*", "/", "%", "^", "#", "&", "~", "|", "<", ">", "=",
   "(", ")", "\x7b", "\x7d", "[", "]", ";", ":", ",", "."]

/-- A text as the front of bytes, cut before the first zero byte. -/
def untilZero (s : ByteArray) : ByteArray := ⟨(s.toList.takeWhile (· != 0)).toArray⟩

/-- Bytes between single quotes. -/
def inQuotes (s : ByteArray) : ByteArray := "'".toUTF8 ++ s ++ "'".toUTF8

/-- A byte by itself, by number when it is not printable. -/
def byteShown (b : UInt8) : ByteArray :=
  if 32 ≤ b && b < 127 then inQuotes ⟨#[b]⟩ else ("'<\\" ++ toString b.toNat ++ ">'").toUTF8

namespace Token

/-- The text by which an error names a token. -/
def shown : Token → ByteArray
  | mark s => inQuotes s.toUTF8
  | stray b => byteShown b
  | name s => inQuotes (untilZero s)
  | number _ raw => inQuotes (untilZero raw)
  | text _ raw => inQuotes (untilZero raw)
  | finish | broken _ => "<eof>".toUTF8

def isMark (t : Token) (s : String) : Bool :=
  match t with
  | mark m => m == s
  | _ => false

end Token

/-- Why a text is no script. -/
structure SyntaxError where
  message : ByteArray
  deriving Inhabited

/-! ## Scanning -/

namespace Lexer

abbrev Bytes := List UInt8

def byteOf (c : Char) : UInt8 := UInt8.ofNat c.toNat

def isDigit (b : UInt8) : Bool := 48 ≤ b && b ≤ 57
def isLetter (b : UInt8) : Bool := (97 ≤ b && b ≤ 122) || (65 ≤ b && b ≤ 90) || b == 95
def isNameByte (b : UInt8) : Bool := isLetter b || isDigit b
def isHex (b : UInt8) : Bool := Number.isHexDigit (Char.ofNat b.toNat)
def hexOf (b : UInt8) : Nat := (Number.hexValue? (Char.ofNat b.toNat)).getD 0
def isLineEnd (b : UInt8) : Bool := b == 10 || b == 13
def isSpace (b : UInt8) : Bool := b == 32 || b == 9 || b == 11 || b == 12

def pack (bs : Bytes) : ByteArray := ⟨bs.toArray⟩

/-- Removes one line end, which may be a pair of two different marks. -/
def dropLineEnd : Bytes → Bytes
  | 13 :: 10 :: rest => rest
  | 10 :: 13 :: rest => rest
  | _ :: rest => rest
  | [] => []

theorem dropLineEnd_length : ∀ cs : Bytes, (dropLineEnd cs).length ≤ cs.length
  | [] => Nat.le_refl _
  | [_] => by unfold dropLineEnd; split <;> simp_all
  | _ :: _ :: _ => by unfold dropLineEnd; split <;> simp_all <;> omega

/-- Why reading failed: the message, the text it is near to when there is one, and the line. -/
structure Failure where
  message : String
  near : Option ByteArray
  line : Nat

/-- The message of a failure in a chunk. -/
def Failure.text (chunk : ByteArray) (f : Failure) : ByteArray :=
  placed chunk f.line (f.message.toUTF8 ++ match f.near with
    | some t => " near ".toUTF8 ++ t
    | none => ByteArray.empty)

/-- What was read so far, backwards, as the text an error is near to. -/
def nearText (raw : Bytes) : Option ByteArray := some (inQuotes (untilZero (pack raw.reverse)))

/-- A failure inside an escape: the byte at which it was noticed is shown too. -/
def escapeFailure (message : String) (line : Nat) (raw rest : Bytes) : Failure :=
  ⟨message, nearText (rest.take 1 ++ raw), line⟩

/-- The bytes of a code point, also of those beyond the standard's range. -/
def encodeCode (n : Nat) : Bytes :=
  if n < 0x80 then [UInt8.ofNat n]
  else if n < 0x800 then [UInt8.ofNat (0xC0 + n / 0x40), tail n]
  else if n < 0x10000 then [UInt8.ofNat (0xE0 + n / 0x1000), tail (n / 0x40), tail n]
  else if n < 0x200000 then [UInt8.ofNat (0xF0 + n / 0x40000), tail (n / 0x1000), tail (n / 0x40), tail n]
  else if n < 0x4000000 then
    [UInt8.ofNat (0xF8 + n / 0x1000000), tail (n / 0x40000), tail (n / 0x1000), tail (n / 0x40), tail n]
  else
    [UInt8.ofNat (0xFC + n / 0x40000000), tail (n / 0x1000000), tail (n / 0x40000), tail (n / 0x1000), tail (n / 0x40), tail n]
where
  /-- the byte of six bits -/
  tail (n : Nat) : UInt8 := UInt8.ofNat (0x80 + n % 0x40)

/-- One escape: the bytes it stands for, how many lines it spans and the rest; `raw` ends with the backslash. -/
structure Escape where
  bytes : Bytes
  lines : Nat
  rest : Bytes

/-- Digits of a code point between braces. -/
def scanCode (line : Nat) : Nat → Bytes → Bytes → Except Failure Escape
  | _, raw, [] => .error ⟨"missing '\x7d'", nearText raw, line⟩
  | r, raw, b :: rest =>
    if isHex b then
      if r ≤ 0x7FFFFFF then scanCode line (16 * r + hexOf b) (b :: raw) rest
      else .error (escapeFailure "UTF-8 value too large" line raw (b :: rest))
    else if b == byteOf '\x7d' then .ok ⟨encodeCode r, 0, rest⟩
    else .error (escapeFailure "missing '\x7d'" line raw (b :: rest))

/-- Blanks and line ends after an escape that skips them. -/
def skipBlanks : Nat → Nat → Bytes → Nat × Bytes
  | 0, lines, rest => (lines, rest)
  | fuel + 1, lines, b :: rest =>
    if isLineEnd b then skipBlanks fuel (lines + 1) (dropLineEnd (b :: rest))
    else if isSpace b then skipBlanks fuel lines rest
    else (lines, b :: rest)
  | _, lines, [] => (lines, [])

/-- An escape after its backslash. -/
def scanEscape (line : Nat) (raw : Bytes) (cs : Bytes) : Except Failure Escape :=
  match cs with
  | [] => .ok ⟨[], 0, []⟩
  | b :: rest =>
    let single (n : UInt8) : Except Failure Escape := .ok ⟨[n], 0, rest⟩
    match Char.ofNat b.toNat with
    | 'a' => single 7
    | 'b' => single 8
    | 'f' => single 12
    | 'n' => single 10
    | 'r' => single 13
    | 't' => single 9
    | 'v' => single 11
    | '\\' => single 92
    | '"' => single 34
    | '\'' => single 39
    | '\n' | '\r' => .ok ⟨[10], 1, dropLineEnd (b :: rest)⟩
    | 'z' =>
      let (lines, rest) := skipBlanks rest.length 0 rest
      .ok ⟨[], lines, rest⟩
    | 'x' =>
      match rest with
      | h :: l :: rest' =>
        if !isHex h then .error (escapeFailure "hexadecimal digit expected" line (b :: raw) rest)
        else if !isHex l then .error (escapeFailure "hexadecimal digit expected" line (h :: b :: raw) (l :: rest'))
        else .ok ⟨[UInt8.ofNat (16 * hexOf h + hexOf l)], 0, rest'⟩
      | [h] =>
        if isHex h then .error (escapeFailure "hexadecimal digit expected" line (h :: b :: raw) [])
        else .error (escapeFailure "hexadecimal digit expected" line (b :: raw) rest)
      | [] => .error (escapeFailure "hexadecimal digit expected" line (b :: raw) [])
    | 'u' =>
      match rest with
      | o :: d :: rest' =>
        if o != byteOf '\x7b' then .error (escapeFailure "missing '\x7b'" line (b :: raw) rest)
        else if isHex d then scanCode line (hexOf d) (d :: o :: b :: raw) rest'
        else .error (escapeFailure "hexadecimal digit expected" line (o :: b :: raw) (d :: rest'))
      | [o] =>
        if o == byteOf '\x7b' then .error (escapeFailure "hexadecimal digit expected" line (o :: b :: raw) [])
        else .error (escapeFailure "missing '\x7b'" line (b :: raw) rest)
      | [] => .error (escapeFailure "missing '\x7b'" line (b :: raw) [])
    | _ =>
      if isDigit b then
        let ds := (cs.take 3).takeWhile isDigit
        let after := cs.drop ds.length
        let n := ds.foldl (fun n d => 10 * n + (d.toNat - 48)) 0
        if n ≤ 255 then .ok ⟨[UInt8.ofNat n], 0, after⟩
        else .error (escapeFailure "decimal escape too large" line (ds.reverse ++ raw) after)
      else .error (escapeFailure "invalid escape sequence" line raw cs)

/-- The rest of a string between quotes; `out` is its contents so far, backwards. -/
def scanString (quote : UInt8) : Nat → Nat → Bytes → Bytes → Except Failure (Bytes × Nat × Bytes)
  | 0, line, _, _ => .error ⟨"unfinished string", some "<eof>".toUTF8, line⟩
  | _ + 1, line, _, [] => .error ⟨"unfinished string", some "<eof>".toUTF8, line⟩
  | fuel + 1, line, out, b :: rest =>
    let raw := out ++ [quote]
    if b == quote then .ok (out.reverse, line, rest)
    else if isLineEnd b then .error ⟨"unfinished string", nearText raw, line⟩
    else if b == byteOf '\\' then do
      let e ← scanEscape line (b :: raw) rest
      scanString quote fuel (line + e.lines) (e.bytes.reverse ++ out) e.rest
    else scanString quote fuel line (b :: out) rest

/-- The level of a long bracket after its first mark: how many equality signs, if the second mark follows. -/
def longLevel? (bracket : UInt8) (cs : Bytes) : Option (Nat × Bytes) :=
  let level := (cs.takeWhile (· == byteOf '=')).length
  match cs.drop level with
  | b :: rest => if b == bracket then some (level, rest) else none
  | [] => none

/-- The rest of a long string or comment: contents, line and what follows. -/
def scanLong (level : Nat) : Nat → Nat → Bytes → Bytes → Option (Bytes × Nat × Bytes)
  | 0, _, _, _ => none
  | _ + 1, _, _, [] => none
  | fuel + 1, line, out, b :: rest =>
    if b == byteOf ']' then
      match longLevel? (byteOf ']') rest with
      | some (l, after) =>
        if l == level then some (out.reverse, line, after) else scanLong level fuel line (b :: out) rest
      | none => scanLong level fuel line (b :: out) rest
    else if isLineEnd b then scanLong level fuel (line + 1) (10 :: out) (dropLineEnd (b :: rest))
    else scanLong level fuel line (b :: out) rest

/-- A long string or comment after its opening bracket; a line end right after the bracket does not count. -/
def openLong (what : String) (level line : Nat) (cs : Bytes) : Except Failure (Bytes × Nat × Bytes) :=
  let (start, line') := match cs with
    | b :: _ => if isLineEnd b then (dropLineEnd cs, line + 1) else (cs, line)
    | [] => (cs, line)
  match scanLong level (start.length + 1) line' [] start with
  | some r => .ok r
  | none =>
    let lines := countLines start.length start
    .error ⟨"unfinished long " ++ what ++ " (starting at line " ++ toString line ++ ")", some "<eof>".toUTF8, line' + lines⟩
where
  /-- line ends in a text -/
  countLines : Nat → Bytes → Nat
    | fuel + 1, b :: rest =>
      if isLineEnd b then countLines fuel (dropLineEnd (b :: rest)) + 1 else countLines fuel rest
    | _, _ => 0

/-- The bytes that belong to a number; `marks` are the letters that start an exponent. -/
def spanNumber (marks : List UInt8) : Nat → Bytes → Bytes → Bytes × Bytes
  | 0, raw, cs => (raw, cs)
  | fuel + 1, raw, b :: rest =>
    if marks.contains b then
      match rest with
      | s :: rest' =>
        if s == byteOf '-' || s == byteOf '+' then spanNumber marks fuel (s :: b :: raw) rest'
        else spanNumber marks fuel (b :: raw) rest
      | [] => (b :: raw, [])
    else if isHex b || b == byteOf '.' then spanNumber marks fuel (b :: raw) rest
    else (raw, b :: rest)
  | _ + 1, raw, [] => (raw, [])

/-- A number at the front of a text that starts with a digit, or with a point and a digit. -/
def scanNumber (line : Nat) (cs : Bytes) : Except Failure (Token × Bytes) :=
  let isMark (x : UInt8) : Bool := x == byteOf 'x' || x == byteOf 'X'
  let (raw, rest) := match cs with
    | a :: x :: rest =>
      if a == byteOf '0' && isMark x then spanNumber [byteOf 'p', byteOf 'P'] rest.length [x, a] rest
      else spanNumber [byteOf 'e', byteOf 'E'] cs.length [a] (x :: rest)
    | a :: rest => spanNumber [byteOf 'e', byteOf 'E'] cs.length [a] rest
    | [] => ([], [])
  let (raw, rest) := match rest with
    | b :: after => if isLetter b then (b :: raw, after) else (raw, rest)
    | [] => (raw, rest)
  let text := pack raw.reverse
  match (Number.ofBytes? text).bind Constant.ofNumber? with
  | some c => .ok (.number c text, rest)
  | none => .error ⟨"malformed number", nearText raw, line⟩

/-- The operator or mark at the front of a text. -/
def operator? (cs : Bytes) : Option String := operatorMarks.find? fun m => m.toUTF8.toList.isPrefixOf cs

/-- The first token of a text, on which line it ends, and the rest. -/
def scan : Nat → Nat → Bytes → Except Failure (Token × Nat × Bytes)
  | 0, line, _ => .ok (.finish, line, [])
  | _ + 1, line, [] => .ok (.finish, line, [])
  | fuel + 1, line, b :: rest =>
    if isLineEnd b then scan fuel (line + 1) (dropLineEnd (b :: rest))
    else if isSpace b then scan fuel line rest
    else if b == byteOf '-' && rest.take 1 == [byteOf '-'] then do
      let body := rest.drop 1
      match (if body.take 1 == [byteOf '['] then longLevel? (byteOf '[') (body.drop 1) else none) with
      | some (level, inside) =>
        let (_, line', after) ← openLong "comment" level line inside
        scan fuel line' after
      | none => scan fuel line (body.dropWhile (!isLineEnd ·))
    else if b == byteOf '[' && (rest.take 1 == [byteOf '['] || rest.take 1 == [byteOf '=']) then
      match longLevel? (byteOf '[') rest with
      | some (level, inside) => do
        let (contents, line', after) ← openLong "string" level line inside
        let marks := List.replicate level (byteOf '=')
        let raw := [byteOf '['] ++ marks ++ [byteOf '['] ++ contents ++ [byteOf ']'] ++ marks ++ [byteOf ']']
        .ok (.text (pack contents) (pack raw), line', after)
      | none =>
        .error ⟨"invalid long string delimiter", nearText ((rest.takeWhile (· == byteOf '=')).reverse ++ [b]), line⟩
    else if b == byteOf '"' || b == byteOf '\'' then do
      let (contents, line', after) ← scanString b (rest.length + 1) line [] rest
      .ok (.text (pack contents) (pack ([b] ++ contents ++ [b])), line', after)
    else if isDigit b || (b == byteOf '.' && (rest.take 1).any isDigit) then do
      let (t, after) ← scanNumber line (b :: rest)
      .ok (t, line, after)
    else if isLetter b then
      let word := (b :: rest).takeWhile isNameByte
      let after := (b :: rest).drop word.length
      let t : Token := match reservedWords.find? fun w => w.toUTF8.toList == word with
        | some w => .mark w
        | none => .name (pack word)
      .ok (t, line, after)
    else match operator? (b :: rest) with
      | some m => .ok (.mark m, line, (b :: rest).drop m.utf8ByteSize)
      | none => .ok (.stray b, line, rest)

/-- All tokens of a text, up to its end or the first place that cannot be read. -/
def scanFrom (chunk : ByteArray) : Nat → Nat → Bytes → List PlacedToken
  | 0, line, _ => [⟨.finish, line⟩]
  | fuel + 1, line, cs =>
    match scan (cs.length + 1) line cs with
    | .ok (.finish, line', _) => [⟨.finish, line'⟩]
    | .ok (t, line', rest) => ⟨t, line'⟩ :: scanFrom chunk fuel line' rest
    | .error f => [⟨.broken (f.text chunk), f.line⟩]

end Lexer

/-- The tokens of a chunk. -/
def Token.scanAll (chunk text : ByteArray) : List PlacedToken :=
  Lexer.scanFrom chunk (text.size + 1) 1 text.toList

end ScriptFlow.Script
