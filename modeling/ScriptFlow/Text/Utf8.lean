import ScriptFlow.Data.Text

/-!
# Reading and writing UTF-8

`Utf8.decode` reads bytes strictly: no overlong forms, no halves of surrogate pairs, nothing above the last code point. A failure names the bytes that
cannot be part of a character. `Utf8.encodeLoose` writes code points and fails on halves of surrogate pairs.
-/

namespace ScriptFlow.Utf8

/-- Why bytes are no text: the first offending byte, how many belong to it, and the reason. -/
structure DecodeError where
  start : Nat
  count : Nat
  first : UInt8
  reason : String

/-- The error for bytes that are no text. -/
def DecodeError.fault (e : DecodeError) : Fault :=
  let place :=
    if e.count == 1 then "byte 0x" ++ String.ofList (Text.hex 2 e.first.toNat) ++ " in position " ++ toString e.start
    else "bytes in position " ++ toString e.start ++ "-" ++ toString (e.start + e.count - 1)
  .error .unicodeDecode ("'utf-8' codec can't decode " ++ place ++ ": " ++ e.reason)

/-- Does a byte continue a character? -/
def isTail (b : UInt8) : Bool := 0x80 ≤ b && b < 0xC0

/-- How a first byte starts a character: the count of bytes behind it and the range of the first of them. -/
def head? (b : UInt8) : Option (Nat × UInt8 × UInt8) :=
  if 0xC2 ≤ b && b < 0xE0 then some (1, 0x80, 0xBF)
  else if b == 0xE0 then some (2, 0xA0, 0xBF)
  else if b == 0xED then some (2, 0x80, 0x9F)
  else if 0xE0 < b && b < 0xF0 then some (2, 0x80, 0xBF)
  else if b == 0xF0 then some (3, 0x90, 0xBF)
  else if b == 0xF4 then some (3, 0x80, 0x8F)
  else if 0xF0 < b && b < 0xF4 then some (3, 0x80, 0xBF)
  else none


/-- The first offence in bytes that are no text. -/
def firstError : Nat → Nat → List UInt8 → Option DecodeError
  | 0, _, _ => none
  | _ + 1, _, [] => none
  | fuel + 1, i, b :: rest =>
    if b < 0x80 then firstError fuel (i + 1) rest
    else match head? b with
      | none => some ⟨i, 1, b, "invalid start byte"⟩
      | some (count, low, high) =>
        let n := match rest with
          | [] => 0
          | c :: more => if low ≤ c && c ≤ high then 1 + ((more.take (count - 1)).takeWhile isTail).length else 0
        if n == count then firstError fuel (i + 1 + n) (rest.drop n)
        else if rest.length == n then some ⟨i, 1 + n, b, "unexpected end of data"⟩
        else some ⟨i, 1 + n, b, "invalid continuation byte"⟩

/-- The text that bytes encode. -/
def decode (bs : ByteArray) : Except Fault String :=
  match String.fromUTF8? bs with
  | some s => .ok s
  | none =>
    match firstError (bs.size + 1) 0 bs.toList with
    | some e => .error e.fault
    | none => .error (.error .unicodeDecode "invalid UTF-8")

/-- Is a code point half of a surrogate pair? -/
def isSurrogate (n : Nat) : Bool := 0xD800 ≤ n && n < 0xE000

/-- The error for code points that have no encoding. -/
def encodeFault (codePoints : List Nat) : Fault :=
  let start := (codePoints.takeWhile (!isSurrogate ·)).length
  let bad := (codePoints.drop start).takeWhile isSurrogate
  let place := match bad with
    | [n] => "character '\\u" ++ String.ofList (Text.hex 4 n) ++ "' in position " ++ toString start
    | _ => "characters in position " ++ toString start ++ "-" ++ toString (start + bad.length - 1)
  .error .unicodeEncode ("'utf-8' codec can't encode " ++ place ++ ": surrogates not allowed")

end ScriptFlow.Utf8
