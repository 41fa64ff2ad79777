import ScriptFlow.Text.Quoted

/-!
# Digests

A digest works through a message block by block. The message is followed by a one bit, by zeros, and by its length in bits at the end of the last block, so that
messages of different lengths never give the same blocks.

Each of the SHA digests spreads the sixteen words of a block, highest byte first, to a schedule and mixes that into its state, step by step.
-/

namespace ScriptFlow.Digest

/-- The bytes of a number, the lowest first. -/
def littleBytes : Nat → Nat → List UInt8
  | 0, _ => []
  | n + 1, x => UInt8.ofNat x :: littleBytes n (x / 256)

/-- The bytes of a number, the highest first. -/
def bigBytes (count x : Nat) : List UInt8 := (littleBytes count x).reverse

/-- How many zeros make a message and its length fill whole blocks. -/
def zeros (block lengthSize size : Nat) : Nat := (block - (size + 1 + lengthSize) % block) % block

/-- A message with its end mark, zeros and the bytes of its length. -/
def padded (block lengthSize : Nat) (big : Bool) (message : ByteArray) : ByteArray :=
  let bits := 8 * message.size
  let length := if big then bigBytes lengthSize bits else littleBytes lengthSize bits
  let tail := 0x80 :: (List.replicate (zeros block lengthSize message.size) 0 ++ length)
  tail.foldl ByteArray.push message

def byteAt (bs : ByteArray) (i : Nat) : Nat := (bs[i]?.getD 0).toNat

/-- The number in some bytes from a place on. -/
def wordAt (size : Nat) (big : Bool) (bs : ByteArray) (start : Nat) : Nat :=
  (List.range size).foldl (fun n i => 256 * n + byteAt bs (start + if big then i else size - 1 - i)) 0

/-- Words as hexadecimal digits. -/
def hexText (bytes : List UInt8) : String := String.ofList (bytes.flatMap fun b => Text.hex 2 b.toNat)

/-! ### The MD5 digest

Sixteen words of 32 bits, lowest byte first, are mixed into a state of four words in sixty-four steps.
-/

namespace Md5

def constants : Array UInt32 := #[
  0xd76aa478, 0xe8c7b756, 0x242070db, 0xc1bdceee, 0xf57c0faf, 0x4787c62a, 0xa8304613, 0xfd469501,
  0x698098d8, 0x8b44f7af, 0xffff5bb1, 0x895cd7be, 0x6b901122, 0xfd987193, 0xa679438e, 0x49b40821,
  0xf61e2562, 0xc040b340, 0x265e5a51, 0xe9b6c7aa, 0xd62f105d, 0x02441453, 0xd8a1e681, 0xe7d3fbc8,
  0x21e1cde6, 0xc33707d6, 0xf4d50d87, 0x455a14ed, 0xa9e3e905, 0xfcefa3f8, 0x676f02d9, 0x8d2a4c8a,
  0xfffa3942, 0x8771f681, 0x6d9d6122, 0xfde5380c, 0xa4beea44, 0x4bdecfa9, 0xf6bb4b60, 0xbebfbc70,
  0x289b7ec6, 0xeaa127fa, 0xd4ef3085, 0x04881d05, 0xd9d4d039, 0xe6db99e5, 0x1fa27cf8, 0xc4ac5665,
  0xf4292244, 0x432aff97, 0xab9423a7, 0xfc93a039, 0x655b59c3, 0x8f0ccc92, 0xffeff47d, 0x85845dd1,
  0x6fa87e4f, 0xfe2ce6e0, 0xa3014314, 0x4e0811a1, 0xf7537e82, 0xbd3af235, 0x2ad7d2bb, 0xeb86d391]

/-- Rotation counts of the four rounds. -/
def rotations : Array (Array UInt32) := #[#[7, 12, 17, 22], #[5, 9, 14, 20], #[4, 11, 16, 23], #[6, 10, 15, 21]]

structure State where
  a : UInt32 := 0x67452301
  b : UInt32 := 0xefcdab89
  c : UInt32 := 0x98badcfe
  d : UInt32 := 0x10325476

def rotate (x n : UInt32) : UInt32 := (x <<< n) ||| (x >>> (32 - n))

/-- The mixing function of a step and the word it takes. -/
def mix (i : Nat) (s : State) : UInt32 × Nat :=
  if i < 16 then ((s.b &&& s.c) ||| (~~~s.b &&& s.d), i)
  else if i < 32 then ((s.d &&& s.b) ||| (~~~s.d &&& s.c), (5 * i + 1) % 16)
  else if i < 48 then (s.b ^^^ s.c ^^^ s.d, (3 * i + 5) % 16)
  else (s.c ^^^ (s.b ||| ~~~s.d), (7 * i) % 16)

def step (words : Array UInt32) (s : State) (i : Nat) : State :=
  let (f, g) := mix i s
  let sum := f + s.a + (constants[i]?).getD 0 + (words[g]?).getD 0
  let turn := ((rotations[i / 16]?.getD #[])[i % 4]?).getD 0
  { a := s.d, b := s.b + rotate sum turn, c := s.b, d := s.c }

def block (bs : ByteArray) (s : State) (n : Nat) : State :=
  let words := ((List.range 16).map fun i => UInt32.ofNat (wordAt 4 false bs (64 * n + 4 * i))).toArray
  let t := (List.range 64).foldl (step words) s
  { a := s.a + t.a, b := s.b + t.b, c := s.c + t.c, d := s.d + t.d }

end Md5

/-- The MD5 digest of a message in hexadecimal digits. -/
def md5 (message : ByteArray) : String :=
  let bs := padded 64 8 false message
  let s := (List.range (bs.size / 64)).foldl (Md5.block bs) {}
  hexText ([s.a, s.b, s.c, s.d].flatMap fun w => littleBytes 4 w.toNat)

/-! ### The SHA-1 digest

Sixteen words of 32 bits, highest byte first, are spread to eighty, which are mixed into a state of five words.
-/

namespace Sha1

structure State where
  a : UInt32 := 0x67452301
  b : UInt32 := 0xefcdab89
  c : UInt32 := 0x98badcfe
  d : UInt32 := 0x10325476
  e : UInt32 := 0xc3d2e1f0

def rotate (x n : UInt32) : UInt32 := (x <<< n) ||| (x >>> (32 - n))

/-- Adds a word to the schedule. -/
def extend (w : Array UInt32) (i : Nat) : Array UInt32 :=
  let get (k : Nat) : UInt32 := (w[i - k]?).getD 0
  w.push (rotate (get 3 ^^^ get 8 ^^^ get 14 ^^^ get 16) 1)

/-- The mixing function of a step and its constant. -/
def mix (i : Nat) (s : State) : UInt32 × UInt32 :=
  if i < 20 then ((s.b &&& s.c) ||| (~~~s.b &&& s.d), 0x5a827999)
  else if i < 40 then (s.b ^^^ s.c ^^^ s.d, 0x6ed9eba1)
  else if i < 60 then ((s.b &&& s.c) ||| (s.b &&& s.d) ||| (s.c &&& s.d), 0x8f1bbcdc)
  else (s.b ^^^ s.c ^^^ s.d, 0xca62c1d6)

def step (words : Array UInt32) (s : State) (i : Nat) : State :=
  let (f, k) := mix i s
  { a := rotate s.a 5 + f + s.e + k + (words[i]?).getD 0, b := s.a, c := rotate s.b 30, d := s.c, e := s.d }

def block (bs : ByteArray) (s : State) (n : Nat) : State :=
  let first := ((List.range 16).map fun i => UInt32.ofNat (wordAt 4 true bs (64 * n + 4 * i))).toArray
  let words := (List.range 64).foldl (fun w i => extend w (i + 16)) first
  let t := (List.range 80).foldl (step words) s
  { a := s.a + t.a, b := s.b + t.b, c := s.c + t.c, d := s.d + t.d, e := s.e + t.e }

end Sha1

/-- The SHA-1 digest of a message in hexadecimal digits. -/
def sha1 (message : ByteArray) : String :=
  let bs := padded 64 8 true message
  let s := (List.range (bs.size / 64)).foldl (Sha1.block bs) {}
  hexText ([s.a, s.b, s.c, s.d, s.e].flatMap fun w => bigBytes 4 w.toNat)

/-! ### The SHA-256 digest

Sixteen words of 32 bits, highest byte first, are spread to 64, which are mixed into a state of eight words.
-/

namespace Sha256

def initial : Array UInt32 := #[
  0x6a09e667, 0xbb67ae85, 0x3c6ef372, 0xa54ff53a, 0x510e527f, 0x9b05688c, 0x1f83d9ab, 0x5be0cd19]

def constants : Array UInt32 := #[
  0x428a2f98, 0x71374491, 0xb5c0fbcf, 0xe9b5dba5, 0x3956c25b, 0x59f111f1, 0x923f82a4, 0xab1c5ed5,
  0xd807aa98, 0x12835b01, 0x243185be, 0x550c7dc3, 0x72be5d74, 0x80deb1fe, 0x9bdc06a7, 0xc19bf174,
  0xe49b69c1, 0xefbe4786, 0x0fc19dc6, 0x240ca1cc, 0x2de92c6f, 0x4a7484aa, 0x5cb0a9dc, 0x76f988da,
  0x983e5152, 0xa831c66d, 0xb00327c8, 0xbf597fc7, 0xc6e00bf3, 0xd5a79147, 0x06ca6351, 0x14292967,
  0x27b70a85, 0x2e1b2138, 0x4d2c6dfc, 0x53380d13, 0x650a7354, 0x766a0abb, 0x81c2c92e, 0x92722c85,
  0xa2bfe8a1, 0xa81a664b, 0xc24b8b70, 0xc76c51a3, 0xd192e819, 0xd6990624, 0xf40e3585, 0x106aa070,
  0x19a4c116, 0x1e376c08, 0x2748774c, 0x34b0bcb5, 0x391c0cb3, 0x4ed8aa4a, 0x5b9cca4f, 0x682e6ff3,
  0x748f82ee, 0x78a5636f, 0x84c87814, 0x8cc70208, 0x90befffa, 0xa4506ceb, 0xbef9a3f7, 0xc67178f2]

def rotate (x n : UInt32) : UInt32 := (x >>> n) ||| (x <<< (32 - n))

/-- Adds a word to the schedule. -/
def extend (w : Array UInt32) (i : Nat) : Array UInt32 :=
  let get (k : Nat) : UInt32 := (w[i - k]?).getD 0
  let x := get 15
  let y := get 2
  let low := rotate x 7 ^^^ rotate x 18 ^^^ (x >>> 3)
  let high := rotate y 17 ^^^ rotate y 19 ^^^ (y >>> 10)
  w.push (get 16 + low + get 7 + high)

def step (words s : Array UInt32) (i : Nat) : Array UInt32 :=
  match s.toList with
  | [a, b, c, d, e, f, g, h] =>
    let high := rotate e 6 ^^^ rotate e 11 ^^^ rotate e 25
    let choice := (e &&& f) ^^^ (~~~e &&& g)
    let one := h + high + choice + (constants[i]?).getD 0 + (words[i]?).getD 0
    let low := rotate a 2 ^^^ rotate a 13 ^^^ rotate a 22
    let majority := (a &&& b) ^^^ (a &&& c) ^^^ (b &&& c)
    #[one + low + majority, a, b, c, d + one, e, f, g]
  | _ => s

def block (bs : ByteArray) (s : Array UInt32) (n : Nat) : Array UInt32 :=
  let first := ((List.range 16).map fun i => UInt32.ofNat (wordAt 4 true bs (64 * n + 4 * i))).toArray
  let words := (List.range 48).foldl (fun w i => extend w (i + 16)) first
  let t := (List.range 64).foldl (step words) s
  Array.zipWith (· + ·) s t

end Sha256

/-- The SHA-256 digest of a message in hexadecimal digits. -/
def sha256 (message : ByteArray) : String :=
  let bs := padded 64 8 true message
  let s := (List.range (bs.size / 64)).foldl (Sha256.block bs) Sha256.initial
  hexText (s.toList.flatMap fun w => bigBytes 4 w.toNat)

/-! ### The SHA-512 digest

Sixteen words of 64 bits, highest byte first, are spread to 80, which are mixed into a state of eight words.
-/

namespace Sha512

def initial : Array UInt64 := #[
  0x6a09e667f3bcc908, 0xbb67ae8584caa73b, 0x3c6ef372fe94f82b, 0xa54ff53a5f1d36f1, 0x510e527fade682d1, 0x9b05688c2b3e6c1f,
  0x1f83d9abfb41bd6b, 0x5be0cd19137e2179]

def constants : Array UInt64 := #[
  0x428a2f98d728ae22, 0x7137449123ef65cd, 0xb5c0fbcfec4d3b2f, 0xe9b5dba58189dbbc, 0x3956c25bf348b538, 0x59f111f1b605d019,
  0x923f82a4af194f9b, 0xab1c5ed5da6d8118, 0xd807aa98a3030242, 0x12835b0145706fbe, 0x243185be4ee4b28c, 0x550c7dc3d5ffb4e2,
  0x72be5d74f27b896f, 0x80deb1fe3b1696b1, 0x9bdc06a725c71235, 0xc19bf174cf692694, 0xe49b69c19ef14ad2, 0xefbe4786384f25e3,
  0x0fc19dc68b8cd5b5, 0x240ca1cc77ac9c65, 0x2de92c6f592b0275, 0x4a7484aa6ea6e483, 0x5cb0a9dcbd41fbd4, 0x76f988da831153b5,
  0x983e5152ee66dfab, 0xa831c66d2db43210, 0xb00327c898fb213f, 0xbf597fc7beef0ee4, 0xc6e00bf33da88fc2, 0xd5a79147930aa725,
  0x06ca6351e003826f, 0x142929670a0e6e70, 0x27b70a8546d22ffc, 0x2e1b21385c26c926, 0x4d2c6dfc5ac42aed, 0x53380d139d95b3df,
  0x650a73548baf63de, 0x766a0abb3c77b2a8, 0x81c2c92e47edaee6, 0x92722c851482353b, 0xa2bfe8a14cf10364, 0xa81a664bbc423001,
  0xc24b8b70d0f89791, 0xc76c51a30654be30, 0xd192e819d6ef5218, 0xd69906245565a910, 0xf40e35855771202a, 0x106aa07032bbd1b8,
  0x19a4c116b8d2d0c8, 0x1e376c085141ab53, 0x2748774cdf8eeb99, 0x34b0bcb5e19b48a8, 0x391c0cb3c5c95a63, 0x4ed8aa4ae3418acb,
  0x5b9cca4f7763e373, 0x682e6ff3d6b2b8a3, 0x748f82ee5defb2fc, 0x78a5636f43172f60, 0x84c87814a1f0ab72, 0x8cc702081a6439ec,
  0x90befffa23631e28, 0xa4506cebde82bde9, 0xbef9a3f7b2c67915, 0xc67178f2e372532b, 0xca273eceea26619c, 0xd186b8c721c0c207,
  0xeada7dd6cde0eb1e, 0xf57d4f7fee6ed178, 0x06f067aa72176fba, 0x0a637dc5a2c898a6, 0x113f9804bef90dae, 0x1b710b35131c471b,
  0x28db77f523047d84, 0x32caab7b40c72493, 0x3c9ebe0a15c9bebc, 0x431d67c49c100d4c, 0x4cc5d4becb3e42b6, 0x597f299cfc657e2a,
  0x5fcb6fab3ad6faec, 0x6c44198c4a475817]

def rotate (x n : UInt64) : UInt64 := (x >>> n) ||| (x <<< (64 - n))

/-- Adds a word to the schedule. -/
def extend (w : Array UInt64) (i : Nat) : Array UInt64 :=
  let get (k : Nat) : UInt64 := (w[i - k]?).getD 0
  let x := get 15
  let y := get 2
  let low := rotate x 1 ^^^ rotate x 8 ^^^ (x >>> 7)
  let high := rotate y 19 ^^^ rotate y 61 ^^^ (y >>> 6)
  w.push (get 16 + low + get 7 + high)

def step (words s : Array UInt64) (i : Nat) : Array UInt64 :=
  match s.toList with
  | [a, b, c, d, e, f, g, h] =>
    let high := rotate e 14 ^^^ rotate e 18 ^^^ rotate e 41
    let choice := (e &&& f) ^^^ (~~~e &&& g)
    let one := h + high + choice + (constants[i]?).getD 0 + (words[i]?).getD 0
    let low := rotate a 28 ^^^ rotate a 34 ^^^ rotate a 39
    let majority := (a &&& b) ^^^ (a &&& c) ^^^ (b &&& c)
    #[one + low + majority, a, b, c, d + one, e, f, g]
  | _ => s

def block (bs : ByteArray) (s : Array UInt64) (n : Nat) : Array UInt64 :=
  let first := ((List.range 16).map fun i => UInt64.ofNat (wordAt 8 true bs (128 * n + 8 * i))).toArray
  let words := (List.range 64).foldl (fun w i => extend w (i + 16)) first
  let t := (List.range 80).foldl (step words) s
  Array.zipWith (· + ·) s t

end Sha512

/-- The SHA-512 digest of a message in hexadecimal digits. -/
def sha512 (message : ByteArray) : String :=
  let bs := padded 128 16 true message
  let s := (List.range (bs.size / 128)).foldl (Sha512.block bs) Sha512.initial
  hexText (s.toList.flatMap fun w => bigBytes 8 w.toNat)

end ScriptFlow.Digest
