import ScriptFlow.Script.Value

/-!
# Patterns

A pattern describes byte strings: classes of bytes with repetitions, anchors, captures, balanced pairs and frontiers. `Pattern.matchAt` finds the
end of the match that starts at a position, with the captures, preferring long repetitions where they are greedy.

A malformed pattern is noticed only where matching reaches it.
-/

namespace ScriptFlow.Script

/-- What a capture holds: a part of the subject, or a position. -/
inductive Capture where
  | opened (start : Nat)
  | part (start length : Nat)
  | position (start : Nat)
  deriving DecidableEq, Repr, Inhabited

namespace Pattern

abbrev Outcome := Except String (Option (Nat × List Capture))

def maxCaptures : Nat := 32

def byteAt (s : ByteArray) (i : Nat) : UInt8 := if h : i < s.size then s[i] else 0

def code (c : Char) : UInt8 := UInt8.ofNat c.toNat

def isLower (b : UInt8) : Bool := 97 ≤ b && b ≤ 122
def isUpper (b : UInt8) : Bool := 65 ≤ b && b ≤ 90
def isAlpha (b : UInt8) : Bool := isLower b || isUpper b
def isDigit (b : UInt8) : Bool := 48 ≤ b && b ≤ 57
def isSpace (b : UInt8) : Bool := b == 32 || (9 ≤ b && b ≤ 13)
def isControl (b : UInt8) : Bool := b < 32 || b == 127
def isGraph (b : UInt8) : Bool := 32 < b && b < 127
def isPunct (b : UInt8) : Bool := isGraph b && !isAlpha b && !isDigit b
def isHex (b : UInt8) : Bool := isDigit b || (97 ≤ b && b ≤ 102) || (65 ≤ b && b ≤ 70)

def toLower (b : UInt8) : UInt8 := if isUpper b then b + 32 else b
def toUpper (b : UInt8) : UInt8 := if isLower b then b - 32 else b

/-- Does a byte belong to the class of a letter? Other letters stand for themselves; an upper-case letter is the complement. -/
def inClass (b letter : UInt8) : Bool :=
  let base? : Option Bool := match Char.ofNat (toLower letter).toNat with
    | 'a' => some (isAlpha b)
    | 'c' => some (isControl b)
    | 'd' => some (isDigit b)
    | 'g' => some (isGraph b)
    | 'l' => some (isLower b)
    | 'p' => some (isPunct b)
    | 's' => some (isSpace b)
    | 'u' => some (isUpper b)
    | 'w' => some (isAlpha b || isDigit b)
    | 'x' => some (isHex b)
    | _ => none
  match base? with
  | some r => if isUpper letter then !r else r
  | none => letter == b

/-- Where a set ends, from behind its opening bracket (and its caret). -/
def setEnd (p : ByteArray) : Nat → Nat → Except String Nat
  | 0, _ => .error "malformed pattern (missing ']')"
  | fuel + 1, i =>
    if i ≥ p.size then .error "malformed pattern (missing ']')"
    else
      let next := if byteAt p i == code '%' then i + 2 else i + 1
      if next < p.size && byteAt p next == code ']' then .ok (next + 1)
      else if next ≥ p.size then .error "malformed pattern (missing ']')"
      else setEnd p fuel next

/-- Where the single class at a position ends. -/
def classEnd (p : ByteArray) (i : Nat) : Except String Nat :=
  let c := byteAt p i
  if c == code '%' then
    if i + 1 ≥ p.size then .error "malformed pattern (ends with '%')" else .ok (i + 2)
  else if c == code '[' then
    let j := if byteAt p (i + 1) == code '^' && i + 1 < p.size then i + 2 else i + 1
    setEnd p (p.size + 1) j
  else .ok (i + 1)

/-- Is a byte in the set between two positions, the last one that of its closing bracket? -/
def inSet (p : ByteArray) (b : UInt8) (last : Nat) : Nat → Nat → Bool
  | 0, _ => false
  | fuel + 1, i =>
    if i ≥ last then false
    else if byteAt p i == code '%' then inClass b (byteAt p (i + 1)) || inSet p b last fuel (i + 2)
    else if byteAt p (i + 1) == code '-' && i + 2 < last then
      (byteAt p i ≤ b && b ≤ byteAt p (i + 2)) || inSet p b last fuel (i + 3)
    else byteAt p i == b || inSet p b last fuel (i + 1)

/-- Is a byte in the set that starts at a position and ends in front of another? -/
def matchesSet (p : ByteArray) (b : UInt8) (start stop : Nat) : Bool :=
  if byteAt p (start + 1) == code '^' then !inSet p b (stop - 1) p.size (start + 2)
  else inSet p b (stop - 1) p.size (start + 1)

/-- Does the byte at a position of the subject belong to a single class of the pattern? -/
def single (s p : ByteArray) (i j stop : Nat) : Bool :=
  if i ≥ s.size then false
  else
    let b := byteAt s i
    let c := byteAt p j
    if c == code '.' then true
    else if c == code '%' then inClass b (byteAt p (j + 1))
    else if c == code '[' then matchesSet p b j stop
    else c == b

/-- How many bytes from a position on belong to a class. -/
def countSingle (s p : ByteArray) (j stop : Nat) : Nat → Nat → Nat
  | 0, _ => 0
  | fuel + 1, i => if single s p i j stop then 1 + countSingle s p j stop fuel (i + 1) else 0

/-- The end of a balanced pair that starts at a position. -/
def balanced (s : ByteArray) (opening closing : UInt8) : Nat → Nat → Nat → Option Nat
  | 0, _, _ => none
  | fuel + 1, depth, i =>
    if i ≥ s.size then none
    else
      let b := byteAt s i
      if b == closing then if depth == 1 then some (i + 1) else balanced s opening closing fuel (depth - 1) (i + 1)
      else if b == opening then balanced s opening closing fuel (depth + 1) (i + 1)
      else balanced s opening closing fuel depth (i + 1)

/-- Captures are kept in order; the last one still open is closed. -/
def closeLast (captures : List Capture) (stop : Nat) : Option (List Capture) :=
  go captures.reverse |>.map List.reverse
where
  /-- closes the first open one -/
  go : List Capture → Option (List Capture)
    | [] => none
    | .opened start :: rest => some (.part start (stop - start) :: rest)
    | c :: rest => (go rest).map (c :: ·)

/-- The part of the subject that a closed capture holds, as start and length. -/
def partOf? : Capture → Option (Nat × Nat)
  | .part start length => some (start, length)
  | .position start => some (start, 0)
  | .opened _ => none

/-- Do the bytes at a position repeat a part of the subject? -/
def repeatsAt (s : ByteArray) (start length i : Nat) : Bool :=
  decide (i + length ≤ s.size) && s.extract start (start + length) == s.extract i (i + length)

/-- As many repetitions as possible, at most `count`. -/
def longest (go : Nat → Outcome) (i : Nat) : Nat → Outcome
  | 0 => go i
  | n + 1 => do
    match ← go (i + n + 1) with
    | some r => return some r
    | none => longest go i n

/-- As few repetitions as possible; `more` says whether one more fits at a position. -/
def shortest (go : Nat → Outcome) (more : Nat → Bool) : Nat → Nat → Outcome
  | 0, _ => .ok none
  | room + 1, i => do
    match ← go i with
    | some r => return some r
    | none => if more i then shortest go more room (i + 1) else return none

/-- The end of the match of the rest of a pattern from a position on. -/
def matchFrom (s p : ByteArray) : Nat → Nat → Nat → List Capture → Outcome
  | 0, _, _, _ => .error "pattern too complex"
  | fuel + 1, i, j, caps =>
    if j ≥ p.size then .ok (some (i, caps))
    else
      let c := byteAt p j
      let single' : Outcome := do
        let stop ← classEnd p j
        let mark := if stop < p.size then byteAt p stop else 0
        let one := single s p i j stop
        if mark == code '?' then
          if one then
            match ← matchFrom s p fuel (i + 1) (stop + 1) caps with
            | some r => return some r
            | none => matchFrom s p fuel i (stop + 1) caps
          else matchFrom s p fuel i (stop + 1) caps
        else if mark == code '+' then
          if one then
            longest (matchFrom s p fuel · (stop + 1) caps) (i + 1) (countSingle s p j stop (s.size + 1) (i + 1))
          else return none
        else if mark == code '*' then
          longest (matchFrom s p fuel · (stop + 1) caps) i (countSingle s p j stop (s.size + 1) i)
        else if mark == code '-' then
          shortest (matchFrom s p fuel · (stop + 1) caps) (single s p · j stop) (s.size + 1 - i) i
        else if one then matchFrom s p fuel (i + 1) stop caps
        else return none
      if c == code '(' then
        if caps.length ≥ maxCaptures then .error "too many captures"
        else if j + 1 < p.size && byteAt p (j + 1) == code ')' then matchFrom s p fuel i (j + 2) (caps ++ [.position i])
        else matchFrom s p fuel i (j + 1) (caps ++ [.opened i])
      else if c == code ')' then
        match closeLast caps i with
        | some caps => matchFrom s p fuel i (j + 1) caps
        | none => .error "invalid pattern capture"
      else if c == code '$' && j + 1 == p.size then .ok (if i == s.size then some (i, caps) else none)
      else if c == code '%' && j + 1 < p.size && byteAt p (j + 1) == code 'b' then
        if j + 3 ≥ p.size then .error "malformed pattern (missing arguments to '%b')"
        else if i < s.size && byteAt s i == byteAt p (j + 2) then
          match balanced s (byteAt p (j + 2)) (byteAt p (j + 3)) (s.size + 1) 1 (i + 1) with
          | some i' => matchFrom s p fuel i' (j + 4) caps
          | none => .ok none
        else .ok none
      else if c == code '%' && j + 1 < p.size && byteAt p (j + 1) == code 'f' then
        if byteAt p (j + 2) != code '[' || j + 2 ≥ p.size then .error "missing '[' after '%f' in pattern"
        else do
          let stop ← classEnd p (j + 2)
          let before := if i == 0 then 0 else byteAt s (i - 1)
          let here := byteAt s i
          if !matchesSet p before (j + 2) stop && matchesSet p here (j + 2) stop then matchFrom s p fuel i stop caps
          else return none
      else if c == code '%' && j + 1 < p.size && isDigit (byteAt p (j + 1)) then
        let n := (byteAt p (j + 1)).toNat - 48
        match (if n == 0 then none else (caps[n - 1]?).bind partOf?) with
        | some (start, length) =>
          if repeatsAt s start length i then matchFrom s p fuel (i + length) (j + 2) caps else .ok none
        | none => .error ("invalid capture index %" ++ toString n)
      else single'

/-- The end of a match that starts at a position. -/
def matchAt (s p : ByteArray) (i j : Nat) : Outcome := matchFrom s p (p.size + 2) i j []

end Pattern

end ScriptFlow.Script
