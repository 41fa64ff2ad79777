import ScriptFlow.Yaml.Token

/-!
# Tags of nodes

A tag says what a node stands for. A plain scalar without a tag gets one from its spelling (`Tag.ofPlain`): words for truth values and for nothing, whole numbers
in several bases and in sixties, floating-point numbers, dates. All other scalars without a tag are texts.
-/

namespace ScriptFlow

namespace Yaml

inductive Tag where
  | null
  | bool
  | int
  | float
  | timestamp
  | binary
  | str
  | seq
  | map
  | omap
  | pairs
  | set
  /-- a key whose mappings are taken over -/
  | merge
  /-- a key that stands for the mapping -/
  | value
  | unknown
  deriving DecidableEq, Repr, Inhabited

/-- The front of the names of the common tags. -/
def commonTags : String := "tag:yaml.org,2002:"

namespace Tag

/-- The tag with a name. -/
def ofName (name : String) : Tag :=
  let known := [("null", null), ("bool", bool), ("int", int), ("float", float), ("timestamp", timestamp), ("binary", binary), ("str", str),
    ("seq", seq), ("map", map), ("omap", omap), ("pairs", pairs), ("set", set), ("merge", merge), ("value", value)]
  ((known.map fun k => (commonTags ++ k.1, k.2)).lookup name).getD unknown

/-! ### Spellings -/

def isOctal (c : Char) : Bool := '0' ≤ c && c ≤ '7'
def isHex (c : Char) : Bool := c.isDigit || ('a' ≤ c && c ≤ 'f') || ('A' ≤ c && c ≤ 'F')
def isFiller (c : Char) : Bool := c.isDigit || c == '_'

/-- Digits and fillers that begin with a digit. -/
def isDecimal : List Char → Bool
  | c :: rest => c.isDigit && rest.all isFiller
  | [] => false

def dropSign : List Char → List Char
  | '-' :: rest | '+' :: rest => rest
  | cs => cs

/-- A part in sixties. -/
def isSixtieth : List Char → Bool
  | [c] => c.isDigit
  | [c, d] => '0' ≤ c && c ≤ '5' && d.isDigit
  | _ => false

/-- The parts between colons. -/
def colonParts : List Char → List (List Char)
  | [] => [[]]
  | c :: rest =>
    match colonParts rest with
    | part :: parts => if c == ':' then [] :: part :: parts else (c :: part) :: parts
    | [] => [[c]]

def isWhole (cs : List Char) : Bool :=
  match dropSign cs with
  | ['0'] => true
  | '0' :: 'b' :: rest => !rest.isEmpty && rest.all fun c => c == '0' || c == '1' || c == '_'
  | '0' :: 'x' :: rest => !rest.isEmpty && rest.all fun c => isHex c || c == '_'
  | '0' :: rest => rest.all fun c => isOctal c || c == '_'
  | rest =>
    match colonParts rest with
    | whole :: parts => isDecimal whole && parts.all isSixtieth
    | [] => false

/-- A signed exponent, or nothing. -/
def isExponent : List Char → Bool
  | [] => true
  | e :: sign :: rest => (e == 'e' || e == 'E') && (sign == '-' || sign == '+') && !rest.isEmpty && rest.all Char.isDigit
  | _ => false

/-- Fillers and an exponent. -/
def isFraction (cs : List Char) : Bool := isExponent (cs.dropWhile isFiller)

def infinities : List String := [".inf", ".Inf", ".INF"]
def notANumbers : List String := [".nan", ".NaN", ".NAN"]

def isFloat (cs : List Char) : Bool :=
  let text := String.ofList cs
  if notANumbers.contains text then true
  else if infinities.contains (String.ofList (dropSign cs)) then true
  else
    match cs with
    | '.' :: rest => isDecimal (rest.takeWhile isFiller) && isFraction rest
    | _ =>
      let cs := dropSign cs
      let front := cs.takeWhile (· != '.')
      match cs.dropWhile (· != '.') with
      | '.' :: rest =>
        (isDecimal front && isFraction rest) ||
          (match colonParts front with
           | whole :: parts => !parts.isEmpty && isDecimal whole && parts.all isSixtieth && rest.all isFiller
           | [] => false)
      | _ => false

def truthWords : List (String × Bool) := [("yes", true), ("no", false), ("true", true), ("false", false), ("on", true), ("off", false)]

/-- The three ways to write a word: small, with a capital, in capitals. -/
def spellings (word : String) : List String :=
  [word, String.ofList (match word.toList with
    | c :: rest => c.toUpper :: rest
    | [] => []), String.ofList (word.toList.map Char.toUpper)]

def isTruth (s : String) : Bool := truthWords.any fun w => (spellings w.1).contains s

def isNull (s : String) : Bool := s == "" || s == "~" || (spellings "null").contains s

end Tag

/-! ### Dates -/

/-- A date with an optional time of day: hour, minute, second, microseconds, and the distance from universal time in minutes if it is given. -/
structure Timestamp where
  year : Nat
  month : Nat
  day : Nat
  time : Option (Nat × Nat × Nat × Nat) := none
  zone : Option Int := none
  deriving DecidableEq, Repr

namespace Timestamp

def natOf (cs : List Char) : Nat := cs.foldl (fun n c => 10 * n + (c.toNat - 48)) 0

/-- Between `least` and `most` digits at the front. -/
def digits (least most : Nat) (cs : List Char) : Option (Nat × List Char) :=
  let ds := (cs.take most).takeWhile Char.isDigit
  if ds.length < least then none else some (natOf ds, cs.drop ds.length)

/-- Passes a character. -/
def mark (c : Char) : List Char → Option (List Char)
  | x :: rest => if x == c then some rest else none
  | [] => none

/-- The zone at the end: none, universal time, or a distance. -/
def zone? (cs : List Char) : Option (Option Int) :=
  match cs.dropWhile fun c => c == ' ' || c == '\t' with
  | [] => if cs.isEmpty then some none else none
  | ['Z'] => some (some 0)
  | sign :: rest =>
    if sign != '-' && sign != '+' then none
    else do
      let (hours, rest) ← digits 1 2 rest
      let minutes ← if rest.isEmpty then some 0 else do
        let (m, rest) ← digits 2 2 (← mark ':' rest)
        if rest.isEmpty then some m else none
      let n : Int := hours * 60 + minutes
      some (some (if sign == '-' then -n else n))

/-- Reads a date or a date with a time. -/
def read? (cs : List Char) : Option Timestamp := do
  let (year, rest) ← digits 4 4 cs
  let (month, rest) ← digits 1 2 (← mark '-' rest)
  let (day, rest) ← digits 1 2 (← mark '-' rest)
  match rest with
  | [] => if cs.length == 10 then some { year := year, month := month, day := day } else none
  | c :: after => do
    let rest ← if c == 'T' || c == 't' then some after
      else if c == ' ' || c == '\t' then some (after.dropWhile fun c => c == ' ' || c == '\t')
      else none
    let (hour, rest) ← digits 1 2 rest
    let (minute, rest) ← digits 2 2 (← mark ':' rest)
    let (second, rest) ← digits 2 2 (← mark ':' rest)
    let (fraction, rest) := match rest with
      | '.' :: more => (more.takeWhile Char.isDigit, more.dropWhile Char.isDigit)
      | rest => ([], rest)
    let zone ← zone? rest
    let micros := natOf ((fraction ++ List.replicate 6 '0').take 6)
    some { year := year, month := month, day := day, time := some (hour, minute, second, micros), zone := zone }

end Timestamp

/-- The tag that the spelling of a plain scalar gives. -/
def Tag.ofPlain (s : String) : Tag :=
  let cs := s.toList
  if Tag.isNull s then .null
  else if Tag.isTruth s then .bool
  else if Tag.isFloat cs then .float
  else if Tag.isWhole cs then .int
  else if s == "<<" then .merge
  else if (Timestamp.read? cs).isSome then .timestamp
  else if s == "=" then .value
  else .str

example : ["yes", "Off", "~", "", "0x1F", "017", "1:30", "1e3", "1.5e+3", "-.inf", ".5", "2020-01-01", "2020-1-1", "<<", "nO"].map Tag.ofPlain =
    [.bool, .bool, .null, .null, .int, .int, .int, .str, .float, .float, .float, .timestamp, .str, .merge, .str] := by decide +kernel

end Yaml

end ScriptFlow
