import ScriptFlow.Data.Span
import ScriptFlow.Decimal.Read

/-!
# Models of option records

A record of options is read from a dictionary. Each field accepts the values of its type and what denotes one of them: a text that spells a number, a whole
floating-point number for a count, one of a few words for a truth value, seconds or a duration text for a span. Everything that does not fit is an issue
with a place and a kind; all issues of a record are reported together, in order.
-/

namespace ScriptFlow

/-- Where a value does not fit, and how. -/
abbrev Issue := List String × String

/-- Reads a value, or tells what does not fit. -/
abbrev Reader (α : Type) := Data → Except (List Issue) α

namespace Model

/-- An issue of the value itself. -/
def issue {α : Type} (kind : String) : Except (List Issue) α := .error [([], kind)]

/-- The text of a text or of bytes; `bad` is the issue for bytes that are none. -/
def textOf? (bad : String) : Data → Option (Except (List Issue) String)
  | .str s => some (.ok s)
  | .looseText _ => some (issue bad)
  | .bytes bs => some (match String.fromUTF8? bs with
    | some s => .ok s
    | none => issue bad)
  | _ => none

def text : Reader String := fun d => (textOf? "string_unicode" d).getD (issue "string_type")

/-- Texts that stand for a truth value. -/
def flagWords : List (String × Bool) :=
  [("0", false), ("off", false), ("f", false), ("false", false), ("n", false), ("no", false),
   ("1", true), ("on", true), ("t", true), ("true", true), ("y", true), ("yes", true)]

def flag : Reader Bool := fun d =>
  let ofInt (n : Int) : Except (List Issue) Bool :=
    if n == 0 then .ok false else if n == 1 then .ok true else issue "bool_parsing"
  match d, textOf? "bool_parsing" d with
  | .bool b, _ => .ok b
  | .int n, _ => ofInt n
  | .float x, _ =>
    match Float.exactInt? x with
    | some n => ofInt n
    | none => issue "bool_type"
  | _, some word => do
    let word ← word
    match flagWords.lookup (String.ofList (word.toList.map Char.toLower)) with
    | some b => pure b
    | none => issue "bool_parsing"
  | _, none => issue "bool_type"

/-- A whole number as text: a sign, digits with single underscores between them, perhaps a point and zeros. -/
def intOfText? (s : String) : Option Int :=
  let (negative, ds) := spanSign (Text.trim s.toList)
  let whole := ds.takeWhile (· != '.')
  let fraction := (ds.dropWhile (· != '.')).drop 1
  match Text.dropUnderscores whole with
  | some ds =>
    if ds.isEmpty || !ds.all Char.isDigit || !fraction.all (· == '0') then none
    else some (Binary.signOf negative * (natOfDigits ds : Int))
  | none => none

/-- A whole number. -/
def whole : Reader Int := fun d =>
  match d, textOf? "int_parsing" d with
  | .int n, _ => .ok n
  | .bool b, _ => .ok (if b then 1 else 0)
  | .float x, _ =>
    match Binary.ofFloat x with
    | .finite negative m e =>
      match Binary.toInt? negative m e with
      | some n => .ok n
      | none => issue "int_from_float"
    | _ => issue "finite_number"
  | _, some s => do
    let s ← s
    match intOfText? s with
    | some n => if s.length > 4300 then issue "int_parsing_size" else pure n
    | none => issue "int_parsing"
  | _, none => issue "int_type"

/-- A whole number of at least some size. -/
def wholeFrom (least : Int) : Reader Int := fun d => do
  let n ← whole d
  if n < least then issue "greater_than_equal" else pure n

/-- A floating-point number as text, of ASCII digits only. -/
def floatOfText? (s : String) : Option Float :=
  if s.toList.all fun c => c.toNat < 128 || Text.isBlank c then Text.float? s else none

def number : Reader Float := fun d =>
  match d, textOf? "float_parsing" d with
  | .float x, _ => .ok x
  | .int n, _ =>
    match Float.ofInt? n with
    | some x => .ok x
    | none => issue "float_type"
  | .bool b, _ => .ok (if b then 1.0 else 0.0)
  | _, some s => do
    match floatOfText? (← s) with
    | some x => pure x
    | none => issue "float_parsing"
  | _, none => issue "float_type"

/-- A number that is at least a bound; a missing number is not. -/
def numberFrom (least : Float) : Reader Float := fun d => do
  let x ← number d
  if x >= least then pure x else issue "greater_than_equal"

/-! ### Spans -/

/-- Microseconds of a fraction of seconds, given by its digits. -/
def fractionMicros (ds : List Char) : Nat := natOfDigits ((ds ++ List.replicate 6 '0').take 6)

/-- A number with an optional fraction: whole part, digits behind the point, rest. -/
def spanNumber (cs : List Char) : Option (Nat × List Char × List Char) :=
  let (ds, rest) := spanDigits cs
  if ds.isEmpty then none
  else match rest with
    | '.' :: after =>
      let (fraction, rest) := spanDigits after
      if fraction.isEmpty then none else some (natOfDigits ds, fraction, rest)
    | _ => some (natOfDigits ds, [], rest)

/-- Microseconds of a number of units, each of some seconds. -/
def unitMicros (n : Nat) (fraction : List Char) (seconds : Nat) : Int :=
  ((n * seconds * 1000000 + natOfDigits fraction * seconds * 1000000 / Nat.pow 10 fraction.length : Nat) : Int)

/-- The parts of a duration in designator form; `inTime` says whether the time mark has been passed. -/
def designated : Nat → Bool → Int → List Char → Option Int
  | 0, _, _, _ => none
  | _, _, acc, [] => some acc
  | fuel + 1, inTime, acc, cs =>
    match cs with
    | 'T' :: rest => if inTime || rest.isEmpty then none else designated fuel true acc rest
    | cs =>
      match spanNumber cs with
      | some (n, fraction, unit :: rest) =>
        let seconds? : Option Nat := match inTime, unit with
          | false, 'Y' => some (365 * 86400)
          | false, 'M' => some (30 * 86400)
          | false, 'W' => some (7 * 86400)
          | false, 'D' => some 86400
          | true, 'H' => some 3600
          | true, 'M' => some 60
          | true, 'S' => some 1
          | _, _ => none
        match seconds? with
        | some seconds => designated fuel inTime (acc + unitMicros n fraction seconds) rest
        | none => none
      | _ => none

/-- Hours, minutes and perhaps seconds with a fraction. -/
def clockMicros (cs : List Char) : Option Int :=
  match spanDigits cs with
  | (h, ':' :: rest) =>
    match spanDigits rest with
    | (m, rest) =>
      if h.length != 2 || m.length != 2 || natOfDigits m > 59 then none
      else
        let base : Nat := natOfDigits h * 3600 + natOfDigits m * 60
        match rest with
        | [] => some (base * 1000000 : Nat)
        | ':' :: rest =>
          match spanNumber rest with
          | some (s, fraction, []) =>
            if s > 59 then none else some ((base + s) * 1000000 + fractionMicros fraction : Nat)
          | _ => none
        | _ => none
  | _ => none

/-- Days, perhaps followed by a clock time. -/
def daysMicros (cs : List Char) : Option Int :=
  let (ds, rest) := spanDigits cs
  if ds.isEmpty then none
  else
    let days : Int := (natOfDigits ds : Int) * dayMicros
    let rest := rest.dropWhile (· == ' ')
    let rest := match rest with
      | 'd' :: 'a' :: 'y' :: 's' :: r => r
      | 'd' :: 'a' :: 'y' :: r => r
      | 'd' :: r => r
      | 'D' :: r => r
      | r => r
    let rest := (match rest with
      | ',' :: r => r
      | r => r).dropWhile (· == ' ')
    if rest.isEmpty then some days else (clockMicros rest).map (days + ·)

/-- Microseconds of a duration text. -/
def spanOfText? (s : String) : Option Int :=
  let (negative, cs) := spanSign s.toList
  let us? : Option Int := match cs with
    | 'P' :: rest => if rest.isEmpty then none else designated (rest.length + 1) false 0 rest
    | cs => if cs.contains ':' && !(cs.contains ' ' || cs.contains 'd') then clockMicros cs else daysMicros cs
  us?.map (Binary.signOf negative * ·)

/-- A span in the range of spans. -/
def checkedSpan (us : Int) : Except (List Issue) Int := if Span.isInRange us then .ok us else issue "time_delta_parsing"

/-- A span of time: seconds, or a duration text. -/
def span : Reader Int := fun d =>
  match d, textOf? "time_delta_parsing" d with
  | .span us, _ => .ok us
  | .int n, _ => checkedSpan (n * 1000000)
  | .bool b, _ => .ok (if b then 1000000 else 0)
  | .float x, _ =>
    match Span.micros? x with
    | some us => checkedSpan us
    | none => issue "time_delta_parsing"
  | _, some s => do
    match spanOfText? (← s) with
    | some us => checkedSpan us
    | none => issue "time_delta_parsing"
  | _, none => issue "time_delta_type"

/-! ### Compound values -/

/-- An absent value or one that fits. -/
def optional {α : Type} (r : Reader α) : Reader (Option α)
  | .null => .ok none
  | d => (r d).map some

/-- Issues of a part, with the place of the part. -/
def within {α : Type} (place : List String) (r : Except (List Issue) α) : Except (List Issue) α :=
  r.mapError fun issues => issues.map fun i => (place ++ i.1, i.2)

/-- All results, or all issues. -/
def gather {α : Type} : List (Except (List Issue) α) → Except (List Issue) (List α)
  | [] => .ok []
  | r :: rest =>
    match r, gather rest with
    | .ok a, .ok as => .ok (a :: as)
    | .ok _, .error issues => .error issues
    | .error issues, .ok _ => .error issues
    | .error issues, .error more => .error (issues ++ more)

def listOf {α : Type} (r : Reader α) : Reader (List α)
  | .list xs | .tuple xs => gather (xs.zipIdx.map fun (x, i) => within [toString i] (r x))
  | _ => issue "list_type"

/-- A dictionary with text keys and any values. -/
def namedValues : Reader (List (String × Data))
  | .dict es => gather (es.map fun (k, v) => (within [k.text, "[key]"] (text k)).map fun name => (name, v))
  | _ => issue "dict_type"

/-- Reads the fields of a record one after the other and keeps all issues. -/
abbrev Fields := StateM (List Issue)

/-- A field of a dictionary; an absent one has its default. -/
def field {α : Type} (d : Data) (name : String) (default : α) (r : Reader α) : Fields α :=
  match d.field? name with
  | none => pure default
  | some v =>
    match within [name] (r v) with
    | .ok a => pure a
    | .error issues => do
      modify (· ++ issues)
      pure default

/-- A record of fields. -/
def record {α : Type} (fields : Data → Fields α) : Reader α
  | .dict es =>
    let (a, issues) := (fields (.dict es)).run []
    if issues.isEmpty then .ok a else .error issues
  | _ => issue "model_type"

/-- Order of lists of texts. -/
def placeLess : List String → List String → Bool
  | _, [] => false
  | [], _ :: _ => true
  | a :: as, b :: bs => decide (a < b) || (a == b && placeLess as bs)

/-- Order of issues: by place and then by kind. -/
def issueBefore (a b : Issue) : Bool := placeLess a.1 b.1 || (a.1 == b.1 && decide (a.2 < b.2))

/-- Reads a record; what does not fit is one error. -/
def read {α : Type} (r : Reader α) (d : Data) : Except Fault α :=
  (r d).mapError fun issues => .invalid (issues.mergeSort fun a b => !issueBefore b a)

/-- The error of changing a field of a record that was read. -/
def frozen (name : String) : Fault := .invalid [([name], "frozen_instance")]

end Model

end ScriptFlow
