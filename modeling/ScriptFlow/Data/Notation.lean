import ScriptFlow.Data.Decode
import ScriptFlow.Decimal.Read

/-!
# Notation of data in JSON

JSON has no byte strings, tuples, spans, whole numbers beyond 53 bits or keys that are no texts. The notation writes these as
objects with one tag: `$int`, `$float`, `$bytes`, `$tuple`, `$dict`, `$us`, `$time`, `$error`, `$object`, and on reading also `$opaque`,
`$any`, `$repeat` and `$nest`. Every floating-point number is tagged, so a plain number is always whole.

* `Data.ofNotation` reads it, `Data.toNotation` writes it;
* `Fault.report` is the notation of an error.
-/

namespace ScriptFlow

namespace Data

/-- Two hexadecimal digits for every byte. -/
def hexText (bs : ByteArray) : String := String.ofList (bs.toList.flatMap fun b => Text.hex 2 b.toNat)

/-- The value of a hexadecimal digit, zero for other characters. -/
def hexValue (c : Char) : Nat :=
  if c.isDigit then c.toNat - 48 else if 'a' ≤ c && c ≤ 'f' then c.toNat - 87 else if 'A' ≤ c && c ≤ 'F' then c.toNat - 55 else 0

/-- The bytes that pairs of hexadecimal digits denote. -/
def bytesOfHex : List Char → List UInt8
  | a :: b :: rest => UInt8.ofNat (16 * hexValue a + hexValue b) :: bytesOfHex rest
  | _ => []

/-- An absent value inside `n` lists. -/
def nested : Nat → Data
  | 0 => null
  | n + 1 => list [nested n]

/-- A number from its text. -/
def floatOfText (s : String) : Data := float ((Text.float? s).getD (0.0 / 0.0))

/-- The value of a tagged object; `inner` is what stands under the tag, `decoded` the same read as notation. -/
def ofTag (tag : String) (inner decoded : Data) : Option Data :=
  match tag, inner, decoded with
  | "$int", str s, _ => (Text.int? s).map int
  | "$float", str s, _ => some (floatOfText s)
  | "$bytes", str s, _ => some (bytes ⟨(bytesOfHex s.toList).toArray⟩)
  | "$tuple", _, list xs => some (tuple xs)
  | "$dict", _, list es =>
    some (ofEntries (es.filterMap fun e => match e with
      | list [k, v] => some (k, v)
      | _ => none))
  | "$us", int n, _ => some (span n)
  | "$opaque", _, _ => some unencodable
  | "$any", _, _ => some anything
  | "$repeat", list [str s, int n], _ => some (str (String.join (List.replicate n.toNat s)))
  | "$nest", int n, _ => some (nested n.toNat)
  | _, _, _ => none

mutual

/-- The value that a notation denotes. -/
def ofNotation : Data → Data
  | list xs => list (ofNotations xs)
  | dict [(str tag, inner)] => (ofTag tag inner (ofNotation inner)).getD (dict [(str tag, ofNotation inner)])
  | dict es => dict (ofNotationEntries es)
  | d => d

def ofNotations : List Data → List Data
  | [] => []
  | x :: xs => ofNotation x :: ofNotations xs

def ofNotationEntries : List (Data × Data) → List (Data × Data)
  | [] => []
  | (k, v) :: es => (k, ofNotation v) :: ofNotationEntries es

end

/-- The largest whole number written plainly. -/
def plainLimit : Nat := Nat.pow 2 53 - 1

/-- Can a dictionary with these keys be written as a plain object? -/
def hasPlainKeys (entries : List (Data × Data)) : Bool :=
  entries.all fun e => match e.1 with
    | str s => !s.startsWith "$"
    | _ => false

/-- An object with one tag. -/
def tagged (tag : String) (d : Data) : Data := dict [(str tag, d)]

end Data

mutual

/-- The notation of a value. -/
def Data.toNotation : Data → Data
  | .int n => if n.natAbs ≤ Data.plainLimit then .int n else Data.tagged "$int" (.str (toString n))
  | .float x => Data.tagged "$float" (.str (Float.shortestText dataNumber x))
  | .bytes bs => Data.tagged "$bytes" (.str (Data.hexText bs))
  | .tuple xs => Data.tagged "$tuple" (.list (Data.toNotations xs))
  | .list xs => .list (Data.toNotations xs)
  | .dict es =>
    if Data.hasPlainKeys es then .dict (Data.toNotationValues es)
    else Data.tagged "$dict" (.list (Data.toNotationEntries es))
  | .span us => Data.tagged "$us" (.int us)
  | .instant us => Data.tagged "$time" (.str (Instant.text us))
  | .fault e => Data.tagged "$error" (Fault.report e)
  | .execution id runId => .dict [(.str "id", .str id), (.str "run_id", .str runId)]
  | .anything => Data.tagged "$object" (.str (Data.typeName .anything))
  | .foreign type text =>
    if type == "datetime" then Data.tagged "$time" (.str text) else Data.tagged "$object" (.str type)
  | d => d

def Data.toNotations : List Data → List Data
  | [] => []
  | x :: xs => Data.toNotation x :: Data.toNotations xs

def Data.toNotationValues : List (Data × Data) → List (Data × Data)
  | [] => []
  | (k, v) :: es => (k, Data.toNotation v) :: Data.toNotationValues es

/-- Entries as pairs, keys and values in notation. -/
def Data.toNotationEntries : List (Data × Data) → List Data
  | [] => []
  | (k, v) :: es => .list [Data.toNotation k, Data.toNotation v] :: Data.toNotationEntries es

/-- The notation of an error: its name, its text where the wording is documented, and what else it carries. -/
def Fault.report : Fault → Data
  | .custom reason details =>
    .dict [(.str "error", .str "CustomError"), (.str "message", .str (Fault.custom reason details).message),
      (.str "reason", .str reason), (.str "details", .list (Data.toNotations details))]
  | .application message type details nonRetryable =>
    .dict [(.str "error", .str "ApplicationError"),
      (.str "message", .str (Fault.application message type details nonRetryable).message),
      (.str "type", match type with | some t => .str t | none => .null),
      (.str "details", .list (Data.toNotations details)), (.str "non_retryable", .bool nonRetryable)]
  | .invalid issues =>
    .dict [(.str "error", .str "ValidationError"),
      (.str "errors", .list (issues.map fun i => .list [.list (i.1.map Data.str), .str i.2]))]
  | e =>
    match e.wording with
    | some message => .dict [(.str "error", .str e.name), (.str "message", .str message)]
    | none => .dict [(.str "error", .str e.name)]

end

namespace ResultType

/-- The types a program can ask for, by their short names. -/
def ofName? : String → Option ResultType
  | "any" => some .any
  | "int" => some .int
  | "str" => some .str
  | "float" => some .float
  | "bool" => some .bool
  | "bytes" => some .bytes
  | "list" => some .anyList
  | "dict" => some .anyDict
  | "list[int]" => some (.listOf .int)
  | "list[str]" => some (.listOf .str)
  | "dict[str,int]" => some (.dictOf .str .int)
  | "optional[int]" => some (.optional .int)
  | "optional[str]" => some (.optional .str)
  | "int|str" => some (.either .int .str)
  | "list[list[int]]" => some (.listOf (.listOf .int))
  | _ => none

end ResultType

namespace Fault

/-- Reads the notation of an error: a kind and what that kind carries. -/
def ofNotation (fuel : Nat) (d : Data) : Option Fault :=
  match fuel with
  | 0 => none
  | fuel + 1 =>
    let text (name : String) : String := ((d.field? name).bind Data.text?).getD ""
    let details : List Data := match d.field? "details" with
      | some (.list xs) => Data.ofNotations xs
      | _ => []
    let cause : Option Fault := (d.field? "cause").bind (ofNotation fuel)
    match (d.field? "kind").bind Data.text? with
    | none => none
    | some "CustomError" => some (.custom (text "reason") details)
    | some "ApplicationError" =>
      some (.application (text "message") ((d.field? "type").bind Data.text?) details false)
    | some "EngineCancelled" => some (.engineCancelled (text "message"))
    | some "TaskCancelled" => some (.taskCancelled (text "message"))
    | some "ActivityError" => some (.activityFailed (text "message") cause)
    | some "ChildWorkflowError" => some (.childFailed (text "message") cause)
    | some "KeyError" => some (.missingKey (.str (text "message")))
    | some kind => (FaultKind.ofName? kind).map fun k => .error k (text "message")

/-- Reads the notation of an error; causes may nest as deep as any input has them. -/
def ofReport? (d : Data) : Option Fault := ofNotation 64 d

end Fault

end ScriptFlow
