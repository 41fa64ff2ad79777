import ScriptFlow.Data.Notation
import ScriptFlow.Json.Reader
import ScriptFlow.Json.Writer

/-!
# Wire payloads

What the durable engine sends and keeps are payloads: bytes with the name of their encoding. Nothing has an empty payload of its own kind, bytes travel as they
are, all else travels as compact JSON with its keys in order. Inside JSON, bytes become lists of numbers and instants their text.
-/

namespace ScriptFlow

structure WirePayload where
  encoding : String
  contents : ByteArray
  deriving Inhabited

namespace WirePayload

mutual

/-- The value whose JSON stands for a value. -/
def wireForm : Data → Data
  | .bytes bs => .list (bs.toList.map fun b => .int b.toNat)
  | .instant us => .str (Instant.text us)
  | .execution id runId => .object [("id", .str id), ("run_id", .str runId)]
  | .foreign type text => if type == "datetime" then .str text else .foreign type text
  | .list xs => .list (wireForms xs)
  | .tuple xs => .list (wireForms xs)
  | .dict es => .dict (wireEntries es)
  | d => d

def wireForms : List Data → List Data
  | [] => []
  | d :: ds => wireForm d :: wireForms ds

def wireEntries : List (Data × Data) → List (Data × Data)
  | [] => []
  | (k, v) :: es => (k, wireForm v) :: wireEntries es

end

def encode (d : Data) : Except Fault WirePayload :=
  match d with
  | .null => .ok { encoding := "binary/null", contents := ByteArray.empty }
  | .bytes bs => .ok { encoding := "binary/plain", contents := bs }
  | d => do return { encoding := "json/plain", contents := (← Json.write compactSorted (wireForm d)).toUTF8 }

/-- All values encoded, or the failure of the first that cannot be. -/
def encodeAll (ds : List Data) : Except Fault (List WirePayload) := ds.mapM encode

def decode (p : WirePayload) : Except Fault Data :=
  match p.encoding with
  | "binary/null" => .ok .null
  | "binary/plain" => .ok (.bytes p.contents)
  | _ =>
    match String.fromUTF8? p.contents with
    | some s => (Json.read s).mapError (·.fault s)
    | none => .error (.error .unicodeDecode "invalid UTF-8")

def decodeAll (ps : List WirePayload) : Except Fault (List Data) := ps.mapM decode

/-- A value as it arrives at the other side of the wire. -/
def carry (d : Data) : Except Fault Data := do decode (← encode d)

/-- The bytes as characters with their numbers. -/
def latinText (bs : ByteArray) : String := String.ofList (bs.toList.map fun b => Char.ofNat b.toNat)

def toData (p : WirePayload) : Data := .object
  [("metadata", .object [("encoding", .str p.encoding)]), ("data", .str (latinText p.contents))]

end WirePayload

/-- Who converts payloads, as log lines name them. -/
inductive Converting where
  | client
  | activity (type id workflowId : String)

namespace Converting

def shown : Converting → String
  | client => "client"
  | activity type id workflowId => "activity " ++ type ++ " " ++ id ++ " of " ++ workflowId

/-- The log lines of a trip there and back. -/
def lines (who : Converting) (count : Nat) : List String :=
  ["Encoded", "Decoded"].map fun verb => verb ++ " " ++ toString count ++ " payload(s) for " ++ who.shown

end Converting

end ScriptFlow
