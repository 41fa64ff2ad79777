import ScriptFlow.Json.Writer

/-!
# Payloads

A payload is data as it is after a trip through JSON text. `Data.canonical` says directly what such a trip
does: tuples become lists, keys become their JSON texts, and when two keys get the same text the last value
stands at the place of the first key. `Data.toPayload` adds the rule for byte strings, which travel unchanged
when they are the whole value, and names the type of a value that cannot travel.

`Data.IsJson` describes the values that a trip does not change.
-/

namespace ScriptFlow

namespace Data

mutual

/-- The value after a trip through JSON text, or the first failure on the way. -/
def canonical : Data → Except Fault Data
  | null => .ok null
  | bool b => .ok (bool b)
  | int n => (Json.intText n).map fun _ => int n
  | float x => .ok (float x)
  | str s => .ok (str s)
  | looseText cs => .ok (looseText cs)
  | list xs => (canonicalItems xs).map list
  | tuple xs => (canonicalItems xs).map list
  | dict es => (canonicalEntries es).map fun es => dict (es.foldl (fun acc e => insertKey acc e.1 e.2) [])
  | d => .error (Json.notSerializable d)

def canonicalItems : List Data → Except Fault (List Data)
  | [] => .ok []
  | x :: xs => do
    let first ← canonical x
    let others ← canonicalItems xs
    pure (first :: others)

/-- Entries in order with their keys as texts; equal texts are still apart. -/
def canonicalEntries : List (Data × Data) → Except Fault (List (Data × Data))
  | [] => .ok []
  | (k, v) :: es => do
    let name ← match k with
      | looseText cs => pure (looseText cs)
      | k => (Json.keyText k).map str
    let value ← canonical v
    let others ← canonicalEntries es
    pure ((name, value) :: others)

end

/-- A value as it arrives at the other side of a call. -/
def toPayload (d : Data) : Except Fault Data :=
  match d with
  | bytes bs => .ok (bytes bs)
  | d =>
    match canonical d with
    | .ok v => .ok v
    | .error e => .error (.error .codec ("cannot encode " ++ d.typeName ++ ": " ++ e.message))

/-- All values as they arrive, or the failure of the first that cannot travel. -/
def toPayloads : List Data → Except Fault (List Data)
  | [] => .ok []
  | x :: xs => do
    let first ← toPayload x
    let others ← toPayloads xs
    pure (first :: others)

end Data

end ScriptFlow
