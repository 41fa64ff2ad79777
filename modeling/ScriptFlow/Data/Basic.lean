import ScriptFlow.Data.Fault
import ScriptFlow.Decimal.Text

/-!
# Plain data

`Data` is what orchestration code, plugins and activities hand around: JSON-like values, byte strings,
tuples and dictionaries with arbitrary keys, and a few values that no codec takes. `Fault` is an error as a
value: it can be raised, caught, kept in a list and handed to a script.

A dictionary keeps its entries in insertion order. Two keys are the same key when they are equal in the sense of
`Data.same`, where a truth value equals the number it stands for; writing to a present key keeps
the key and replaces the value (`Data.insertKey`).
-/

namespace ScriptFlow

mutual

/-- Values outside of scripts. -/
inductive Data where
  | null
  | bool (b : Bool)
  | int (n : Int)
  | float (x : Float)
  | str (s : String)
  /-- a text with code points that are no characters: halves of surrogate pairs -/
  | looseText (codePoints : List Nat)
  | bytes (bs : ByteArray)
  | list (items : List Data)
  | tuple (items : List Data)
  | dict (entries : List (Data × Data))
  /-- a span of time in microseconds -/
  | span (us : Int)
  /-- an instant, in microseconds after the start of 2020 -/
  | instant (us : Int)
  /-- identity of a started workflow run -/
  | execution (id runId : String)
  | fault (e : Fault)
  /-- equal to everything -/
  | anything
  /-- a value of a type that no codec knows: its type and its text -/
  | foreign (type text : String)

/-- Errors as values. -/
inductive Fault where
  | error (kind : FaultKind) (message : String)
  /-- a look-up that found nothing -/
  | missingKey (key : Data)
  /-- an error with a reason code, visible to scripts -/
  | custom (reason : String) (details : List Data)
  /-- values that do not fit a model: where, and in which way -/
  | invalid (issues : List (List String × String))
  /-- failure reported by application code to the durable engine -/
  | application (message : String) (type : Option String) (details : List Data) (nonRetryable : Bool)
  /-- cancellation reported by the durable engine -/
  | engineCancelled (message : String)
  /-- cancellation of the running task itself -/
  | taskCancelled (message : String)
  | activityFailed (message : String) (cause : Option Fault)
  | childFailed (message : String) (cause : Option Fault)

end

deriving instance Inhabited for Data, Fault
deriving instance BEq for Data, Fault

namespace Fault

/-- The name of the kind of an error. -/
def name : Fault → String
  | error kind _ => kind.name
  | missingKey _ => "KeyError"
  | custom .. => "CustomError"
  | invalid _ => "ValidationError"
  | application .. => "ApplicationError"
  | engineCancelled _ | taskCancelled _ => "CancelledError"
  | activityFailed .. => "ActivityError"
  | childFailed .. => "ChildWorkflowError"

/-- Errors of this library, which the durable engine reports as failures. -/
def isLibrary : Fault → Bool
  | error kind _ => kind.isLibrary
  | custom .. => true
  | _ => false

/-- The abstraction's own cancellation error. -/
def isCanceled : Fault → Bool
  | error .canceled _ => true
  | _ => false

/-- Cancellations of a task and key presses pass through handlers that catch ordinary errors. -/
def isOrdinary : Fault → Bool
  | taskCancelled _ => false
  | error .interrupt _ => false
  | _ => true

/-- Failures the durable engine understands. -/
def isEngineFailure : Fault → Bool
  | application .. | engineCancelled _ | activityFailed .. | childFailed .. => true
  | error .workflowAlreadyStarted _ => true
  | _ => false

end Fault

namespace Data

/-- A value that nothing can encode. -/
def unencodable : Data := .foreign "Opaque" "<fixtures.Opaque object>"

/-- The name of the type of a value. -/
def typeName : Data → String
  | null => "NoneType"
  | bool _ => "bool"
  | int _ => "int"
  | float _ => "float"
  | str _ | looseText _ => "str"
  | bytes _ => "bytes"
  | list _ => "list"
  | tuple _ => "tuple"
  | dict _ => "dict"
  | span _ => "timedelta"
  | instant _ => "datetime"
  | execution .. => "WorkflowExecution"
  | fault e => e.name
  | anything => "_ANY"
  | foreign type _ => type

/-- The exact number a value stands for: truth values count as zero and one. -/
inductive Numeric where
  | nan
  | infinite (negative : Bool)
  /-- counted in units of the smallest positive floating-point number -/
  | finite (units : Int)
  deriving DecidableEq

/-- A whole number in the units of `Numeric`. -/
def Numeric.ofInt (n : Int) : Numeric := .finite (n * Nat.pow 2 1074)

def Numeric.ofFloat (x : Float) : Numeric :=
  match Binary.ofFloat x with
  | .nan => .nan
  | .infinite s => .infinite s
  | .finite s m e => .finite (Binary.scaled s m e)

/-- The number a value stands for, if it is one. -/
def numeric? : Data → Option Numeric
  | bool b => some (.ofInt (if b then 1 else 0))
  | int n => some (.ofInt n)
  | float x => some (.ofFloat x)
  | _ => none

/-- Numeric equality; a missing number equals nothing. -/
def Numeric.same : Numeric → Numeric → Bool
  | .nan, _ | _, .nan => false
  | a, b => a == b

/-- Numeric order; a missing number is below nothing. -/
def Numeric.less : Numeric → Numeric → Bool
  | .nan, _ | _, .nan => false
  | .infinite true, .infinite true => false
  | .infinite true, _ => true
  | _, .infinite true => false
  | .infinite false, _ => false
  | .finite _, .infinite false => true
  | .finite a, .finite b => decide (a < b)

/-- Equality of values that hold no others. -/
def sameLeaf : Data → Data → Bool
  | null, null => true
  | str s, str t => s == t
  | looseText s, looseText t => s == t
  | bytes s, bytes t => s == t
  | span a, span b => a == b
  | instant a, instant b => a == b
  | execution a b, execution c d => a == c && b == d
  | a, b =>
    match a.numeric?, b.numeric? with
    | some m, some n => m.same n
    | _, _ => false

mutual

/-- Equality of values: numbers by value whatever their type, lists with lists, tuples with tuples, dictionaries
without regard to order. -/
def same : Data → Data → Bool
  | anything, _ => true
  | _, anything => true
  | list xs, list ys => sameItems xs ys
  | tuple xs, tuple ys => sameItems xs ys
  | dict xs, dict ys => decide (xs.length = ys.length) && sameEntries xs ys
  | a, b => sameLeaf a b

def sameItems : List Data → List Data → Bool
  | [], [] => true
  | x :: xs, y :: ys => same x y && sameItems xs ys
  | _, _ => false

/-- Every entry of the first list has an equal one in the second. -/
def sameEntries : List (Data × Data) → List (Data × Data) → Bool
  | [], _ => true
  | (k, v) :: rest, ys =>
    (match ys.find? fun e => same k e.1 with
      | some e => same v e.2
      | none => false) && sameEntries rest ys

end

mutual

/-- Can a value be a key? -/
def isHashable : Data → Bool
  | .list _ | .dict _ | .anything => false
  | .tuple xs => areHashable xs
  | _ => true

def areHashable : List Data → Bool
  | [] => true
  | d :: ds => isHashable d && areHashable ds

end

/-- The value kept under a key. -/
def lookup? (entries : List (Data × Data)) (key : Data) : Option Data :=
  (entries.find? fun e => same e.1 key).map Prod.snd

/-- Writes a value under a key: a present key stays where and as it is. -/
def insertKey : List (Data × Data) → Data → Data → List (Data × Data)
  | [], key, value => [(key, value)]
  | (k, v) :: rest, key, value =>
    if same k key then (k, value) :: rest else (k, v) :: insertKey rest key value

/-- The dictionary with these entries, later ones winning. -/
def ofEntries (entries : List (Data × Data)) : Data :=
  dict (entries.foldl (fun acc e => insertKey acc e.1 e.2) [])

/-- A dictionary with text keys. -/
def object (fields : List (String × Data)) : Data := dict (fields.map fun f => (str f.1, f.2))

/-- The value of a field of a dictionary with text keys. -/
def field? (name : String) : Data → Option Data
  | dict entries => lookup? entries (str name)
  | _ => none

/-- The text, if the value is one. -/
def text? : Data → Option String
  | str s => some s
  | _ => none

/-- Empty containers, zero and the absent value count as false. -/
def truthy : Data → Bool
  | null => false
  | bool b => b
  | int n => n != 0
  | float x => !(x == 0.0)
  | str s => s != ""
  | looseText cs => !cs.isEmpty
  | bytes bs => bs.size != 0
  | list xs | tuple xs => !xs.isEmpty
  | dict es => !es.isEmpty
  | span us => us != 0
  | _ => true

/-- The items of a list or a tuple. -/
def items? : Data → Option (List Data)
  | list xs | tuple xs => some xs
  | _ => none

end Data

end ScriptFlow
