import ScriptFlow.Data.Text

/-!
# Strict decoding

A reader of a result may ask for a type. `Data.decodeAs` accepts exactly the values of that type: a truth value is no number, a
tuple no list, a number no text. Two conversions exist: a whole number is accepted where a floating-point number is
asked for, and a text where bytes are asked for.
-/

namespace ScriptFlow

/-- Types that a result can be asked for. -/
inductive ResultType where
  | any
  | int
  | float
  | bool
  | str
  | bytes
  /-- any list, or any dictionary -/
  | anyList
  | anyDict
  | listOf (item : ResultType)
  | dictOf (key value : ResultType)
  | optional (inner : ResultType)
  | either (left right : ResultType)
  deriving DecidableEq, Repr, Inhabited

namespace ResultType

/-- The bare name of a type, where it stands inside another. -/
def inner : ResultType → String
  | any => "typing.Any"
  | int => "int"
  | float => "float"
  | bool => "bool"
  | str => "str"
  | bytes => "bytes"
  | anyList => "list"
  | anyDict => "dict"
  | listOf t => "typing.List[" ++ t.inner ++ "]"
  | dictOf k v => "typing.Dict[" ++ k.inner ++ ", " ++ v.inner ++ "]"
  | optional t => "typing.Optional[" ++ t.inner ++ "]"
  | either a b => "typing.Union[" ++ a.inner ++ ", " ++ b.inner ++ "]"

/-- The name of a type in an error. -/
def name : ResultType → String
  | int => "<class 'int'>"
  | float => "<class 'float'>"
  | bool => "<class 'bool'>"
  | str => "<class 'str'>"
  | bytes => "bytes"
  | anyList => "<class 'list'>"
  | anyDict => "<class 'dict'>"
  | t => t.inner

end ResultType

/-- The floating-point number nearest to a whole number, if it is in range. -/
def Float.ofInt? (n : Int) : Option Float :=
  let x := withMagnitude n.natAbs
  if x.isFinite then some (if n < 0 then -x else x) else none
where
  /-- rounds a natural number to fifty-three bits, a half to even -/
  withMagnitude (n : Nat) : Float :=
    let extra := n.log2 - 52
    Float.ofNat (roundHalfEven n (Nat.pow 2 extra)) * powerOfTwo extra
  /-- a power of two, or infinity when it is out of range -/
  powerOfTwo (k : Nat) : Float := if k < 1024 then Float.ofBits (UInt64.ofNat ((k + 1023) * Nat.pow 2 52)) else 1.0 / 0.0

namespace Data

/-- The value as the type has it, if it is one of its values. -/
def accept? : ResultType → Data → Option Data
  | .any, d => some d
  | .int, int n => some (int n)
  | .float, float x => some (float x)
  | .float, int n => (Float.ofInt? n).map float
  | .bool, bool b => some (bool b)
  | .str, str s => some (str s)
  | .str, looseText cs => some (looseText cs)
  | .bytes, bytes bs => some (bytes bs)
  | .anyList, list xs => some (list xs)
  | .anyDict, dict es => some (dict es)
  | .listOf t, list xs => (xs.mapM (accept? t)).map list
  | .dictOf k v, dict es => (es.mapM fun (e : Data × Data) => do pure ((← accept? k e.1), (← accept? v e.2))).map dict
  | .optional _, null => some null
  | .optional t, d => accept? t d
  | .either a b, d =>
    match accept? a d with
    | some d => some d
    | none => accept? b d
  | _, _ => none

/-- Decodes a value into a type; without a type the value is returned as it is. -/
def decodeAs (d : Data) : Option ResultType → Except Fault Data
  | none => .ok d
  | some .bytes =>
    match d with
    | bytes bs => .ok (bytes bs)
    | str s => .ok (bytes s.toUTF8)
    | looseText _ => .error (.error .unicodeEncode "surrogates not allowed")
    | d => .error (.error .decode ("cannot decode " ++ d.typeName ++ " as bytes"))
  | some t =>
    match accept? t d with
    | some d => .ok d
    | none => .error (.error .decode ("cannot decode " ++ d.typeName ++ " as " ++ t.name))

end Data

end ScriptFlow
