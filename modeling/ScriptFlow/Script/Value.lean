import ScriptFlow.Data.Basic
import ScriptFlow.Decimal.Read

/-!
# Values of scripts

A script value is nothing, a truth value, a 64-bit whole number, a floating-point number, a string of bytes, a reference to
a table or a function, or an object of the host that the script cannot look into. Equality without metamethods compares whole
and floating-point numbers by their exact value.

Table keys have one form for each number (`Value.keyForm`): a floating-point key with a whole value is that whole number.
-/

namespace ScriptFlow.Script

/-- Address of a table. -/
abbrev TableId := Nat
/-- Address of a function. -/
abbrev FunctionId := Nat
/-- Address of a variable. -/
abbrev CellId := Nat

/-- What a script computes with. -/
inductive Value where
  | nil
  | bool (b : Bool)
  | int (n : Int64)
  | float (x : Float)
  | str (s : ByteArray)
  | table (t : TableId)
  | function (f : FunctionId)
  /-- an object of the host; the number is its identity -/
  | object (id : Nat) (d : Data)
  deriving Inhabited

namespace Value

/-- A string value from a text. -/
def ofText (s : String) : Value := str s.toUTF8

/-- Everything but `nil` and `false` counts as true. -/
def truthy : Value → Bool
  | nil => false
  | bool b => b
  | _ => true

/-- The name of the type of a value. -/
def typeName : Value → String
  | nil => "nil"
  | bool _ => "boolean"
  | int _ | float _ => "number"
  | str _ => "string"
  | table _ => "table"
  | function _ => "function"
  | object .. => "userdata"

/-- The 64-bit whole number that equals a floating-point number, if there is one. -/
def wholeOf? (x : Float) : Option Int64 :=
  match Float.exactInt? x with
  | some n => if -Nat.pow 2 63 ≤ n && n < Nat.pow 2 63 then some (Int64.ofInt n) else none
  | none => none

/-- Equality without metamethods. -/
def rawEq : Value → Value → Bool
  | nil, nil => true
  | bool a, bool b => a == b
  | int a, int b => a == b
  | float a, float b => a == b
  | int a, float b => wholeOf? b == some a
  | float a, int b => wholeOf? a == some b
  | str a, str b => a == b
  | table a, table b => a == b
  | function a, function b => a == b
  | object a _, object b _ => a == b
  | _, _ => false

/-- A value in the form it has as a key. -/
def keyForm : Value → Value
  | float x => match wholeOf? x with
    | some n => int n
    | none => float x
  | v => v

/-- Is the value a key that no table can have because it equals nothing? -/
def isNaN : Value → Bool
  | float x => x.isNaN
  | _ => false

end Value

/-- Values pad with nothing: the first of several results. -/
def first : List Value → Value
  | [] => .nil
  | v :: _ => v

/-- The value at a place of an argument list, nothing when it is absent. -/
def arg (vs : List Value) (i : Nat) : Value := (vs[i]?).getD .nil

end ScriptFlow.Script
