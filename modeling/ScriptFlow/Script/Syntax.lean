import ScriptFlow.Script.Number

/-!
# Syntax of scripts

A chunk is a list of statements. Variables are resolved: a `Variable` says how many younger variables are in scope at its use, so that the
environment of a running function is a plain list of cells. Every construct that can fail at run time carries
the line that the error names.

`Exp.naming` is how an error names the value of an expression: as a variable, a field, a method or a constant.
-/

namespace ScriptFlow.Script

/-- The text of a place in a chunk, in front of a message. -/
def placed (chunk : ByteArray) (line : Nat) (message : ByteArray) : ByteArray :=
  chunk ++ (":" ++ toString line ++ ": ").toUTF8 ++ message

/-- How the value of an expression is called in an error. -/
structure Naming where
  /-- `global`, `local`, `field` and the like -/
  kind : String
  name : ByteArray
  deriving Inhabited

namespace Naming

def ofText (kind name : String) : Naming := ⟨kind, name.toUTF8⟩

end Naming

/-- A use of a variable. -/
structure Variable where
  name : ByteArray
  /-- how many variables in scope are younger -/
  index : Nat
  /-- does the variable belong to an enclosing function? -/
  isOuter : Bool
  deriving Inhabited

/-- Operators on two values, `and` and `or` apart. -/
inductive BinaryOp where
  | arith (op : ArithOp)
  | concat
  | eq | ne | lt | le | gt | ge
  deriving DecidableEq, Repr, Inhabited

/-- Operators on one value. -/
inductive UnaryOp where
  | arith (op : ArithOp)
  | not
  | length
  deriving DecidableEq, Repr, Inhabited

/-- What is declared about a local variable. -/
inductive Attribute where
  | none
  | constant
  /-- the value is told when its block is left -/
  | closing
  deriving DecidableEq, Repr, Inhabited

/-- A value that is written in a script. -/
inductive Constant where
  | nil
  | bool (b : Bool)
  | int (n : Int64)
  | float (x : Float)
  | str (s : ByteArray)
  deriving Inhabited

namespace Constant

def value : Constant → Value
  | nil => .nil
  | bool b => .bool b
  | int n => .int n
  | float x => .float x
  | str s => .str s

/-- A number that is written in a script. -/
def ofNumber? : Value → Option Constant
  | .int n => some (int n)
  | .float x => some (float x)
  | _ => none

end Constant

mutual

inductive Exp where
  | value (c : Constant)
  | varargs
  | function (params : Nat) (takesMore : Bool) (body : List Stat)
  | var (v : Variable)
  | index (object key : Exp) (line : Nat)
  | call (callee : Exp) (args : List Exp) (line : Nat)
  /-- a function found in an object and called with it -/
  | method (object : Exp) (name : ByteArray) (args : List Exp) (nameLine line : Nat)
  | binary (op : BinaryOp) (left right : Exp) (line : Nat)
  | unary (op : UnaryOp) (operand : Exp) (line : Nat)
  | and (left right : Exp)
  | or (left right : Exp)
  /-- between parentheses: exactly one value -/
  | paren (e : Exp)
  | table (items : List Item)

/-- An entry of a table constructor. -/
inductive Item where
  | positional (e : Exp)
  | keyed (key value : Exp) (line : Nat)

inductive Stat where
  | declare (attributes : List Attribute) (values : List Exp) (line : Nat)
  | declareFunction (f : Exp)
  | assign (targets values : List Exp) (line : Nat)
  | perform (call : Exp)
  | block (body : List Stat)
  | whileLoop (condition : Exp) (body : List Stat)
  | repeatLoop (body : List Stat) (condition : Exp)
  | branch (condition : Exp) (body otherwise : List Stat)
  | numericFor (start limit step : Exp) (body : List Stat) (line : Nat)
  | genericFor (names : Nat) (values : List Exp) (body : List Stat) (line : Nat)
  /-- a loop under way: one more round, if the condition holds -/
  | whileRound (condition : Exp) (body : List Stat)
  /-- a loop under way: one more round -/
  | repeatRound (body : List Stat) (condition : Exp)
  /-- a numeric loop under way: the next value, the step and how many rounds are left -/
  | counting (next step : Int64) (left : Nat) (body : List Stat)
  /-- a numeric loop over floating-point numbers under way -/
  | stepping (next limit step : Float) (body : List Stat)
  /-- a generic loop under way: the variables of its iterator, its state and its control value -/
  | drawing (iterator state control : CellId) (names : Nat) (body : List Stat) (line : Nat)
  | give (values : List Exp)
  /-- the results of a call are those of the function -/
  | giveCall (call : Exp)
  | breakLoop
  | goto (label : ByteArray)
  /-- a place to go to, and how many variables are in scope there -/
  | label (name : ByteArray) (depth : Nat)

end

instance : Inhabited Exp := ⟨.value .nil⟩
instance : Inhabited Stat := ⟨.breakLoop⟩

namespace Exp

/-- Can the expression have any number of values? -/
def isOpen : Exp → Bool
  | varargs | call .. | method .. => true
  | _ => false

/-- Is the expression a variable called `_ENV`? -/
def isEnvironment : Exp → Bool
  | var v => v.name == "_ENV".toUTF8
  | _ => false

/-- How an error names the value of an expression. -/
def naming : Exp → Option Naming
  | value (.str s) => some ⟨"constant", s⟩
  | var v => some ⟨if v.isOuter then "upvalue" else "local", v.name⟩
  | index object key _ =>
    let kind := if object.isEnvironment then "global" else "field"
    match key with
    | value (.str s) => some ⟨kind, s⟩
    | value (.int n) => some (.ofText "field" (if 0 ≤ n && n ≤ 255 then "integer index" else "?"))
    | _ => some (.ofText kind "?")
  | method _ name _ _ _ => some ⟨"method", name⟩
  | paren e => e.naming
  | _ => none

/-- A look-up that is completed on a later line. -/
def completedAt (line : Nat) : Exp → Exp
  | index object key _ => index object key line
  | e => e

end Exp

end ScriptFlow.Script
