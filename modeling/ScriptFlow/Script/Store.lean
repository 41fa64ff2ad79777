import ScriptFlow.Script.Syntax
import ScriptFlow.Script.Table

/-!
# The store of a script environment

Tables, functions and variables live in a store under addresses that are never reused. The store also knows the scripts and what has been
loaded from them (`Loader`), the modules that were installed, and the few tables every script sees.

`Native` lists the functions that are not written as scripts.
-/

namespace ScriptFlow.Script

/-- Functions on strings. -/
inductive TextFunction where
  | byte | char | dump | find | format | gmatch | gsub | len | lower | matchOne | pack | packsize | rep | reverse | sub | unpack | upper
  deriving DecidableEq, Repr, Inhabited

/-- Functions on tables. -/
inductive TableFunction where
  | concat | insert | move | pack | remove | sort | unpack
  deriving DecidableEq, Repr, Inhabited

/-- Functions on numbers. -/
inductive MathFunction where
  | abs | acos | asin | atan | ceil | cos | deg | exp | floor | fmod | log | max | min | modf | rad | sin | sqrt | tan | tointeger
  | type | ult
  deriving DecidableEq, Repr, Inhabited

/-- Functions on UTF-8. -/
inductive Utf8Function where
  | char | codepoint | codes | len | offset
  deriving DecidableEq, Repr, Inhabited

/-- Functions that are not written as scripts. -/
inductive Native where
  | assert | error | ipairs | pcall | xpcall | select | tonumber | tostring | type | rawequal | rawget | rawlen | rawset
  | setmetatable | getmetatable | pairs | print | kw | dir | require
  | ipairsNext
  /-- one step through keys listed before -/
  | pairsNext (subject : Value) (keys : Array Value) (position : CellId)
  | text (f : TextFunction)
  | table (f : TableFunction)
  | math (f : MathFunction)
  | utf8 (f : Utf8Function)
  /-- one step through the matches of a pattern -/
  | gmatchNext (subject pattern : ByteArray) (position lastMatch : CellId)
  | codesNext (lax : Bool)
  /-- arithmetic on strings that denote numbers -/
  | textArith (op : ArithOp)
  | moduleIndex (module : Nat)
  | moduleAssign
  | moduleText (module : Nat)
  /-- a function that a module offers -/
  | builtin (module : Nat) (name : String)
  deriving Inhabited

/-- What a function address stands for. -/
inductive FunctionObject where
  | closure (params : Nat) (takesMore : Bool) (body : List Stat) (environment : List CellId) (chunk : ByteArray)
  | native (f : Native)
  deriving Inhabited

/-- Scripts, and what has become of them. -/
structure Loader where
  sources : List (String × String) := []
  /-- what a finished script gave, by its path -/
  loaded : List (String × Value) := []
  /-- the scripts that have started and not ended -/
  loading : List String := []
  /-- the globals of finished scripts -/
  environments : List (String × TableId) := []

structure Store where
  tables : Array Table := #[]
  functions : Array FunctionObject := #[]
  cells : Array Value := #[]
  /-- how many host objects have been handed out -/
  objects : Nat := 0
  loader : Loader := {}
  /-- texts of the installed modules, in order -/
  moduleTexts : Array String := #[]
  /-- which tables stand for modules -/
  modules : List (TableId × Nat) := []
  /-- the table of names every script starts with -/
  base : TableId := 0
  /-- the metatable that marks options of a call -/
  optionsMark : TableId := 0
  /-- the metatable of strings -/
  textMeta : TableId := 0
  /-- the metatable of host objects -/
  objectMeta : TableId := 0
  deriving Inhabited

namespace Store

def table (s : Store) (t : TableId) : Table := (s.tables[t]?).getD {}

def setTable (s : Store) (t : TableId) (f : Table → Table) : Store := { s with tables := s.tables.modify t f }

def newTable (s : Store) (t : Table) : Store × TableId :=
  let address := s.tables.size
  ({ s with tables := s.tables.push t }, address)

def newFunction (s : Store) (f : FunctionObject) : Store × FunctionId :=
  let address := s.functions.size
  ({ s with functions := s.functions.push f }, address)

def newCell (s : Store) (v : Value) : Store × CellId :=
  let address := s.cells.size
  ({ s with cells := s.cells.push v }, address)

/-- New variables with these values, in front of an environment. -/
def newCells (s : Store) (vs : List Value) (env : List CellId) : Store × List CellId :=
  vs.foldl (fun (s, env) v => let (s, c) := s.newCell v; (s, c :: env)) (s, env)

def cell (s : Store) (c : CellId) : Value := (s.cells[c]?).getD .nil

def setCell (s : Store) (c : CellId) (v : Value) : Store := { s with cells := s.cells.modify c fun _ => v }

def function? (s : Store) (f : FunctionId) : Option FunctionObject := s.functions[f]?

/-- A host object as a value of its own. -/
def newObject (s : Store) (d : Data) : Store × Value := ({ s with objects := s.objects + 1 }, .object s.objects d)

/-- The metatable of a value. -/
def meta? (s : Store) : Value → Option TableId
  | .table t => (s.table t).meta?
  | .str _ => some s.textMeta
  | .object .. => some s.objectMeta
  | _ => none

/-- An entry of the metatable of a value. -/
def metaEntry (s : Store) (v : Value) (event : String) : Value :=
  match s.meta? v with
  | some m => (s.table m).get (.ofText event)
  | none => .nil

/-- The name of the type of a value as errors show it; a metatable may carry another one. -/
def typeName (s : Store) (v : Value) : ByteArray :=
  match v with
  | .table _ | .object .. =>
    match s.metaEntry v "__name" with
    | .str n => n
    | _ => v.typeName.toUTF8
  | v => v.typeName.toUTF8

end Store

end ScriptFlow.Script
