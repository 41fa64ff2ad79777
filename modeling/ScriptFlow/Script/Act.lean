import ScriptFlow.Script.Store

/-!
# Programs of the script machine

A running function is a `Prog`: a tree whose nodes are what the machine has to do for it — touch the store, call a function, ask the host — each with the
program that goes on from there. `Act` is the monad that builds such trees: expressions, operators and native functions are acts, and only
the machine decides what a call, an error or a pause means.

Errors are values. A `Site` is the place in a script that a message names; a function that is not called
from a script has none.
-/

namespace ScriptFlow.Script

/-- A place in a chunk. -/
abbrev Site := Option (ByteArray × Nat)

/-- A message with its place in front. -/
def Site.text (site : Site) (message : ByteArray) : Value :=
  match site with
  | some (chunk, line) => .str (placed chunk line message)
  | none => .str message

/-- How a function is called. -/
structure CallSite where
  /-- the place of the call -/
  site : Site := none
  /-- how the called value is named there -/
  naming : Option Naming := none
  /-- may the script not pause until the call is over? -/
  blocks : Bool := false
  /-- does the call go through the machine's own functions? -/
  nests : Bool := false
  deriving Inhabited

/-- Where a function under way reads its variables. -/
structure Scope where
  cells : List CellId
  varargs : List Value
  chunk : ByteArray
  deriving Inhabited

/-- What a script asks its host for. -/
inductive HostCall where
  /-- the attribute of a module -/
  | resolve (module : Nat) (name : Value)
  /-- a function of a module, with positional values and perhaps a table of options -/
  | invoke (module : Nat) (name : String) (args : List Value) (options : Option TableId)
  | names (module : Nat)
  | log (message : ByteArray)
  deriving Inhabited

/-- What the host answers. -/
inductive HostReply where
  /-- a value in the script's form -/
  | value (v : Value)
  /-- an error in the script's form -/
  | error (v : Value)
  /-- a function of the module -/
  | builtin (name : String)
  deriving Inhabited

/-- The ways out of the statements of a block. -/
structure Exits (P : Type) where
  /-- behind the last statement -/
  finish : Scope → P
  /-- behind the loop around -/
  leave : Unit → P
  /-- to a label, with the environment cut to what is in scope there -/
  labels : List (ByteArray × Nat × (Scope → P))

inductive Prog where
  /-- the function under way ends with these results -/
  | done (vs : List Value)
  | raise (e : Value)
  /-- an error that has passed its handler -/
  | unwind (e : Value)
  | touch (f : Store → Store × Prog)
  | call (callee : Value) (args : List Value) (how : CallSite) (next : List Value → Prog)
  /-- the call takes the place of the function under way -/
  | pass (callee : Value) (args : List Value) (how : CallSite)
  /-- a call whose errors come back as values -/
  | guard (callee : Value) (args : List Value) (handler : Option Value) (next : Except Value (List Value) → Prog)
  /-- the places from which the functions under way were called, the youngest first -/
  | places (next : List Site → Prog)
  | host (request : HostCall) (next : HostReply → Prog)
  /-- a script that is loaded now: its path, its statements and its globals -/
  | load (path : String) (body : List Stat) (globals : TableId)
  /-- statements of a block; all statements of the block are known for its labels -/
  | run (all rest : List Stat) (scope : Scope) (exits : Exits Prog)
  /-- a value is told when the block is left -/
  | opened (v : Value) (next : Prog)
  /-- the block of the value opened last is left -/
  | closed (how : CallSite) (next : Prog)

instance : Inhabited Prog := ⟨.done []⟩

/-- Something that a function under way does on the way to a result. -/
def Act (α : Type) : Type := (α → Prog) → Prog

namespace Act

instance : Monad Act where
  pure a := fun k => k a
  bind m f := fun k => m fun a => f a k

instance {α : Type} : Inhabited (Act α) := ⟨fun _ => .done []⟩

/-- Ends the function with an error value. -/
def raise {α : Type} (e : Value) : Act α := fun _ => .raise e

/-- Ends the function with a message. -/
def fail {α : Type} (site : Site) (message : ByteArray) : Act α := raise (site.text message)

def failText {α : Type} (site : Site) (message : String) : Act α := fail site message.toUTF8

/-- Reads the store. -/
def read {α : Type} (f : Store → α) : Act α := fun k => .touch fun s => (s, k (f s))

/-- Changes the store. -/
def write (f : Store → Store) : Act Unit := fun k => .touch fun s => (f s, k ())

/-- Changes the store and gives a result. -/
def modifyGet {α : Type} (f : Store → Store × α) : Act α := fun k => .touch fun s => let (s, a) := f s; (s, k a)

def call (callee : Value) (args : List Value) (how : CallSite) : Act (List Value) := fun k => .call callee args how k

def guard (callee : Value) (args : List Value) (handler : Option Value) : Act (Except Value (List Value)) :=
  fun k => .guard callee args handler k

def places : Act (List Site) := fun k => .places k

def host (request : HostCall) : Act HostReply := fun k => .host request k

/-- An act as the whole of a function. -/
def toProg (m : Act (List Value)) : Prog := m .done

def newTable (t : Table) : Act Value := modifyGet fun s => let (s, t) := s.newTable t; (s, .table t)

def newNative (f : Native) : Act Value := modifyGet fun s => let (s, f) := s.newFunction (.native f); (s, .function f)

def newCell (v : Value) : Act CellId := modifyGet fun s => s.newCell v

def table (t : TableId) : Act Table := read (·.table t)

end Act

end ScriptFlow.Script
