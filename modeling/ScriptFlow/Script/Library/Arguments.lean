import ScriptFlow.Script.Operation

/-!
# Arguments of native functions

A native function reads its arguments by place. A wrong argument is an error that names the place, the function as the
script called it — or by its full name when nothing is known about the call — and what was expected.
-/

namespace ScriptFlow.Script

/-- A call of a native function. -/
structure Invocation where
  args : List Value
  /-- the place of the call -/
  site : Site := none
  naming : Option Naming := none
  /-- the full name of the function -/
  own : String := "?"

namespace Invocation

def count (inv : Invocation) : Nat := inv.args.length

/-- The argument at a place, counted from one. -/
def at? (inv : Invocation) (n : Nat) : Option Value := inv.args[n - 1]?

def get (inv : Invocation) (n : Nat) : Value := (inv.at? n).getD .nil

/-- Is there no value at a place, or `nil`? -/
def isAbsent (inv : Invocation) (n : Nat) : Bool :=
  match inv.get n with
  | .nil => true
  | _ => false

/-- Fails with a message at the place of the call. -/
def fail {α : Type} (inv : Invocation) (message : String) : Act α := Act.failText inv.site message

/-- The error for a bad argument. -/
def badArgument {α : Type} (inv : Invocation) (n : Nat) (message : ByteArray) : Act α :=
  let (n, name, isMethod) := match inv.naming with
    | some naming => (if naming.kind == "method" then n - 1 else n, naming.name, naming.kind == "method")
    | none => (n, inv.own.toUTF8, false)
  if isMethod && n == 0 then
    Act.fail inv.site ("calling '".toUTF8 ++ name ++ "' on bad self (".toUTF8 ++ message ++ ")".toUTF8)
  else
    Act.fail inv.site (("bad argument #" ++ toString n ++ " to '").toUTF8 ++ name ++ "' (".toUTF8 ++ message ++ ")".toUTF8)

def badArgumentText {α : Type} (inv : Invocation) (n : Nat) (message : String) : Act α := inv.badArgument n message.toUTF8

/-- The error for an argument of the wrong type. -/
def expected {α : Type} (inv : Invocation) (n : Nat) (what : String) : Act α := do
  let got ← match inv.at? n with
    | none => pure "no value".toUTF8
    | some v => Act.read (·.typeName v)
  inv.badArgument n ((what ++ " expected, got ").toUTF8 ++ got)

def check (inv : Invocation) (ok : Bool) (n : Nat) (message : String) : Act Unit :=
  if ok then pure () else inv.badArgumentText n message

/-- Some value must be there. -/
def any (inv : Invocation) (n : Nat) : Act Value :=
  match inv.at? n with
  | some v => pure v
  | none => inv.badArgumentText n "value expected"

def table (inv : Invocation) (n : Nat) : Act TableId :=
  match inv.get n with
  | .table t => pure t
  | _ => inv.expected n "table"

def number (inv : Invocation) (n : Nat) : Act Value :=
  match Act.asNumber? (inv.get n) with
  | some v => pure v
  | none => inv.expected n "number"

def float (inv : Invocation) (n : Nat) : Act Float := do return Number.toFloat (← inv.number n)

def int (inv : Invocation) (n : Nat) : Act Int := do
  match Act.asNumber? (inv.get n) with
  | some v =>
    match Number.toInt? v with
    | some i => return i.toInt
    | none => inv.badArgumentText n "number has no integer representation"
  | none => inv.expected n "number"

def intOr (inv : Invocation) (n : Nat) (default : Int) : Act Int :=
  if inv.isAbsent n then pure default else inv.int n

def text (inv : Invocation) (n : Nat) : Act ByteArray :=
  match Act.plainText? (inv.get n) with
  | some s => pure s
  | none => inv.expected n "string"

def textOr (inv : Invocation) (n : Nat) (default : ByteArray) : Act ByteArray :=
  if inv.isAbsent n then pure default else inv.text n

end Invocation

/-- A whole number as a value. -/
def intValue (n : Int) : Value := .int (Int64.ofInt n)

/-- The part of bytes from one place to another, counted from one; nothing when the places cross. -/
def slice (s : ByteArray) (i j : Int) : ByteArray :=
  if i > j then ByteArray.empty else s.extract (i - 1).toNat j.toNat

/-- A start as counted from the front: negative places count from the end, and no place is in front of the first. -/
def startPlace (i : Int) (length : Nat) : Int :=
  if 0 < i then i else if i == 0 then 1 else if i < -(length : Int) then 1 else length + i + 1

/-- An end as counted from the front, at most the length. -/
def endPlace (j : Int) (length : Nat) : Int :=
  if j > length then length else if 0 ≤ j then j else if j < -(length : Int) then 0 else length + j + 1

end ScriptFlow.Script
