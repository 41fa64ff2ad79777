import ScriptFlow.Data.Text

/-!
# Callables

What registration and calls need to know of a function: who it is, how it is shown, whether it runs asynchronously, and its parameters with
their annotations. Values that cannot be called have the same form, so that a registration can refuse them.

Parameters make a signature when their kinds come in a fixed order, none that takes its argument by place lacks a default after one that has it, and their names are
distinct. `Signature.check` goes through them in order and reports the first that is wrong.
-/

namespace ScriptFlow

/-- How a parameter takes its argument. -/
inductive ParameterKind where
  | positionalOnly
  | positional
  | variadic
  | named
  /-- takes all that is left over by name -/
  | keywords
  deriving DecidableEq, Repr, Inhabited

/-- What is written at a parameter. -/
inductive Annotation where
  | absent
  /-- a context type -/
  | context (short : String)
  /-- another type, by its short and its full form -/
  | type (short shown : String)
  /-- a name that cannot be resolved -/
  | forward (text : String)
  deriving DecidableEq, Repr, Inhabited

structure ParameterShape where
  name : String
  annotation : Annotation := .absent
  kind : ParameterKind := .positional
  hasDefault : Bool := false
  deriving DecidableEq, Repr, Inhabited

/-- A parameter without a default. -/
def ParameterShape.required (name : String) ( annotation : Annotation) (kind : ParameterKind) : ParameterShape :=
  { name := name, annotation := annotation, kind := kind }

/-- A function as registrations see it. -/
structure Callable where
  /-- tells functions apart as objects; a method that is taken from its instance anew is another object -/
  key : String
  /-- how the function shows itself -/
  shown : String
  /-- the type, of which an error tells -/
  typeName : String := "function"
  isCallable : Bool := true
  isAsync : Bool := true
  shortName : Option String := none
  qualifiedName : Option String := none
  parameters : List ParameterShape := []
  result : Annotation := .absent
  deriving DecidableEq, Repr, Inhabited

namespace Annotation

/-- Is the annotation what the first parameter of a workflow may have? -/
def isContext : Annotation → Bool
  | absent | context _ => true
  | type .. => false
  | forward text => ((text.splitOn ".").getLastD text).endsWith "Context"

/-- The annotation as an error shows it. -/
def shown : Annotation → String
  | absent => ""
  | context short => short
  | type _ shown => shown
  | forward text => Text.quoted text

end Annotation

/-- What a call names: a registered name or a function. -/
inductive Target where
  | name (s : String)
  | function (c : Callable)
  deriving Inhabited

namespace Callable

/-- A text that is given in place of a function. -/
def text? (c : Callable) : Option String := if c.typeName == "str" then some c.key else none

/-- The error of a registration. -/
def refused {α : Type} (message : String) : Except Fault α := .error (.error .registration message)

/-- The parameters of a workflow function; it must be asynchronous and take a context first. -/
def workflowParameters (c : Callable) : Except Fault (List ParameterShape) :=
  if !c.isCallable then refused ("workflow must be a function, got " ++ c.typeName)
  else if !c.isAsync then refused ("workflow " ++ c.shown ++ " must be declared with 'async def'")
  else
    match c.parameters with
    | [] => refused ("workflow " ++ c.shown ++ " must have at least one argument (context)")
    | p :: _ =>
      if p.kind != .positionalOnly && p.kind != .positional then
        refused ("workflow " ++ c.shown ++ " must have at least one argument (context)")
      else if p.annotation.isContext then .ok c.parameters
      else refused ("first argument of workflow " ++ c.shown ++ " must be a Context, got " ++ p.annotation.shown)

/-- Activities can be anything that can be called. -/
def checkActivity (c : Callable) : Except Fault Unit :=
  if c.isCallable then .ok ()
  else .error (.error .wrongType ("activity must be callable, got " ++ c.typeName))

end Callable

/-! ### Signatures -/

namespace ParameterKind

/-- The place of the kind in a signature. -/
def rank : ParameterKind → Nat
  | positionalOnly => 0
  | positional => 1
  | variadic => 2
  | named => 3
  | keywords => 4

def description : ParameterKind → String
  | positionalOnly => "positional-only"
  | positional => "positional or keyword"
  | variadic => "variadic positional"
  | named => "keyword-only"
  | keywords => "variadic keyword"

/-- Does a parameter of the kind take one argument by its place? -/
def isByPlace (k : ParameterKind) : Bool := k == positionalOnly || k == positional

end ParameterKind

namespace Signature

/-- What the parameters so far mean for the next one: the latest kind, whether one by place had a default, and the names. -/
structure Seen where
  kind : ParameterKind := .positionalOnly
  hasDefault : Bool := false
  names : List String := []

/-- Checks the next parameter. -/
def Seen.check (s : Seen) (p : ParameterShape) : Except Fault Seen :=
  if p.kind.rank < s.kind.rank then
    .error (.error .badValue ("wrong parameter order: " ++ s.kind.description ++ " parameter before " ++ p.kind.description ++ " parameter"))
  else if p.kind.isByPlace && !p.hasDefault && s.hasDefault then
    .error (.error .badValue "non-default argument follows default argument")
  else if s.names.contains p.name then .error (.error .badValue ("duplicate parameter name: " ++ Text.quoted p.name))
  else .ok { kind := p.kind, hasDefault := s.hasDefault || (p.kind.isByPlace && p.hasDefault), names := p.name :: s.names }

/-- Checks parameters in order. -/
def Seen.checkAll (s : Seen) : List ParameterShape → Except Fault Unit
  | [] => .ok ()
  | p :: rest => do (← s.check p).checkAll rest

def check (parameters : List ParameterShape) : Except Fault Unit := ({} : Seen).checkAll parameters

end Signature

end ScriptFlow
