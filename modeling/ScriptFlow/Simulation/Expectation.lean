import ScriptFlow.Data.Text

/-!
# Expectations

An expectation describes calls of one activity or workflow and what they give. It takes as many calls as it was told to expect, of which those
count whose arguments it accepts. The first expectation that is open and accepts the arguments takes a call; when a name has expectations but none takes the
call, the call is unexpected.
-/

namespace ScriptFlow

inductive CallKind where
  | activity
  | workflow
  deriving DecidableEq, Repr, Inhabited

def CallKind.name : CallKind → String
  | activity => "activity"
  | workflow => "workflow"

/-- A test of arguments. -/
inductive Matcher where
  | count (n : Int)
  | argument (i : Int) (equals : Data)
  deriving Inhabited

structure Expectation where
  kind : CallKind
  name : String
  /-- none accepts any arguments -/
  args : Option (List Data) := none
  matcher : Option Matcher := none
  result : Data := .null
  failure : Option Fault := none
  expected : Int := 1
  calls : Nat := 0
  deriving Inhabited

namespace Matcher

/-- The item at a place, counted from the end when it is negative. -/
def itemAt? (xs : List Data) (i : Int) : Option Data :=
  let i := if i < 0 then i + xs.length else i
  if i < 0 then none else xs[i.toNat]?

def accepts (m : Matcher) (args : List Data) : Except Fault Bool :=
  match m with
  | count n => .ok (decide ((args.length : Int) = n))
  | argument i equals =>
    match itemAt? args i with
    | some d => .ok (d.same equals)
    | none => .error (.error .outOfRange "tuple index out of range")

end Matcher

namespace Expectation

def returns (e : Expectation) (d : Data) : Expectation := { e with result := d, failure := none }

def raises (e : Expectation) (f : Fault) : Expectation := { e with failure := some f }

def times (e : Expectation) (count : Int) : Except Fault Expectation :=
  if count < 0 then .error (.error .badValue "times() expects a non-negative count") else .ok { e with expected := count }

def isExhausted (e : Expectation) : Bool := decide (e.expected ≤ e.calls)

/-- Are these the arguments the expectation describes? A matcher decides alone. -/
def accepts (e : Expectation) (args : List Data) : Except Fault Bool :=
  match e.matcher, e.args with
  | some m, _ => m.accepts args
  | none, some expected => .ok (Data.sameItems expected args)
  | none, none => .ok true

/-- What a call of the expectation gives. -/
def outcome (e : Expectation) : Except Fault Data :=
  match e.failure with
  | some f => .error f
  | none => .ok e.result

def describe (e : Expectation) : String :=
  e.kind.name ++ " '" ++ e.name ++ "' args=" ++ (match e.args with
    | some args => Data.listExpression args
    | none => "<any>")

/-- What is wrong about the count of calls, if anything. -/
def complaint? (e : Expectation) : Option String :=
  if e.expected == e.calls then none
  else some (e.describe ++ ": expected " ++ toString e.expected ++ " call(s), got " ++ toString e.calls)

/-- Is the expectation about calls of this name? -/
def isAbout (e : Expectation) (kind : CallKind) (name : String) : Bool := e.kind == kind && e.name == name

/-- The place of the expectation that takes a call. -/
def taker? (kind : CallKind) (name : String) (args : List Data) : Nat → List Expectation → Except Fault (Option Nat)
  | _, [] => .ok none
  | i, e :: rest =>
    if e.isAbout kind name && !e.isExhausted then do
      if ← e.accepts args then return some i
      taker? kind name args (i + 1) rest
    else taker? kind name args (i + 1) rest

end Expectation

/-- How an expectation is set up: the test of arguments, and after it what is said about the count and the outcome, in this order. -/
structure ExpectationPlan where
  kind : CallKind
  name : String
  /-- no arguments stand for any -/
  args : List Data := []
  matcher : Option Matcher := none
  times : Option Int := none
  returns : Option Data := none
  raises : Option Fault := none
  thenReturns : Option Data := none
  deriving Inhabited

namespace ExpectationPlan

/-- The expectation before anything is said about it. -/
def bare (p : ExpectationPlan) : Expectation :=
  { kind := p.kind, name := p.name, args := if p.args.isEmpty then none else some p.args, matcher := p.matcher }

/-- The expectation that comes of a plan; one with a bad count stays as it was. -/
def expectation (p : ExpectationPlan) : Expectation × Option Fault :=
  match (p.times.map p.bare.times).getD (.ok p.bare) with
  | .error e => (p.bare, some e)
  | .ok x =>
    let x := (p.returns.map x.returns).getD x
    let x := (p.raises.map x.raises).getD x
    ((p.thenReturns.map x.returns).getD x, none)

end ExpectationPlan

/-- The text about a call that no expectation takes. -/
def unexpectedCall (kind : CallKind) (name : String) (args : List Data) : String :=
  "unexpected " ++ kind.name ++ " call '" ++ name ++ "' args=" ++ Data.listExpression args

end ScriptFlow
