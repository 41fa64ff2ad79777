import ScriptFlow.Data.Notation
import ScriptFlow.Flow.Basic
import ScriptFlow.Registration.Callable
import ScriptFlow.Text.Case
import ScriptFlow.Workflow.World

/-!
# Sample functions

A set of functions for trying registrations, workers and programs: a few activities, a few workflows, and functions of all shapes that a registration may
meet. `Sample.body` says what the activities do, `Sample.workflow` what the workflows do.
-/

namespace ScriptFlow

namespace Sample

def typeInt : Annotation := .type "int" "<class 'int'>"
def typeStr : Annotation := .type "str" "<class 'str'>"
def typeList : Annotation := .type "list" "<class 'list'>"
def typeNone : Annotation := .type "NoneType" "<class 'NoneType'>"
def typeContext : Annotation := .context "Context"
def typeSimulated : Annotation := .context "SimulatedContext"

/-- A function of the module of samples. -/
def function (name : String) (parameters : List ParameterShape) (isAsync : Bool := true) (result : Annotation := .absent) :
    Callable :=
  { key := name, shown := "<function " ++ name ++ ">", isAsync := isAsync, shortName := some name
    qualifiedName := some ("fixtures." ++ name), parameters := parameters, result := result }

/-- A method that is bound to its object. -/
def method (key path : String) (parameters : List ParameterShape) (isAsync : Bool := true) : Callable :=
  { key := key, shown := "<bound method " ++ path ++ " of <fixtures." ++ owner ++ " object>>", typeName := "method", isAsync := isAsync
    shortName := (path.splitOn ".").getLast?, qualifiedName := some ("fixtures." ++ path), parameters := parameters }
where
  owner : String := ".".intercalate (path.splitOn ".").dropLast

def contextParameter : ParameterShape := .required "ctx" typeContext .positional

/-- A value that is no function. -/
def plain (key shown typeName : String) : Callable :=
  { key := key, shown := shown, typeName := typeName, isCallable := false, isAsync := false }

def activities : List Callable :=
  [function "echo" [.required "args" .absent .variadic] false,
   function "add" [.required "a" .absent .positional, .required "b" .absent .positional],
   function "fail" [.required "kind" .absent .positional, .required "message" .absent .positional, .required "details" .absent .variadic] false,
   function "unencodable" [] false, function "raw" [.required "text" .absent .positional] false, function "nothing" [] false]

def workflows : List Callable :=
  [function "child_flow" [contextParameter, .required "x" typeInt .positional] true typeInt,
   function "info_flow" [.required "ctx" typeSimulated .positional],
   function "fail_flow" [contextParameter, .required "reason" .absent .positional, .required "details" .absent .variadic]]

/-- The workflow that runs a program. -/
def programFunction : Callable := function "program" [contextParameter, .required "steps" .absent .positional]

/-- Functions and other values of all shapes. -/
def shapes : List Callable :=
  [function "greet" [contextParameter, .required "name" typeStr .positional] true typeStr,
   function "simulated" [.required "ctx" typeSimulated .positional] true typeNone,
   function "untyped" [.required "ctx" .absent .positional, .required "value" .absent .positional],
   function "posonly"
     [.required "ctx" typeContext .positionalOnly, { name := "a", annotation := typeInt, hasDefault := true },
      { name := "b", annotation := typeStr, kind := .named, hasDefault := true }] true typeList,
   function "forward" [.required "ctx" (.forward "SomeUnknownContext") .positional, .required "value" (.forward "AlsoUnknown") .positional],
   function "forward_dotted" [.required "ctx" (.forward "pkg.mod.MyContext") .positional],
   function "forward_wrong" [.required "ctx" (.forward "pkg.Context.Other") .positional],
   function "optional_ctx"
     [.required "ctx" (.type "Optional" "typing.Optional[starworker.workflow.context.Context]") .positional],
   function "any_ctx" [.required "ctx" (.type "Any" "typing.Any") .positional],
   function "wrong_first" [.required "name" typeStr .positional, contextParameter], function "no_args" [],
   function "kwonly" [.required "ctx" typeContext .named], function "varargs" [.required "args" .absent .variadic],
   function "not_async" [contextParameter] false,
   method "method" "Holder.method" [contextParameter, .required "value" typeInt .positional], method "bare" "Holder.bare" [],
   method "sync_method" "Holder.sync_method" [.required "value" .absent .positional] false,
   method "deep" "Holder.Inner.deep" [.required "ctx" .absent .positional],
   { key := "class", shown := "<class 'fixtures.Holder'>", typeName := "type", isAsync := false, shortName := some "Holder"
     qualifiedName := some "fixtures.Holder" },
   { key := "callable", shown := "<fixtures.AsyncCallable object>", typeName := "AsyncCallable", isAsync := false
     parameters := [.required "value" .absent .positional] },
   function "upper" [.required "text" typeStr .positional] false typeStr, plain "greet" "'greet'" "str", plain "number" "5" "int",
   plain "none" "None" "NoneType"]

/-- The text that stands in place of a function has the key of the function it names. -/
def named? (name : String) : Option Callable :=
  if name == "string" then some (plain "greet" "'greet'" "str")
  else (activities ++ workflows ++ [programFunction] ++ shapes.filter (·.typeName != "str")).find? (·.key == name)

/-! ### What activities do -/

/-- The error for operands that an operator does not take. -/
def badOperands : Fault := .error .misuse "unsupported operand types"

/-- The whole number of a number or truth value that is whole. -/
def wholeOf? : Data → Option Int
  | .int n => some n
  | .bool b => some (if b then 1 else 0)
  | _ => none

/-- A number as a floating-point number. -/
def floatOf (d : Data) : Except Fault Float :=
  match d with
  | .float x => .ok x
  | d =>
    match wholeOf? d with
    | some n =>
      match Float.ofInt? n with
      | some x => .ok x
      | none => .error (.error .overflow "int too large to convert to float")
    | none => .error badOperands

/-- The sum of numbers, or sequences of one kind joined. -/
def add (a b : Data) : Except Fault Data :=
  match a, b with
  | .str s, .str t => .ok (.str (s ++ t))
  | .list xs, .list ys => .ok (.list (xs ++ ys))
  | .tuple xs, .tuple ys => .ok (.tuple (xs ++ ys))
  | .bytes s, .bytes t => .ok (.bytes (s ++ t))
  | a, b =>
    match wholeOf? a, wholeOf? b with
    | some m, some n => .ok (.int (m + n))
    | _, _ => do return .float ((← floatOf a) + (← floatOf b))

/-- Ten times a number or a sequence. -/
def tenfold (d : Data) : Except Fault Data :=
  match d with
  | .str s => .ok (.str (String.join (List.replicate 10 s)))
  | .list xs => .ok (.list (List.replicate 10 xs).flatten)
  | .tuple xs => .ok (.tuple (List.replicate 10 xs).flatten)
  | .bytes bs => .ok (.bytes ((List.range 10).foldl (fun acc _ => acc ++ bs) ByteArray.empty))
  | .float x => .ok (.float (x * 10.0))
  | d =>
    match wholeOf? d with
    | some n => .ok (.int (n * 10))
    | none => .error badOperands

/-- Bytes from pairs of hexadecimal digits with blanks between the pairs. -/
def bytesOfHex (position : Nat) (acc : ByteArray) : List Char → Except Fault ByteArray
  | [] => .ok acc
  | c :: rest =>
    if c.isWhitespace || c == '\x0b' || c == '\x0c' then bytesOfHex (position + 1) acc rest
    else if !isHex c then bad position
    else match rest with
      | d :: rest' =>
        if isHex d then bytesOfHex (position + 2) (acc.push (UInt8.ofNat (16 * Data.hexValue c + Data.hexValue d))) rest'
        else bad (position + 1)
      | [] => bad (position + 1)
where
  isHex (c : Char) : Bool := c.isDigit || ('a' ≤ c && c ≤ 'f') || ('A' ≤ c && c ≤ 'F')
  bad (position : Nat) : Except Fault ByteArray :=
    .error (.error .badValue ("non-hexadecimal number found in fromhex() arg at position " ++ toString position))

/-- The error for a call with the wrong number of arguments. -/
def badArguments : Fault := .error .misuse "wrong arguments"

/-- The error of a kind with a message; an error with a reason also takes details. -/
def faultOf (kind message : Data) (details : List Data) : Fault :=
  match kind with
  | .str "CustomError" => .custom message.text details
  | .str "KeyError" => .missingKey message
  | .str "ApplicationError" => .application message.text none details false
  | .str "EngineCancelled" => .engineCancelled message.text
  | .str "TaskCancelled" => .taskCancelled message.text
  | .str name =>
    match FaultKind.ofName? name with
    | some k => .error k message.text
    | none => .missingKey kind
  | d => .missingKey d

variable {σ : Type}

/-- What the functions do that are used as activities. -/
def body (key : String) : Body σ := fun args =>
  match key, args with
  | "echo", args => return .value (.list args)
  | "add", [a, b] => return .awaitable do
    Flow.turn
    Flow.ofExcept (add a b)
  | "fail", kind :: message :: details => Flow.fail (faultOf kind message details)
  | "unencodable", [] => return .value .unencodable
  | "raw", [.str s] => do return .value (.bytes (← Flow.ofExcept (bytesOfHex 0 ByteArray.empty s.toList)))
  | "nothing", [] => return .value .null
  | "upper", [.str s] => return .value (.str (Text.upper s))
  | "sync_method", [d] => return .value d
  | _, _ => Flow.fail badArguments

end Sample

/-! ### Sample workflows

What the sample functions do as workflows.
-/

namespace Sample

variable {ε : Type}

/-- What a workflow can tell of itself. -/
def describe (ctx : Context) (identity : Identity) (cancelled : Bool) : Data := .object
  [("execution_id", .str identity.id), ("run_id", .str identity.runId), ("workflow_type", .str identity.workflowType),
   ("domain", .str identity.domain), ("task_list", .str identity.taskList), ("headers", .dict ctx.headers),
   ("cancelled", .bool cancelled), ("activity_task_list", .ofOption .str ctx.activityOptions.taskList),
   ("child_domain", .ofOption .str ctx.childOptions.domain)]

def workflow (key : String) (ctx : Context) (args : List Data) : Play ε Data :=
  match key, args with
  | "child_flow", [x] => Flow.ofExcept (tenfold x)
  | "info_flow", [] =>
    match ctx.identity with
    | some identity => do return describe ctx identity (← ctx.isCancelled)
    | none => Flow.fail (.error .access "the context belongs to no simulated workflow")
  | "fail_flow", reason :: details => Flow.fail (.custom reason.text details)
  | "greet", [name] => Flow.ofExcept (add (.str "hello ") name)
  | "posonly", [] => return .list [.int 1, .str "x"]
  | "posonly", [a] => return .list [a, .str "x"]
  | "simulated", [] | "deep", [] => return .null
  | "untyped", [_] => return .null
  | _, _ => Flow.fail badArguments

end Sample

end ScriptFlow
