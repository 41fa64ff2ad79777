import ScriptFlow.Script.Environment
import ScriptFlow.Workflow.World

/-!
# Modules of a script run

A module is what a plugin puts into a script run: functions that scripts call and properties that are computed on each reading. A function gets the thread of
the run, the positional values and the options of the call. It gives its result at once or says what the script has to wait for (`Reply`); it
never waits itself.

A module offers functions and properties under names. A function hides a property of the same name; the names of a module are those of both, in order and
without repetition.
-/

namespace ScriptFlow

structure Attributes (β π : Type) where
  builtins : List (String × β) := []
  properties : List (String × π) := []

inductive Attribute (β π : Type) where
  | builtin (name : String) (b : β)
  | property (p : π)

/-- The error for a name that nothing has; `receiver` is what the module shows of itself. -/
def attributeNotFound (receiver name : String) : Fault :=
  .error .attributeNotFound (receiver ++ " has no attribute '" ++ name ++ "'")

namespace Attributes

variable {β π : Type}

def resolve (a : Attributes β π) (receiver name : String) : Except Fault (Attribute β π) :=
  match a.builtins.lookup name, a.properties.lookup name with
  | some b, _ => .ok (.builtin name b)
  | none, some p => .ok (.property p)
  | none, none => .error (attributeNotFound receiver name)

/-- Removes neighbours that are equal. -/
def distinct : List String → List String
  | [] => []
  | s :: rest =>
    match distinct rest with
    | t :: more => if s == t then t :: more else s :: t :: more
    | [] => [s]

def names (a : Attributes β π) : List String :=
  distinct ((a.builtins.map Prod.fst ++ a.properties.map Prod.fst).mergeSort fun s t => !decide (t < s))

end Attributes

/-- What a function sees of the script run that calls it. -/
structure Thread where
  name : String
  context : Context
  /-- the run's storage -/
  run : Nat

/-- What a function gives. -/
inductive Reply (ε : Type) where
  | now (d : Data)
  | later (m : Play ε Data)

abbrev Builtin (ε : Type) := Thread → List Data → List (String × Data) → Play ε (Reply ε)

structure Module (ε : Type) where
  name : String := "module"
  attributes : Attributes (Builtin ε) (Play ε Data) := {}

instance {ε : Type} : Inhabited (Module ε) := ⟨{}⟩

/-- A module as a value shows itself. -/
def Module.shown {ε : Type} (m : Module ε) : String := "<module " ++ m.name ++ ">"

/-! ### Parameters -/

/-- A parameter of a function: its name, and its default if it has one. -/
abbrev Parameter := String × Option Data

/-- The error for arguments that do not match the parameters. -/
def badCall : Fault := .error .misuse "arguments do not match the parameters"

/-- Matches positional values and options with parameters. -/
def bindArguments (params : List Parameter) (args : List Data) (options : List (String × Data)) : Except Fault (List Data) :=
  let given := (params.take args.length).map Prod.fst
  if args.length > params.length || options.any (fun o => given.contains o.1 || !(params.any (·.1 == o.1))) then .error badCall
  else do
    let rest ← (params.drop args.length).mapM fun p =>
      match (options.lookup p.1).orElse fun _ => p.2 with
      | some d => .ok d
      | none => .error badCall
    pure (args ++ rest)

namespace Builtin

variable {ε : Type}

/-- Parameters of the call itself, which come before those of the function. -/
def callParameters : List String := ["self", "thread"]

/-- Calls a function. An option cannot have the name of a parameter of the call, whatever the function takes. -/
def call (f : Builtin ε) (thread : Thread) (args : List Data) (options : List (String × Data)) : Play ε (Reply ε) :=
  if options.any fun o => callParameters.contains o.1 then Flow.fail badCall else f thread args options

/-- A function of positional values alone. -/
def positional (f : Thread → List Data → Play ε (Reply ε)) : Builtin ε := fun thread args options =>
  if options.isEmpty then f thread args else Flow.fail badCall

/-- A function with fixed parameters. -/
def fixed (params : List Parameter) (f : Thread → List Data → Play ε (Reply ε)) : Builtin ε := fun thread args options => do
  f thread (← Flow.ofExcept (bindArguments params args options))

end Builtin

/-- What a thread shows of itself. -/
instance : ToString Thread := ⟨Thread.name⟩

end ScriptFlow
