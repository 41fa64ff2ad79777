import ScriptFlow.Data.Notation
import ScriptFlow.Plugin.Bundled
import ScriptFlow.Plugin.Cad
import ScriptFlow.Plugin.Module
import ScriptFlow.Sample.Functions

/-!
# The tools and the catalogue of plugins

The module `tools` shows every way in which a module can answer a script: values of all kinds at once or after a wait, errors at once or after a
wait, properties that change or fail, and the storage of the run.

The catalogue has the bundled plugins, and plugins by ID: an ID that stands for none of them is a plugin whose module has no attributes.
-/

namespace ScriptFlow

/-! ### Tools for trying scripts -/

namespace Tools

/-- Values under fixed names. -/
def values : List (String × Data) :=
  [("none", .null), ("true", .bool true), ("int", .int 7), ("big", .int (Nat.pow 2 70)), ("float", .float 2.5), ("whole", .float 3.0),
   ("text", .str "héllo"), ("empty_list", .list []), ("empty_dict", .dict []),
   ("list", .list [.int 1, .list [.int 2, .dict [(.str "k", .str "v")]]]),
   ("tuple", .tuple [.int 1, .tuple [.int 2, .int 3]]), ("holes", .list [.int 1, .null, .int 3]),
   ("dict", .dict [(.str "b", .int 1), (.str "a", .dict [(.str "z", .null), (.str "y", .list [.bool true])])]),
   ("int_keys", .dict [(.int 2, .str "two"), (.int 1, .str "one")]),
   ("sparse", .dict [(.int 5, .str "five"), (.int 1, .str "one")]),
   ("bool_keys", .dict [(.bool true, .str "t"), (.bool false, .str "f")]), ("bytes", .bytes "abc".toUTF8),
   ("bad_bytes", .bytes ⟨#[0xff, 0x00]⟩), ("opaque", .unencodable),
   ("float_key", .dict [(.float 1.0, .str "a"), (.float 2.5, .str "b")])]

def valueOf (name : Data) : Except Fault Data :=
  match name with
  | .str s =>
    match values.lookup s with
    | some d => .ok d
    | none => .error (.missingKey name)
  | d => if d.isHashable then .error (.missingKey d) else .error Script.unhashable

variable {ε : Type}

/-- Fails with the error that arguments describe. -/
def fails (args : List Data) : Play ε Data :=
  match args with
  | kind :: message :: details => Flow.fail (Sample.faultOf kind message details)
  | _ => Flow.fail badCall

/-- Waits for one turn. -/
def afterTurn (m : Play ε Data) : Reply ε := .later do
  Flow.turn
  m

def builtins : List (String × Builtin ε) :=
  [("echo", fun _ args options => return .now (.dict [(.str "args", .list args), (.str "kwargs", .object options)])),
   ("count", fun _ args options => return .now (.list [.int args.length, .int options.length])),
   ("wait", .fixed [("value", some .null)] fun _ args => return afterTurn (return args.headD .null)),
   ("fail", .positional fun _ args => return .now (← fails args)),
   ("wait_fail", .positional fun _ args => return afterTurn (fails args)),
   ("value", .fixed [("name", none)] fun _ args => return .now (← Flow.ofExcept (valueOf (args.headD .null)))),
   ("wait_value", .fixed [("name", none)] fun _ args =>
      return afterTurn (Flow.ofExcept (valueOf (args.headD .null)))),
   ("thread", .fixed [] fun thread _ => return .now (.str thread.name)),
   ("remember", .fixed [("key", none), ("value", none)] fun thread args =>
      match args with
      | [key, value] => do
        unless key.isHashable do Flow.fail Script.unhashable
        Play.modifyRun thread.run fun r => { r with storage := Data.insertKey r.storage key value }
        return .now .null
      | _ => Flow.fail badCall),
   ("recall", .fixed [("key", none)] fun thread args => do
      let key := args.headD .null
      unless key.isHashable do Flow.fail Script.unhashable
      return .now ((Data.lookup? (← Play.run thread.run).storage key).getD .null)),
   ("shadowed", .fixed [] fun _ _ => return .now (.str "builtin"))]

/-- One more reading of a counting property. -/
def countUp (run number : Nat) : Play ε Data := do
  let n := ((← Play.run run).counts.lookup number).getD 0 + 1
  Play.modifyRun run fun r => { r with counts := (number, n) :: r.counts.filter (·.1 != number) }
  return .int n

def properties (run number : Nat) (environ : List (Data × Data)) : List (String × Play ε Data) :=
  [("answer", return .int 42), ("list", return .list [.int 1, .list [.int 2]]), ("nothing", return .null),
   ("broken", Flow.fail (.custom "broken-property" [.str "x"])), ("counter", countUp run number),
   ("environ", return .dict environ), ("shadowed", return .str "property")]

/-- The module; `number` tells it from other modules of its run. -/
def module (run number : Nat) (environ : List (Data × Data)) : Module ε :=
  { name := "tools", attributes := { builtins := builtins, properties := properties run number environ } }

end Tools

/-! ### The catalogue -/

namespace Catalogue

variable {ε : Type}

/-- The plugins that come with a worker. -/
def bundled : List (Plugin ε) := [Cad.plugin, Hashes.plugin, JsonText.plugin, Progress.plugin]

/-- The plugin of the tools, with the sample functions. -/
def tools : Plugin ε :=
  { id := "tools"
    registrations := Sample.activities.map (RegistrationKind.activity, ·) ++ Sample.workflows.map (RegistrationKind.workflow, ·)
    create := fun _ info => Tools.module info.run info.number info.environ }

def plugin (id : String) : Plugin ε :=
  ((bundled ++ [tools]).find? fun (p : Plugin ε) => p.id == id).getD { id := id, create := fun _ _ => {} }

/-- The bundled plugins with some IDs, or all of them. -/
def select (ids : Option (List String)) : Except Fault (List (Plugin ε)) :=
  let known : List String := (bundled (ε := ε)).map (·.id)
  let ids := ids.getD known
  let unknown := ids.filter (!known.contains ·)
  if unknown.isEmpty then .ok (ids.map plugin)
  else .error (PluginSet.pluginError ("unknown plugins: " ++ ", ".intercalate unknown))

end Catalogue

end ScriptFlow
