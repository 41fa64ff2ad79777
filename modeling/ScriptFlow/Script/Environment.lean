import ScriptFlow.Script.Machine
import ScriptFlow.Script.Sources

/-!
# Script environments

An environment is the store that the scripts of one run share: the functions every script sees, the installed modules, and the sources. Nothing in it
reaches files, the clock, chance or addresses.

The host sees an environment in terms of plain data. `Environment.load` and `Environment.call` start a machine, `Suspension.ask` says in plain data what a
waiting script needs, `Suspension.answer` continues it, and `Environment.uncaught` turns an error that no script handled into a fault;
`Environment.told` is the store after that.
-/

namespace ScriptFlow.Script

/-! ### The first store -/

/-- Something that adds to a store. -/
abbrev Build := StateM Store

namespace Build

def table (entries : List (String × Value)) (meta? : Option TableId := none) : Build TableId :=
  modifyGet fun s =>
    let (s, t) := s.newTable { entries.foldl (fun (t : Table) e => t.set (.ofText e.1) e.2) {} with meta? := meta? }
    (t, s)

def native (f : Native) : Build Value :=
  modifyGet fun s =>
    let (s, f) := s.newFunction (.native f)
    (.function f, s)

/-- Named functions. -/
def natives (fs : List (String × Native)) : Build (List (String × Value)) :=
  fs.mapM fun f => do return (f.1, ← native f.2)

/-- The pattern of one character in UTF-8. -/
def charPattern : ByteArray := ⟨#[0x5b, 0, 0x2d, 0x7f, 0xc2, 0x2d, 0xfd, 0x5d, 0x5b, 0x80, 0x2d, 0xbf, 0x5d, 0x2a]⟩

def numberConstants : List (String × Value) :=
  [("pi", .float 3.141592653589793), ("huge", .float (1.0 / 0.0)), ("maxinteger", .int Int64.maxValue),
   ("mininteger", .int Int64.minValue)]

/-- Functions that need no table of their own. -/
def plainFunctions : List (String × Native) :=
  [("assert", .assert), ("error", .error), ("ipairs", .ipairs), ("pcall", .pcall), ("xpcall", .xpcall), ("select", .select),
   ("tonumber", .tonumber), ("tostring", .tostring), ("type", .type), ("rawequal", .rawequal), ("rawget", .rawget),
   ("rawlen", .rawlen), ("rawset", .rawset), ("setmetatable", .setmetatable), ("getmetatable", .getmetatable),
   ("pairs", .pairs), ("kw", .kw), ("print", .print), ("dir", .dir), ("require", .require)]

/-- Operators that read numbers from strings. -/
def textOperators : List ArithOp := [.add, .sub, .mul, .mod, .pow, .div, .idiv, .unm]

/-- The names every script starts with. -/
def standard : Build Unit := do
  let plain ← natives plainFunctions
  let texts ← natives (TextFunction.all.map fun f => (f.name, .text f))
  let tables ← natives (TableFunction.all.map fun f => (f.name, .table f))
  let maths ← natives (MathFunction.all.map fun f => (f.name, .math f))
  let utf8s ← natives (Utf8Function.all.map fun f => (f.name, .utf8 f))
  let operators ← natives (textOperators.map fun op => (op.event, .textArith op))
  let methods ← table texts
  let textMeta ← table (("__index", .table methods) :: operators)
  let objectMeta ← table [("__name", .ofText "POBJECT")]
  let optionsMark ← table []
  let base ← table (plain ++
    [("unpack", (tables.lookup "unpack").getD .nil), ("string", .table (← table texts)), ("table", .table (← table tables)),
     ("utf8", .table (← table (("charpattern", .str charPattern) :: utf8s))),
     ("math", .table (← table (numberConstants ++ maths))), ("_VERSION", .ofText "Lua 5.4")])
  modify fun s => { s with base := base, textMeta := textMeta, objectMeta := objectMeta, optionsMark := optionsMark }

/-- A module under a name; `text` is what the module shows of itself. -/
def install (name text : String) : Build Unit := do
  let number := (← get).moduleTexts.size
  let fields ← natives [("__index", .moduleIndex number), ("__newindex", .moduleAssign), ("__tostring", .moduleText number)]
  let mark ← table (("__metatable", .bool false) :: fields)
  let proxy ← table [] (some mark)
  modify fun s =>
    let s := s.setTable s.base (·.set (.ofText name) (.table proxy))
    { s with moduleTexts := s.moduleTexts.push text, modules := (proxy, number) :: s.modules }

end Build

/-! ### What a waiting script needs -/

/-- A need of a script in plain data. -/
inductive Ask where
  /-- an attribute of a module; a name that is no text finds nothing, but an error shows it -/
  | attribute (module : Nat) (name : Option String) (shown : String)
  | invoke (module : Nat) (function : String) (args : List Data) (options : List (String × Data))
  | names (module : Nat)
  | log (message : String)
  /-- the script cannot be asked for: it gets an error, and perhaps the log a line -/
  | refused (report : Option String) (e : Fault)

/-- What the host found. -/
inductive Answer where
  | value (d : Data)
  | function (name : String)
  | error (e : Fault)

namespace Ask

/-- The fields of a table of options. -/
def optionsOf (d : Data) : Option (List (String × Data)) :=
  match d with
  | .list [] => some []
  | .dict es => es.mapM fun e => e.1.text?.map fun name => (name, e.2)
  | _ => none

/-- The error for options without names. -/
def badOptions (function : String) : Fault :=
  .custom "invalid-argument" [.str (function ++ ": keyword options must be a table of named values")]

/-- Values and options of a call of a function of a module. -/
def ofInvocation (s : Store) (module : Nat) (function : String) (args : List Value) (options : Option TableId) :
    Except Fault Ask := do
  let args ← s.toDataAll args
  match options with
  | none => return .invoke module function args []
  | some t =>
    match optionsOf (← s.toData (.table t)) with
    | some fields => return .invoke module function args fields
    | none =>
      let e := badOptions function
      return .refused (some ("builtin-error: " ++ function ++ ": " ++ e.message)) e

/-- The name of an attribute. -/
def ofName (s : Store) (module : Nat) (name : Value) : Except Fault Ask :=
  match name with
  | .table _ => .ok (.attribute module none "<Lua table>")
  | .function _ => .ok (.attribute module none "<Lua function>")
  | name => do
    let d ← s.toData name
    if d.isHashable then return .attribute module d.text? d.text else throw unhashable

def ofHostCall (s : Store) : HostCall → Except Fault Ask
  | .resolve module name => ofName s module name
  | .invoke module function args options => ofInvocation s module function args options
  | .names module => .ok (.names module)
  | .log message => (Utf8.decode message).map fun text => .log ("[script] " ++ text)

end Ask

/-- What a waiting script needs. -/
def Suspension.ask (s : Suspension) (request : HostCall) : Ask :=
  match Ask.ofHostCall s.store request with
  | .ok ask => ask
  | .error e => .refused none e

/-- The script goes on with an error. -/
def Suspension.refuse (s : Suspension) (e : Fault) : Machine :=
  let (store, v) := s.store.newObject (.fault e)
  { s with store := store }.reply (.error v)

/-- The script goes on with an answer; a value without a form in scripts is an error of the script. -/
def Suspension.answer (s : Suspension) (a : Answer) : Machine :=
  match a with
  | .value d =>
    match s.store.ofData d with
    | .ok (store, v) => { s with store := store }.reply (.value v)
    | .error e => s.refuse e
  | .function name => s.reply (.builtin name)
  | .error e => s.refuse e

/-- The script would have to wait where it cannot. -/
def Suspension.stuck (s : Suspension) : Machine :=
  s.reply (.error (.ofText "attempt to yield across a C-call boundary"))

/-! ### Environments -/

structure Environment where
  store : Store
  deriving Inhabited

namespace Environment

/-- Sources by the normal form of their paths. -/
def normalized : Sources → Except Fault Sources
  | [] => .ok []
  | (path, text) :: rest => do
    let path ← ScriptPath.ofData (.str path)
    let others ← normalized rest
    pure ((path, text) :: others)

/-- An environment for sources and modules; of two sources with one path the last counts. -/
def create (sources : Sources) (modules : List (String × String)) : Except Fault Environment := do
  let sources ← normalized sources
  let build : Build Unit := do
    Build.standard
    for m in modules do
      Build.install m.1 m.2
  let (_, store) := build.run {}
  return ⟨{ store with loader := { sources := sources.reverse } }⟩

/-- Starts a script. -/
def load (env : Environment) (path : Data) : Except Fault Machine := do
  let path ← ScriptPath.ofData path
  let (store, f) := env.store.newFunction (.native .require)
  return .start store (.function f) [.ofText path]

/-- A global of a script that has been loaded. -/
def global? (env : Environment) (path : String) (name : Data) : Option Value := do
  let globals ← env.store.loader.environment? path
  let key ← (env.store.shallow name).toOption
  return (env.store.table globals).get key.2

def isContainer : Data → Bool
  | .list _ | .tuple _ | .dict _ => true
  | _ => false

/-- Values for the arguments of a function. -/
def arguments (s : Store) : List Data → Except Fault (Store × List Value)
  | [] => .ok (s, [])
  | d :: ds => do
    let (s, v) ← s.ofData d
    let (s, vs) ← arguments s ds
    pure (s, v :: vs)

/-- Calls a global function of a script that has been loaded; options become the last argument. -/
def call (env : Environment) (path function : Data) (args : List Data) (options : List (Data × Data)) :
    Except Fault Machine := do
  let normal ← ScriptPath.ofData path
  match env.global? normal function with
  | some (.function f) =>
    let _ ← arguments env.store (args.filter isContainer ++ [.dict options])
    let (store, vs) ← arguments env.store args
    if options.isEmpty then return .start store (.function f) vs
    let (store, v) ← store.ofData (.dict options)
    match v with
    | .table t =>
      let store := store.setTable t fun table => { table with meta? := some store.optionsMark }
      return .start store (.function f) (vs ++ [v])
    | _ => return .start store (.function f) vs
  | _ => throw (.error .script (path.text ++ ": function '" ++ function.text ++ "' not found"))

/-- More steps than any script takes. -/
def steps : Nat := Nat.pow 2 62

/-- Runs until the script ends or needs its host. -/
def advance (m : Machine) : Progress := (m.run steps).getD (.failed m.store .nil)

/-- The text of a table that is an error: what its metatable says, without a host. -/
def tableText (s : Store) (v : Value) : Except Fault String :=
  match s.metaEntry v "__tostring" with
  | .nil => .ok "<Lua table>"
  | h =>
    match advance (.start s h [v]) with
    | .finished _ vs =>
      match Act.plainText? (first vs) with
      | some text => Utf8.decode text
      | none => .ok "<Lua table>"
    | _ => .ok "<Lua table>"

/-- The store once the text of an error that left all scripts has been read: what its metatable does to say it stays done, unless it needs a host. -/
def told (s : Store) (v : Value) : Store :=
  match v with
  | .table _ =>
    match s.metaEntry v "__tostring" with
    | .nil => s
    | h =>
      match advance (.start s h [v]) with
      | .finished store _ | .failed store _ => store
      | _ => s
  | _ => s

/-- An error that left all scripts. -/
def uncaught (s : Store) (v : Value) : Fault :=
  match v with
  | .object _ (.fault e) => e
  | .table _ =>
    match tableText s v with
    | .ok text => .error .script text
    | .error e => e
  | .function _ => .error .script "<Lua function>"
  | v =>
    match s.toData v with
    | .ok d => .error .script d.text
    | .error e => e

end Environment

/-- A value after a trip into a script and back; values other than containers stay outside. -/
def throughScript (d : Data) : Except Fault Data :=
  if Environment.isContainer d then do
    let (s, v) ← ({} : Store).ofData d
    s.toData v
  else .ok d

end ScriptFlow.Script
