import ScriptFlow.Script.Evaluation
import ScriptFlow.Script.Library.Base
import ScriptFlow.Script.Sources
import ScriptFlow.Script.Syntax.Parser

/-!
# Modules and scripts that load each other

A module is a table without entries of its own: reading a field asks the host, writing one is an error. A function of a module takes positional
values and, as its last argument, a table of options marked by `kw`.

`require` runs a script once. While it runs, requiring it again is an error; a script that fails leaves no trace. What it
returned is kept; a script that returned nothing stands for its globals.
-/

namespace ScriptFlow.Script

namespace Loader

def source? (l : Loader) (path : String) : Option String := l.sources.lookup path

def loaded? (l : Loader) (path : String) : Option Value := l.loaded.lookup path

def environment? (l : Loader) (path : String) : Option TableId := l.environments.lookup path

/-- A script starts. -/
def start (l : Loader) (path : String) : Loader := { l with loading := path :: l.loading }

/-- A script ends by an error. -/
def drop (l : Loader) (path : String) : Loader := { l with loading := l.loading.filter (· != path) }

/-- A script ends; nothing returned means its globals. -/
def finish (l : Loader) (path : String) (globals : TableId) (result : Value) : Loader × Value :=
  let kept := match result with
    | .nil => .table globals
    | v => v
  ({ l.drop path with loaded := (path, kept) :: l.loaded, environments := (path, globals) :: l.environments }, kept)

end Loader

/-- The error for a value that names no script. -/
def badPath (v : Value) (d : Data) : Fault :=
  match v with
  | .table _ => .error .scriptNotFound "invalid script path: <Lua table>"
  | .function _ => .error .scriptNotFound "invalid script path: <Lua function>"
  | _ => ScriptPath.invalid d

/-- The path and the text of the script that a value names. -/
def Store.sourceOf (s : Store) (v : Value) : Except Fault (String × String) := do
  let path ← match v with
    | .str bs => ScriptPath.ofData (.str (← Utf8.decode bs))
    | .table _ | .function _ => throw (badPath v .null)
    | v => ScriptPath.ofData (← s.toData v)
  match s.loader.source? path with
  | some text => return (path, text)
  | none => throw (.error .scriptNotFound ("script " ++ path ++ " not found"))

/-- The name of a chunk in messages; of a long name only the end is shown. -/
def chunkName (path : String) : ByteArray :=
  let bs := path.toUTF8
  if bs.size ≤ 59 then bs else "...".toUTF8 ++ bs.extract (bs.size - 56) bs.size

/-- The statements of a script. -/
def parseScript (path text : String) : Except SyntaxError (List Stat) :=
  if text.toList.head? == some '\x1b' then .error ⟨"attempt to load a binary chunk (mode is 't')".toUTF8⟩
  else Chunk.parse (chunkName path) text.toUTF8

namespace Invocation

/-- Loads a script, unless that was done before. -/
def require (inv : Invocation) : Act (List Value) := do
  let v := inv.get 1
  let (path, text) ← Act.convert fun s => do return (s, ← s.sourceOf v)
  let loader ← Act.read (·.loader)
  match loader.loaded? path with
  | some v => return [v]
  | none =>
    if loader.loading.contains path then inv.fail ("cyclic require of " ++ path)
    match parseScript path text with
    | .error e => Act.raise (.str e.message)
    | .ok body =>
      let globals ← Act.modifyGet fun s =>
        let (s, m) := s.newTable (({} : Table).set (.ofText "__index") (.table s.base))
        s.newTable { meta? := some m }
      Act.write fun s => { s with loader := s.loader.start path }
      fun _ => .load path body globals

/-- Waits for the host and takes its answer for the result. -/
def answered (request : HostCall) : Act (List Value) := do
  match ← Act.host request with
  | .value v => return [v]
  | .error v => Act.raise v
  | .builtin _ => return [.nil]

/-- Reads a field of a module. -/
def moduleIndex (inv : Invocation) (module : Nat) : Act (List Value) := do
  match ← Act.host (.resolve module (inv.get 2)) with
  | .builtin name => return [← Act.newNative (.builtin module name)]
  | .value v => return [v]
  | .error v => Act.raise v

def moduleAssign (inv : Invocation) : Act (List Value) := do
  let name ← Act.textOf .hidden (inv.get 2)
  Act.fail inv.site ("cannot assign module attribute '".toUTF8 ++ name ++ "'".toUTF8)

/-- The table of options at the end of arguments, and the arguments in front of it. -/
def splitOptions (s : Store) (args : List Value) : List Value × Option TableId :=
  match args.getLast? with
  | some (.table t) =>
    match Act.shownMeta s (.table t) with
    | .table m => if m == s.optionsMark then (args.dropLast, some t) else (args, none)
    | _ => (args, none)
  | _ => (args, none)

/-- A call in which no metamethod has a say in what the last argument is. -/
def called (inv : Invocation) (module : Nat) (name : String) : Act (List Value) := do
  let (args, options) ← Act.read (splitOptions · inv.args)
  answered (.invoke module name args options)

/-- The last argument with what it shows for its metatable, if that is another table than the mark of options and a metamethod is asked
whether the two are equal. -/
def lookalike? (s : Store) (args : List Value) : Option (TableId × TableId) :=
  match args.getLast? with
  | some (.table t) =>
    match Act.shownMeta s (.table t) with
    | .table m =>
      if m == s.optionsMark then none
      else match s.metaEntry (.table m) "__eq", s.metaEntry (.table s.optionsMark) "__eq" with
        | .nil, .nil => none
        | _, _ => some (t, m)
    | _ => none
  | _ => none

/-- Calls a function of a module. What the last argument shows for its metatable is compared with the mark of options as scripts compare
tables. -/
def builtin (inv : Invocation) (module : Nat) (name : String) : Act (List Value) := do
  match ← Act.read (lookalike? · inv.args) with
  | none => inv.called module name
  | some (t, m) =>
    let mark ← Act.read (·.optionsMark)
    if ← Act.equal .hidden (.table m) (.table mark) then answered (.invoke module name inv.args.dropLast (some t))
    else answered (.invoke module name inv.args none)

/-- Marks a table as options of a call. -/
def kw (inv : Invocation) : Act (List Value) := do
  match inv.get 1 with
  | .nil => do
    let t ← Act.modifyGet fun s => s.newTable { meta? := some s.optionsMark }
    return [.table t]
  | .table t => do
    let mark ← Act.read (·.optionsMark)
    setMeta none t (some mark)
  | _ => inv.fail "kw expects a table"

/-- Joins texts with tabulators. -/
def joined : List ByteArray → ByteArray
  | [] => ByteArray.empty
  | [s] => s
  | s :: rest => s ++ "\t".toUTF8 ++ joined rest

def texts : List Value → Act (List ByteArray)
  | [] => pure []
  | v :: vs => do
    let s ← Act.stableText v
    return s :: (← texts vs)

def print (inv : Invocation) : Act (List Value) := do
  let parts ← texts inv.args
  match ← Act.host (.log (joined parts)) with
  | .error v => Act.raise v
  | _ => return []

/-- The names of a module, or the keys of a table in order. -/
def dir (inv : Invocation) : Act (List Value) := do
  match inv.get 1 with
  | .table t =>
    match ← Act.read (·.modules.lookup t) with
    | some m => answered (.names m)
    | none => return [← Act.newTable (.ofList (← Act.table t).sortedKeys)]
  | _ => inv.fail "dir expects a table or module"

end Invocation

end ScriptFlow.Script
