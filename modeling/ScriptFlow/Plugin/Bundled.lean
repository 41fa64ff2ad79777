import ScriptFlow.Digest
import ScriptFlow.Json.Reader
import ScriptFlow.Json.Writer
import ScriptFlow.Plugin.Basic

/-!
# Plugins of their own

The bundled plugins that ask the engine for nothing but a query: digests, JSON and progress.
-/

namespace ScriptFlow

/-! ### Digests for scripts

`hashlib.sha256(text)` and its siblings give the digest of a text in UTF-8, or of bytes, in hexadecimal digits.
-/

namespace Hashes

def algorithms : List (String × (ByteArray → String)) :=
  [("md5", Digest.md5), ("sha1", Digest.sha1), ("sha256", Digest.sha256), ("sha512", Digest.sha512)]

/-- The bytes of a text or of bytes. -/
def message (algorithm : String) (d : Data) : Except Fault ByteArray :=
  match d with
  | .str s => .ok s.toUTF8
  | .bytes bs => .ok bs
  | .looseText cs => .error (Utf8.encodeFault cs)
  | d => .error (.error .wrongType (algorithm ++ ": expected string, got " ++ d.typeName))

variable {ε : Type}

def digest (algorithm : String) (f : ByteArray → String) : Builtin ε :=
  .fixed [("data", none)] fun _ args => do
    return .now (.str (f (← Flow.ofExcept (message algorithm (args.headD .null)))))

def plugin : Plugin ε :=
  { id := "hashlib"
    create := fun _ _ =>
      { name := "hashlib", attributes := { builtins := algorithms.map fun a => (a.1, digest a.1 a.2) } } }

end Hashes

/-! ### JSON for scripts

`json.dumps(value)` writes a value with its keys in order, so that the text does not depend on how tables were built; `json.loads(text)` reads one. An indent
breaks the text into lines: a count of blanks, or the text to indent with.
-/

namespace JsonText

/-- The text of one level of indentation. -/
def indentText (indent : Data) : Except Fault (Option String) :=
  let blanks (n : Int) : Option String := some (String.ofList (List.replicate n.toNat ' '))
  match indent with
  | .null => .ok none
  | .str s => .ok (some s)
  | .int n => .ok (blanks n)
  | .bool b => .ok (blanks (if b then 1 else 0))
  | _ => .error (.error .misuse "an indent is a count or a text")

/-- An indent that is nothing, zero or empty leaves out the blanks after separators. -/
def style (indent : Data) : Except Fault JsonStyle := do
  let text ← indentText indent
  return if indent.truthy then { sortKeys := true, indent := text, itemSeparator := "," }
    else { compactSorted with indent := text }

def dumps (value indent : Data) : Except Fault Data :=
  match value with
  | .str s => .ok (.str (Json.stringText s))
  | value => do return .str (← Json.write (← style indent) value)

def loads (d : Data) : Except Fault Data :=
  match d with
  | .str s => (Json.read s).mapError (·.fault s)
  | d => .error (.error .wrongType ("loads: expected string, got " ++ d.typeName))

variable {ε : Type}

def builtins : List (String × Builtin ε) :=
  [("dumps", .fixed [("value", none), ("indent", some .null)] fun _ args => do
      return .now (← Flow.ofExcept (dumps (args.headD .null) ((args[1]?).getD .null)))),
   ("loads", .fixed [("text", none)] fun _ args => do return .now (← Flow.ofExcept (loads (args.headD .null))))]

def plugin : Plugin ε :=
  { id := "json", create := fun _ _ => { name := "json", attributes := { builtins := builtins } } }

end JsonText

/-! ### Progress of a script

`progress.report(value)` keeps the latest value in the storage of the run and answers the query `progress` with it; `progress.value` reads it back. The query
gets its handler with the first report, because making a module must not ask anything from the engine.
-/

namespace Progress

def queryName : String := "progress"

/-- Where the value is kept. -/
def valueKey : Data := .str "progress.value"

/-- Where it is kept that the handler is there. -/
def handlerKey : Data := .str "progress.handler"

variable {ε : Type}

def stored (run : Nat) (key : Data) : Play ε Data := do
  return (Data.lookup? (← Play.run run).storage key).getD .null

def store (run : Nat) (key value : Data) : Play ε Unit :=
  Play.modifyRun run fun r => { r with storage := Data.insertKey r.storage key value }

def report (w : Primitives ε) : Builtin ε := .fixed [("value", none)] fun thread args => do
  store thread.run valueKey (args.headD .null)
  unless (← stored thread.run handlerKey).truthy do
    w.setQueryHandler thread.context queryName (.stored thread.run valueKey)
    store thread.run handlerKey (.bool true)
  return .now .null

def plugin : Plugin ε :=
  { id := "progress"
    create := fun w info =>
      { name := "progress"
        attributes := { builtins := [("report", report w)], properties := [("value", stored info.run valueKey)] } } }

end Progress

end ScriptFlow
