import ScriptFlow.Script.Library.Modules
import ScriptFlow.Script.Library.Numbers
import ScriptFlow.Script.Library.Strings
import ScriptFlow.Script.Library.Tables

/-!
# The script machine

A machine is a store, the program under way and a stack of frames. `Machine.step` is one step of it; it runs until the script ends, fails, or asks its host for something
(`Progress`). In the last case the machine is kept as a `Suspension`, a plain value that goes on with `Suspension.reply` when the
answer is there, however much later that is.

* A call pushes a frame with what comes after it; a call in the place of the function under way pushes none.
* An error first meets the handler of the youngest guarded call, on top of the stack as it is, and then unwinds the stack down to that call.
* A script that is being loaded has a frame of its own, so an error on the way out marks it as not loaded.
-/

namespace ScriptFlow.Script

/-! ### Native functions -/

namespace TextFunction

def name : TextFunction → String
  | byte => "byte"
  | char => "char"
  | dump => "dump"
  | find => "find"
  | format => "format"
  | gmatch => "gmatch"
  | gsub => "gsub"
  | len => "len"
  | lower => "lower"
  | matchOne => "match"
  | pack => "pack"
  | packsize => "packsize"
  | rep => "rep"
  | reverse => "reverse"
  | sub => "sub"
  | unpack => "unpack"
  | upper => "upper"

def all : List TextFunction :=
  [byte, char, dump, find, format, gmatch, gsub, len, lower, matchOne, pack, packsize, rep, reverse, sub, unpack, upper]

end TextFunction

namespace TableFunction

def name : TableFunction → String
  | concat => "concat"
  | insert => "insert"
  | move => "move"
  | pack => "pack"
  | remove => "remove"
  | sort => "sort"
  | unpack => "unpack"

def all : List TableFunction := [concat, insert, move, pack, remove, sort, unpack]

end TableFunction

namespace MathFunction

def name : MathFunction → String
  | abs => "abs"
  | acos => "acos"
  | asin => "asin"
  | atan => "atan"
  | ceil => "ceil"
  | cos => "cos"
  | deg => "deg"
  | exp => "exp"
  | floor => "floor"
  | fmod => "fmod"
  | log => "log"
  | max => "max"
  | min => "min"
  | modf => "modf"
  | rad => "rad"
  | sin => "sin"
  | sqrt => "sqrt"
  | tan => "tan"
  | tointeger => "tointeger"
  | type => "type"
  | ult => "ult"

def all : List MathFunction :=
  [abs, acos, asin, atan, ceil, cos, deg, exp, floor, fmod, log, max, min, modf, rad, sin, sqrt, tan, tointeger, type, ult]

end MathFunction

namespace Utf8Function

def name : Utf8Function → String
  | char => "char"
  | codepoint => "codepoint"
  | codes => "codes"
  | len => "len"
  | offset => "offset"

def all : List Utf8Function := [char, codepoint, codes, len, offset]

end Utf8Function

namespace Native

/-- The full name of a function, for errors at places where nothing is known about the call. -/
def own : Native → String
  | assert => "assert"
  | error => "error"
  | ipairs => "ipairs"
  | pcall => "pcall"
  | xpcall => "xpcall"
  | select => "select"
  | tonumber => "tonumber"
  | rawequal => "rawequal"
  | rawget => "rawget"
  | rawlen => "rawlen"
  | rawset => "rawset"
  | setmetatable => "setmetatable"
  | getmetatable => "getmetatable"
  | type => "type"
  | text f => "string." ++ f.name
  | table f => "table." ++ f.name
  | math f => "math." ++ f.name
  | utf8 f => "utf8." ++ f.name
  | _ => "?"

/-- Functions that behave as if they were written as scripts: as a last call they take the place of their caller. -/
def isScripted : Native → Bool
  | tostring | pairs | pairsNext .. | print | kw | dir | require | moduleIndex _ | moduleAssign | moduleText _ | builtin .. => true
  | _ => false

/-- What a native function does. -/
def run (f : Native) (inv : Invocation) : Act (List Value) := do
  match f with
  | assert => inv.assert
  | error => inv.error
  | ipairs => do
    let v ← inv.any 1
    return [← Act.newNative .ipairsNext, v, intValue 0]
  | ipairsNext => inv.ipairsNext
  | pcall => do
    discard (inv.any 1)
    match ← Act.guard (inv.get 1) (inv.args.drop 1) none with
    | .ok vs => return .bool true :: vs
    | .error e => return [.bool false, e]
  | xpcall => do
    match inv.get 2 with
    | .function _ => pure ()
    | _ => inv.expected 2 "function"
    match ← Act.guard (inv.get 1) (inv.args.drop 2) (some (inv.get 2)) with
    | .ok vs => return .bool true :: vs
    | .error e => return [.bool false, e]
  | select => inv.select
  | tonumber => inv.tonumber
  | tostring => do return [.str (← Act.stableText (inv.get 1))]
  | type => do return [.ofText (← inv.any 1).typeName]
  | rawequal => do
    discard (inv.any 1)
    discard (inv.any 2)
    return [.bool ((inv.get 1).rawEq (inv.get 2))]
  | rawget => inv.rawget
  | rawlen => inv.rawlen
  | rawset => inv.rawset
  | setmetatable => inv.setmetatable
  | getmetatable => inv.getmetatable
  | pairs => inv.pairs
  | pairsNext subject keys position => Invocation.pairsNext subject keys position
  | print => inv.print
  | kw => inv.kw
  | dir => inv.dir
  | require => inv.require
  | text f => inv.runText f
  | table f => inv.runTable f
  | math f => inv.runMath f
  | utf8 f => inv.runUtf8 f
  | gmatchNext s p position last => inv.gmatchNext s p position last
  | codesNext lax => inv.codesNext lax
  | textArith op => inv.runTextArith op
  | moduleIndex m => inv.moduleIndex m
  | moduleAssign => inv.moduleAssign
  | moduleText m => do return [.ofText (← Act.read fun s => (s.moduleTexts[m]?).getD "")]
  | builtin m name => inv.builtin m name

end Native

/-! ### Frames and steps -/

/-- What waits below the program under way. -/
inductive Frame where
  /-- a function under way: what comes after it, from where it was called, whether the script may pause in it, how many frames are
  below and how many of them go through the machine's own functions -/
  | call (next : List Value → Prog) (site : Site) (blocks : Bool) (depth nested : Nat)
  /-- a call whose errors come back as values, with a handler that sees them first -/
  | guard (handler : Option Value) (next : Except Value (List Value) → Prog)
  /-- a value that is told when its block is left -/
  | closing (v : Value)
  /-- a script that is being loaded, with its globals -/
  | loading (path : String) (globals : TableId)

structure Machine where
  store : Store
  focus : Prog
  frames : List Frame

/-- A machine that waits for its host. -/
structure Suspension where
  store : Store
  frames : List Frame
  next : HostReply → Prog

/-- What has become of a machine. -/
inductive Progress where
  | running (m : Machine)
  | finished (store : Store) (vs : List Value)
  | failed (store : Store) (e : Value)
  | asking (request : HostCall) (s : Suspension)

namespace Machine

/-- The deepest stack of calls. -/
def maxDepth : Nat := 200000

/-- The deepest stack of calls that go through the machine's own functions. -/
def maxNested : Nat := 195

/-- How much deeper a handler of errors may go. -/
def handlerRoom : Nat := 20

/-- How many calls are under way, and how many of them go through the machine's own functions. -/
def depths : List Frame → Nat × Nat
  | .call _ _ _ depth nested :: _ => (depth, nested)
  | _ :: rest => depths rest
  | [] => (0, 0)

/-- The places from which the functions under way were called. -/
def places : List Frame → List Site
  | .call _ site _ _ _ :: rest => site :: places rest
  | _ :: rest => places rest
  | [] => []

/-- The handler of the youngest guarded call. -/
def handler? : List Frame → Option Value
  | .guard h _ :: _ => h
  | .loading .. :: _ => none
  | _ :: rest => handler? rest
  | [] => none

/-- Can the script pause? -/
def canPause (frames : List Frame) : Bool := frames.all fun
  | .call _ _ blocks _ _ => !blocks
  | _ => true

/-- What a value does when it is called: a function, with the value itself in front of the arguments for every metatable on the way. -/
def callee (s : Store) : Nat → Value → List Value → Option (FunctionId × List Value)
  | _, .function f, args => some (f, args)
  | 0, _, _ => none
  | fuel + 1, v, args =>
    match s.metaEntry v "__call" with
    | .nil => none
    | h => callee s fuel h (v :: args)

/-- A frame on top of others. -/
def callFrame (frames : List Frame) (next : List Value → Prog) (how : CallSite) : Frame :=
  let (depth, nested) := depths frames
  .call next how.site how.blocks (depth + 1) (nested + if how.nests then 1 else 0)

/-- The program of a function, and the store with its parameters. -/
def enter (s : Store) (f : FunctionId) (args : List Value) (site : Site) (naming : Option Naming) : Store × Prog :=
  match s.function? f with
  | some (.closure params takesMore body environment chunk) =>
    let (s, cells) := s.newCells (adjust params args) environment
    (s, Stat.body body ⟨cells, if takesMore then args.drop params else [], chunk⟩)
  | some (.native g) => (s, (g.run ⟨args, site, naming, g.own⟩).toProg)
  | none => (s, .done [])

/-- Does a function called last take the place of its caller? -/
def replacesCaller (s : Store) (f : FunctionId) : Bool :=
  match s.function? f with
  | some (.native g) => g.isScripted
  | _ => true

/-- The error for a value that cannot be called. -/
def callError (s : Store) (v : Value) (how : CallSite) : Store × Prog :=
  match v with
  | .object _ d =>
    let (s, e) := s.newObject (.fault (.error .misuse ("'" ++ d.typeName ++ "' object is not callable")))
    (s, .raise e)
  | v =>
    (s, .raise (how.site.text ("attempt to call a ".toUTF8 ++ s.typeName v ++ " value".toUTF8 ++ Act.namingText how.naming)))

/-- Calls a value. -/
def call (m : Machine) (v : Value) (args : List Value) (how : CallSite) (next : List Value → Prog) : Machine :=
  let frame := callFrame m.frames next how
  match callee m.store 100 v args with
  | some (f, args) =>
    match frame with
    | .call _ _ _ depth nested =>
      if depth > maxDepth + handlerRoom * 10 || nested > maxNested + handlerRoom then
        { m with focus := .unwind (.ofText "error in error handling") }
      else if depth == maxDepth then { m with frames := frame :: m.frames, focus := .raise (how.site.text "stack overflow".toUTF8) }
      else if nested == maxNested && how.nests then
        { m with frames := frame :: m.frames, focus := .raise (how.site.text "C stack overflow".toUTF8) }
      else
        let frames := m.frames
        let (s, p) := enter m.store f args how.site how.naming
        { store := s, focus := p, frames := frame :: frames }
    | _ => { m with focus := .done [] }
  | none =>
    let frames := m.frames
    let (s, p) := callError m.store v how
    { store := s, focus := p, frames := frames }

/-- Calls a value in the place of the function under way. -/
def pass (m : Machine) (v : Value) (args : List Value) (how : CallSite) : Machine :=
  match callee m.store 100 v args, m.frames with
  | some (f, passed), .call _ site _ _ _ :: _ =>
    if replacesCaller m.store f then
      let frames := m.frames
      let (s, p) := enter m.store f passed site none
      { store := s, focus := p, frames := frames }
    else call m v args how .done
  | _, _ => call m v args how .done

/-- Tells a value that its block is left, and goes on. -/
def tell (m : Machine) (v : Value) (e : Value) (how : CallSite) (next : Prog) : Machine :=
  let h := m.store.metaEntry v "__close"
  call m h [v, e] { how with naming := some (.ofText "metamethod" "close") } fun _ => next

/-- The function under way has ended. -/
def finish (store : Store) (vs : List Value) : List Frame → Progress
  | [] => .finished store vs
  | .call next _ _ _ _ :: rest => .running ⟨store, next vs, rest⟩
  | .guard _ next :: rest => .running ⟨store, next (.ok vs), rest⟩
  | .closing v :: rest => .running (tell ⟨store, .done vs, rest⟩ v .nil { nests := true } (.done vs))
  | .loading path globals :: rest =>
    let (loader, kept) := store.loader.finish path globals (first vs)
    .running ⟨{ store with loader := loader }, .done [kept], rest⟩

/-- An error leaves the topmost frame. -/
def unwind (store : Store) (e : Value) : List Frame → Progress
  | [] => .failed store e
  | .call .. :: rest => .running ⟨store, .unwind e, rest⟩
  | .guard _ next :: rest => .running ⟨store, next (.error e), rest⟩
  | .closing v :: rest => .running (tell ⟨store, .unwind e, rest⟩ v e { nests := true } (.unwind e))
  | .loading path _ :: rest =>
    .running ⟨{ store with loader := store.loader.drop path }, .raise e, rest⟩

/-- One step. -/
def step (m : Machine) : Progress :=
  let { store, focus, frames } := m
  match focus with
  | .done vs => finish store vs frames
  | .raise e =>
    match handler? frames with
    | none => unwind store e frames
    | some h =>
      .running (call ⟨store, .done [], frames⟩ h [e] { blocks := true, nests := true } fun vs => .unwind (first vs))
  | .unwind e => unwind store e frames
  | .touch f =>
    let (store, p) := f store
    .running ⟨store, p, frames⟩
  | .call v args how next => .running (call ⟨store, .done [], frames⟩ v args how next)
  | .pass v args how => .running (pass ⟨store, .done [], frames⟩ v args how)
  | .guard v args handler next =>
    .running (call ⟨store, .done [], .guard handler next :: frames⟩ v args { nests := true } .done)
  | .places next => .running ⟨store, next (places frames), frames⟩
  | .host request next => .asking request ⟨store, frames, next⟩
  | .load path body globals =>
    let (store, cell) := store.newCell (.table globals)
    let frames := .loading path globals :: frames
    let frames := callFrame frames .done {} :: frames
    let frames := callFrame frames .done { nests := true } :: frames
    .running ⟨store, Stat.body body ⟨[cell], [], chunkName path⟩, frames⟩
  | .run all rest scope exits => .running ⟨store, runBlock all rest scope exits, frames⟩
  | .opened v next => .running ⟨store, next, .closing v :: frames⟩
  | .closed how next =>
    match frames with
    | .closing v :: rest => .running (tell ⟨store, .done [], rest⟩ v .nil how next)
    | frames => .running ⟨store, next, frames⟩

/-- Runs until the script ends or asks; `none` when the steps do not suffice. -/
def run : Nat → Machine → Option Progress
  | 0, _ => none
  | fuel + 1, m =>
    match m.step with
    | .running m => run fuel m
    | p => some p

/-- A machine that calls a value. -/
def start (store : Store) (v : Value) (args : List Value) : Machine :=
  { store := store, focus := .call v args {} .done, frames := [] }

end Machine

/-- The machine goes on with the host's answer. -/
def Suspension.reply (s : Suspension) (r : HostReply) : Machine := ⟨s.store, s.next r, s.frames⟩

/-- Can the script wait for the answer? -/
def Suspension.canPause (s : Suspension) : Bool := Machine.canPause s.frames

end ScriptFlow.Script
