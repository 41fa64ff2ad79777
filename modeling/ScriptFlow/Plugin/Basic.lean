import ScriptFlow.Plugin.Module
import ScriptFlow.Text.Identifier
import ScriptFlow.Workflow.Primitives

/-!
# Plugins and plugin sets

A plugin adds functions to a worker, once, and a module to every script run. Its ID is also the global name of the module, so it must be an identifier and
none of the names that scripts have anyway. A plugin set is checked when it is made and does not change.

`PluginSet.ofEntries` accepts exactly the lists of plugins whose keys are their IDs, whose IDs are distinct identifiers, and none of which
is reserved; of several faults the first in order is reported.
-/

namespace ScriptFlow

/-- What a plugin is told about the script run its module is for. -/
structure RunInfo where
  identity : Identity
  environ : List (Data × Data)
  /-- the run whose storage the module shares -/
  run : Nat
  /-- tells the modules of a run apart -/
  number : Nat

structure Plugin (ε : Type) where
  id : String
  registrations : List (RegistrationKind × Callable) := []
  create : Primitives ε → RunInfo → Module ε

/-- Names that scripts have without any plugin. -/
def reservedGlobals : List String :=
  ["assert", "error", "ipairs", "pcall", "xpcall", "select", "tonumber", "tostring", "type", "rawequal", "rawget", "rawlen", "rawset",
   "setmetatable", "getmetatable", "pairs", "unpack", "string", "table", "utf8", "math", "print", "kw", "dir", "require", "_VERSION"]

structure PluginSet (ε : Type) where
  plugins : List (Plugin ε) := []

namespace PluginSet

variable {ε : Type}

def ids (s : PluginSet ε) : List String := s.plugins.map (·.id)

def contains (s : PluginSet ε) (id : String) : Bool := s.ids.contains id

def pluginError (message : String) : Fault := .error .plugin message

/-- Checks one more plugin under a key. -/
def check (s : PluginSet ε) (key : String) (p : Plugin ε) : Except Fault Unit :=
  if key != p.id then .error (pluginError ("plugin registered as '" ++ key ++ "' has ID '" ++ p.id ++ "'"))
  else if !Text.isIdentifier p.id then
    .error (pluginError ("plugin ID " ++ Text.quoted p.id ++ " is not a valid identifier"))
  else if reservedGlobals.contains p.id then
    .error (pluginError ("plugin ID '" ++ p.id ++ "' shadows a script builtin"))
  else if s.contains p.id then
    .error (.error .duplicatePlugin ("duplicate plugin ID '" ++ p.id ++ "'"))
  else .ok ()

/-- Adds plugins under keys one after the other. -/
def extend (s : PluginSet ε) : List (String × Plugin ε) → Except Fault (PluginSet ε)
  | [] => .ok s
  | (key, p) :: rest => do
    s.check key p
    extend ⟨s.plugins ++ [p]⟩ rest

def ofEntries (entries : List (String × Plugin ε)) : Except Fault (PluginSet ε) := extend {} entries

/-- A set of plugins without keys of their own. -/
def ofList (plugins : List (Plugin ε)) : Except Fault (PluginSet ε) := ofEntries (plugins.map fun p => (p.id, p))

/-- Registers what the plugins bring. -/
def register (s : PluginSet ε) (r : Registry) : Except Fault Registry :=
  (s.plugins.flatMap (·.registrations)).foldlM (fun r (kind, c) => r.register kind c { name := c.shortName }) r

/-- The modules of a script run. -/
def createModules (s : PluginSet ε) (w : Primitives ε) (identity : Identity) (environ : List (Data × Data)) (run : Nat) :
    List (String × Module ε) :=
  s.plugins.zipIdx.map fun (p, i) => (p.id, p.create w { identity := identity, environ := environ, run := run, number := i })

end PluginSet

end ScriptFlow
