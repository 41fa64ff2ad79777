import ScriptFlow.Plugin.Catalogue
import ScriptFlow.Simulation.Primitives

/-!
# Trying plugin sets

What a set of plugins looks like from outside: its IDs, what it brings to a fresh worker, and the modules of a run.
-/

namespace ScriptFlow

namespace PluginSet

/-- A view of a set: which of some IDs it contains, its registrations and its modules. -/
def describe (s : PluginSet Simulator) (asked : List String) (environ : List (Data × Data)) : Data :=
  let names (ns : List String) : Data := .list (ns.map .str)
  let registered := s.register {}
  let registry := registered.toOption.getD {}
  let again := match registered with
    | .error e => e.report
    | .ok r =>
      match s.register r with
      | .error e => e.report
      | .ok _ => .null
  let modules := s.createModules (Simulator.enginePrimitives s) {} environ 0
  .object
    [("ids", names s.ids), ("len", .int s.ids.length), ("contains", .list (asked.map fun id => .bool (s.contains id))),
     ("read_only", .bool true), ("workflows", names registry.workflows.names), ("activities", names registry.activities.names),
     ("again", again),
     ("modules", .list (modules.map fun m => .list [.str m.1, .str m.2.name, names m.2.attributes.names]))]

end PluginSet

namespace Attributes

/-- What names stand for: a function that shows how it is called, a property, or an error. -/
def describe (a : Attributes Data Data) (receiver : String) (asked : List String) (shown : String → Data → Data) : Data :=
  .list (asked.map fun name => match a.resolve receiver name with
    | .ok (.builtin name b) => shown name b
    | .ok (.property d) => .object [("property", d.toNotation)]
    | .error e => e.report)

end Attributes

end ScriptFlow
