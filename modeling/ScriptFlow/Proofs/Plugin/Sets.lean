import Mathlib
import ScriptFlow.Durable.Primitives
import ScriptFlow.Plugin.Catalogue
import ScriptFlow.Proofs.Script.Globals

/-!
# Plugin sets and their names in scripts

A plugin set is made from plugins under keys. It is accepted or not by what the plugins are called, and every ID is the name of a module in the scripts of a
run.

* `PluginSet.Acceptable` — what is asked of the IDs; `PluginSet.exists_ofEntries_iff` — **a list is accepted exactly if it meets this**.
* `mem_reservedGlobals_iff` — the reserved names are the standard names of scripts.
* `PluginSet.names_and_globals` — **which IDs are accepted, and what they and the standard names mean in scripts**.
* `PluginSet.accepts_reserved_word` — an ID that no script can write is accepted.
-/

namespace ScriptFlow

open Script

/-! ## Reserved names -/

/-- **The reserved names are the standard names of scripts.** -/
theorem mem_reservedGlobals_iff (name : String) : name ∈ reservedGlobals ↔ Environment.standardStore.shared name ≠ .nil := by
  constructor
  · have hall : (reservedGlobals.all fun name => (Environment.standardStore.shared name).typeName != "nil") = true := by decide +kernel
    intro h hnil
    have hname := List.all_eq_true.mp hall name h
    rw [hnil] at hname
    cases hname
  · have hkeys : ((Environment.standardStore.table Environment.standardStore.base).entries.all fun e =>
        (Act.plainText? e.1).any fun s => reservedGlobals.any fun name => name.toUTF8.data == s.data) = true := by decide +kernel
    intro h
    obtain ⟨e, he, hkey⟩ := Table.exists_key_of_find h
    have hname := List.all_eq_true.mp hkeys e he
    rw [hkey] at hname
    obtain ⟨reserved, hmem, hdata⟩ := List.any_eq_true.mp hname
    obtain rfl : reserved = name := String.toByteArray_inj.mp (ByteArray.ext (eq_of_beq hdata))
    exact hmem

/-- The reserved names are names that scripts can use. -/
theorem isName_of_mem_reservedGlobals : ∀ name ∈ reservedGlobals, Lexer.IsName name.toUTF8.toList ∧ name ≠ "_ENV" := by decide +kernel

namespace PluginSet

variable {ε : Type} {s set : PluginSet ε} {entries : List (String × Plugin ε)}

/-! ## What is accepted -/

theorem check_ok_iff {key : String} {p : Plugin ε} :
    s.check key p = .ok () ↔ key = p.id ∧ Text.isIdentifier p.id = true ∧ p.id ∉ reservedGlobals ∧ p.id ∉ s.ids := by
  unfold check contains
  split_ifs <;> simp_all

/-- What is asked of the IDs of plugins under keys. -/
structure Acceptable (entries : List (String × Plugin ε)) : Prop where
  keyed : ∀ e ∈ entries, e.1 = e.2.id
  distinct : (entries.map fun e => e.2.id).Nodup
  identifiers : ∀ e ∈ entries, Text.isIdentifier e.2.id = true
  unreserved : ∀ e ∈ entries, e.2.id ∉ reservedGlobals

theorem acceptable_nil : Acceptable ([] : List (String × Plugin ε)) := ⟨by simp, by simp, by simp, by simp⟩

theorem acceptable_cons {key : String} {p : Plugin ε} : Acceptable ((key, p) :: entries) ↔
    (key = p.id ∧ Text.isIdentifier p.id = true ∧ p.id ∉ reservedGlobals) ∧ (∀ e ∈ entries, e.2.id ≠ p.id) ∧ Acceptable entries := by
  constructor
  · rintro ⟨hkeyed, hdistinct, hidentifiers, hunreserved⟩
    obtain ⟨hp, hrest⟩ := List.nodup_cons.mp hdistinct
    refine ⟨⟨hkeyed _ (.head _), hidentifiers _ (.head _), hunreserved _ (.head _)⟩, fun e he heq => hp (List.mem_map.mpr ⟨e, he, heq⟩), ?_, hrest, ?_, ?_⟩
    · exact fun e he => hkeyed e (.tail _ he)
    · exact fun e he => hidentifiers e (.tail _ he)
    · exact fun e he => hunreserved e (.tail _ he)
  · rintro ⟨⟨hkey, hidentifier, hfree⟩, hother, hkeyed, hdistinct, hidentifiers, hunreserved⟩
    refine ⟨List.forall_mem_cons.mpr ⟨hkey, hkeyed⟩, List.nodup_cons.mpr ⟨fun hmem => ?_, hdistinct⟩, List.forall_mem_cons.mpr ⟨hidentifier, hidentifiers⟩,
      List.forall_mem_cons.mpr ⟨hfree, hunreserved⟩⟩
    obtain ⟨e, he, heq⟩ := List.mem_map.mp hmem
    exact hother e he heq

/-- Plugins are added in their order, if their IDs are acceptable and none of them is there already. -/
theorem extend_ok_iff : s.extend entries = .ok set ↔
    Acceptable entries ∧ (∀ e ∈ entries, e.2.id ∉ s.ids) ∧ set.plugins = s.plugins ++ entries.map Prod.snd := by
  induction entries generalizing s with
  | nil =>
    obtain ⟨plugins⟩ := s
    obtain ⟨plugins'⟩ := set
    simp [extend, acceptable_nil, eq_comm]
  | cons e entries ih =>
    obtain ⟨key, p⟩ := e
    have hids : (⟨s.plugins ++ [p]⟩ : PluginSet ε).ids = s.ids ++ [p.id] := by simp [ids]
    have hstep : s.extend ((key, p) :: entries) = .ok set ↔ s.check key p = .ok () ∧ extend ⟨s.plugins ++ [p]⟩ entries = .ok set := by
      rw [extend, Store.bind_ok_iff]
      exact ⟨fun ⟨_, hcheck, hrest⟩ => ⟨hcheck, hrest⟩, fun ⟨hcheck, hrest⟩ => ⟨(), hcheck, hrest⟩⟩
    rw [hstep, check_ok_iff, ih, acceptable_cons, hids]
    simp only [List.forall_mem_cons, List.map_cons, List.append_assoc, List.singleton_append, List.mem_append, List.mem_singleton, not_or]
    constructor
    · rintro ⟨⟨hkey, hidentifier, hfree, hnew⟩, hacceptable, hothers, hplugins⟩
      exact ⟨⟨⟨hkey, hidentifier, hfree⟩, fun e he => (hothers e he).2, hacceptable⟩, ⟨hnew, fun e he => (hothers e he).1⟩, hplugins⟩
    · rintro ⟨⟨⟨hkey, hidentifier, hfree⟩, hother, hacceptable⟩, ⟨hnew, hnews⟩, hplugins⟩
      exact ⟨⟨hkey, hidentifier, hfree, hnew⟩, hacceptable, fun e he => ⟨hnews e he, hother e he⟩, hplugins⟩

/-- **A list of plugins is accepted exactly if it is acceptable**, and the set has them in their order. -/
theorem ofEntries_ok_iff : ofEntries entries = .ok set ↔ Acceptable entries ∧ set.plugins = entries.map Prod.snd := by
  rw [ofEntries, extend_ok_iff]
  simp [ids]

/-! ## What the names mean -/

/-- Plugins under keys whose IDs can all be written in scripts. -/
structure Writable (entries : List (String × Plugin ε)) : Prop where
  keyed : ∀ e ∈ entries, e.1 = e.2.id
  distinct : (entries.map fun e => e.2.id).Nodup
  names : ∀ e ∈ entries, Lexer.IsName e.2.id.toUTF8.toList
  unshared : ∀ e ∈ entries, Environment.standardStore.shared e.2.id = .nil

theorem writable_iff : Writable entries ↔ Acceptable entries ∧ ∀ e ∈ entries, Lexer.IsName e.2.id.toUTF8.toList := by
  constructor
  · rintro ⟨hkeyed, hdistinct, hnames, hunshared⟩
    exact ⟨⟨hkeyed, hdistinct, fun e he => isIdentifier_of_isName (hnames e he), fun e he hmem => (mem_reservedGlobals_iff _).mp hmem (hunshared e he)⟩, hnames⟩
  · rintro ⟨⟨hkeyed, hdistinct, -, hunreserved⟩, hnames⟩
    exact ⟨hkeyed, hdistinct, hnames, fun e he => by_contra fun hne => hunreserved e he ((mem_reservedGlobals_iff _).mpr hne)⟩

/-- Every plugin has its module in its place. -/
theorem createModules_getElem? (set : PluginSet ε) (w : Primitives ε) (identity : Identity) (environ : List (Data × Data)) (run i : Nat) :
    (set.createModules w identity environ run)[i]? =
      set.plugins[i]?.map fun p => (p.id, p.create w { identity := identity, environ := environ, run := run, number := i }) := by
  rw [createModules, List.getElem?_map, List.getElem?_zipIdx, Option.map_map, Nat.zero_add]
  rfl

theorem createModules_ids (w : Primitives ε) (identity : Identity) (environ : List (Data × Data)) (run : Nat) :
    ((set.createModules w identity environ run).map fun m => (m.1, m.2.name)).map Prod.fst = set.ids := by
  refine List.ext_getElem? fun i => ?_
  rw [List.getElem?_map, List.getElem?_map, createModules_getElem?, ids, List.getElem?_map]
  cases set.plugins[i]? <;> rfl

/-- **IDs of plugins and globals of scripts.** For all plugins under keys:

* they are accepted exactly if every key is the ID of its plugin and the IDs are distinct identifiers, none of them a standard name of scripts;
* this does not ask for names that scripts can use: it holds of all plugins whose IDs are such names and have no meaning in scripts yet, and of others;
* the set has the plugins in their order, and an ID that is no name of scripts stands in no script as a name;
* in every environment with the modules of the set, an ID that is a name means the module that its own plugin made, which answers for its attributes, unless it is
  the name of the environment, which no module can take;
* every standard name means what it means without modules. -/
theorem names_and_globals (entries : List (String × Plugin ε)) :
    ((∃ set, ofEntries entries = .ok set) ↔ Acceptable entries) ∧
    (Writable entries ↔ Acceptable entries ∧ ∀ e ∈ entries, Lexer.IsName e.2.id.toUTF8.toList) ∧
    ∀ set, ofEntries entries = .ok set → set.plugins = entries.map Prod.snd ∧
      (∀ p ∈ set.plugins, ¬Lexer.IsName p.id.toUTF8.toList → ∀ chunk text line, ⟨.name p.id.toUTF8, line⟩ ∉ Token.scanAll chunk text) ∧
      ∀ w identity environ run sources env,
        Environment.create sources ((set.createModules w identity environ run).map fun m => (m.1, m.2.name)) = .ok env →
        (∀ i p, set.plugins[i]? = some p → Lexer.IsName p.id.toUTF8.toList → p.id ≠ "_ENV" → env.Denotes p.id fun store v => ∃ t, v = .table t ∧
          (t, i) ∈ env.store.modules ∧ (set.createModules w identity environ run)[i]? =
            some (p.id, p.create w { identity := identity, environ := environ, run := run, number := i }) ∧
          ∀ c naming key next frames, Machine.Resolves ⟨store, Act.index c naming v key next, frames⟩ i key next) ∧
        (env.Denotes "_ENV" fun _ v => ∃ globals, v = .table globals ∧ ∀ i, (globals, i) ∉ env.store.modules) ∧
        (∀ name ∈ reservedGlobals, env.Denotes name fun _ v => v = Environment.standardStore.shared name ∧ v ≠ .nil) ∧
        Build.Extends Environment.standardStore env.store := by
  refine ⟨⟨fun ⟨set, hset⟩ => (ofEntries_ok_iff.mp hset).1, fun h => ⟨⟨entries.map Prod.snd⟩, ofEntries_ok_iff.mpr ⟨h, rfl⟩⟩⟩, writable_iff, fun set hset => ?_⟩
  obtain ⟨hacceptable, hplugins⟩ := ofEntries_ok_iff.mp hset
  refine ⟨hplugins, fun p _ hp chunk text line hmem => hp (Token.isName_of_mem_scanAll hmem), fun w identity environ run sources env hcreate => ?_⟩
  have hids : ((set.createModules w identity environ run).map fun m => (m.1, m.2.name)).map Prod.fst = entries.map fun e => e.2.id := by
    rw [createModules_ids, ids, hplugins, List.map_map]
    rfl
  have hnames : (((set.createModules w identity environ run).map fun m => (m.1, m.2.name)).map Prod.fst).Nodup := hids ▸ hacceptable.distinct
  refine ⟨fun i p hp hname hne => ?_, Environment.denotes_environment hcreate, fun name hname => ?_, (Environment.shared_create hcreate hnames).2.2⟩
  · have hmodule := (set.createModules_getElem? w identity environ run i).trans (congrArg _ hp)
    intro d path hd hsource
    obtain ⟨m, store, v, hload, hends, t, hv, hmem, hresolves⟩ :=
      Environment.denotes_module hcreate hnames (i := i) (m := (p.id, _)) (by rw [List.getElem?_map, hmodule]; rfl) hname hne d path hd hsource
    exact ⟨m, store, v, hload, hends, t, hv, hmem, hmodule, hresolves⟩
  · obtain ⟨hscript, hne⟩ := isName_of_mem_reservedGlobals name hname
    have hstandard := (mem_reservedGlobals_iff name).mp hname
    have hfree : name ∉ ((set.createModules w identity environ run).map fun m => (m.1, m.2.name)).map Prod.fst := by
      rw [hids]
      intro hmem
      obtain ⟨e, he, rfl⟩ := List.mem_map.mp hmem
      exact hacceptable.unreserved e he hname
    intro d path hd hsource
    obtain ⟨m, store, v, hload, hends, hv⟩ := Environment.denotes_standard hcreate hnames hfree hscript hne hstandard d path hd hsource
    exact ⟨m, store, v, hload, hends, hv, hv ▸ hstandard⟩

/-- The script `return tools` gives the module of the tools. -/
theorem names_and_globals_tools : ∃ set env m store t, ofEntries [("tools", (Catalogue.tools : Plugin Execution))] = .ok set ∧
    Environment.create [("/a.lua", "return " ++ "tools")] ((set.createModules Execution.primitives {} [] 0).map fun m => (m.1, m.2.name)) = .ok env ∧
    env.load (.str "/a.lua") = .ok m ∧ Environment.advance m = .finished store [.table t] ∧ (t, 0) ∈ env.store.modules := by
  obtain ⟨hacceptable, -, hset⟩ := names_and_globals [("tools", (Catalogue.tools : Plugin Execution))]
  have haccepted : Acceptable [("tools", (Catalogue.tools : Plugin Execution))] :=
    acceptable_cons.mpr ⟨⟨rfl, by decide +kernel, by decide +kernel⟩, List.forall_mem_nil _, acceptable_nil⟩
  obtain ⟨set, hset'⟩ := hacceptable.mpr haccepted
  obtain ⟨hplugins, -, henvironments⟩ := hset set hset'
  obtain ⟨env, hcreate, hsources⟩ : ∃ env, Environment.create [("/a.lua", "return " ++ "tools")]
      ((set.createModules Execution.primitives {} [] 0).map fun m => (m.1, m.2.name)) = .ok env ∧
      env.store.loader = { sources := [("/a.lua", "return " ++ "tools")] } := by
    have hpath : Environment.normalized [("/a.lua", "return " ++ "tools")] = .ok [("/a.lua", "return " ++ "tools")] := by cbv
    unfold Environment.create
    rw [hpath]
    dsimp only [bind, Except.bind]
    generalize StateT.run _ _ = built
    exact ⟨_, rfl, rfl⟩
  have hpath : ScriptPath.ofData (.str "/a.lua") = .ok "/a.lua" := by cbv
  have hsource : env.store.loader.source? "/a.lua" = some ("return " ++ "tools") := by
    rw [hsources]
    rfl
  have hfirst : set.plugins[0]? = some Catalogue.tools := by
    rw [hplugins]
    rfl
  obtain ⟨hmodules, -⟩ := henvironments Execution.primitives {} [] 0 _ env hcreate
  obtain ⟨m, store, v, hload, hends, t, rfl, hmem, -⟩ := hmodules 0 _ hfirst (by decide +kernel) (by decide) _ _ hpath hsource
  exact ⟨set, env, m, store, t, hset', hcreate, hload, hends, hmem⟩

/-- **A reserved word is accepted as an ID**, and no script can write it for a global. -/
theorem accepts_reserved_word : (∃ set, ofEntries [("end", ({ id := "end", create := fun _ _ => {} } : Plugin Execution))] = .ok set) ∧
    ¬Writable [("end", ({ id := "end", create := fun _ _ => {} } : Plugin Execution))] := by
  have hword : ¬Lexer.IsName "end".toUTF8.toList := by decide +kernel
  have haccepted : Acceptable [("end", ({ id := "end", create := fun _ _ => {} } : Plugin Execution))] :=
    acceptable_cons.mpr ⟨⟨rfl, by decide +kernel, by decide +kernel⟩, List.forall_mem_nil _, acceptable_nil⟩
  exact ⟨⟨_, ofEntries_ok_iff.mpr ⟨haccepted, rfl⟩⟩, fun h => hword (h.names _ (List.mem_singleton_self _))⟩

end PluginSet

end ScriptFlow
