import Mathlib
import ScriptFlow.Durable.Primitives
import ScriptFlow.Proofs.Worker.Registration
import ScriptFlow.Simulation.Primitives

/-!
# By which name a function is called

A call may name a function itself. It is then the call of a name: the one under which the function is registered with the first of the workers that know it.
Functions are told apart as objects. A method that is taken from its instance anew is another object than the one that was registered, so no worker knows it: the
simulated engine refuses it, and the durable one calls it by the name that it would get without options, whatever is registered there.

* `RegistrationTable.lookup?_eq_some` — a function that is found is what the table holds under the name of its entry.
* `Registry.nameAmong_of_holds`, `Registry.nameAmong_of_not_holds` — the name among workers.
* `Execution.startActivity_target`, `Simulator.startActivity_target`, and the same of children — a call heeds of its target only the name.
* `Registry.functions_are_addressed_by_their_names` — **a function that is registered, as the object that it is, is called by a name that stands for it.**
-/

namespace ScriptFlow

/-! ## One table -/

namespace RegistrationTable

variable {t : RegistrationTable} {c : Callable} {e : Registration}

/-- The table holds a function. -/
def Holds (t : RegistrationTable) (c : Callable) : Prop := ∃ e ∈ t.entries, e.function.key = c.key

theorem lookup?_function (t : RegistrationTable) (hc : c.text? = none) :
    t.lookup? (.function c) = t.entries.find? fun e => e.function.key == c.key := by
  rw [lookup?, hc]

/-- A function that is found is what the table holds under the name of its entry. -/
theorem lookup?_eq_some (hnames : t.names.Nodup) (hc : c.text? = none) (h : t.lookup? (.function c) = some e) :
    t.get? e.name = some e ∧ e.function.key = c.key := by
  rw [t.lookup?_function hc] at h
  have hmem := List.mem_of_find?_eq_some h
  refine ⟨?_, by simpa using List.find?_some h⟩
  cases hget : t.get? e.name with
  | none => exact absurd (List.find?_eq_none.mp hget e hmem) (by simp)
  | some e' =>
    have hname : e'.name = e.name := by simpa using List.find?_some hget
    rw [List.inj_on_of_nodup_map hnames (List.mem_of_find?_eq_some hget) hmem hname]

theorem lookup?_eq_none (hc : c.text? = none) : t.lookup? (.function c) = none ↔ ¬ t.Holds c := by
  rw [t.lookup?_function hc, List.find?_eq_none]
  simp [Holds]

theorem lookup?_isSome (hc : c.text? = none) (h : t.Holds c) : ∃ e, t.lookup? (.function c) = some e :=
  Option.ne_none_iff_exists'.mp fun hnone => (lookup?_eq_none hc).mp hnone h

end RegistrationTable

/-! ## Workers -/

namespace Registry

variable {rs : List Registry} {kind : RegistrationKind} {c : Callable}

/-- After any calls of registration the names of a table are distinct. -/
theorem names_nodup (qs : List RegistrationRequest) (kind : RegistrationKind) : (((({} : Registry).afterAll qs).table kind).names).Nodup := by
  obtain ⟨hregular, hregistry, -, -⟩ := (DurableWorker.Regular.blank {} {}).afterAll qs
  rw [← show _ = ({} : Registry).afterAll qs from hregistry]
  cases kind with
  | workflow => exact hregular.workflows.names
  | activity => exact hregular.activities.names

/-- Under the name some worker has the function now. -/
def Addresses (rs : List Registry) (kind : RegistrationKind) (name : String) (c : Callable) : Prop :=
  ∃ r ∈ rs, ∃ e, (r.table kind).get? name = some e ∧ e.function.key = c.key

theorem nameAmong_function (hc : c.text? = none) : nameAmong rs kind (.function c) =
    (rs.findSome? fun r => (r.table kind).lookup? (.function c)).elim (registrationName c {}) fun e => .ok e.name := by
  unfold nameAmong
  simp only [hc]
  cases rs.findSome? fun r => (r.table kind).lookup? (.function c) <;> rfl

theorem nameAmong_of_holds (hnames : ∀ r ∈ rs, (r.table kind).names.Nodup) (hc : c.text? = none) (h : ∃ r ∈ rs, (r.table kind).Holds c) :
    ∃ name, nameAmong rs kind (.function c) = .ok name ∧ Addresses rs kind name c := by
  cases hfind : rs.findSome? fun r => (r.table kind).lookup? (.function c) with
  | none =>
    obtain ⟨r, hr, hholds⟩ := h
    exact absurd hholds ((RegistrationTable.lookup?_eq_none hc).mp (List.findSome?_eq_none_iff.mp hfind r hr))
  | some e =>
    obtain ⟨r, hr, hlookup⟩ := List.exists_of_findSome?_eq_some hfind
    exact ⟨e.name, by rw [nameAmong_function hc, hfind, Option.elim_some], r, hr, e, RegistrationTable.lookup?_eq_some (hnames r hr) hc hlookup⟩

theorem nameAmong_of_not_holds (hc : c.text? = none) (h : ∀ r ∈ rs, ¬ (r.table kind).Holds c) :
    nameAmong rs kind (.function c) = registrationName c {} := by
  rw [nameAmong_function hc, List.findSome?_eq_none_iff.mpr fun r hr => (RegistrationTable.lookup?_eq_none hc).mpr (h r hr), Option.elim_none]

/-- Only what is registered of a kind counts for its calls. -/
theorem nameAmong_congr {rs' : List Registry} (h : rs'.map (·.table kind) = rs.map (·.table kind)) (target : Target) :
    nameAmong rs' kind target = nameAmong rs kind target := by
  have hfind (qs : List Registry) : (qs.findSome? fun r => (r.table kind).lookup? target) = (qs.map (·.table kind)).findSome? (·.lookup? target) := by
    rw [List.findSome?_map]
    rfl
  cases target with
  | name n => rfl
  | function c =>
    unfold nameAmong
    rw [hfind, hfind, h]

/-- The name of a function on the simulated engine. -/
def nameIn (r : Registry) (kind : RegistrationKind) (c : Callable) : Except Fault String :=
  match (r.table kind).lookup? (.function c) with
  | some e => .ok e.name
  | none => .error (.error .notRegistered (kind.name ++ " " ++ c.shown ++ " is not registered"))

end Registry

/-! ## Calls -/

namespace Execution

variable (ctx : Context) (args : List Data) (cont : Except Fault Promise → Proc (World Execution))

theorem nameOf_bind {α : Type} (kind : RegistrationKind) (target : Target) (next : String → Play α) (cont : Except Fault α → Proc (World Execution)) :
    (nameOf kind target >>= next) cont =
      .access fun st => (st, (Flow.ofExcept (Registry.nameAmong st.world.engine.registries kind target) >>= next) cont) := rfl

theorem startActivity_eq : ∃ next, ∀ target, startActivity ctx target args = nameOf .activity target >>= next := ⟨_, fun _ => rfl⟩

theorem startChild_eq : ∃ next, ∀ target, startChild ctx target args = nameOf .workflow target >>= next := ⟨_, fun _ => rfl⟩

/-- Of the target of an activity only its name counts. -/
theorem startActivity_target : ∃ next : Except Fault String → Proc (World Execution), ∀ target, startActivity ctx target args cont =
    .access fun st => (st, next (Registry.nameAmong st.world.engine.registries .activity target)) := by
  obtain ⟨next, h⟩ := startActivity_eq ctx args
  exact ⟨fun name => (Flow.ofExcept name >>= next) cont, fun target => by rw [h, nameOf_bind]⟩

/-- Of the target of a child only its name counts. -/
theorem startChild_target : ∃ next : Except Fault String → Proc (World Execution), ∀ target, startChild ctx target args cont =
    .access fun st => (st, next (Registry.nameAmong st.world.engine.registries .workflow target)) := by
  obtain ⟨next, h⟩ := startChild_eq ctx args
  exact ⟨fun name => (Flow.ofExcept name >>= next) cont, fun target => by rw [h, nameOf_bind]⟩

end Execution

namespace Simulator

variable (lib : Library Simulator) {ctx : Context} (args : List Data) (cont : Except Fault Promise → Proc (World Simulator)) {i : Identity}

theorem nameOf_function {α : Type} {kind : RegistrationKind} {c : Callable} (hc : c.text? = none) (next : String → Play α)
    (cont : Except Fault α → Proc (World Simulator)) : (nameOf kind (.function c) >>= next) cont =
      .access fun st => (st, (Flow.ofExcept (st.world.engine.registry.nameIn kind c) >>= next) cont) := by
  rw [nameOf]
  simp only [hc]
  refine congrArg Proc.access (funext fun st => congrArg (Prod.mk st) ?_)
  change ((match (st.world.engine.registry.table kind).lookup? (.function c) with
    | some r => pure r.name
    | none => Flow.fail (.error .notRegistered (kind.name ++ " " ++ c.shown ++ " is not registered")) : Play String) >>= next) cont = _
  rw [Registry.nameIn]
  cases (st.world.engine.registry.table kind).lookup? (.function c) <;> rfl

theorem startActivity_eq (hi : ctx.identity = some i) : ∃ next, ∀ target, startActivity lib ctx target args = nameOf .activity target >>= next := by
  unfold startActivity own
  rw [hi]
  exact ⟨_, fun _ => rfl⟩

theorem startChild_eq (hi : ctx.identity = some i) : ∃ next, ∀ target, startChild lib ctx target args = nameOf .workflow target >>= next := by
  unfold startChild own
  rw [hi]
  exact ⟨_, fun _ => rfl⟩

/-- Of the target of an activity only its name counts. -/
theorem startActivity_target (hi : ctx.identity = some i) : ∃ next : Except Fault String → Proc (World Simulator),
    (∀ name, startActivity lib ctx (.name name) args cont = next (.ok name)) ∧ ∀ c, c.text? = none →
      startActivity lib ctx (.function c) args cont = .access fun st => (st, next (st.world.engine.registry.nameIn .activity c)) := by
  obtain ⟨next, h⟩ := startActivity_eq lib args hi
  refine ⟨fun name => (Flow.ofExcept name >>= next) cont, fun name => ?_, fun c hc => ?_⟩
  · rw [h]
    rfl
  · rw [h, nameOf_function hc]

/-- Of the target of a child only its name counts. -/
theorem startChild_target (hi : ctx.identity = some i) : ∃ next : Except Fault String → Proc (World Simulator),
    (∀ name, startChild lib ctx (.name name) args cont = next (.ok name)) ∧ ∀ c, c.text? = none →
      startChild lib ctx (.function c) args cont = .access fun st => (st, next (st.world.engine.registry.nameIn .workflow c)) := by
  obtain ⟨next, h⟩ := startChild_eq lib args hi
  refine ⟨fun name => (Flow.ofExcept name >>= next) cont, fun name => ?_, fun c hc => ?_⟩
  · rw [h]
    rfl
  · rw [h, nameOf_function hc]

end Simulator

namespace Registry

/-! ## Functions and their names -/

theorem nameIn_of_holds {r : Registry} {kind : RegistrationKind} {c : Callable} (hnames : (r.table kind).names.Nodup) (hc : c.text? = none)
    (h : (r.table kind).Holds c) : ∃ name, r.nameIn kind c = .ok name ∧ Addresses [r] kind name c := by
  obtain ⟨e, he⟩ := RegistrationTable.lookup?_isSome hc h
  exact ⟨e.name, by rw [nameIn, he], r, List.mem_singleton_self r, e, RegistrationTable.lookup?_eq_some hnames hc he⟩

theorem nameIn_of_not_holds {r : Registry} {kind : RegistrationKind} {c : Callable} (hc : c.text? = none) (h : ¬ (r.table kind).Holds c) :
    r.nameIn kind c = .error (.error .notRegistered (kind.name ++ " " ++ c.shown ++ " is not registered")) := by
  rw [nameIn, (RegistrationTable.lookup?_eq_none hc).mpr h]

/-- **A function that is registered, as the object that it is, is called by a name that stands for it.** So it is among the workers of the durable engine and on the
simulated one, after any calls of registration, and a call of the function is the call of that name. What is registered of the other kind does not count. A function
that is not registered, such as a method that is taken anew from its instance, is refused by the simulated engine; the durable one calls it by the name that it would
get without options. -/
theorem functions_are_addressed_by_their_names (qss : List (List RegistrationRequest)) (kind : RegistrationKind) (c : Callable) (hc : c.text? = none) :
    let rs := qss.map ({} : Registry).afterAll
    -- the workers of both engines
    (∀ config rules qs, (DurableWorker.afterAll { config := config, rules := rules } qs).registry = ({} : Registry).afterAll qs) ∧
    -- names on the durable engine
    ((∃ r ∈ rs, (r.table kind).Holds c) → ∃ name, nameAmong rs kind (.function c) = .ok name ∧ Addresses rs kind name c) ∧
    ((∀ r ∈ rs, ¬ (r.table kind).Holds c) → nameAmong rs kind (.function c) = registrationName c {}) ∧
    (∀ rs', rs'.map (·.table kind) = rs.map (·.table kind) → nameAmong rs' kind (.function c) = nameAmong rs kind (.function c)) ∧
    -- names on the simulated engine
    (∀ r ∈ rs, (r.table kind).Holds c → ∃ name, r.nameIn kind c = .ok name ∧ Addresses [r] kind name c) ∧
    (∀ r ∈ rs, ¬ (r.table kind).Holds c →
      r.nameIn kind c = .error (.error .notRegistered (kind.name ++ " " ++ c.shown ++ " is not registered"))) ∧
    -- calls
    (∀ ctx args cont, ∃ next : Except Fault String → Proc (World Execution), ∀ target, Execution.startActivity ctx target args cont =
      .access fun st => (st, next (nameAmong st.world.engine.registries .activity target))) ∧
    (∀ ctx args cont, ∃ next : Except Fault String → Proc (World Execution), ∀ target, Execution.startChild ctx target args cont =
      .access fun st => (st, next (nameAmong st.world.engine.registries .workflow target))) ∧
    (∀ lib ctx args cont i, ctx.identity = some i → ∃ next : Except Fault String → Proc (World Simulator),
      (∀ name, Simulator.startActivity lib ctx (.name name) args cont = next (.ok name)) ∧
        Simulator.startActivity lib ctx (.function c) args cont = .access fun st => (st, next (st.world.engine.registry.nameIn .activity c))) ∧
    (∀ lib ctx args cont i, ctx.identity = some i → ∃ next : Except Fault String → Proc (World Simulator),
      (∀ name, Simulator.startChild lib ctx (.name name) args cont = next (.ok name)) ∧
        Simulator.startChild lib ctx (.function c) args cont = .access fun st => (st, next (st.world.engine.registry.nameIn .workflow c))) ∧
    -- another object, equal in all else
    ∀ key, (∀ r ∈ rs, ∀ e ∈ (r.table kind).entries, e.function.key ≠ key) →
      nameAmong rs kind (.function { c with key := key }) = registrationName c {} ∧
        ∀ r ∈ rs, r.nameIn kind { c with key := key } =
          .error (.error .notRegistered (kind.name ++ " " ++ c.shown ++ " is not registered")) := by
  intro rs
  have hnames : ∀ r ∈ rs, (r.table kind).names.Nodup := fun r hr => by
    obtain ⟨qs, -, rfl⟩ := List.mem_map.mp hr
    exact names_nodup qs kind
  refine ⟨fun config rules qs => ((DurableWorker.Regular.blank config rules).afterAll qs).2.1, nameAmong_of_holds hnames hc, nameAmong_of_not_holds hc,
    fun rs' h => nameAmong_congr h _, fun r hr => nameIn_of_holds (hnames r hr) hc, fun r _ => nameIn_of_not_holds hc,
    Execution.startActivity_target, Execution.startChild_target, fun lib ctx args cont i hi => ?_,
    fun lib ctx args cont i hi => ?_, fun key hkey => ?_⟩
  · obtain ⟨next, hname, hfunction⟩ := Simulator.startActivity_target lib args cont hi
    exact ⟨next, hname, hfunction c hc⟩
  · obtain ⟨next, hname, hfunction⟩ := Simulator.startChild_target lib args cont hi
    exact ⟨next, hname, hfunction c hc⟩
  · have hc' : ({ c with key := key } : Callable).text? = none := by
      unfold Callable.text? at hc ⊢
      split at hc
      · cases hc
      · rename_i htype
        exact if_neg htype
    have hnot : ∀ r ∈ rs, ¬ (r.table kind).Holds { c with key := key } := fun r hr ⟨e, he, heq⟩ => hkey r hr e he heq
    exact ⟨nameAmong_of_not_holds hc' hnot, fun r hr => nameIn_of_not_holds hc' (hnot r hr)⟩

/-- Of two workers that know a function the first gives the name. -/
theorem functions_are_addressed_by_their_names_first :
    let upper : Callable := { key := "upper", shown := "<function upper>", isAsync := false, qualifiedName := some "fixtures.upper" }
    let rs := [[⟨.activity, upper, { name := some "first" }⟩], [⟨.activity, upper, { name := some "second" }⟩]].map ({} : Registry).afterAll
    upper.text? = none ∧ (∃ r ∈ rs, (r.table .activity).Holds upper) ∧
      ∃ name, nameAmong rs .activity (.function upper) = .ok name ∧ name = "first" ∧ Addresses rs .activity name upper := by
  intro upper rs
  have hholds : ∃ r ∈ rs, (r.table .activity).Holds upper := ⟨_, List.mem_cons_self, _, List.mem_cons_self, rfl⟩
  obtain ⟨name, hname, haddresses⟩ := (functions_are_addressed_by_their_names
    [[⟨.activity, upper, { name := some "first" }⟩], [⟨.activity, upper, { name := some "second" }⟩]] .activity upper rfl).2.1 hholds
  have hfirst : nameAmong rs .activity (.function upper) = .ok "first" := rfl
  exact ⟨rfl, hholds, name, hname, Except.ok.inj (hname.symm.trans hfirst), haddresses⟩

/-- A method is registered under a name of its own. Taken anew from its instance it is called by a name that nothing is registered under, or refused. -/
theorem method_taken_anew_is_not_found :
    let method : Callable :=
      { key := "method", shown := "<bound method Holder.method of <fixtures.Holder object>>", typeName := "method", shortName := some "method"
        qualifiedName := some "fixtures.Holder.method", parameters := [.required "ctx" (.context "Context") .positional] }
    let anew : Callable := { method with key := "method, taken anew" }
    ∃ r, ({} : Registry).register .workflow method { name := some "flow" } = .ok r ∧
      nameAmong [r] .workflow (.function method) = .ok "flow" ∧ r.nameIn .workflow method = .ok "flow" ∧
      nameAmong [r] .workflow (.function anew) = .ok "fixtures.Holder.method" ∧ r.workflows.get? "fixtures.Holder.method" = none ∧
      r.nameIn .workflow anew =
        .error (.error .notRegistered "workflow <bound method Holder.method of <fixtures.Holder object>> is not registered") :=
  ⟨_, rfl, rfl, rfl, rfl, rfl, rfl⟩

end Registry

end ScriptFlow
