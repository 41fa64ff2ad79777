import Mathlib
import ScriptFlow.Worker.Adapter
import ScriptFlow.Worker.Basic

/-!
# Registrations of a worker

A registration on a worker of the durable engine passes three gates: the shape of the function, the table of names, and the making of an adapter.
The simulated worker has the first two alone. The method of an adapter has the object in front of the parameters of its function after the context: with the
context these parameters make a signature; with the object they need not.

* `Signature.check_eq_ok` — which lists of parameters are signatures.
* `WorkflowAdapter.methodParameters_check` — which parameters after the context a method can have.
* `WorkflowAdapter.build_eq_ok`, `ActivityAdapter.build_eq_ok` — which functions have adapters.
* `mem_placed` — what an entry that takes its place leaves of a list; tables and adapters are such lists.
* `Adapted`, `Adapted.inStep_iff` — a table and its adapters, whatever was registered: they agree when every function in the table has an adapter.
* `DurableWorker.Registers`, `DurableWorker.register_registers` — the ways in which a call of registration ends.
* `DurableWorker.registrations_agree` — **both workers always have the same tables**, and a call differs only where no adapter can be made: then it
  fails, but the entry stays. `DurableWorker.failed_registration_leaves_entry` is such a call.
-/

namespace ScriptFlow

/-! ## Signatures -/

namespace Signature

variable {s s' : Seen} {p : ParameterShape} {ps : List ParameterShape}

/-- What the next parameter has to be. -/
structure Seen.Admits (s : Seen) (p : ParameterShape) : Prop where
  ordered : s.kind.rank ≤ p.kind.rank
  default : s.hasDefault → p.kind.isByPlace → p.hasDefault
  fresh : p.name ∉ s.names

/-- The parameters so far with one more. -/
def Seen.next (s : Seen) (p : ParameterShape) : Seen :=
  { kind := p.kind, hasDefault := s.hasDefault || (p.kind.isByPlace && p.hasDefault), names := p.name :: s.names }

theorem Seen.check_eq_ok : s.check p = .ok s' ↔ s.Admits p ∧ s' = s.next p := by
  rw [Seen.check]
  split
  · rename_i hrank
    simp only [reduceCtorEq, false_iff]
    exact fun h => Nat.not_le.mpr hrank h.1.ordered
  split
  · rename_i hdefault
    simp only [Bool.and_eq_true, Bool.not_eq_true'] at hdefault
    simp only [reduceCtorEq, false_iff]
    exact fun h => absurd (h.1.default hdefault.2 hdefault.1.1) (by simp [hdefault.1.2])
  split
  · rename_i hname
    simp only [reduceCtorEq, false_iff]
    exact fun h => h.1.fresh (by simpa using hname)
  · rename_i hrank hdefault hname
    rw [Except.ok.injEq, eq_comm]
    refine ⟨fun h => ⟨⟨Nat.not_lt.mp hrank, fun hs hp => ?_, by simpa using hname⟩, h⟩, fun h => h.2⟩
    simpa [hs, hp] using hdefault

theorem Seen.checkAll_cons : s.checkAll (p :: ps) = .ok () ↔ s.Admits p ∧ (s.next p).checkAll ps = .ok () := by
  rw [Seen.checkAll]
  cases h : s.check p with
  | error e =>
    refine ⟨fun h' => (nomatch h'), fun h' => ?_⟩
    rw [Seen.check_eq_ok.mpr ⟨h'.1, rfl⟩] at h
    cases h
  | ok s' =>
    obtain ⟨hadmits, rfl⟩ := Seen.check_eq_ok.mp h
    exact (and_iff_right hadmits).symm

/-- Parameters that can follow others: of no earlier kind, with defaults by place to the end once there was one, and with new names. -/
structure Seen.Completes (s : Seen) (ps : List ParameterShape) : Prop where
  ordered : (s.kind.rank :: ps.map (·.kind.rank)).Pairwise (· ≤ ·)
  defaults : ps.Pairwise fun p q => p.kind.isByPlace → p.hasDefault → q.kind.isByPlace → q.hasDefault
  given : s.hasDefault → ∀ p ∈ ps, p.kind.isByPlace → p.hasDefault
  distinct : (ps.map (·.name)).Nodup
  fresh : ∀ p ∈ ps, p.name ∉ s.names

theorem Seen.completes_cons : s.Completes (p :: ps) ↔ s.Admits p ∧ (s.next p).Completes ps := by
  constructor
  · rintro ⟨hord, hdef, hgiven, hdist, hfresh⟩
    simp only [List.map_cons, List.pairwise_cons, List.nodup_cons, List.mem_cons, forall_eq_or_imp] at hord hdef hdist hfresh
    refine ⟨⟨hord.1.1, fun hs => hgiven hs p (.head _), hfresh.1⟩,
      ⟨List.pairwise_cons.mpr hord.2, hdef.2, fun hs q hq hplace => ?_, hdist.2, ?_⟩⟩
    · rcases Bool.or_eq_true_iff.mp hs with hs | hp
      · exact hgiven hs q (.tail _ hq) hplace
      · rw [Bool.and_eq_true] at hp
        exact hdef.1 q hq hp.1 hp.2 hplace
    · intro q hq hmem
      rcases List.mem_cons.mp hmem with heq | hmem
      · exact hdist.1 (heq ▸ List.mem_map_of_mem hq)
      · exact hfresh.2 q hq hmem
  · rintro ⟨⟨hrank, hdefault, hname⟩, ⟨hord, hdef, hgiven, hdist, hfresh⟩⟩
    have hord' := List.pairwise_cons.mp hord
    refine ⟨List.pairwise_cons.mpr ⟨?_, hord⟩, List.pairwise_cons.mpr ⟨fun q hq hp hd => ?_, hdef⟩, fun hs => ?_, ?_, ?_⟩
    · simp only [List.map_cons, List.mem_cons, forall_eq_or_imp]
      exact ⟨hrank, fun n hn => hrank.trans (hord'.1 n hn)⟩
    · exact hgiven (by simp [Seen.next, hp, hd]) q hq
    · simp only [List.mem_cons, forall_eq_or_imp]
      exact ⟨hdefault hs, hgiven (by simp [Seen.next, hs])⟩
    · refine List.nodup_cons.mpr ⟨fun hmem => ?_, hdist⟩
      obtain ⟨q, hq, heq⟩ := List.mem_map.mp hmem
      exact hfresh q hq (heq ▸ List.mem_cons_self)
    · simp only [List.mem_cons, forall_eq_or_imp]
      exact ⟨hname, fun q hq hmem => hfresh q hq (List.mem_cons_of_mem _ hmem)⟩

theorem Seen.checkAll_eq_ok : s.checkAll ps = .ok () ↔ s.Completes ps := by
  induction ps generalizing s with
  | nil => exact ⟨fun _ => ⟨by simp, .nil, by simp, .nil, by simp⟩, fun _ => rfl⟩
  | cons p ps ih => rw [Seen.checkAll_cons, Seen.completes_cons, ih]

/-- Which lists of parameters are signatures. -/
theorem check_eq_ok : check ps = .ok () ↔
    (ps.map (·.kind.rank)).Pairwise (· ≤ ·) ∧
    (ps.Pairwise fun p q => p.kind.isByPlace → p.hasDefault → q.kind.isByPlace → q.hasDefault) ∧ (ps.map (·.name)).Nodup := by
  rw [check, Seen.checkAll_eq_ok]
  refine ⟨fun h => ⟨(List.pairwise_cons.mp h.ordered).2, h.defaults, h.distinct⟩,
    fun ⟨hord, hdef, hdist⟩ => ⟨?_, hdef, by simp, hdist, by simp⟩⟩
  exact List.pairwise_cons.mpr ⟨fun _ _ => Nat.zero_le _, hord⟩

end Signature

/-! ## Methods of adapters -/

namespace ParameterKind

theorem isByPlace_iff {k : ParameterKind} : k.isByPlace ↔ k = .positionalOnly ∨ k = .positional := by cases k <;> decide

theorem one_le_rank_iff {k : ParameterKind} : 1 ≤ k.rank ↔ k ≠ .positionalOnly := by cases k <;> decide

end ParameterKind

/-- The first parameter of a workflow function takes its argument by place. -/
theorem Callable.workflowParameters_eq_ok {c : Callable} {ps : List ParameterShape} (h : c.workflowParameters = .ok ps) :
    ∃ p rest, c.parameters = p :: rest ∧ p.kind.isByPlace := by
  rw [workflowParameters] at h
  split at h
  · cases h
  split at h
  · cases h
  split at h
  · cases h
  · rename_i p rest hparameters
    split at h
    · cases h
    · rename_i hkind
      refine ⟨p, rest, hparameters, ParameterKind.isByPlace_iff.mpr ?_⟩
      by_contra hne
      exact hkind (by simpa [not_or] using hne)

namespace WorkflowAdapter

variable {c : Callable}

/-- The method of an adapter has a signature when no parameter after the context is given by place alone or has the name of the object; defaults and
the other kinds do not matter. -/
theorem methodParameters_check {ps : List ParameterShape} (hshape : c.workflowParameters = .ok ps) (hsig : Signature.check c.parameters = .ok ()) :
    Signature.check (methodParameters c) = .ok () ↔ ∀ p ∈ c.parameters.drop 1, p.kind ≠ .positionalOnly ∧ p.name ≠ "self" := by
  obtain ⟨first, rest, hparameters, -⟩ := Callable.workflowParameters_eq_ok hshape
  rw [hparameters, Signature.check_eq_ok] at hsig
  obtain ⟨hord, hdef, hdist⟩ := hsig
  have hord := (List.pairwise_cons.mp hord).2
  have hdef := (List.pairwise_cons.mp hdef).2
  have hdist := (List.nodup_cons.mp hdist).2
  rw [methodParameters, hparameters, Signature.check_eq_ok, List.drop_one, List.tail_cons]
  simp only [List.map_cons, List.pairwise_cons, List.nodup_cons, hord, hdef, hdist, and_true, List.mem_map]
  constructor
  · rintro ⟨hranks, -, hname⟩ p hp
    exact ⟨ParameterKind.one_le_rank_iff.mp (hranks _ ⟨p, hp, rfl⟩), fun h => hname ⟨p, hp, h⟩⟩
  · intro hall
    refine ⟨?_, fun p hp hplace hdefault => by simp at hdefault, fun ⟨p, hp, hname⟩ => (hall p hp).2 hname⟩
    rintro n ⟨p, hp, rfl⟩
    exact ParameterKind.one_le_rank_iff.mpr (hall p hp).1

example : Signature.check (methodParameters
    { key := "f", shown := "f", parameters := [.required "ctx" .absent .positionalOnly, .required "x" .absent .positionalOnly] }) =
    .error (.error .badValue "wrong parameter order: positional or keyword parameter before positional-only parameter") := rfl

theorem checkClassName_eq_ok {className : String} : checkClassName className = .ok () ↔ '\x00' ∉ className.toList := by
  rw [checkClassName]
  split <;> simp_all

theorem build_eq_ok {rules : EngineRules} {name : String} {options : ActivityOptions} :
    (∃ a, build rules name c options = .ok a) ↔ Signature.check (methodParameters c) = .ok () ∧
      rules.method (classNameOf name ++ ".run") = .ok () ∧ '\x00' ∉ (classNameOf name).toList := by
  rw [← checkClassName_eq_ok, build]
  cases Signature.check (methodParameters c) with
  | error f => simp [bind, Except.bind]
  | ok u =>
    cases rules.method (classNameOf name ++ ".run") with
    | error f => simp [bind, Except.bind]
    | ok v => cases checkClassName (classNameOf name) <;> simp [bind, Except.bind, pure, Except.pure]

end WorkflowAdapter

theorem ActivityAdapter.build_eq_ok {rules : EngineRules} {name : String} {c : Callable} :
    (∃ a, build rules name c = .ok a) ↔ rules.activity c = .ok () := by
  rw [build]
  cases rules.activity c <;> simp [bind, Except.bind, pure, Except.pure]

/-! ## Entries in their places -/

section Placed

variable {β : Type} {key : β → String} {entries : List β} {x y : β}

/-- An entry in the place of those with its key, or at the end. -/
def placed (key : β → String) (entries : List β) (x : β) : List β :=
  if key x ∈ entries.map key then entries.map fun e => if key e = key x then x else e else entries ++ [x]

theorem placed_keys : (placed key entries x).map key = if key x ∈ entries.map key then entries.map key else entries.map key ++ [key x] := by
  rw [placed]
  split
  · rw [List.map_map]
    refine List.map_congr_left fun e _ => ?_
    by_cases he : key e = key x <;> simp [he]
  · simp

theorem placed_keys_nodup (h : (entries.map key).Nodup) : ((placed key entries x).map key).Nodup := by
  rw [placed_keys]
  split
  · exact h
  · rename_i hout
    exact h.append (List.nodup_singleton _) (by simpa using hout)

theorem mem_placed_keys {name : String} : name ∈ (placed key entries x).map key ↔ name = key x ∨ name ∈ entries.map key := by
  rw [placed_keys]
  split
  · rename_i hin
    exact ⟨.inr, fun h => h.elim (fun h => h ▸ hin) id⟩
  · rw [List.mem_append, List.mem_singleton, or_comm]

/-- The entry is there, and of the others those with other keys. -/
theorem mem_placed : y ∈ placed key entries x ↔ y = x ∨ y ∈ entries ∧ key y ≠ key x := by
  rw [placed]
  split
  · rename_i hin
    rw [List.mem_map]
    constructor
    · rintro ⟨e, he, rfl⟩
      by_cases hkey : key e = key x
      · exact .inl (if_pos hkey)
      · exact .inr (by rw [if_neg hkey]; exact ⟨he, hkey⟩)
    · rintro (rfl | ⟨hy, hkey⟩)
      · obtain ⟨e, he, hkey⟩ := List.mem_map.mp hin
        exact ⟨e, he, if_pos hkey⟩
      · exact ⟨y, hy, if_neg hkey⟩
  · rename_i hout
    rw [List.mem_append, List.mem_singleton, or_comm]
    exact or_congr_right ⟨fun hy => ⟨hy, fun hkey => hout (hkey ▸ List.mem_map_of_mem hy)⟩, And.left⟩

end Placed

namespace RegistrationTable

variable {t : RegistrationTable} {r : Registration} {name : String}

theorem contains_iff : t.contains name ↔ name ∈ t.names := by
  simp [contains, get?, names, List.find?_isSome]

@[simp] theorem kind_put : (t.put r).kind = t.kind := by
  rw [put]
  split <;> rfl

theorem entries_put : (t.put r).entries = placed Registration.name t.entries r := by
  have hiff : t.contains r.name = true ↔ r.name ∈ t.entries.map Registration.name := contains_iff
  rw [put, placed]
  by_cases h : t.contains r.name = true
  · rw [if_pos h, if_pos (hiff.mp h)]
    simp
  · rw [if_neg h, if_neg (fun hmem => h (hiff.mpr hmem))]

end RegistrationTable

theorem putNamed_eq {α : Type} {entries : List (String × α)} {name : String} {a : α} :
    putNamed entries name a = placed Prod.fst entries (name, a) := by
  have hiff : entries.any (·.1 == name) = true ↔ name ∈ entries.map Prod.fst := by simp
  rw [putNamed, placed]
  simp only [hiff, beq_iff_eq]

/-! ## A table and its adapters -/

section Adapted

variable {α : Type} {t : RegistrationTable} {adapters : List (String × α)} {build : String → Callable → Except Fault α}
  {name : String} {c : Callable}

/-- A table and the adapters that were made for it, one call after the other. -/
structure Adapted (t : RegistrationTable) (adapters : List (String × α)) (build : String → Callable → Except Fault α) : Prop where
  names : t.names.Nodup
  keys : (adapters.map Prod.fst).Nodup
  known : ∀ key ∈ adapters.map Prod.fst, key ∈ t.names
  built : ∀ e ∈ t.entries, ∀ a, build e.name e.function = .ok a → (e.name, a) ∈ adapters

/-- A table and adapters that agree: they have the same names, and every adapter is built from the function that the table holds under its name. -/
structure InStep (t : RegistrationTable) (adapters : List (String × α)) (build : String → Callable → Except Fault α) : Prop where
  names : t.names.Perm (adapters.map Prod.fst)
  built : ∀ a ∈ adapters, ∃ e ∈ t.entries, e.name = a.1 ∧ build a.1 e.function = .ok a.2

theorem Adapted.nil {t : RegistrationTable} (h : t.entries = []) : Adapted t ([] : List (String × α)) build where
  names := by simp [RegistrationTable.names, h]
  keys := .nil
  known := by simp
  built := by simp [h]

/-- A function with an adapter is registered. -/
theorem Adapted.put {a : α} (h : Adapted t adapters build) (hbuild : build name c = .ok a) :
    Adapted (t.put ⟨name, c⟩) (putNamed adapters name a) build where
  names := by
    rw [RegistrationTable.names, RegistrationTable.entries_put]
    exact placed_keys_nodup h.names
  keys := putNamed_eq ▸ placed_keys_nodup h.keys
  known := by
    intro key hkey
    rw [putNamed_eq, mem_placed_keys] at hkey
    rw [RegistrationTable.names, RegistrationTable.entries_put, mem_placed_keys]
    exact hkey.imp_right (h.known key)
  built := by
    intro e he b hb
    rw [RegistrationTable.entries_put, mem_placed] at he
    rw [putNamed_eq, mem_placed]
    rcases he with rfl | ⟨he, hne⟩
    · exact .inl (by rw [Except.ok.inj (hb.symm.trans hbuild)])
    · exact .inr ⟨h.built e he b hb, hne⟩

/-- A function without an adapter is registered: the adapters stay. -/
theorem Adapted.put_alone {f : Fault} (h : Adapted t adapters build) (hbuild : build name c = .error f) :
    Adapted (t.put ⟨name, c⟩) adapters build where
  names := by
    rw [RegistrationTable.names, RegistrationTable.entries_put]
    exact placed_keys_nodup h.names
  keys := h.keys
  known := by
    intro key hkey
    rw [RegistrationTable.names, RegistrationTable.entries_put, mem_placed_keys]
    exact .inr (h.known key hkey)
  built := by
    intro e he b hb
    rw [RegistrationTable.entries_put, mem_placed] at he
    rcases he with rfl | ⟨he, -⟩
    · exact absurd (hb.symm.trans hbuild) (by simp)
    · exact h.built e he b hb

/-- They agree exactly when every function in the table has an adapter. -/
theorem Adapted.inStep_iff (h : Adapted t adapters build) :
    InStep t adapters build ↔ ∀ e ∈ t.entries, ∃ a, build e.name e.function = .ok a := by
  constructor
  · intro hs e he
    obtain ⟨a, ha, hname⟩ := List.mem_map.mp (hs.names.mem_iff.mp (List.mem_map_of_mem he))
    obtain ⟨e', he', hname', hbuild⟩ := hs.built a ha
    obtain rfl : e' = e := List.inj_on_of_nodup_map h.names he' he (hname'.trans hname)
    exact ⟨a.2, hname ▸ hbuild⟩
  · intro hall
    refine ⟨(List.perm_ext_iff_of_nodup h.names h.keys).mpr fun name => ⟨fun hname => ?_, h.known name⟩, fun a ha => ?_⟩
    · obtain ⟨e, he, rfl⟩ := List.mem_map.mp hname
      obtain ⟨a, ha⟩ := hall e he
      exact List.mem_map_of_mem (h.built e he a ha)
    · obtain ⟨e, he, hname⟩ := List.mem_map.mp (h.known a.1 (List.mem_map_of_mem ha))
      obtain ⟨b, hb⟩ := hall e he
      obtain rfl : (e.name, b) = a := List.inj_on_of_nodup_map h.keys (h.built e he b hb) ha hname
      exact ⟨e, he, rfl, hb⟩

end Adapted

/-! ## One call -/

theorem RegistrationTable.add_eq_ok {t t' : RegistrationTable} {c : Callable} {o : RegisterOptions} {e : Registration} (h : t.add c o = .ok (t', e)) :
    ∃ name, registrationName c o = .ok name ∧ e = ⟨name, c⟩ ∧ t' = t.put e := by
  rw [add] at h
  cases hname : registrationName c o with
  | error f =>
    rw [hname] at h
    cases h
  | ok name =>
    simp only [hname, bind, Except.bind] at h
    split at h
    · cases h
    · cases h
      exact ⟨name, rfl, rfl, rfl⟩

namespace Registry

variable {r : Registry} {kind : RegistrationKind} {c : Callable} {o : RegisterOptions}

theorem register_eq : r.register kind c o = (r.enter kind c o).map fun p => r.setTable p.1 := by
  rw [register]
  cases r.enter kind c o <;> rfl

theorem enter_eq_ok {p : RegistrationTable × Registration} (h : r.enter kind c o = .ok p) :
    ∃ name, registrationName c o = .ok name ∧ p.2 = ⟨name, c⟩ ∧ p.1 = (r.table kind).put ⟨name, c⟩ := by
  rw [enter] at h
  cases hshape : checkShape kind c with
  | error f => simp [hshape, bind, Except.bind] at h
  | ok u =>
    simp only [hshape, bind, Except.bind] at h
    obtain ⟨name, hname, he, ht⟩ := RegistrationTable.add_eq_ok h
    exact ⟨name, hname, he, he ▸ ht⟩

theorem register_eq_ok {r' : Registry} (h : r.register kind c o = .ok r') :
    ∃ name, registrationName c o = .ok name ∧ r' = r.setTable ((r.table kind).put ⟨name, c⟩) := by
  rw [register_eq] at h
  cases henter : r.enter kind c o with
  | error f => simp [henter, Except.map] at h
  | ok p =>
    obtain ⟨name, hname, -, ht⟩ := enter_eq_ok henter
    rw [henter, Except.map, Except.ok.injEq, ht] at h
    exact ⟨name, hname, h.symm⟩

/-- The tables after calls of registration; one that fails leaves them as they are. -/
def afterAll (r : Registry) (qs : List RegistrationRequest) : Registry :=
  qs.foldl (fun r q => (r.register q.kind q.function q.options).toOption.getD r) r

/-- Each table is of its kind. -/
structure Sorted (r : Registry) : Prop where
  workflows : r.workflows.kind = .workflow
  activities : r.activities.kind = .activity

theorem Sorted.setTable_workflows (h : r.Sorted) {e : Registration} :
    r.setTable (r.workflows.put e) = { r with workflows := r.workflows.put e } := by
  rw [setTable, RegistrationTable.kind_put, h.workflows]

theorem Sorted.setTable_activities (h : r.Sorted) {e : Registration} :
    r.setTable (r.activities.put e) = { r with activities := r.activities.put e } := by
  rw [setTable, RegistrationTable.kind_put, h.activities]

end Registry

namespace DurableWorker

variable {w : DurableWorker} {q : RegistrationRequest} {kind : RegistrationKind} {name : String} {c : Callable}

/-- Whether the worker can make an adapter of a function under a name. -/
def adapts (w : DurableWorker) (kind : RegistrationKind) (name : String) (c : Callable) : Except Fault Unit :=
  match kind with
  | .workflow => (w.workflowAdapter name c).map fun _ => ()
  | .activity => (w.activityAdapter name c).map fun _ => ()

/-- The ways in which a call of registration ends, and what it leaves: it is refused as on every worker; no adapter can be made, and the entry
stays; or the function has an entry and an adapter under one name. -/
inductive Registers (w : DurableWorker) (q : RegistrationRequest) : DurableWorker → Except Fault Unit → Prop where
  | refused {f : Fault} (h : w.registry.register q.kind q.function q.options = .error f) : Registers w q w (.error f)
  | unadapted {f : Fault} {name : String} {r : Registry} (h : w.registry.register q.kind q.function q.options = .ok r)
      (hname : registrationName q.function q.options = .ok name) (ha : w.adapts q.kind name q.function = .error f) :
      Registers w q { w with registry := r } (.error f)
  | workflow {name : String} {r : Registry} {a : WorkflowAdapter} (h : w.registry.register q.kind q.function q.options = .ok r)
      (hname : registrationName q.function q.options = .ok name) (hkind : q.kind = .workflow) (ha : w.workflowAdapter name q.function = .ok a) :
      Registers w q { w with registry := r, adapters := putNamed w.adapters name a } (.ok ())
  | activity {name : String} {r : Registry} {a : ActivityAdapter} (h : w.registry.register q.kind q.function q.options = .ok r)
      (hname : registrationName q.function q.options = .ok name) (hkind : q.kind = .activity) (ha : w.activityAdapter name q.function = .ok a) :
      Registers w q { w with registry := r, definitions := putNamed w.definitions name a } (.ok ())

theorem register_registers (w : DurableWorker) (q : RegistrationRequest) : w.Registers q (w.register q).1 (w.register q).2 := by
  rw [register]
  cases henter : w.registry.enter q.kind q.function q.options with
  | error f => exact .refused (by rw [Registry.register_eq, henter]; rfl)
  | ok p =>
    obtain ⟨table, entry⟩ := p
    obtain ⟨name, hname, rfl, -⟩ := Registry.enter_eq_ok henter
    have h : w.registry.register q.kind q.function q.options = .ok (w.registry.setTable table) := by rw [Registry.register_eq, henter]; rfl
    simp only [adapt]
    split
    · rename_i hkind
      split
      · rename_i f ha
        exact .unadapted h hname (by rw [hkind, adapts, show w.workflowAdapter name q.function = _ from ha]; rfl)
      · rename_i a ha
        exact .workflow h hname hkind ha
    · rename_i hkind
      split
      · rename_i f ha
        exact .unadapted h hname (by rw [hkind, adapts, show w.activityAdapter name q.function = _ from ha]; rfl)
      · rename_i a ha
        exact .activity h hname hkind ha

/-- The worker after calls of registration, whether they succeed or not. -/
def afterAll (w : DurableWorker) (qs : List RegistrationRequest) : DurableWorker := qs.foldl (fun w q => (w.register q).1) w

/-- A worker whose registrations came one after the other. -/
structure Regular (w : DurableWorker) : Prop where
  sorted : w.registry.Sorted
  workflows : Adapted w.registry.workflows w.adapters w.workflowAdapter
  activities : Adapted w.registry.activities w.definitions w.activityAdapter

/-- Both tables agree with their adapters. -/
structure InStep (w : DurableWorker) : Prop where
  workflows : ScriptFlow.InStep w.registry.workflows w.adapters w.workflowAdapter
  activities : ScriptFlow.InStep w.registry.activities w.definitions w.activityAdapter

theorem adapts_workflow : w.adapts .workflow name c = .ok () ↔ ∃ a, w.workflowAdapter name c = .ok a := by
  rw [adapts]
  cases w.workflowAdapter name c <;> simp [Except.map]

theorem adapts_activity : w.adapts .activity name c = .ok () ↔ ∃ a, w.activityAdapter name c = .ok a := by
  rw [adapts]
  cases w.activityAdapter name c <;> simp [Except.map]

theorem adapts_workflow_error {f : Fault} (h : w.adapts .workflow name c = .error f) : w.workflowAdapter name c = .error f := by
  rw [adapts] at h
  cases ha : w.workflowAdapter name c <;> simp_all [Except.map]

theorem adapts_activity_error {f : Fault} (h : w.adapts .activity name c = .error f) : w.activityAdapter name c = .error f := by
  rw [adapts] at h
  cases ha : w.activityAdapter name c <;> simp_all [Except.map]

/-- A call keeps the worker regular. -/
theorem Registers.regular {w' : DurableWorker} {result : Except Fault Unit} (hreg : w.Registers q w' result) (h : w.Regular) : w'.Regular := by
  cases hreg with
  | refused hr => exact h
  | unadapted hr hname ha =>
    obtain ⟨name, hname', rfl⟩ := Registry.register_eq_ok hr
    obtain rfl := Except.ok.inj (hname.symm.trans hname')
    cases hkind : q.kind with
    | workflow =>
      rw [hkind] at ha
      rw [Registry.table, h.sorted.setTable_workflows]
      exact ⟨⟨by simp [h.sorted.workflows], h.sorted.activities⟩, h.workflows.put_alone (adapts_workflow_error ha), h.activities⟩
    | activity =>
      rw [hkind] at ha
      rw [Registry.table, h.sorted.setTable_activities]
      exact ⟨⟨h.sorted.workflows, by simp [h.sorted.activities]⟩, h.workflows, h.activities.put_alone (adapts_activity_error ha)⟩
  | workflow hr hname hkind ha =>
    obtain ⟨name, hname', rfl⟩ := Registry.register_eq_ok hr
    obtain rfl := Except.ok.inj (hname.symm.trans hname')
    rw [hkind, Registry.table, h.sorted.setTable_workflows]
    exact ⟨⟨by simp [h.sorted.workflows], h.sorted.activities⟩, h.workflows.put ha, h.activities⟩
  | activity hr hname hkind ha =>
    obtain ⟨name, hname', rfl⟩ := Registry.register_eq_ok hr
    obtain rfl := Except.ok.inj (hname.symm.trans hname')
    rw [hkind, Registry.table, h.sorted.setTable_activities]
    exact ⟨⟨h.sorted.workflows, by simp [h.sorted.activities]⟩, h.workflows, h.activities.put ha⟩

/-- The tables after a call are those of the simulated worker. -/
theorem Registers.registry {w' : DurableWorker} {result : Except Fault Unit} (hreg : w.Registers q w' result) :
    w'.registry = (w.registry.register q.kind q.function q.options).toOption.getD w.registry := by
  cases hreg with
  | refused hr | unadapted hr | workflow hr | activity hr => rw [hr]; rfl

/-- A call succeeds when the tables take the function and it has an adapter. -/
theorem Registers.result_eq_ok {w' : DurableWorker} {result : Except Fault Unit} (hreg : w.Registers q w' result) :
    result = .ok () ↔ ∃ name r, registrationName q.function q.options = .ok name ∧ w.registry.register q.kind q.function q.options = .ok r ∧
      w.adapts q.kind name q.function = .ok () := by
  cases hreg with
  | refused hr => simp [hr]
  | unadapted hr hname ha => simp [hr, hname, ha]
  | workflow hr hname hkind ha =>
    simp only [true_iff]
    exact ⟨_, _, hname, hr, by rw [hkind]; exact adapts_workflow.mpr ⟨_, ha⟩⟩
  | activity hr hname hkind ha =>
    simp only [true_iff]
    exact ⟨_, _, hname, hr, by rw [hkind]; exact adapts_activity.mpr ⟨_, ha⟩⟩

/-- Tables and adapters agree when every function in the tables has an adapter. -/
theorem Regular.inStep_iff (h : w.Regular) :
    w.InStep ↔ ∀ kind, ∀ e ∈ (w.registry.table kind).entries, w.adapts kind e.name e.function = .ok () := by
  have hworkflows := h.workflows.inStep_iff
  have hactivities := h.activities.inStep_iff
  constructor
  · rintro hs (_ | _) e he
    · exact adapts_workflow.mpr (hworkflows.mp hs.workflows e he)
    · exact adapts_activity.mpr (hactivities.mp hs.activities e he)
  · intro hall
    exact ⟨hworkflows.mpr fun e he => adapts_workflow.mp (hall .workflow e he),
      hactivities.mpr fun e he => adapts_activity.mp (hall .activity e he)⟩

theorem Registers.kept {w' : DurableWorker} {result : Except Fault Unit} (hreg : w.Registers q w' result) :
    w'.config = w.config ∧ w'.rules = w.rules := by
  cases hreg <;> exact ⟨rfl, rfl⟩

/-- A worker without registrations. -/
theorem Regular.blank (config : WorkerConfig) (rules : EngineRules) : Regular { config := config, rules := rules } :=
  ⟨⟨rfl, rfl⟩, .nil rfl, .nil rfl⟩

theorem Regular.afterAll (h : w.Regular) (qs : List RegistrationRequest) :
    (w.afterAll qs).Regular ∧ (w.afterAll qs).registry = w.registry.afterAll qs ∧
      (w.afterAll qs).config = w.config ∧ (w.afterAll qs).rules = w.rules := by
  induction qs generalizing w with
  | nil => exact ⟨h, rfl, rfl, rfl⟩
  | cons q qs ih =>
    have hreg := register_registers w q
    obtain ⟨hregular, hregistry, hconfig, hrules⟩ := ih (hreg.regular h)
    refine ⟨hregular, hregistry.trans ?_, hconfig.trans hreg.kept.1, hrules.trans hreg.kept.2⟩
    rw [hreg.registry]
    rfl

/-- When a workflow function has an adapter. -/
theorem adapts_workflow_iff {ps : List ParameterShape} (hshape : c.workflowParameters = .ok ps) (hsig : Signature.check c.parameters = .ok ()) :
    w.adapts .workflow name c = .ok () ↔ (∃ o, w.config.activityOptions = .ok o) ∧
      (∀ p ∈ c.parameters.drop 1, p.kind ≠ .positionalOnly ∧ p.name ≠ "self") ∧
      w.rules.method (WorkflowAdapter.classNameOf name ++ ".run") = .ok () ∧ '\x00' ∉ (WorkflowAdapter.classNameOf name).toList := by
  rw [adapts_workflow, workflowAdapter, ← WorkflowAdapter.methodParameters_check hshape hsig]
  cases w.config.activityOptions with
  | error f => simp [bind, Except.bind]
  | ok o =>
    rw [← @WorkflowAdapter.build_eq_ok _ w.rules name o]
    simp [bind, Except.bind]

/-- When an activity has an adapter. -/
theorem adapts_activity_iff : w.adapts .activity name c = .ok () ↔ w.rules.activity c = .ok () := by
  rw [adapts_activity, activityAdapter, ActivityAdapter.build_eq_ok]

/-- **Both workers have the same tables** after the same calls of registration, and a call succeeds on the durable one if it does on the simulated
one and the function has an adapter. A call that fails leaves everything as it was, unless that adapter is all it fails for: then the entry stays
without one. Tables and adapters agree exactly when every function in the tables has an adapter, which a workflow function has for all kinds, names
and defaults of the parameters after the context, but for parameters by place alone and for the name of the object. -/
theorem registrations_agree (config : WorkerConfig) (rules : EngineRules) (earlier : List RegistrationRequest) (q : RegistrationRequest) :
    let w := afterAll { config := config, rules := rules } earlier
    let r := Registry.afterAll {} earlier
    w.registry = r ∧ (w.register q).1.registry = (r.register q.kind q.function q.options).toOption.getD r ∧
    (w.InStep ↔ ∀ kind, ∀ e ∈ (r.table kind).entries, w.adapts kind e.name e.function = .ok ()) ∧
    ((w.register q).2 = .ok () ↔ ∃ name r', registrationName q.function q.options = .ok name ∧
      r.register q.kind q.function q.options = .ok r' ∧ w.adapts q.kind name q.function = .ok ()) ∧
    w.Registers q (w.register q).1 (w.register q).2 ∧
    (∀ name c ps, c.workflowParameters = .ok ps → Signature.check c.parameters = .ok () →
      (w.adapts .workflow name c = .ok () ↔ (∃ o, config.activityOptions = .ok o) ∧
        (∀ p ∈ c.parameters.drop 1, p.kind ≠ .positionalOnly ∧ p.name ≠ "self") ∧
        rules.method (WorkflowAdapter.classNameOf name ++ ".run") = .ok () ∧ '\x00' ∉ (WorkflowAdapter.classNameOf name).toList)) ∧
    ∀ name c, w.adapts .activity name c = .ok () ↔ rules.activity c = .ok () := by
  intro w r
  obtain ⟨hregular, hregistry, hconfig, hrules⟩ := (Regular.blank config rules).afterAll earlier
  have hregular : w.Regular := hregular
  have hregistry : w.registry = r := hregistry
  have hconfig : w.config = config := hconfig
  have hrules : w.rules = rules := hrules
  have hreg := register_registers w q
  refine ⟨hregistry, ?_, ?_, ?_, hreg, fun name c ps hshape hsig => ?_, fun name c => ?_⟩
  · rw [hreg.registry, hregistry]
  · rw [hregular.inStep_iff, hregistry]
  · rw [hreg.result_eq_ok, hregistry]
  · rw [adapts_workflow_iff hshape hsig, hconfig, hrules]
  · rw [adapts_activity_iff, hrules]

/-- On a worker with a timeout past all spans the registration of a workflow fails, but leaves an entry without an adapter, for which a second one is
refused; on the simulated worker the call succeeds. -/
theorem failed_registration_leaves_entry :
    let c : Callable := { key := "f", shown := "f", parameters := [.required "ctx" (.context "Context") .positional] }
    let q : RegistrationRequest := { kind := .workflow, function := c, options := { name := some "flow" } }
    let w : DurableWorker := { config := { activityTimeout := .int 9007199254740991 } }
    (w.register q).2 = .error Span.outOfRange ∧ (w.register q).1.registry.workflows.names = ["flow"] ∧
      (w.register q).1.adapters.map Prod.fst = [] ∧
      ((w.registry.register q.kind q.function q.options).map fun r => r.workflows.names) = .ok ["flow"] ∧
      ((w.register q).1.register q).2 = .error (.error .registration "workflow 'flow' is already registered") := by
  refine ⟨rfl, rfl, rfl, rfl, rfl⟩

end DurableWorker

end ScriptFlow
