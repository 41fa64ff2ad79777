import Mathlib
import ScriptFlow.Proofs.Simulation.Signals

/-!
# Families of runs

A child gets the ids of its parent with a number behind them that no other child gets. The number is what stands behind the last dash, whatever the ids look like
before it. So the run ids of a family, which is a root with all that descends from it, are different, and what the engine keeps under one of them is of one run.

* `Simulator.append_childSuffix_inj` — **the number can be read off an id**.
* `Simulator.Performs` — what the runs of a family do to what is kept under run ids; `Simulator.Saga` — their deeds, one after the other.
* `Simulator.Saga.births` — how the ids of children come about; `Simulator.Saga.nodup_runIds`, `Simulator.Saga.nodup_generatedIds` — **they are
  different**.
* `Simulator.Saga.kept_eq` — **what is kept under the id of a run comes of its own deeds**.
-/

namespace ScriptFlow

namespace Simulator

/-! ## Ids of children -/

/-- What an id of a child has behind the id of its parent. -/
def childSuffix (n : Nat) : String := "-child-" ++ toString n

/-- The digits at the end of an id are those of the number: a dash stands before them. -/
theorem rtakeWhile_append_childSuffix (x : String) (n : Nat) : (x ++ childSuffix n).toList.rtakeWhile Char.isDigit = Nat.toDigits 10 n := by
  have hdigits : ∀ c ∈ (Nat.toDigits 10 n).reverse, c.isDigit = true := fun c hc =>
    Nat.isDigit_of_mem_toDigits (by decide) (by decide) (List.mem_reverse.mp hc)
  have hdash : "-child-".toList.reverse = '-' :: "-child".toList.reverse := by decide
  rw [childSuffix, String.toList_append, String.toList_append, Nat.toString_eq_repr, Nat.toList_repr, List.rtakeWhile, List.reverse_append,
    List.reverse_append, List.append_assoc, List.takeWhile_append_of_pos hdigits, hdash, List.cons_append, List.takeWhile_cons_of_neg (by decide),
    List.append_nil, List.reverse_reverse]

/-- **The number can be read off an id**, even if the id of the parent looks like that of a child. -/
theorem append_childSuffix_inj {x y : String} {m n : Nat} : x ++ childSuffix m = y ++ childSuffix n ↔ x = y ∧ m = n := by
  refine ⟨fun h => ?_, fun h => by rw [h.1, h.2]⟩
  have hdigits : Nat.toDigits 10 m = Nat.toDigits 10 n := by
    rw [← rtakeWhile_append_childSuffix x m, h, rtakeWhile_append_childSuffix]
  obtain rfl : m = n := by simpa using congrArg (fun ds => Nat.ofDigitChars 10 ds 0) hdigits
  have hlists := congrArg String.toList h
  rw [String.toList_append, String.toList_append] at hlists
  exact ⟨String.toList_inj.mp (List.append_cancel_right hlists), rfl⟩

theorem length_lt_append_childSuffix (x : String) (n : Nat) : x.length < (x ++ childSuffix n).length := by
  have hdash : "-child-".length = 7 := rfl
  rw [childSuffix, String.length_append, String.length_append, hdash]
  omega

/-! ## Deeds -/

/-- A child as it was started: the place of its parent in the family, the id that it has unless the options give it one, and what it is. -/
structure Birth where
  parent : Nat
  generatedId : String
  child : Identity

/-- What a child is with the ids that are generated for it: the options may give it another id, but no other run id. -/
def childOf (parent : Identity) (name : String) (options : ChildOptions) (id runId : String) : Identity :=
  { id := (nonEmpty options.workflowId).getD id, runId := runId, workflowType := name, domain := (nonEmpty options.domain).getD parent.domain
    taskList := (nonEmpty options.taskList).getD parent.taskList }

/-- The child that is started next under a context of a run. -/
def nextBirth (s : Simulator) (place : Nat) (parent : Identity) (name : String) (options : ChildOptions) : Birth :=
  let (_, id, runId) := s.nextChild parent
  { parent := place, generatedId := id, child := childOf parent name options id runId }

/-- What a run does, named by its place in the family, to what the engine keeps under run ids. -/
inductive Deed where
  | starts (b : Birth)
  | setsQuery (run : Nat) (name : String) (h : QueryHandler)
  | setsSignal (run : Nat) (name : String) (h : SignalHandler)
  /-- a signal was sent to the run and found no handler -/
  | keeps (run : Nat) (name : String) (d : Data)
  /-- something else -/
  | other

namespace Deed

/-- The child that comes of a deed. -/
def birth? : Deed → Option Birth
  | starts b => some b
  | _ => none

/-- The run whose handlers and signals a deed is about. -/
def run? : Deed → Option Nat
  | setsQuery run .. | setsSignal run .. | keeps run .. => some run
  | starts _ | other => none

/-- A family after a deed. -/
def extend (family : List Identity) : Deed → List Identity
  | starts b => family ++ [b.child]
  | setsQuery .. | setsSignal .. | keeps .. | other => family

end Deed

/-- The children that were started, in order. -/
def births (deeds : List Deed) : List Birth := deeds.filterMap (·.birth?)

/-- A root and all that descend from it, in the order in which they were started. -/
def family (root : Identity) (deeds : List Deed) : List Identity := root :: (births deeds).map (·.child)

theorem births_append (deeds : List Deed) (a : Deed) : births (deeds ++ [a]) = births deeds ++ a.birth?.toList := by
  cases h : a.birth? <;> simp [births, h]

theorem family_append (root : Identity) (deeds : List Deed) (a : Deed) : family root (deeds ++ [a]) = a.extend (family root deeds) := by
  rw [family, births_append, List.map_append, family]
  cases a with
  | starts b => rfl
  | _ => exact congrArg _ (List.append_nil _)

theorem prefix_extend (a : Deed) (F : List Identity) : F <+: a.extend F := by
  cases a with
  | starts b => exact List.prefix_append ..
  | _ => exact List.prefix_rfl

/-- Members keep their places. -/
theorem getElem?_mono {F F' : List Identity} (h : F <+: F') {i : Nat} {m : Identity} (hi : F[i]? = some m) : F'[i]? = some m := by
  obtain ⟨rest, rfl⟩ := h
  rw [List.getElem?_append_left (List.getElem?_eq_some_iff.mp hi).1, hi]

/-- Neither children are started, nor does anything change under run ids. -/
structure Untouched (s s' : Simulator) : Prop where
  children : s'.children = s.children
  queryHandlers : s'.queryHandlers = s.queryHandlers
  signalHandlers : s'.signalHandlers = s.signalHandlers
  pendingSignals : s'.pendingSignals = s.pendingSignals

theorem Untouched.refl (s : Simulator) : Untouched s s := ⟨rfl, rfl, rfl, rfl⟩

/-- Sets a handler for queries. -/
def setQuery (s : Simulator) (run name : String) (h : QueryHandler) : Simulator := { s with queryHandlers := s.queryHandlers.set run name h }

/-- Deeds of the runs of a family. What a run does under a run id, it does under its own one; signals come to runs of the family. -/
inductive Performs (F : List Identity) (s : Simulator) : Deed → Simulator → Prop where
  | starts {i : Nat} {parent : Identity} (hi : F[i]? = some parent) (name : String) (options : ChildOptions) :
      Performs F s (.starts (s.nextBirth i parent name options)) (s.nextChild parent).1
  | setsQuery {i : Nat} {m : Identity} (hi : F[i]? = some m) (name : String) (h : QueryHandler) :
      Performs F s (.setsQuery i name h) (s.setQuery m.runId name h)
  | setsSignal {i : Nat} {m : Identity} (hi : F[i]? = some m) (name : String) (h : SignalHandler) :
      Performs F s (.setsSignal i name h) (s.setHandler m.runId name h)
  | keeps {i : Nat} {m : Identity} (hi : F[i]? = some m) (name : String) (d : Data) : Performs F s (.keeps i name d) (s.keep m.runId name d)
  | other {s' : Simulator} (h : Untouched s s') : Performs F s .other s'

/-- What the runs of a family do to an engine, one deed after the other. Every child is started under a context of the root or of a descendant that is there. -/
inductive Saga (root : Identity) (s₀ : Simulator) : List Deed → Simulator → Prop where
  | begins : Saga root s₀ [] s₀
  | goesOn {deeds : List Deed} {s s' : Simulator} {a : Deed} (h : Saga root s₀ deeds s) (ha : Performs (family root deeds) s a s') :
      Saga root s₀ (deeds ++ [a]) s'

variable {root : Identity} {s₀ s s' : Simulator} {deeds : List Deed} {F : List Identity} {a : Deed}

/-! ## The ids of a family -/

theorem Performs.children (h : Performs F s a s') : s'.children = s.children + a.birth?.toList.length := by
  cases h with
  | other h => exact h.children
  | _ => rfl

/-- The ids of a child are those of a run of the family with its number behind them. -/
theorem Performs.birth (h : Performs F s a s') {b : Birth} (hb : a.birth? = some b) : ∃ parent, F[b.parent]? = some parent ∧
    b.generatedId = parent.id ++ childSuffix (s.children + 1) ∧ b.child.runId = parent.runId ++ childSuffix (s.children + 1) := by
  cases h with
  | starts hi name options =>
    obtain rfl := Option.some.inj hb
    exact ⟨_, hi, rfl, rfl⟩
  | _ => cases hb

/-- Texts that end in consecutive numbers are different. -/
theorem nodup_map_of_numbers {bs : List Birth} {f : Birth → String} {c : Nat}
    (hf : ∀ k b, bs[k]? = some b → ∃ x, f b = x ++ childSuffix (c + k + 1)) : (bs.map f).Nodup := by
  rw [List.nodup_iff_getElem?_ne_getElem?]
  intro j k hlt hk heq
  rw [List.length_map] at hk
  rw [List.getElem?_map, List.getElem?_map, List.getElem?_eq_getElem (hlt.trans hk), List.getElem?_eq_getElem hk] at heq
  obtain ⟨x, hx⟩ := hf j _ (List.getElem?_eq_getElem (hlt.trans hk))
  obtain ⟨y, hy⟩ := hf k _ (List.getElem?_eq_getElem hk)
  have hnumbers := (append_childSuffix_inj.mp (hx.symm.trans ((Option.some.inj heq).trans hy))).2
  omega

namespace Saga

theorem children (h : Saga root s₀ deeds s) : s.children = s₀.children + (births deeds).length := by
  induction h with
  | begins => rfl
  | goesOn _ ha ih => rw [ha.children, ih, births_append, List.length_append, Nat.add_assoc]

/-- **How the ids of children come about**: the parent is there before, and the number is that of the child among all children of the engine. -/
theorem births (h : Saga root s₀ deeds s) {k : Nat} {b : Birth} (hb : (Simulator.births deeds)[k]? = some b) :
    b.parent ≤ k ∧ ∃ parent, (family root deeds)[b.parent]? = some parent ∧
      b.generatedId = parent.id ++ childSuffix (s₀.children + k + 1) ∧ b.child.runId = parent.runId ++ childSuffix (s₀.children + k + 1) := by
  induction h with
  | begins => cases hb
  | @goesOn deeds s s' a h ha ih =>
    rw [births_append] at hb
    rw [family_append]
    by_cases hk : k < (Simulator.births deeds).length
    · rw [List.getElem?_append_left hk] at hb
      obtain ⟨hle, parent, hparent, hids⟩ := ih hb
      exact ⟨hle, parent, getElem?_mono (prefix_extend a _) hparent, hids⟩
    · rw [List.getElem?_append_right (not_lt.mp hk)] at hb
      obtain ⟨hk', hbirth⟩ : k = (Simulator.births deeds).length ∧ a.birth? = some b := by
        cases hbirth : a.birth? with
        | none => simp [hbirth] at hb
        | some b' =>
          rw [hbirth, Option.toList_some, List.getElem?_singleton] at hb
          split at hb
          · exact ⟨by omega, hb⟩
          · cases hb
      obtain ⟨parent, hparent, hids⟩ := ha.birth hbirth
      rw [h.children, ← hk'] at hids
      have hlt := (List.getElem?_eq_some_iff.mp hparent).1
      rw [family, List.length_cons, List.length_map, ← hk'] at hlt
      exact ⟨Nat.lt_succ_iff.mp hlt, parent, getElem?_mono (prefix_extend a _) hparent, hids⟩

/-- A descendant has a longer run id than the root. -/
theorem length_lt (h : Saga root s₀ deeds s) {k : Nat} {b : Birth} (hb : (Simulator.births deeds)[k]? = some b) :
    root.runId.length < b.child.runId.length := by
  -- along the line of parents, which are born before their children
  induction k using Nat.strong_induction_on generalizing b with
  | _ k ih =>
    obtain ⟨hle, parent, hparent, -, hrunId⟩ := h.births hb
    rw [hrunId]
    refine lt_of_le_of_lt ?_ (length_lt_append_childSuffix parent.runId _)
    cases hplace : b.parent with
    | zero =>
      rw [hplace] at hparent
      exact (Option.some.inj hparent) ▸ le_rfl
    | succ j =>
      rw [hplace, family, List.getElem?_cons_succ, List.getElem?_map, Option.map_eq_some_iff] at hparent
      obtain ⟨b', hb', rfl⟩ := hparent
      exact (ih j (by omega) hb').le

/-- **No two ids that children get without overrides are the same.** -/
theorem nodup_generatedIds (h : Saga root s₀ deeds s) : ((Simulator.births deeds).map (·.generatedId)).Nodup := nodup_map_of_numbers fun _ _ hb => by
  obtain ⟨-, parent, -, hid, -⟩ := h.births hb
  exact ⟨parent.id, hid⟩

/-- **No two runs of a family have the same run id.** -/
theorem nodup_runIds (h : Saga root s₀ deeds s) : ((family root deeds).map (·.runId)).Nodup := by
  rw [family, List.map_cons, List.nodup_cons, List.map_map]
  refine ⟨fun hmem => ?_, nodup_map_of_numbers (c := s₀.children) fun _ _ hb => ?_⟩
  · obtain ⟨b, hb, hrunId⟩ := List.mem_map.mp hmem
    obtain ⟨k, hk⟩ := List.mem_iff_getElem?.mp hb
    exact absurd (congrArg String.length hrunId) (h.length_lt hk).ne'
  · obtain ⟨-, parent, -, -, hrunId⟩ := h.births hb
    exact ⟨parent.runId, hrunId⟩

/-- A run id tells the run. -/
theorem runId_eq_iff (h : Saga root s₀ deeds s) {i j : Nat} {m m' : Identity} (hi : (family root deeds)[i]? = some m)
    (hj : (family root deeds)[j]? = some m') : m'.runId = m.runId ↔ j = i := by
  refine ⟨fun hrunId => ?_, fun hij => ?_⟩
  · refine (List.getElem?_inj ?_ h.nodup_runIds).mp ?_
    · rw [List.length_map]
      exact (List.getElem?_eq_some_iff.mp hj).1
    · rw [List.getElem?_map, List.getElem?_map, hi, hj, Option.map_some, Option.map_some, hrunId]
  · rw [hij, hi] at hj
    rw [Option.some.inj hj]

end Saga

/-! ## What is kept under run ids -/

/-- What an engine keeps under a run id and a name. -/
structure Kept where
  query : Option QueryHandler
  signal : Option SignalHandler
  pending : List Data

def keptUnder (s : Simulator) (runId name : String) : Kept :=
  { query := s.queryHandlers.get? runId name, signal := s.signalHandlers.get? runId name, pending := s.waiting runId name }

/-- What a deed of a run makes of what is kept for it under a name. -/
def Deed.on (name : String) (k : Kept) : Deed → Kept
  | setsQuery _ n h => if name = n then { k with query := some h } else k
  | setsSignal _ n h => if name = n then { k with signal := some h, pending := [] } else k
  | keeps _ n d => if name = n then { k with pending := k.pending ++ [d] } else k
  | starts _ | other => k

/-- What the deeds of a run make of what was kept before. -/
def keptBy (run : Nat) (name : String) (deeds : List Deed) (before : Kept) : Kept :=
  (deeds.filter fun a => a.run? == some run).foldl (fun k a => a.on name k) before

theorem keptBy_append (run : Nat) (name : String) (deeds : List Deed) (a : Deed) (before : Kept) : keptBy run name (deeds ++ [a]) before =
    if a.run? = some run then a.on name (keptBy run name deeds before) else keptBy run name deeds before := by
  rw [keptBy, List.filter_append, List.foldl_append]
  by_cases ha : a.run? = some run
  · simp [ha, keptBy]
  · simp [ha, keptBy]

section Kept

variable {R name : String} {i : Nat} {m : Identity}

theorem keptUnder_setQuery (s : Simulator) (r n : String) (h : QueryHandler) : (s.setQuery r n h).keptUnder R name =
    if R = r ∧ name = n then { s.keptUnder R name with query := some h } else s.keptUnder R name := by
  rw [keptUnder, setQuery, ByRun.get?_set]
  split <;> rfl

theorem keptUnder_setHandler (s : Simulator) (r n : String) (h : SignalHandler) : (s.setHandler r n h).keptUnder R name =
    if R = r ∧ name = n then { s.keptUnder R name with signal := some h, pending := [] } else s.keptUnder R name := by
  rw [keptUnder, waiting_setHandler, setHandler, ByRun.get?_set]
  split <;> rfl

theorem keptUnder_keep (s : Simulator) (r n : String) (d : Data) : (s.keep r n d).keptUnder R name =
    if R = r ∧ name = n then { s.keptUnder R name with pending := (s.keptUnder R name).pending ++ [d] } else s.keptUnder R name := by
  rw [keptUnder, waiting_keep, keep]
  split <;> rfl

theorem Untouched.keptUnder (h : Untouched s s') : s'.keptUnder R name = s.keptUnder R name := by
  rw [Simulator.keptUnder, waiting, h.queryHandlers, h.signalHandlers, h.pendingSignals, Simulator.keptUnder, waiting]

/-- The run id is that of the run at a place of the family, or of none if there is no such place. -/
def IsOf (F : List Identity) (R : String) (i : Nat) : Prop := ∀ j m, F[j]? = some m → (m.runId = R ↔ j = i)

/-- What is kept under the id of a run changes with the deeds of this run. -/
theorem Performs.keptUnder (h : Performs F s a s') (hR : IsOf F R i) (name : String) :
    s'.keptUnder R name = if a.run? = some i then a.on name (s.keptUnder R name) else s.keptUnder R name := by
  have hkey {j : Nat} {m : Identity} (hj : F[j]? = some m) (n : String) (k k' : Kept) :
      (if R = m.runId ∧ name = n then k' else k) = if some j = some i then (if name = n then k' else k) else k := by
    simp only [eq_comm (a := R), hR j m hj, Option.some.injEq, ite_and]
  cases h with
  | starts => rfl
  | setsQuery hj n h => exact (keptUnder_setQuery ..).trans (hkey hj n _ _)
  | setsSignal hj n h => exact (keptUnder_setHandler ..).trans (hkey hj n _ _)
  | keeps hj n d => exact (keptUnder_keep ..).trans (hkey hj n _ _)
  | other h => exact h.keptUnder

namespace Saga

/-- **What is kept under the id of a run comes of its own deeds**, and under an id that is of no run nothing changes. -/
theorem kept_eq (h : Saga root s₀ deeds s) (hR : IsOf (family root deeds) R i) (name : String) :
    s.keptUnder R name = keptBy i name deeds (s₀.keptUnder R name) := by
  induction h with
  | begins => rfl
  | @goesOn deeds s s' a _ ha ih =>
    have hR' : IsOf (family root deeds) R i := fun j m hj => hR j m (by
      rw [family_append]
      exact getElem?_mono (prefix_extend a _) hj)
    rw [ha.keptUnder hR', ih hR', keptBy_append]

/-- Deeds are of runs of the family. -/
theorem lt_length (h : Saga root s₀ deeds s) (ha : a ∈ deeds) (hi : a.run? = some i) : i < (family root deeds).length := by
  induction h with
  | begins => cases ha
  | @goesOn deeds s s' a' _ hperforms ih =>
    rw [family_append]
    refine lt_of_lt_of_le ?_ (prefix_extend a' _).length_le
    rcases List.mem_append.mp ha with ha | ha
    · exact ih ha
    · obtain rfl := List.mem_singleton.mp ha
      cases hperforms with
      | setsQuery hj | setsSignal hj | keeps hj =>
        cases hi
        exact (List.getElem?_eq_some_iff.mp hj).1
      | _ => cases hi

/-- **Under other ids nothing changes.** -/
theorem kept_of_stranger (h : Saga root s₀ deeds s) (hR : ∀ m ∈ family root deeds, m.runId ≠ R) (name : String) :
    s.keptUnder R name = s₀.keptUnder R name := by
  have hnone : IsOf (family root deeds) R (family root deeds).length := fun j m hj =>
    ⟨fun hrunId => absurd hrunId (hR m (List.mem_of_getElem? hj)), fun hlength => absurd hlength (List.getElem?_eq_some_iff.mp hj).1.ne⟩
  rw [h.kept_eq hnone, keptBy, List.filter_eq_nil_iff.mpr fun a ha hrun => ?_]
  · rfl
  · exact absurd (h.lt_length ha (eq_of_beq hrun)) (lt_irrefl _)

end Saga

end Kept

end Simulator

end ScriptFlow
