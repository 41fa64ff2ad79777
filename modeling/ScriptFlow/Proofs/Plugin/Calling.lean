import Mathlib
import ScriptFlow.Plugin.Catalogue
import ScriptFlow.Proofs.Plugin.Json
import ScriptFlow.Proofs.Plugin.Refusal
import ScriptFlow.Proofs.Script.Showing

/-!
# What functions of modules get

A script calls a function of a module with values, the last of which may be a table of options. The call asks what the last value shows for its metatable, and compares
that with the mark of options as scripts compare values, so that a metamethod may decide. It looks at no other value.

* `Machine.Yields.unique` — an act that gives a truth value gives one.
* `Machine.Marked` — what the look at a value finds; `Machine.Taken` — what a call takes for its values and for its options.
* `Machine.comes_asking` — **a call comes to the question for its host with what it takes.**
* `Store.Options` — a table that can be given as options; `Store.marked` — a table marked by `kw`.
* `Session.calls_carry_arguments` — **a function gets every value at its place and every option under its name, and nothing else.**
* `Session.marks_are_what_they_show` — a script that tampers with the mark changes what is taken for the options.
-/

namespace ScriptFlow

open Script Relation

/-! ## What a call takes -/

namespace Script.Machine

variable {frames : List Frame} {s s' s'' : Store} {number : Nat} {function : String}

/-- Steps from one machine to two that wait for their hosts come to the same one. -/
theorem Comes.eq_of_host {m : Machine} {st st' : Store} {r r' : HostCall} {next next' : HostReply → Prog} (h : Comes m ⟨st, .host r next, frames⟩)
    (h' : Comes m ⟨st', .host r' next', frames⟩) : (⟨st, .host r next, frames⟩ : Machine) = ⟨st', .host r' next', frames⟩ := by
  have hstays {m m' : Machine} {st : Store} {r : HostCall} {next : HostReply → Prog} (hm : m = ⟨st, .host r next, frames⟩) (h : Comes m m') : m' = m := by
    obtain rfl | ⟨m₁, hstep, -⟩ := h.cases_head
    · rfl
    · rw [hm] at hstep
      cases hstep
  have hdeterministic : Relator.RightUnique fun m m' : Machine => m.step = .running m' := fun _ _ _ hb hc =>
    Progress.running.inj (Eq.trans (Eq.symm hb) hc)
  obtain hto | hto := ReflTransGen.total_of_right_unique hdeterministic h h'
  · exact (hstays rfl hto).symm
  · exact hstays rfl hto

/-- **An act that gives a truth value gives one.** -/
theorem Yields.unique {act : Act Bool} {a b : Bool} (h : Yields frames s act s' a) (h' : Yields frames s act s'' b) : s' = s'' ∧ a = b := by
  let told (b : Bool) : Prog := .host (.log (if b then "true".toUTF8 else "false".toUTF8)) fun _ => .done []
  have heq := Comes.eq_of_host (h told) (h' told)
  injection heq with hstore hprog
  refine ⟨hstore, ?_⟩
  injection hprog with hcall
  injection hcall with htext
  revert htext
  cases a <;> cases b <;> decide

/-- A look at a value: does what it shows for its metatable equal the mark of options, as scripts compare values? -/
def Marked (frames : List Frame) (s : Store) (v : Value) (s' : Store) (b : Bool) : Prop :=
  Yields frames s (Act.equal .hidden (Act.shownMeta s v) (.table s.optionsMark)) s' b

/-- What a call takes for its values and for its options; the look at the last value leads from one store to the other. -/
inductive Taken (frames : List Frame) (s : Store) : List Value → Store → List Value → Option TableId → Prop where
  | bare {vs : List Value} (h : ∀ t, vs.getLast? ≠ some (.table t)) : Taken frames s vs s vs none
  | unmarked {vs : List Value} {t : TableId} {s' : Store} (h : Marked frames s (.table t) s' false) :
      Taken frames s (vs ++ [.table t]) s' (vs ++ [.table t]) none
  | marked {vs : List Value} {t : TableId} {s' : Store} (h : Marked frames s (.table t) s' true) : Taken frames s (vs ++ [.table t]) s' vs (some t)

/-- A machine that asks its host to call a function. -/
def asking (s : Store) (frames : List Frame) (number : Nat) (function : String) (vs : List Value) (table : Option TableId) : Machine :=
  ⟨s, .host (.invoke number function vs table) afterReply, frames⟩

/-- A script that has entered a function of a module. -/
def entered (s : Store) (frames : List Frame) (number : Nat) (function : String) (inv : Invocation) : Machine :=
  ⟨s, ((Native.builtin number function).run inv).toProg, frames⟩

/-- However a function of a module is called, the script has entered it with the arguments of the call, as many as there are. -/
theorem enter_builtin {f : FunctionId} (hf : s.function? f = some (.native (.builtin number function))) (args : List Value) (site : Site)
    (naming : Option Naming) : ∃ inv : Invocation, inv.args = args ∧
      ∀ frames, enter s f args site naming = (s, (entered s frames number function inv).focus) := by
  refine ⟨⟨args, site, naming, (Native.builtin number function).own⟩, rfl, fun frames => ?_⟩
  unfold enter
  rw [hf]
  rfl

section Equality

variable {m n : TableId} {v : Value}

theorem yields_equal_self (c : Caller) : Yields frames s (Act.equal c (.table m) (.table m)) s true := by
  have hself : (Value.table m).rawEq (.table m) = true := beq_self_eq_true m
  unfold Act.equal
  rw [if_pos hself]
  exact .pure true

/-- What is no table equals none. -/
theorem yields_equal_other (h : ∀ m, v ≠ .table m) (c : Caller) : Yields frames s (Act.equal c v (.table n)) s false := by
  unfold Act.equal
  cases v with
  | table m => exact absurd rfl (h m)
  | _ => exact .pure false

/-- Two tables of which neither has a metamethod for it are not equal. -/
theorem yields_equal_plain (hne : m ≠ n) (hm : s.metaEntry (.table m) "__eq" = .nil) (hn : s.metaEntry (.table n) "__eq" = .nil) (c : Caller) :
    Yields frames s (Act.equal c (.table m) (.table n)) s false := by
  have hraw : (Value.table m).rawEq (.table n) = false := beq_eq_false_iff_ne.mpr hne
  unfold Act.equal
  rw [if_neg (by rw [hraw]; decide)]
  refine .read_bind ?_
  rw [hm, hn]
  exact .pure false

end Equality

section Looking

variable {vs args : List Value} {t m : TableId} {table : Option TableId} {inv : Invocation}

theorem lookalike?_of_bare (h : ∀ t, vs.getLast? ≠ some (.table t)) : Invocation.lookalike? s vs = none := by
  unfold Invocation.lookalike?
  split
  · rename_i t ht
    exact absurd ht (h t)
  · rfl

theorem splitOptions_of_bare (h : ∀ t, vs.getLast? ≠ some (.table t)) : Invocation.splitOptions s vs = (vs, none) := by
  unfold Invocation.splitOptions
  split
  · rename_i t ht
    exact absurd ht (h t)
  · rfl

/-- The look at a table that no metamethod has a say in. -/
theorem marked_of_undisputed (h : Invocation.lookalike? s (vs ++ [.table t]) = none) (frames : List Frame) :
    JsonText.IsOptions s t ∧ Marked frames s (.table t) s true ∨ ¬ JsonText.IsOptions s t ∧ Marked frames s (.table t) s false := by
  unfold Marked JsonText.IsOptions
  unfold Invocation.lookalike? at h
  rw [List.getLast?_concat] at h
  simp only at h
  generalize Act.shownMeta s (.table t) = shown at h
  cases shown with
  | table m =>
    by_cases hmark : m = s.optionsMark
    · rw [hmark]
      exact .inl ⟨rfl, yields_equal_self _⟩
    · refine .inr ⟨fun heq => hmark (Value.table.inj heq), ?_⟩
      simp only [beq_eq_false_iff_ne.mpr hmark, Bool.false_eq_true, if_false] at h
      split at h
      · rename_i hm hn
        exact yields_equal_plain hmark hm hn _
      · cases h
  | _ => exact .inr ⟨Value.noConfusion, yields_equal_other (fun m => Value.noConfusion) _⟩

/-- A look in which a metamethod has a say goes on with what it finds. -/
theorem shownMeta_of_disputed (h : Invocation.lookalike? s (vs ++ [.table t]) = some (u, m)) : u = t ∧ Act.shownMeta s (.table t) = .table m := by
  unfold Invocation.lookalike? at h
  rw [List.getLast?_concat] at h
  simp only at h
  generalize Act.shownMeta s (.table t) = shown at h
  cases shown with
  | table m' =>
    dsimp only at h
    split at h
    · cases h
    · split at h
      · cases h
      · obtain ⟨rfl, rfl⟩ := Prod.mk.inj (Option.some.inj h)
        exact ⟨rfl, rfl⟩
  | _ => cases h

/-- What a call does after it has looked for a metamethod. -/
def looked (inv : Invocation) (number : Nat) (function : String) : Option (TableId × TableId) → Act (List Value)
  | none => inv.called number function
  | some (t, m) => do
    let mark ← Act.read (·.optionsMark)
    if ← Act.equal .hidden (.table m) (.table mark) then Invocation.answered (.invoke number function inv.args.dropLast (some t))
    else Invocation.answered (.invoke number function inv.args none)

theorem step_entered (s : Store) (frames : List Frame) (number : Nat) (function : String) (inv : Invocation) :
    (entered s frames number function inv).step =
      .running ⟨s, (looked inv number function (Invocation.lookalike? s inv.args)).toProg, frames⟩ := by
  have hrun : (Native.builtin number function).run inv = Act.read (Invocation.lookalike? · inv.args) >>= looked inv number function := rfl
  rw [entered, hrun]
  rfl

/-- A call that no metamethod has a say in asks its host in three steps. -/
theorem run_entered (h : Invocation.lookalike? s inv.args = none) (n : Nat) : Machine.run (n + 3) (entered s frames number function inv) =
    some (.asking (.invoke number function (Invocation.splitOptions s inv.args).1 (Invocation.splitOptions s inv.args).2) ⟨s, frames, afterReply⟩) := by
  rw [run, step_entered, h]
  exact run_builtin s frames number function inv n

/-- It takes what shows the mark for its options. -/
theorem Taken.undisputed (h : Taken frames s args s' vs table) (hlook : Invocation.lookalike? s args = none) :
    s' = s ∧ Invocation.splitOptions s args = (vs, table) := by
  cases h with
  | bare h => exact ⟨rfl, splitOptions_of_bare h⟩
  | @unmarked vs t _ h =>
    obtain ⟨-, hself⟩ | ⟨hother, hself⟩ := marked_of_undisputed hlook frames
    · cases (h.unique hself).2
    · have hlast : ∀ u, Value.table t = .table u → ¬ JsonText.IsOptions s u := by
        rintro u ⟨⟩
        exact hother
      exact ⟨(h.unique hself).1, JsonText.splitOptions_of_last hlast vs⟩
  | marked h =>
    obtain ⟨hoptions, hself⟩ | ⟨-, hself⟩ := marked_of_undisputed hlook frames
    · exact ⟨(h.unique hself).1, JsonText.splitOptions_options hoptions vs⟩
    · cases (h.unique hself).2

theorem comes_undisputed (hlook : Invocation.lookalike? s inv.args = none) (hsplit : Invocation.splitOptions s inv.args = (vs, table))
    (frames : List Frame) (number : Nat) (function : String) :
    Comes (entered s frames number function inv) (asking s frames number function vs table) := by
  have hread : (callsBuiltin s frames number function inv).step =
      .running ⟨s, (Invocation.answered (.invoke number function vs table)).toProg, frames⟩ := by
    change Progress.running ⟨s, (Invocation.answered (.invoke number function (Invocation.splitOptions s inv.args).1
      (Invocation.splitOptions s inv.args).2)).toProg, frames⟩ = _
    rw [hsplit]
  rw [answered_toProg] at hread
  refine .head (step_entered s frames number function inv) (.single ?_)
  rw [hlook]
  exact hread

/-- A metamethod that has a say in a call decides what it takes. -/
theorem comes_disputed {b : Bool} (hlook : Invocation.lookalike? s inv.args = some (t, m))
    (h : Yields frames s (Act.equal .hidden (.table m) (.table s.optionsMark)) s' b) (number : Nat) (function : String) :
    Comes (entered s frames number function inv)
      (if b then asking s' frames number function inv.args.dropLast (some t) else asking s' frames number function inv.args none) := by
  let ask (b : Bool) : Act (List Value) :=
    if b then Invocation.answered (.invoke number function inv.args.dropLast (some t))
    else Invocation.answered (.invoke number function inv.args none)
  have hasks : (⟨s', (ask b).toProg, frames⟩ : Machine) =
      if b then asking s' frames number function inv.args.dropLast (some t) else asking s' frames number function inv.args none := by
    cases b <;> exact congrArg (Machine.mk s' · frames) (answered_toProg _)
  rw [← hasks]
  refine .head (step_entered s frames number function inv) ?_
  rw [hlook]
  exact .head rfl (h fun b => (ask b).toProg)

/-- **A call comes to the question for its host with what it takes.** -/
theorem comes_asking (h : Taken frames s inv.args s' vs table) (number : Nat) (function : String) :
    Comes (entered s frames number function inv) (asking s' frames number function vs table) := by
  cases hlook : Invocation.lookalike? s inv.args with
  | none =>
    obtain ⟨rfl, hsplit⟩ := h.undisputed hlook
    exact comes_undisputed hlook hsplit frames number function
  | some p =>
    obtain ⟨u, m⟩ := p
    generalize hargs : inv.args = args at h hlook
    cases h with
    | bare h =>
      rw [lookalike?_of_bare h] at hlook
      cases hlook
    | unmarked h =>
      obtain ⟨rfl, hshown⟩ := shownMeta_of_disputed hlook
      rw [Marked, hshown] at h
      exact hargs ▸ comes_disputed (hargs ▸ hlook) h number function
    | marked h =>
      obtain ⟨rfl, hshown⟩ := shownMeta_of_disputed hlook
      rw [Marked, hshown] at h
      have hdrop : inv.args.dropLast = vs := by simp [hargs]
      exact hdrop ▸ comes_disputed (hargs ▸ hlook) h number function

/-! ## Marks -/

/-- A table that shows the mark is taken for the options. -/
theorem Taken.of_isOptions (h : JsonText.IsOptions s t) (frames : List Frame) (vs : List Value) : Taken frames s (vs ++ [.table t]) s vs (some t) := by
  refine .marked ?_
  rw [Marked, show Act.shownMeta s (.table t) = .table s.optionsMark from h]
  exact yields_equal_self _

/-- A table that shows none, or one that no metamethod compares with the mark, is taken for a value. -/
theorem Taken.of_not_isOptions (h : ¬ JsonText.IsOptions s t)
    (heq : ∀ m, Act.shownMeta s (.table t) = .table m → s.metaEntry (.table m) "__eq" = .nil ∧ s.metaEntry (.table s.optionsMark) "__eq" = .nil)
    (frames : List Frame) (vs : List Value) : Taken frames s (vs ++ [.table t]) s (vs ++ [.table t]) none := by
  refine .unmarked ?_
  unfold Marked
  unfold JsonText.IsOptions at h
  generalize hshown : Act.shownMeta s (.table t) = shown at h heq
  cases shown with
  | table m => exact yields_equal_plain (fun hm => h (congrArg Value.table hm)) (heq m rfl).1 (heq m rfl).2 _
  | _ => exact yields_equal_other (fun m => Value.noConfusion) _

end Looking

end Script.Machine

/-! ## Options and marks -/

namespace Script.Store

variable {s s' : Store} {t : TableId} {v : Value}

/-- A table that can be given as options: it has a form outside of scripts, its keys are strings, and no key is the name of a parameter that all functions have. -/
structure Options (s : Store) (t : TableId) : Prop where
  wellFormed : (s.table t).WellFormed
  strings : ∀ e ∈ (s.table t).entries, ∃ bs, e.1 = .str bs
  converts : ∃ d, s.toData (.table t) = .ok d
  free : ∀ e ∈ (s.table t).entries, ∀ key ∈ Builtin.callParameters, e.1 ≠ .ofText key

namespace Options

theorem optionTable (h : s.Options t) : s.OptionTable t where
  wellFormed := h.wellFormed
  objects e he n d hkey := by
    obtain ⟨bs, hbs⟩ := h.strings e he
    rw [hbs] at hkey
    cases hkey
  converts := h.converts

theorem named (h : s.Options t) : (s.table t).Named := fun e he => by
  obtain ⟨d, hd⟩ := h.converts
  obtain ⟨es, hes, -⟩ := toDataWithin_table_ok_iff.mp hd
  obtain ⟨bs, hbs⟩ := h.strings e he
  obtain ⟨k, hk, -⟩ := mem_of_sortedEntries hes e he
  rw [hbs, toDataWithin_of_not_table fun t => Value.noConfusion, atomOf, map_ok_iff] at hk
  obtain ⟨key, hkey, -⟩ := hk
  exact ⟨key, by rw [hbs, Value.ofText, Utf8.toUTF8_of_decode hkey]⟩

end Options

/-- Data is made of the entries of tables alone. -/
theorem toDataWithin_entries (h : ∀ t, (s.table t).entries = (s'.table t).entries) (fuel : Nat) (v : Value) :
    s.toDataWithin fuel v = s'.toDataWithin fuel v := by
  induction fuel generalizing v with
  | zero => cases v <;> rfl
  | succ fuel ih =>
    have hrest : s.toDataWithin fuel = s'.toDataWithin fuel := funext ih
    cases v with
    | table t =>
      have hsorted (f : Value → Except Fault Data) : sortedEntries f (s.table t) = sortedEntries f (s'.table t) := by
        unfold sortedEntries
        rw [h t]
      rw [toDataWithin, toDataWithin, hrest, hsorted]
    | _ => rfl

/-- A table marked by `kw`. -/
def marked (s : Store) (t : TableId) : Store := s.setTable t fun table => { table with meta? := some s.optionsMark }

theorem table_marked (ht : t < s.tables.size) : (s.marked t).table t = { s.table t with meta? := some s.optionsMark } := by
  simp [marked, setTable, table, ht, Array.getElem_modify_self]

theorem entries_marked (s : Store) (t u : TableId) : ((s.marked t).table u).entries = (s.table u).entries := by
  by_cases h : u = t
  · rw [h]
    by_cases ht : t < s.tables.size
    · rw [table_marked ht]
    · simp [marked, setTable, table, Nat.le_of_not_lt ht]
  · rw [marked, table_setTable_of_ne s h]

/-- Marking a table changes nothing of what values are outside of scripts. -/
theorem toData_marked (s : Store) (t : TableId) (v : Value) : (s.marked t).toData v = s.toData v := by
  have hsize : (s.marked t).tables.size = s.tables.size := by simp [marked, setTable]
  rw [toData, toData, hsize]
  exact toDataWithin_entries (entries_marked s t) _ v

/-- A table that is marked is taken for the options, as long as the mark shows itself. -/
theorem isOptions_of_marked (h : (s.table t).meta? = some s.optionsMark) (hmark : (s.table s.optionsMark).get (.ofText "__metatable") = .nil) :
    JsonText.IsOptions s t := by
  rw [JsonText.IsOptions, Act.shownMeta, meta?, h]
  simp only [hmark]

end Script.Store

namespace Script.Machine

variable {s : Store} {t : TableId} {inv : Invocation}

/-- `kw` marks a table. -/
theorem comes_kw (h : inv.get 1 = .table t) (hopen : s.metaEntry (.table t) "__metatable" = .nil) (frames : List Frame) :
    Comes ⟨s, (Native.kw.run inv).toProg, frames⟩ ⟨s.marked t, .done [.table t], frames⟩ := by
  have hrun : Native.kw.run inv = Act.read (·.optionsMark) >>= fun mark => Invocation.setMeta none t (some mark) := by
    change inv.kw = _
    rw [Invocation.kw, h]
  have hset : Yields frames s (Invocation.setMeta none t (some s.optionsMark)) (s.marked t) [.table t] := by
    unfold Invocation.setMeta
    refine .read_bind ?_
    rw [hopen]
    exact fun k => .single rfl
  rw [hrun]
  exact (Yields.read _).bind hset _

/-- Without a table `kw` makes one. -/
theorem comes_kw_nil (h : inv.get 1 = .nil) (s : Store) (frames : List Frame) : Comes ⟨s, (Native.kw.run inv).toProg, frames⟩
    ⟨(s.newTable { meta? := some s.optionsMark }).1, .done [.table s.tables.size], frames⟩ := by
  have hrun : Native.kw.run inv = Act.modifyGet (fun s => s.newTable { meta? := some s.optionsMark }) >>= fun t => pure [.table t] := by
    change inv.kw = _
    rw [Invocation.kw, h]
  rw [hrun]
  exact .single rfl

end Script.Machine

/-! ## What functions get -/

namespace Session

variable {ε : Type} {s : Session ε} {number : Nat} {function : String}

/-- What becomes of a call of a function with values and options. -/
def carries (s : Session ε) (fuel : Nat) (store : Store) (frames : List Frame) (b : Builtin ε) (args : List Data) (fields : List (String × Data)) :
    Play ε Ending := do
  s.afterInvoke fuel ⟨store, frames, Machine.afterReply⟩ (← Flow.attempt (b s.thread args fields))

/-- A session that comes to the question for a function calls the function. -/
theorem drive_asking {b : Builtin ε} (hb : (s.module number).attributes.builtins.lookup function = some b) {store : Store} {frames : List Frame}
    {vs : List Value} {args : List Data} {table : Option TableId} {fields : List (String × Data)} (hgets : Cad.Gets store table fields)
    (htable : ∀ t ∈ table, store.Options t)
    (hask : (⟨store, frames, Machine.afterReply⟩ : Suspension).ask (.invoke number function vs table) = .invoke number function args fields)
    {m : Machine} (hm : Environment.advance m = .asking (.invoke number function vs table) ⟨store, frames, Machine.afterReply⟩) (fuel : Nat) :
    s.drive (fuel + 1) m = s.carries fuel store frames b args fields := by
  have hnamed : Cad.Named store table := fun t ht => (htable t ht).named
  have hfree : ¬ Cad.Shadows store table := by
    rintro ⟨-, key, hkey, d, t, ht, v, hv, -⟩
    exact (htable t ht).free _ hv key hkey rfl
  have hcall := (Cad.call_of_shadows hgets hnamed b s.thread args).2 hfree
  have hinvoke : s.invoke number function args fields = b s.thread args fields := by
    unfold Session.invoke
    simp only [hb, hcall]
  rw [drive_invoke hm hask, hinvoke]
  rfl

theorem advance_asking (store : Store) (frames : List Frame) (number : Nat) (function : String) (vs : List Value) (table : Option TableId) :
    Environment.advance (.asking store frames number function vs table) =
      .asking (.invoke number function vs table) ⟨store, frames, Machine.afterReply⟩ := by
  obtain ⟨n, hn⟩ : ∃ n, Environment.steps = n + 1 := ⟨2 ^ 62 - 1, rfl⟩
  rw [Environment.advance, hn]
  rfl

theorem advance_entered {store : Store} {inv : Invocation} (h : Invocation.lookalike? store inv.args = none) (frames : List Frame) (number : Nat)
    (function : String) : Environment.advance (.entered store frames number function inv) =
      .asking (.invoke number function (Invocation.splitOptions store inv.args).1 (Invocation.splitOptions store inv.args).2)
        ⟨store, frames, Machine.afterReply⟩ := by
  obtain ⟨n, hn⟩ : ∃ n, Environment.steps = n + 3 := ⟨2 ^ 62 - 3, rfl⟩
  rw [Environment.advance, hn, Machine.run_entered h]
  rfl

/-- **A function gets what the call takes**: every value at its place as data, with nothing for `nil`, and every entry of the table of options under its name, in the order of the
names; without a table, or with an empty one, it gets no options. However a script enters the function, the call comes to the question for its host, and a session that drives
the script to it calls the function; without a metamethod that has a say the session does so from the call on, in the store of the call.

What a call takes goes by its last value alone: a table that shows the mark is taken for the options, and one that does not is a value, unless a metamethod makes it equal to the
mark. `kw` marks a table, or makes an empty one that is marked, and what is marked shows the mark as long as the mark shows itself. A marked table at any other place is a
value, and the same data as without the mark. -/
theorem calls_carry_arguments {b : Builtin ε} (hb : (s.module number).attributes.builtins.lookup function = some b) {store : Store}
    {vs : List Value} {args : List Data} (hvs : List.Forall₂ (fun v d => store.toData v = .ok d) vs args) {table : Option TableId}
    (htable : ∀ t ∈ table, store.Options t) : store.toData .nil = .ok .null ∧
    (∀ (store₀ : Store) f, store₀.function? f = some (.native (.builtin number function)) → ∀ args site naming, ∃ inv : Invocation, inv.args = args ∧
      ∀ frames, Machine.enter store₀ f args site naming = (store₀, (Machine.entered store₀ frames number function inv).focus)) ∧
    (∃ fields, Cad.Gets store table fields ∧ ((∀ t ∈ table, (store.table t).entries = []) → fields = []) ∧
      (∀ frames fuel, s.drive (fuel + 1) (.asking store frames number function vs table) = s.carries fuel store frames b args fields) ∧
      ∀ frames store₀ inv, Machine.Taken frames store₀ inv.args store vs table →
        Machine.Comes (.entered store₀ frames number function inv) (.asking store frames number function vs table) ∧
        (Invocation.lookalike? store₀ inv.args = none → store₀ = store ∧
          ∀ fuel, s.drive (fuel + 1) (.entered store₀ frames number function inv) = s.carries fuel store frames b args fields)) ∧
    (∀ t, JsonText.IsOptions store t → ∀ frames vs, Machine.Taken frames store (vs ++ [.table t]) store vs (some t)) ∧
    (∀ t, ¬ JsonText.IsOptions store t → (∀ m, Act.shownMeta store (.table t) = .table m →
        store.metaEntry (.table m) "__eq" = .nil ∧ store.metaEntry (.table store.optionsMark) "__eq" = .nil) →
      ∀ frames vs, Machine.Taken frames store (vs ++ [.table t]) store (vs ++ [.table t]) none) ∧
    (∀ t, (store.table t).meta? = some store.optionsMark → (store.table store.optionsMark).get (.ofText "__metatable") = .nil →
      JsonText.IsOptions store t) ∧
    (∀ frames store₀ inv t, inv.get 1 = .table t → store₀.metaEntry (.table t) "__metatable" = .nil →
      Machine.Comes ⟨store₀, (Native.kw.run inv).toProg, frames⟩ ⟨store₀.marked t, .done [.table t], frames⟩ ∧
      ∀ v, (store₀.marked t).toData v = store₀.toData v) ∧
    ∀ frames store₀ inv, inv.get 1 = .nil → Machine.Comes ⟨store₀, (Native.kw.run inv).toProg, frames⟩
      ⟨(store₀.newTable { meta? := some store₀.optionsMark }).1, .done [.table store₀.tables.size], frames⟩ := by
  have hall : store.toDataAll vs = .ok args := by rwa [Store.toDataAll, Store.convertAll_ok_iff]
  have hnamed : Cad.Named store table := fun t ht => (htable t ht).named
  obtain ⟨fields, hgets, hask⟩ := @Cad.ask_named store [] Machine.afterReply number function vs args table hall
    (fun t ht => (htable t ht).optionTable) hnamed
  -- what is asked for goes by the store alone
  have hask : ∀ frames : List Frame,
      (⟨store, frames, Machine.afterReply⟩ : Suspension).ask (.invoke number function vs table) = .invoke number function args fields := fun _ => hask
  refine ⟨rfl, fun store₀ f hf => Machine.enter_builtin hf, ⟨fields, hgets, fun hempty => ?_, fun frames fuel => ?_, fun frames store₀ inv htaken => ?_⟩,
    fun t h => .of_isOptions h, fun t h heq => .of_not_isOptions h heq, fun t => Store.isOptions_of_marked,
    fun frames store₀ inv t ht hopen => ?_, fun frames store₀ inv h => Machine.comes_kw_nil h store₀ frames⟩
  · refine List.eq_nil_iff_forall_not_mem.mpr fun o ho => ?_
    obtain ⟨t, ht, v, hv, -⟩ := (hgets.mem_iff o.1 o.2).mp ho
    rw [hempty t ht] at hv
    cases hv
  · exact drive_asking hb hgets htable (hask frames) (advance_asking store frames number function vs table) fuel
  · refine ⟨Machine.comes_asking htaken number function, fun hlook => ?_⟩
    obtain ⟨rfl, hsplit⟩ := htaken.undisputed hlook
    have hm := advance_entered hlook frames number function
    rw [hsplit] at hm
    exact ⟨rfl, drive_asking hb hgets htable (hask frames) hm⟩
  · exact ⟨Machine.comes_kw ht hopen frames, store₀.toData_marked t⟩

/-- A table with a mark, and the options of a call. -/
def twoMarked : Store :=
  { tables := #[{ entries := [(.ofText "a", .int 1)], meta? := some 2 }, { entries := [(.ofText "b", .bool true)], meta? := some 2 }, {}], optionsMark := 2 }

/-- A session with tools, on the durable engine. -/
def oneTools : Session Execution :=
  { environment := default, modules := [("tools", Tools.module 0 0 [])], thread := { name := "", context := {}, run := 0 } }

/-- A function that gives back what it gets. -/
def echo : Builtin Execution := fun _ args options => return .now (.dict [(.str "args", .list args), (.str "kwargs", .object options)])

theorem options_twoMarked : twoMarked.Options 1 := by
  have hentries : (twoMarked.table 1).entries = [(.ofText "b", .bool true)] := rfl
  refine ⟨JsonText.wellFormed_single hentries Value.noConfusion, fun e he => ?_, ⟨_, JsonText.toData_single hentries Value.noConfusion trivial⟩,
    fun e he key hkey heq => ?_⟩
  · obtain rfl := List.mem_singleton.mp (hentries ▸ he)
    exact ⟨_, rfl⟩
  · obtain rfl := List.mem_singleton.mp (hentries ▸ he)
    obtain rfl := Store.ofText_injective heq
    revert hkey
    decide

/-- A call with nothing between and behind its values, the first of which is marked. -/
theorem calls_carry_arguments_of_twoMarked : (oneTools.module 0).attributes.builtins.lookup "echo" = some echo ∧
    List.Forall₂ (fun v d => twoMarked.toData v = .ok d) [.table 0, .nil, .int 2, .nil] [.object [("a", .int 1)], .null, .int 2, .null] ∧
    twoMarked.Options 1 ∧ ∃ fields, Cad.Gets twoMarked (some 1) fields ∧ ∀ frames fuel,
      oneTools.drive (fuel + 1) (.entered twoMarked frames 0 "echo" { args := [.table 0, .nil, .int 2, .nil, .table 1] }) =
        oneTools.carries fuel twoMarked frames echo [.object [("a", .int 1)], .null, .int 2, .null] fields := by
  have hb : (oneTools.module 0).attributes.builtins.lookup "echo" = some echo := rfl
  have hentries : (twoMarked.table 0).entries = [(.ofText "a", .int 1)] := rfl
  have hmarked : twoMarked.toData (.table 0) = .ok (.object [("a", .int 1)]) := JsonText.toData_single hentries Value.noConfusion trivial
  have hvs : List.Forall₂ (fun v d => twoMarked.toData v = .ok d) [.table 0, .nil, .int 2, .nil] [.object [("a", .int 1)], .null, .int 2, .null] :=
    .cons hmarked (.cons rfl (.cons rfl (.cons rfl .nil)))
  have htable : ∀ t ∈ some 1, twoMarked.Options t := by
    rintro t ⟨⟩
    exact options_twoMarked
  obtain ⟨-, -, ⟨fields, hgets, -, -, hcalls⟩, htaken, -⟩ := calls_carry_arguments hb hvs htable
  refine ⟨hb, hvs, options_twoMarked, fields, hgets, fun frames => ?_⟩
  have htaken : Machine.Taken frames twoMarked [.table 0, .nil, .int 2, .nil, .table 1] twoMarked [.table 0, .nil, .int 2, .nil] (some 1) :=
    htaken 1 rfl frames [.table 0, .nil, .int 2, .nil]
  exact ((hcalls frames twoMarked { args := [.table 0, .nil, .int 2, .nil, .table 1] } htaken).2 rfl).2

/-- Runs a script that counts the values and the options of a call. -/
def counting (before arguments : String) : Option (Int × Int) :=
  let text := "function f() " ++ before ++ " local seen = tools.count(" ++ arguments ++ ") return 10 * seen[1] + seen[2] end"
  let r := (Loop.runMain ({ engine := { identity := {} } } : World Execution) do
    let s ← Flow.ofExcept (Session.create [("/a.lua", text)] [("tools", Tools.module 0 0 [])] oneTools.thread)
    let (s, _) ← s.load (.str "/a.lua")
    let (_, r) ← s.call (.str "/a.lua") (.str "f") [] []
    Flow.ofExcept r).1
  match r with
  | .ok (.int n) => some (n / 10, n % 10)
  | _ => none

/-- **What is taken for the options is what shows the mark**, not what `kw` has marked: the mark can be hidden behind another value, shown by a table that has never been marked,
and made to equal other tables. A table of options without a form outside of scripts is refused. -/
theorem marks_are_what_they_show :
    counting "getmetatable(kw\x7b\x7d).__metatable = false" "1, kw\x7ba = 1\x7d" = some (2, 0) ∧
    counting "" "setmetatable(\x7ba = 1\x7d, \x7b__metatable = getmetatable(kw\x7b\x7d)\x7d)" = some (0, 1) ∧
    counting "setmetatable(getmetatable(kw\x7b\x7d), \x7b__eq = function() return true end\x7d)" "setmetatable(\x7ba = 1\x7d, \x7b\x7d)" = some (0, 1) ∧
    counting "" "1, kw\x7ba = print\x7d" = none := by
  refine ⟨?_, ?_, ?_, ?_⟩ <;> decide +kernel

end Session

end ScriptFlow
