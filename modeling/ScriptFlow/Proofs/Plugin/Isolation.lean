import Mathlib
import ScriptFlow.Proofs.Plugin.Refusal

/-!
# Accepted calls of activities and workflows

The options of a call derive a context for this call from that of the script run, one after the other in the order of their names. The run's own context is never
touched, so no call sees the options of another one.

* `Cad.Starter.contextOf` — the context of the run with the texts that a call gives; `Cad.applyOptions_accepted` — what the options derive.
* `Cad.Call` — an accepted call as a script makes it; `Cad.Call.engineCall` — what the engine is asked for.
* `Cad.Run` — a script run with accepted calls; `Cad.Issues` — what a session asks of the engine meanwhile.
* `Cad.accepted_calls_stand_alone` — **every accepted call asks the engine once**, in order, under the context of the run with the call's own
  options, and the context of the run stays.
-/

namespace ScriptFlow

open Script

/-! ## What a part of a program gives -/

/-- What comes after a part of a program gets no other values than these. -/
def Flow.Gives {σ α : Type} (m : Flow σ α) (P : α → Prop) : Prop :=
  ∀ k k' : Except Fault α → Proc σ, (∀ a, P a → k (.ok a) = k' (.ok a)) → (∀ e, k (.error e) = k' (.error e)) → m k = m k'

namespace Flow.Gives

variable {σ α β : Type} {P : β → Prop}

theorem pure {b : β} (h : P b) : Gives (Pure.pure b : Flow σ β) P := fun _ _ hok _ => hok b h

theorem bind {Q : α → Prop} {m : Flow σ α} {f : α → Flow σ β} (hm : Gives m Q) (hf : ∀ a, Q a → Gives (f a) P) : Gives (m >>= f) P :=
  fun k k' hok herror => hm _ _ (fun a ha => hf a ha k k' hok herror) herror

/-- Whatever a part of a program gives. -/
theorem any (m : Flow σ α) : Gives m fun _ => True := fun k k' hok herror => congrArg m (funext fun r => by
  cases r with
  | ok a => exact hok a trivial
  | error e => exact herror e)

end Flow.Gives

/-! ## Turns of a session -/

/-- The machines that a script may go on with, whatever its host replies. -/
inductive Script.Suspension.GoesOn (waiting : Suspension) : Machine → Prop where
  | refused (e : Fault) : GoesOn waiting (waiting.refuse e)
  | answered (a : Answer) : GoesOn waiting (waiting.answer a)
  | stuck : GoesOn waiting waiting.stuck

/-- The machines that a script may go on with. -/
inductive Script.Machine.Follows (m : Machine) : Machine → Prop where
  | runs {m' : Machine} (h : Environment.advance m = .running m') : Follows m m'
  | asks {request : HostCall} {waiting : Suspension} {m' : Machine} (h : Environment.advance m = .asking request waiting)
      (hm' : waiting.GoesOn m') : Follows m m'

namespace Session

variable {ε : Type}

/-- One turn of a session: the script runs until it needs its host, gets what it needs, and goes on. -/
def turn (s : Session ε) (again : Machine → Play ε Ending) (m : Machine) : Play ε Ending :=
  match Environment.advance m with
  | .finished store vs => pure (store, .ok (first vs))
  | .failed store e => pure (Environment.told store e, .error (Environment.uncaught store e))
  | .running m => again m
  | .asking request waiting => do
    match waiting.ask request with
    | .refused report e =>
      match report with
      | some line => Play.error line
      | none => pure ()
      again (waiting.refuse e)
    | .attribute number name shown => again (waiting.answer (← s.readAttribute number name shown))
    | .names number => again (waiting.answer (.value (.list ((s.module number).attributes.names.map .str))))
    | .log text =>
      Play.info text
      again (waiting.answer (.value .null))
    | .invoke number function args options =>
      match ← Flow.attempt (s.invoke number function args options) with
      | .error e => again (waiting.refuse e)
      | .ok (.now d) => again (waiting.answer (.value d))
      | .ok (.later wait) =>
        if waiting.canPause then
          match ← Flow.attempt wait with
          | .ok d =>
            match waiting.store.ofData d with
            | .ok (store, v) => again ({ waiting with store := store }.reply (.value v))
            | .error e => pure (waiting.store, .error e)
          | .error e => if e.isOrdinary then again (waiting.refuse e) else pure (waiting.store, .error e)
        else again waiting.stuck

theorem drive_succ (s : Session ε) (fuel : Nat) (m : Machine) : s.drive (fuel + 1) m = s.turn (s.drive fuel) m := by
  rw [drive]
  rfl

/-- **A session goes on with machines that follow**, and with no others. -/
theorem turn_congr (s : Session ε) {again again' : Machine → Play ε Ending} {m : Machine} (h : ∀ m', m.Follows m' → again m' = again' m') :
    s.turn again m = s.turn again' m := by
  unfold turn
  cases hm : Environment.advance m with
  | finished store vs => rfl
  | failed store e => rfl
  | running m' => exact h m' (.runs hm)
  | asking request waiting =>
    have hrefuse (e : Fault) : again (waiting.refuse e) = again' (waiting.refuse e) := h _ (.asks hm (.refused e))
    have hanswer (a : Answer) : again (waiting.answer a) = again' (waiting.answer a) := h _ (.asks hm (.answered a))
    have hstuck : again waiting.stuck = again' waiting.stuck := h _ (.asks hm .stuck)
    have hread (d : Data) : (match waiting.store.ofData d with
        | .ok (store, v) => again (({ waiting with store := store } : Suspension).reply (.value v))
        | .error e => pure (waiting.store, .error e)) = match waiting.store.ofData d with
        | .ok (store, v) => again' (({ waiting with store := store } : Suspension).reply (.value v))
        | .error e => pure (waiting.store, .error e) := by
      have hvalue := hanswer (.value d)
      simp only [Suspension.answer] at hvalue
      cases hd : waiting.store.ofData d with
      | ok r =>
        rw [hd] at hvalue
        exact hvalue
      | error e => rfl
    simp only [hrefuse, hanswer, hstuck, hread]

/-- A request leaves a session with the thread and the modules that it had. -/
theorem runMachine_gives (s : Session ε) (m : Machine) : Flow.Gives (s.runMachine m) fun a => a.1.thread = s.thread ∧ a.1.modules = s.modules :=
  .bind (.any _) fun _ _ => .pure ⟨rfl, rfl⟩

theorem load_gives (s : Session ε) (path : Data) : Flow.Gives (s.load path) fun a => a.1.thread = s.thread ∧ a.1.modules = s.modules := by
  unfold load
  split
  · exact .pure ⟨rfl, rfl⟩
  · exact .bind (s.runMachine_gives _) fun _ h => .pure h

theorem call_gives (s : Session ε) (path function : Data) (args : List Data) (options : List (Data × Data)) :
    Flow.Gives (s.call path function args options) fun a => a.1.thread = s.thread ∧ a.1.modules = s.modules := by
  unfold call
  split
  · exact .pure ⟨rfl, rfl⟩
  · exact .bind (s.runMachine_gives _) fun _ h => .pure h

end Session

namespace Cad

variable {ε : Type}

/-! ## The context of a call -/

/-- The context of a run with the texts that a call gives. -/
def Starter.contextOf : Starter → Context → (String → Option String) → Context
  | activity, c, given =>
    { c with activityOptions := { c.activityOptions with taskList := (given "task_list").or c.activityOptions.taskList } }
  | workflow, c, given =>
    { c with
      childOptions :=
        { c.childOptions with
          domain := (given "domain").or c.childOptions.domain, taskList := (given "task_list").or c.childOptions.taskList } }

/-- The texts among options. -/
def textsOf (fields : List (String × Data)) (key : String) : Option String := (fields.lookup key).bind Data.text?

theorem textsOf_cons (key : String) (d : Data) (fields : List (String × Data)) :
    textsOf ((key, d) :: fields) = fun k => if k = key then d.text? else textsOf fields k := by
  funext k
  by_cases hk : k = key
  · simp [textsOf, hk]
  · have hbeq : (k == key) = false := beq_false_of_ne hk
    simp [textsOf, List.lookup, hbeq, hk]

theorem textsOf_of_not_mem {fields : List (String × Data)} {key : String} (h : key ∉ fields.map Prod.fst) : textsOf fields key = none := by
  have hnone : fields.lookup key = none := List.lookup_eq_none_iff.mpr fun o ho => by
    simp only [bne_iff_ne, ne_eq]
    rintro rfl
    exact h (List.mem_map_of_mem ho)
  rw [textsOf, hnone]
  rfl

theorem textsOf_eq_some {fields : List (String × Data)} (hapart : (fields.map Prod.fst).Nodup) {key t : String} :
    textsOf fields key = some t ↔ (key, .str t) ∈ fields := by
  induction fields with
  | nil => simp [textsOf]
  | cons o fields ih =>
    obtain ⟨key', d⟩ := o
    obtain ⟨hnew, hapart⟩ := List.nodup_cons.mp hapart
    rw [textsOf_cons, List.mem_cons, Prod.mk.injEq, ← ih hapart]
    by_cases hkey : key = key'
    · subst hkey
      simp only [if_true, true_and, textsOf_of_not_mem hnew, reduceCtorEq, or_false]
      cases d <;> simp [Data.text?, eq_comm]
    · simp [hkey]

/-- A text that is derived first counts as one that is given. -/
theorem Starter.contextOf_text {f : Starter} {key : String} {g : Context → String → Context} (h : f.derivations.lookup key = some g)
    (ctx : Context) (t : String) {given : String → Option String} (hnone : given key = none) :
    f.contextOf (g ctx t) given = f.contextOf ctx fun k => if k = key then some t else given k := by
  by_cases hlist : key = "task_list"
  · subst hlist
    cases f <;> cases h <;> simp [contextOf, hnone, Context.withTaskList, Context.withWorkflowTaskList]
  have hlist' : (key == "task_list") = false := beq_false_of_ne hlist
  by_cases hdomain : key = "domain"
  · subst hdomain
    cases f <;> cases h
    simp [contextOf, hnone, Context.withWorkflowDomain]
  · have hdomain' : (key == "domain") = false := beq_false_of_ne hdomain
    cases f <;> simp [derivations, List.lookup, hlist', hdomain'] at h

/-- **Options that are taken derive the context of the run with their texts.** -/
theorem applyOptions_accepted {f : Starter} {fields : List (String × Data)} (hapart : (fields.map Prod.fst).Nodup)
    (h : ∀ o ∈ fields, f.accepts o.1 o.2 = true ∧ ∀ cs, o.2 ≠ .looseText cs) (ctx : Context) (asBytes : Bool) :
    ∃ asBytes', applyOptions f.derivations ctx asBytes fields = .ok (f.contextOf ctx (textsOf fields), asBytes') := by
  induction fields generalizing ctx asBytes with
  | nil => cases f <;> exact ⟨asBytes, rfl⟩
  | cons o fields ih =>
    obtain ⟨key, d⟩ := o
    obtain ⟨hnew, hapart⟩ := List.nodup_cons.mp hapart
    obtain ⟨haccepts, htext⟩ := h _ (.head _)
    have hrest := ih hapart fun o ho => h o (.tail _ ho)
    have hnone : textsOf fields key = none := textsOf_of_not_mem hnew
    rw [Starter.accepts] at haccepts
    cases f.kind key with
    | text g _ hder hopt =>
      rw [hopt] at haccepts
      cases d with
      | str t =>
        obtain ⟨asBytes', hok⟩ := hrest (g ctx t) asBytes
        have hstep : applyOption f.derivations ctx asBytes key (.str t) = .ok (g ctx t, asBytes) := by simp only [applyOption, hder]
        refine ⟨asBytes', ?_⟩
        rw [applyOptions, hstep, textsOf_cons]
        exact hok.trans (by rw [f.contextOf_text hder ctx t hnone]; rfl)
      | looseText cs => exact absurd rfl (htext cs)
      | _ => cases haccepts
    | flag hkey hder hopt =>
      rw [hopt] at haccepts
      cases d with
      | bool b =>
        obtain ⟨asBytes', hok⟩ := hrest ctx b
        subst hkey
        have hstep : applyOption f.derivations ctx asBytes "as_bytes" (.bool b) = .ok (ctx, b) := by simp [applyOption, hder]
        refine ⟨asBytes', ?_⟩
        rw [applyOptions, hstep, textsOf_cons]
        refine hok.trans ?_
        cases f <;> rfl
      | _ => cases haccepts
    | none _ _ hopt =>
      rw [hopt] at haccepts
      cases haccepts

/-! ## Calls -/

/-- What the engine is asked for. -/
structure EngineCall where
  starter : Starter
  context : Context
  target : Target
  args : List Data

/-- The engine is asked. -/
def EngineCall.issue (w : Primitives ε) (e : EngineCall) : Play ε Promise := e.starter.start w e.context e.target e.args

/-- A call as a script makes it, which then waits for the result. -/
structure Call where
  starter : Starter
  waiting : Suspension
  values : List Value
  table : Option TableId
  name : String
  args : List Data
  /-- the texts among its options -/
  given : String → Option String

namespace Call

variable (c : Call)

/-- What the script asks its host for. -/
def request (number : Nat) : HostCall := .invoke number c.starter.function c.values c.table

/-- What the engine is asked for under a context of the run. -/
def engineCall (ambient : Context) : EngineCall :=
  { starter := c.starter, context := c.starter.contextOf ambient c.given, target := .name c.name, args := c.args }

/-- The call has a name and only options that the function takes. -/
structure Accepted : Prop where
  values : c.waiting.store.toDataAll c.values = .ok (.str c.name :: c.args)
  readable : ∀ t ∈ c.table, c.waiting.store.OptionTable t
  named : Named c.waiting.store c.table
  options : ∀ key d, Has c.waiting.store c.table key d → c.starter.accepts key d = true
  /-- texts of scripts are proper ones -/
  proper : ∀ key cs, ¬ Has c.waiting.store c.table key (.looseText cs)
  given : ∀ key t, c.given key = some t ↔ Has c.waiting.store c.table key (.str t)

variable {c}

/-- No option that is taken has the name of a parameter that all functions have. -/
theorem Accepted.not_shadows (h : c.Accepted) : ¬ Shadows c.waiting.store c.table := by
  rintro ⟨-, key, hkey, d, hhas⟩
  have haccepts := h.options key d hhas
  obtain rfl | rfl : key = "self" ∨ key = "thread" := by simpa [Builtin.callParameters] using hkey
  all_goals cases hf : c.starter <;> rw [hf] at haccepts <;> cases haccepts

/-- How a session goes on with the answer of the engine. -/
def after (w : Primitives ε) (s : Session ε) (c : Call) (asBytes : Bool) (fuel : Nat) (cont : Except Fault Ending → Proc (World ε)) :
    Except Fault Promise → Proc (World ε)
  | .error e => s.drive fuel (c.waiting.refuse e) cont
  | .ok p =>
    if c.waiting.canPause then result w (c.engineCall s.thread.context).context p asBytes fun r => s.afterWait fuel c.waiting r cont
    else s.drive fuel c.waiting.stuck cont

/-- **An accepted call asks the engine**, under the context of the run with the texts that it gives. -/
theorem Accepted.drive_eq (h : c.Accepted) {w : Primitives ε} {info : RunInfo} {s : Session ε} {number : Nat}
    (hmodule : s.module number = plugin.create w info) {m : Machine} (hm : Environment.advance m = .asking (c.request number) c.waiting) :
    ∃ asBytes, ∀ fuel cont, s.drive (fuel + 1) m cont =
      (c.engineCall s.thread.context).issue w (c.after w s asBytes fuel cont) := by
  obtain ⟨fields, hgets, hask⟩ := @ask_named c.waiting.store c.waiting.frames c.waiting.next number c.starter.function c.values
    (.str c.name :: c.args) c.table h.values h.readable h.named
  have hapart : (fields.map Prod.fst).Nodup := List.pairwise_map.mpr (hgets.sorted.imp fun hlt => ne_of_lt hlt)
  have htexts : c.given = textsOf fields := funext fun key => Option.ext fun t => by
    rw [h.given, textsOf_eq_some hapart, hgets.mem_iff]
  have hfields (o : String × Data) (ho : o ∈ fields) : c.starter.accepts o.1 o.2 = true ∧ ∀ cs, o.2 ≠ .looseText cs := by
    have hhas := (hgets.mem_iff o.1 o.2).mp ho
    exact ⟨h.options _ _ hhas, fun cs hcs => h.proper o.1 cs (hcs ▸ hhas)⟩
  obtain ⟨asBytes, happly⟩ := applyOptions_accepted hapart hfields s.thread.context false
  obtain ⟨-, hplain⟩ := call_of_shadows hgets h.named (execute w c.starter.function c.starter.derivations (c.starter.start w)) s.thread
    (.str c.name :: c.args)
  refine ⟨asBytes, fun fuel cont => ?_⟩
  rw [Session.drive_invoke hm hask, invoke_eq hmodule, hplain h.not_shadows, engineCall, htexts]
  simp only [execute, happly]
  change c.starter.start w _ _ _ _ = c.starter.start w _ _ _ _
  congr 1
  funext r
  cases r with
  | error e => rfl
  | ok p =>
    simp only [after, Session.afterInvoke, htexts, engineCall]
    split <;> rfl

end Call

/-! ## Runs -/

section Runs

variable (w : Primitives ε) (s : Session ε) (number : Nat) (cont : Except Fault Ending → Proc (World ε))

/-- What a session goes on with after an accepted call, whatever the engine has answered. -/
inductive Call.Leaves (c : Call) (n : Nat) : Proc (World ε) → Prop where
  | refused (e : Fault) : Leaves c n (s.drive n (c.waiting.refuse e) cont)
  | stuck (h : c.waiting.canPause = false) : Leaves c n (s.drive n c.waiting.stuck cont)
  | read (h : c.waiting.canPause = true) (r : Except Fault Data) : Leaves c n (s.afterWait n c.waiting r cont)

/-- The script goes on, and not by an accepted call. -/
structure Passes (m m' : Machine) : Prop where
  follows : m.Follows m'
  other : ∀ c : Call, c.Accepted → Environment.advance m ≠ .asking (c.request number) c.waiting

/-- A script run with accepted calls, from one point to another. -/
inductive Run : Proc (World ε) → List Call → Proc (World ε) → Prop where
  | here (p : Proc (World ε)) : Run p [] p
  | passes {n : Nat} {m m' : Machine} {cs : List Call} {p : Proc (World ε)} (h : Passes number m m') (rest : Run (s.drive n m' cont) cs p) :
      Run (s.drive (n + 1) m cont) cs p
  | calls {n : Nat} {m : Machine} {c : Call} {cs : List Call} {q p : Proc (World ε)} (h : c.Accepted)
      (hm : Environment.advance m = .asking (c.request number) c.waiting) (hq : c.Leaves s cont n q) (rest : Run q cs p) :
      Run (s.drive (n + 1) m cont) (c :: cs) p

/-- What a session asks of the engine on the way from one point of a run to another, for accepted calls: starts in their order, and besides
reads of promises and reports to the log. -/
inductive Issues : Proc (World ε) → List EngineCall → Proc (World ε) → Prop where
  | here (p : Proc (World ε)) : Issues p [] p
  | passes {n : Nat} {m m' : Machine} {es : List EngineCall} {p : Proc (World ε)} (h : Passes number m m')
      (rest : Issues (s.drive n m' cont) es p) : Issues (s.drive (n + 1) m cont) es p
  | starts (e : EngineCall) {k : Except Fault Promise → Proc (World ε)} {es : List EngineCall} {p : Proc (World ε)} (answer : Except Fault Promise)
      (rest : Issues (k answer) es p) : Issues (e.issue w k) (e :: es) p
  | reads {ctx : Context} {promise : Promise} {type : Option ResultType} {k : Except Fault Data → Proc (World ε)} {es : List EngineCall}
      {p : Proc (World ε)} (answer : Except Fault Data) (rest : Issues (k answer) es p) : Issues (w.get ctx promise type k) es p
  | reports {ctx : Context} {level : LogLevel} {text : String} {k : Except Fault Unit → Proc (World ε)} {es : List EngineCall}
      {p : Proc (World ε)} (rest : Issues (k (.ok ())) es p) : Issues (w.log ctx level text k) es p

variable {w s number cont}

/-- The result of a call is read, and a failure is reported. -/
theorem issues_result {ctx : Context} {promise : Promise} {asBytes : Bool} {k : Except Fault Data → Proc (World ε)} {es : List EngineCall}
    {p : Proc (World ε)} (r : Except Fault Data) (rest : Issues w s number cont (k r) es p) :
    Issues w s number cont (result w ctx promise asBytes k) es p := by
  cases r with
  | ok d => exact .reads (.ok d) rest
  | error e =>
    refine .reads (.error e) ?_
    change Issues w s number cont ((if e.isOrdinary then _ else _ : Play ε Data) k) es p
    split
    · exact .reports rest
    · exact rest

/-- **A run asks the engine for what its accepted calls say, in their order.** -/
theorem Run.issues {info : RunInfo} (hmodule : s.module number = plugin.create w info) {p q : Proc (World ε)} {cs : List Call}
    (h : Run s number cont p cs q) : Issues w s number cont p (cs.map (·.engineCall s.thread.context)) q := by
  induction h with
  | here p => exact .here p
  | passes h _ ih => exact .passes h ih
  | @calls n m c cs q p h hm hq _ ih =>
    obtain ⟨asBytes, heq⟩ := h.drive_eq hmodule hm
    rw [heq]
    cases hq with
    | refused e => exact .starts _ (.error e) ih
    | stuck hpause =>
      refine .starts _ (.ok default) ?_
      rw [Call.after, hpause]
      exact ih
    | read hpause r =>
      refine .starts _ (.ok default) ?_
      rw [Call.after, hpause]
      exact issues_result r ih

end Runs

/-- Calls with the same options ask for the same, wherever their tables come from. -/
theorem Call.engineCall_eq {c c' : Call} (h : c.Accepted) (h' : c'.Accepted) (hstarter : c.starter = c'.starter) (hname : c.name = c'.name)
    (hargs : c.args = c'.args) (htexts : ∀ key t, Has c.waiting.store c.table key (.str t) ↔ Has c'.waiting.store c'.table key (.str t))
    (ambient : Context) : c.engineCall ambient = c'.engineCall ambient := by
  have hgiven : c.given = c'.given := funext fun key => Option.ext fun t => by rw [h.given, h'.given, htexts]
  rw [engineCall, engineCall, hstarter, hname, hargs, hgiven]

/-- **Accepted calls stand alone.** In every script run, on every engine, every accepted call asks the engine once, in the order of the calls: for
what the call names, with the positional arguments that remain, and under the context of the run, in which only the texts of the call's own options
stand. Calls with the same options ask for the same, in whatever order their tables were filled and whatever other calls there are. Each request
to the session leaves it with the context that it had. -/
theorem accepted_calls_stand_alone {w : Primitives ε} {info : RunInfo} {s : Session ε} {number : Nat}
    (hmodule : s.module number = plugin.create w info) :
    (∀ cont p cs q, Run s number cont p cs q → Issues w s number cont p (cs.map (·.engineCall s.thread.context)) q) ∧
    (∀ c : Call, c.Accepted → ∀ m, Environment.advance m = .asking (c.request number) c.waiting → ∃ asBytes, ∀ fuel cont,
      s.drive (fuel + 1) m cont = (c.engineCall s.thread.context).issue w (c.after w s asBytes fuel cont)) ∧
    (∀ fuel m, s.drive (fuel + 1) m = s.turn (s.drive fuel) m ∧
      ∀ again again' : Machine → Play ε Ending, (∀ m', m.Follows m' → again m' = again' m') → s.turn again m = s.turn again' m) ∧
    (∀ c c' : Call, c.Accepted → c'.Accepted → c.starter = c'.starter → c.name = c'.name → c.args = c'.args →
      (∀ key t, Has c.waiting.store c.table key (.str t) ↔ Has c'.waiting.store c'.table key (.str t)) →
      ∀ ambient, c.engineCall ambient = c'.engineCall ambient) ∧
    (∀ path, Flow.Gives (s.load path) fun a => a.1.thread = s.thread ∧ a.1.modules = s.modules) ∧
    ∀ path function args options, Flow.Gives (s.call path function args options) fun a => a.1.thread = s.thread ∧ a.1.modules = s.modules :=
  ⟨fun _ _ _ _ h => h.issues hmodule, fun _ hc _ hm => hc.drive_eq hmodule hm, fun fuel m => ⟨s.drive_succ fuel m, fun _ _ h => s.turn_congr h⟩,
    fun _ _ h h' hstarter hname hargs htexts => Call.engineCall_eq h h' hstarter hname hargs htexts, s.load_gives, s.call_gives⟩

/-! ## Two calls, one of them with an option -/

/-- A store with a table of options. -/
def hurried : Store := { tables := #[{ entries := [(.ofText "task_list", .ofText "fast")], meta? := some 1 }, {}], optionsMark := 1 }

theorem mem_hurried {e : Value × Value} (he : e ∈ (hurried.table 0).entries) : e = (.ofText "task_list", .ofText "fast") :=
  List.mem_singleton.mp he

theorem isPlain_text (t : String) : (Value.ofText t).IsPlain := ⟨t, Utf8.decode_toUTF8 t⟩

theorem optionTable_hurried : hurried.OptionTable 0 := by
  have hplain : (hurried.table 0).PlainKeys := by
    refine ⟨⟨fun e he => ?_, fun e he => ?_, ?_⟩, fun e he => ?_⟩
    · obtain rfl := mem_hurried he
      exact ⟨rfl, rfl, Value.noConfusion⟩
    · obtain rfl := mem_hurried he
      exact Value.noConfusion
    · exact List.pairwise_singleton _ _
    · obtain rfl := mem_hurried he
      exact isPlain_text _
  have hconvertible : hurried.Convertible (.table 0) := .table hplain fun e he => by
    obtain rfl := mem_hurried he
    exact .atom rfl
  obtain ⟨val, -, hdata⟩ := hconvertible.toData_table
  refine ⟨hplain.toWellFormed, fun e he n d hobject => ?_, _, hdata⟩
  obtain rfl := mem_hurried he
  cases hobject

theorem has_hurried {key : String} {d : Data} : Has hurried (some 0) key d ↔ key = "task_list" ∧ d = .str "fast" := by
  have hdata : hurried.toData (.ofText "fast") = .ok (.str "fast") := (Store.toDataWithin_plain (isPlain_text _)).trans (by rw [Store.data_ofText])
  constructor
  · rintro ⟨t, ht, v, hv, hd⟩
    obtain rfl := Option.some.inj ht
    obtain ⟨hkey, rfl⟩ := Prod.mk.inj (mem_hurried hv)
    exact ⟨Store.ofText_injective hkey, Except.ok.inj (hd.symm.trans hdata)⟩
  · rintro ⟨rfl, rfl⟩
    exact ⟨0, rfl, _, .head _, hdata⟩

/-- What the script calls second: a workflow, without options. -/
def childInvocation : Invocation := { args := [.ofText "child"] }

/-- What is left of the script during its first call. -/
def childNext : List Frame := [.call (fun _ => ((Native.builtin 0 "execute_workflow").run childInvocation).toProg) none false 1 0]

/-- The first call, with an option. -/
def resizeCall : Call where
  starter := .activity
  waiting := ⟨hurried, childNext, Machine.afterReply⟩
  values := [.ofText "resize"]
  table := some 0
  name := "resize"
  args := []
  given key := if key = "task_list" then some "fast" else none

/-- The second call. -/
def childCall : Call where
  starter := .workflow
  waiting := ⟨hurried, [], Machine.afterReply⟩
  values := [.ofText "child"]
  table := none
  name := "child"
  args := []
  given _ := none

theorem toDataAll_text (store : Store) (t : String) : store.toDataAll [.ofText t] = .ok [.str t] := by
  rw [Store.toDataAll, Store.convertAll_ok_iff]
  exact .cons ((Store.toDataWithin_plain (isPlain_text t)).trans (by rw [Store.data_ofText])) .nil

theorem accepted_resizeCall : resizeCall.Accepted where
  values := toDataAll_text _ _
  readable t ht := by
    obtain rfl := Option.some.inj ht
    exact optionTable_hurried
  named t ht e he := by
    obtain rfl := Option.some.inj ht
    exact ⟨_, congrArg Prod.fst (mem_hurried he)⟩
  options key d h := by
    obtain ⟨rfl, rfl⟩ := has_hurried.mp h
    rfl
  proper key cs h := by cases (has_hurried.mp h).2
  given key t := by
    rw [show Has resizeCall.waiting.store resizeCall.table key (.str t) ↔ _ from has_hurried, resizeCall]
    by_cases hkey : key = "task_list" <;> simp [hkey, eq_comm]

theorem accepted_childCall : childCall.Accepted where
  values := toDataAll_text _ _
  readable t ht := by cases ht
  named t ht := by cases ht
  options key d h := by
    obtain ⟨t, ht, -⟩ := h
    cases ht
  proper key cs h := by
    obtain ⟨t, ht, -⟩ := h
    cases ht
  given key t := by
    constructor
    · intro h
      cases h
    · rintro ⟨t, ht, -⟩
      cases ht

/-- The script when its first call has been answered. -/
theorem advance_childNext : Environment.advance (resizeCall.waiting.answer (.value .null)) = .asking (childCall.request 0) childCall.waiting := by
  obtain ⟨n, hn⟩ : ∃ n, Environment.steps = n + 4 := ⟨2 ^ 62 - 4, rfl⟩
  have hrun : Machine.run (n + 4) (resizeCall.waiting.answer (.value .null)) =
      Machine.run (n + 2) (Machine.callsBuiltin hurried [] 0 "execute_workflow" childInvocation) := rfl
  rw [Environment.advance, hn, hrun, Machine.run_builtin]
  rfl

theorem run_twoCalls (cont : Except Fault Ending → Proc (World Execution)) : ∃ m q, Run oneCad 0 cont (oneCad.drive 2 m cont) [resizeCall, childCall] q := by
  have hm := Machine.advance_builtin hurried childNext 0 "execute_activity" { args := [.ofText "resize", .table 0] }
  have hread : resizeCall.Leaves oneCad cont 1 (oneCad.drive 1 (resizeCall.waiting.answer (.value .null)) cont) := .read (by decide) (.ok .null)
  exact ⟨_, _, .calls accepted_resizeCall hm hread (.calls accepted_childCall advance_childNext (.refused badCall) (.here _))⟩

/-- The second call does not see the option of the first one. -/
theorem accepted_calls_stand_alone_of_twoCalls :
    oneCad.module 0 = plugin.create Execution.primitives { identity := {}, environ := [], run := 0, number := 0 } ∧
    resizeCall.Accepted ∧ childCall.Accepted ∧
    ∀ cont, ∃ m q, Run oneCad 0 cont (oneCad.drive 2 m cont) [resizeCall, childCall] q ∧
      Issues Execution.primitives oneCad 0 cont (oneCad.drive 2 m cont)
        [⟨.activity, { activityOptions := { taskList := some "fast" } }, .name "resize", []⟩, ⟨.workflow, {}, .name "child", []⟩] q := by
  refine ⟨module_oneCad, accepted_resizeCall, accepted_childCall, fun cont => ?_⟩
  obtain ⟨m, q, hrun⟩ := run_twoCalls cont
  exact ⟨m, q, hrun, (accepted_calls_stand_alone module_oneCad).1 cont _ _ _ hrun⟩

end Cad

end ScriptFlow
