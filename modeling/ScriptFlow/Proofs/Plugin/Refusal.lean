import Mathlib
import ScriptFlow.Durable.Primitives
import ScriptFlow.Plugin.Cad
import ScriptFlow.Proofs.Script.Options
import ScriptFlow.Proofs.Script.Outcomes
import ScriptFlow.Simulation.Primitives

/-!
# Refused calls of activities and workflows

* `Cad.Starter` — the two functions of the module `cad` that start something by name; `Cad.Starter.accepts` — the options they take.
* `Cad.Rejected` — what may be wrong with a call; `Cad.HeadersFirst` — nothing is wrong before the option `headers`, in the order of names.
* `Cad.applyOptions_refused` — the first option that is not taken decides, in the order of names.
* `Cad.rejected_calls_only_report` — **a refused call writes one line to the log, raises the error of that line at the place of the call, and
  changes nothing else**, unless an option has the name of a parameter that all functions have.
* `Cad.parameter_name_passes_unreported` — such an option is refused with another error, and the log gets no line.
-/

namespace ScriptFlow

open Script

namespace Cad

variable {ε : Type}

/-! ## Options and what they take -/

/-- What an option holds. -/
inductive OptionType where
  | text
  | flag

def OptionType.fits : OptionType → Data → Bool
  | text, .str _ | text, .looseText _ | flag, .bool _ => true
  | _, _ => false

/-- The functions that start something by name. -/
inductive Starter where
  | activity
  | workflow

namespace Starter

def function : Starter → String
  | activity => "execute_activity"
  | workflow => "execute_workflow"

/-- The options of a function; `headers` is planned for both. -/
def options : Starter → List (String × OptionType)
  | activity => [("task_list", .text), ("as_bytes", .flag)]
  | workflow => [("domain", .text), ("task_list", .text), ("as_bytes", .flag)]

/-- An option of the function has a value of its type. -/
def accepts (f : Starter) (key : String) (d : Data) : Bool := (f.options.lookup key).any (·.fits d)

def derivations : Starter → List (String × (Context → String → Context))
  | activity => [("task_list", Context.withTaskList)]
  | workflow => [("domain", Context.withWorkflowDomain), ("task_list", Context.withWorkflowTaskList)]

def start (w : Primitives ε) : Starter → Context → Target → List Data → Play ε Promise
  | activity => w.startActivity
  | workflow => w.startChild

/-- The function as the module has it. -/
theorem lookup_builtins (w : Primitives ε) (f : Starter) :
    (builtins w).lookup f.function = some (execute w f.function f.derivations (f.start w)) := by
  cases f <;> rfl

theorem headers_not_accepted (f : Starter) (d : Data) : f.accepts "headers" d = false := by cases f <;> rfl

/-- A name is that of an option with a text, that of the flag, or that of no option. -/
inductive Kind (f : Starter) (key : String) : Prop where
  | text (g : Context → String → Context) (known : key ≠ "headers") (derivation : f.derivations.lookup key = some g)
      (option : f.options.lookup key = some .text)
  | flag (known : key = "as_bytes") (derivation : f.derivations.lookup key = none) (option : f.options.lookup key = some .flag)
  | none (unknown : key ≠ "as_bytes") (derivation : f.derivations.lookup key = none) (option : f.options.lookup key = none)

theorem kind (f : Starter) (key : String) : f.Kind key := by
  by_cases hbytes : key = "as_bytes"
  · subst hbytes
    cases f <;> exact .flag rfl rfl rfl
  by_cases hlist : key = "task_list"
  · subst hlist
    cases f <;> exact .text _ (by decide) rfl rfl
  have hbytes' : (key == "as_bytes") = false := beq_eq_false_iff_ne.mpr hbytes
  have hlist' : (key == "task_list") = false := beq_eq_false_iff_ne.mpr hlist
  cases f with
  | activity => exact .none hbytes (by simp [derivations, List.lookup, hlist']) (by simp [options, List.lookup, hlist', hbytes'])
  | workflow =>
    by_cases hdomain : key = "domain"
    · subst hdomain
      exact .text _ (by decide) rfl rfl
    · have hdomain' : (key == "domain") = false := beq_eq_false_iff_ne.mpr hdomain
      exact .none hbytes (by simp [derivations, List.lookup, hlist', hdomain'])
        (by simp [options, List.lookup, hlist', hbytes', hdomain'])

end Starter

/-- The reason of an error about an option. -/
def reasonOf (key : String) : String := if key = "headers" then unimplemented else invalidArgument

theorem applyOption_of_accepts {f : Starter} {key : String} {d : Data} (h : f.accepts key d = true) (ctx : Context) (asBytes : Bool) :
    ∃ r, applyOption f.derivations ctx asBytes key d = .ok r := by
  cases f.kind key with
  | text g _ hder hopt =>
    rw [Starter.accepts, hopt] at h
    unfold applyOption
    rw [hder]
    cases d with
    | str t => exact ⟨_, rfl⟩
    | looseText cs => exact ⟨_, rfl⟩
    | _ => cases h
  | flag hkey hder hopt =>
    rw [Starter.accepts, hopt] at h
    unfold applyOption
    rw [hder, hkey]
    cases d with
    | bool b => exact ⟨_, rfl⟩
    | _ => cases h
  | none _ _ hopt =>
    rw [Starter.accepts, hopt] at h
    cases h

theorem applyOption_of_not_accepts {f : Starter} {key : String} {d : Data} (h : f.accepts key d = false) (ctx : Context) (asBytes : Bool) :
    ∃ details, applyOption f.derivations ctx asBytes key d = .error (.custom (reasonOf key) details) := by
  cases f.kind key with
  | text g hknown hder hopt =>
    rw [Starter.accepts, hopt] at h
    unfold applyOption
    rw [hder, reasonOf, if_neg hknown]
    cases d with
    | str t => cases h
    | looseText cs => cases h
    | _ => exact ⟨_, rfl⟩
  | flag hkey hder hopt =>
    rw [Starter.accepts, hopt] at h
    have hreason : reasonOf "as_bytes" = invalidArgument := rfl
    unfold applyOption
    rw [hder, hkey, hreason]
    cases d with
    | bool b => cases h
    | _ => exact ⟨_, rfl⟩
  | none hkey hder _ =>
    unfold applyOption
    rw [hder]
    by_cases hheaders : key = "headers"
    · rw [hheaders]
      exact ⟨_, rfl⟩
    · simp [reasonOf, hkey, hheaders]

/-- The first option that the function does not take. -/
structure FirstBad (f : Starter) (fields : List (String × Data)) (key : String) : Prop where
  bad : ∃ d, (key, d) ∈ fields ∧ f.accepts key d = false
  first : ∀ o ∈ fields, f.accepts o.1 o.2 = false → key ≤ o.1

/-- **The first option that is not taken decides**, in the order of names. -/
theorem applyOptions_refused {f : Starter} {fields : List (String × Data)} (hsorted : fields.Pairwise fun a b => a.1 < b.1)
    (h : ∃ o ∈ fields, f.accepts o.1 o.2 = false) (ctx : Context) (asBytes : Bool) :
    ∃ key details, FirstBad f fields key ∧ applyOptions f.derivations ctx asBytes fields = .error (.custom (reasonOf key) details) := by
  induction fields generalizing ctx asBytes with
  | nil => simp at h
  | cons o fields ih =>
    obtain ⟨key, d⟩ := o
    obtain ⟨hlt, hsorted⟩ := List.pairwise_cons.mp hsorted
    cases hd : f.accepts key d with
    | false =>
      obtain ⟨details, hrefused⟩ := applyOption_of_not_accepts hd ctx asBytes
      refine ⟨key, details, ⟨⟨d, .head _, hd⟩, fun o ho _ => ?_⟩, ?_⟩
      · cases ho with
        | head => exact le_refl _
        | tail _ ho => exact le_of_lt (hlt o ho)
      · rw [applyOptions, hrefused]
        rfl
    | true =>
      -- what is taken derives another context, so the rest is refused under any context
      obtain ⟨⟨ctx', asBytes'⟩, hok⟩ := applyOption_of_accepts hd ctx asBytes
      have hrest : ∃ o ∈ fields, f.accepts o.1 o.2 = false := by
        obtain ⟨o, ho, hbad⟩ := h
        cases ho with
        | head => rw [hd] at hbad; cases hbad
        | tail _ ho => exact ⟨o, ho, hbad⟩
      obtain ⟨first, details, ⟨⟨d', hmem, hbad⟩, hfirst⟩, hrefused⟩ := ih hsorted hrest ctx' asBytes'
      refine ⟨first, details, ⟨⟨d', .tail _ hmem, hbad⟩, fun o ho hnot => ?_⟩, ?_⟩
      · cases ho with
        | head => rw [hd] at hnot; cases hnot
        | tail _ ho => exact hfirst o ho hnot
      · rw [applyOptions, hok]
        exact hrefused

/-! ## What is wrong with a call -/

section Wrong

variable (f : Starter) (store : Store) (args : List Data) (table : Option TableId)

/-- What a call gives outside of scripts: values, and perhaps a table of options. -/
structure Given (inv : Invocation) : Prop where
  split : ∃ vs, Invocation.splitOptions store inv.args = (vs, table) ∧ store.toDataAll vs = .ok args
  readable : ∀ t ∈ table, store.OptionTable t

/-- All options have names. -/
def Named : Prop := ∀ t ∈ table, (store.table t).Named

/-- The call has an option. -/
def Has (key : String) (d : Data) : Prop := ∃ t ∈ table, store.HasOption t key d

/-- Why a call is refused. -/
inductive Rejected : Prop where
  | name (h : ∀ name rest, args ≠ .str name :: rest)
  | key (h : ¬ Named store table)
  | option (key : String) (d : Data) (h : Has store table key d) (hd : f.accepts key d = false)

/-- There is a name, and `headers` is the first option that the function does not take. -/
structure HeadersFirst : Prop where
  name : ∃ name rest, args = .str name :: rest
  named : Named store table
  headers : ∃ d, Has store table "headers" d
  first : ∀ key d, Has store table key d → f.accepts key d = false → "headers" ≤ key

/-- An option has the name of a parameter that all functions have. -/
structure Shadows : Prop where
  named : Named store table
  option : ∃ key ∈ Builtin.callParameters, ∃ d, Has store table key d

/-- What a function gets as options. -/
structure Gets (fields : List (String × Data)) : Prop where
  mem_iff : ∀ key d, (key, d) ∈ fields ↔ Has store table key d
  sorted : fields.Pairwise fun a b => a.1 < b.1

end Wrong

section Gets

variable {f : Starter} {store : Store} {args : List Data} {table : Option TableId} {fields : List (String × Data)}

theorem Gets.any_iff (h : Gets store table fields) (p : String → Data → Bool) :
    (∃ o ∈ fields, p o.1 o.2 = true) ↔ ∃ key d, Has store table key d ∧ p key d = true := by
  constructor
  · rintro ⟨⟨key, d⟩, hmem, hp⟩
    exact ⟨key, d, (h.mem_iff _ _).mp hmem, hp⟩
  · rintro ⟨key, d, hhas, hp⟩
    exact ⟨(key, d), (h.mem_iff _ _).mpr hhas, hp⟩

theorem FirstBad.headersFirst_iff {key : String} (h : FirstBad f fields key) (hgets : Gets store table fields)
    (hname : ∃ name rest, args = .str name :: rest) (hnamed : Named store table) : key = "headers" ↔ HeadersFirst f store args table := by
  obtain ⟨d, hmem, hbad⟩ := h.bad
  constructor
  · rintro rfl
    exact ⟨hname, hnamed, ⟨d, (hgets.mem_iff _ _).mp hmem⟩, fun key' d' hd' hnot => h.first _ ((hgets.mem_iff _ _).mpr hd') hnot⟩
  · intro hheaders
    obtain ⟨d', hd'⟩ := hheaders.headers
    have hle : key ≤ "headers" := h.first _ ((hgets.mem_iff _ _).mpr hd') (f.headers_not_accepted d')
    exact le_antisymm hle (hheaders.first key d ((hgets.mem_iff _ _).mp hmem) hbad)

end Gets

/-! ## What becomes of a refused call -/

/-- The engine writes what a context reports to the log. -/
def Logs (w : Primitives ε) (ctx : Context) : Prop := ∀ level text, w.log ctx level text = Play.log level text

/-- Both engines do, the simulated one for contexts of its own. -/
theorem engines_log : (∀ ctx, Logs Execution.primitives ctx) ∧
    ∀ (lib : Library Simulator) (ctx : Context) (i : Identity), ctx.identity = some i → Logs (Simulator.primitives lib) ctx := by
  refine ⟨fun ctx level text => rfl, fun lib ctx i h level text => ?_⟩
  have hown : Simulator.own ctx = pure i := by
    unfold Simulator.own
    rw [h]
  simp only [Simulator.primitives, hown]
  rfl

/-- The log gets one line, and nothing else changes. -/
def reporting (line : String) (next : Proc (World ε)) : Proc (World ε) :=
  .access fun st => ({ st with world := { st.world with log := ⟨.error, line⟩ :: st.world.log } }, next)

/-- The line of an error that a function reports. -/
def reportLine (f : Starter) (e : Fault) : String := "builtin-error: " ++ f.function ++ ": " ++ e.message

/-- The script, as the error rises at the place of the call. -/
def raising (store : Store) (frames : List Frame) (e : Fault) : Machine :=
  ⟨(store.newObject (.fault e)).1, .raise (store.newObject (.fault e)).2, frames⟩

theorem refuse_eq {α : Type} {w : Primitives ε} {ctx : Context} (hlog : Logs w ctx) (f : Starter) (reason : String) (details : List Data)
    (k : Except Fault α → Proc (World ε)) : refuse w ctx f.function (.custom reason details) k =
      reporting (reportLine f (.custom reason details)) (k (.error (.custom reason details))) := by
  unfold refuse
  rw [hlog]
  rfl

theorem execute_refused {w : Primitives ε} {thread : Thread} (hlog : Logs w thread.context) {f : Starter} {args : List Data}
    {fields : List (String × Data)} (hsorted : fields.Pairwise fun a b => a.1 < b.1)
    (h : (∀ name rest, args ≠ .str name :: rest) ∨ ∃ o ∈ fields, f.accepts o.1 o.2 = false) : ∃ reason details,
      ((∀ name rest, args ≠ .str name :: rest) ∧ reason = invalidArgument ∨
        (∃ name rest, args = .str name :: rest) ∧ ∃ key, FirstBad f fields key ∧ reason = reasonOf key) ∧
      ∀ k, execute w f.function f.derivations (f.start w) thread args fields k =
        reporting (reportLine f (.custom reason details)) (k (.error (.custom reason details))) := by
  by_cases hname : ∃ name rest, args = .str name :: rest
  · obtain ⟨name, rest, rfl⟩ := hname
    have hbad : ∃ o ∈ fields, f.accepts o.1 o.2 = false := h.resolve_left fun h => h name rest rfl
    obtain ⟨key, details, hfirst, hrefused⟩ := applyOptions_refused hsorted hbad thread.context false
    refine ⟨reasonOf key, details, .inr ⟨⟨name, rest, rfl⟩, key, hfirst, rfl⟩, fun k => ?_⟩
    simp only [execute, hrefused]
    exact refuse_eq hlog f _ _ k
  · have hname : ∀ name rest, args ≠ .str name :: rest := fun name rest heq => hname ⟨name, rest, heq⟩
    refine ⟨invalidArgument, [.str (f.function ++ ": first argument must be a name string")], .inl ⟨hname, rfl⟩, fun k => ?_⟩
    unfold execute
    split
    · rename_i name rest _
      exact absurd rfl (hname name rest)
    · exact refuse_eq hlog f _ _ k

/-! ## What the host is asked for -/

section Asking

variable {store : Store} {frames : List Frame} {next : HostReply → Prog} {number : Nat} {function : String} {vs : List Value} {args : List Data}
  {table : Option TableId}

/-- With names for all options, the function is called with the options in order. -/
theorem ask_named (hvs : store.toDataAll vs = .ok args) (hreadable : ∀ t ∈ table, store.OptionTable t) (hnamed : Named store table) :
    ∃ fields, Gets store table fields ∧
      (⟨store, frames, next⟩ : Suspension).ask (.invoke number function vs table) = .invoke number function args fields := by
  cases table with
  | none =>
    refine ⟨[], ⟨fun key d => ?_, .nil⟩, ?_⟩
    · simp [Has]
    · simp only [Suspension.ask, Ask.ofHostCall, Ask.ofInvocation, hvs]
      rfl
  | some t =>
    obtain ⟨d, fields, hd, hfields, hgets⟩ := (hreadable t rfl).fields (hnamed t rfl)
    refine ⟨fields, ⟨fun key d => ?_, hgets.sorted⟩, ?_⟩
    · simp [Has, hgets.mem_iff]
    · simp only [Suspension.ask, Ask.ofHostCall, Ask.ofInvocation, hvs, hd, bind, Except.bind, hfields]
      rfl

/-- With another key, the call does not come to the function. -/
theorem ask_unnamed (hvs : store.toDataAll vs = .ok args) (hreadable : ∀ t ∈ table, store.OptionTable t) (hnamed : ¬ Named store table) :
    (⟨store, frames, next⟩ : Suspension).ask (.invoke number function vs table) =
      .refused (some ("builtin-error: " ++ function ++ ": " ++ (Ask.badOptions function).message)) (Ask.badOptions function) := by
  cases table with
  | none => exact absurd (fun t ht => by cases ht) hnamed
  | some t =>
    have hother : ¬ (store.table t).Named := fun h => hnamed fun u hu => Option.some.inj hu ▸ h
    obtain ⟨d, hd, hnone⟩ := (hreadable t rfl).unnamed hother
    simp only [Suspension.ask, Ask.ofHostCall, Ask.ofInvocation, hvs, hd, bind, Except.bind, hnone]
    rfl

end Asking

theorem invoke_eq {w : Primitives ε} {info : RunInfo} {s : Session ε} {number : Nat} (hmodule : s.module number = plugin.create w info)
    (f : Starter) (args : List Data) (fields : List (String × Data)) : s.invoke number f.function args fields =
      Builtin.call (execute w f.function f.derivations (f.start w)) s.thread args fields := by
  unfold Session.invoke
  rw [hmodule]
  have hlookup : (plugin.create w info).attributes.builtins.lookup f.function =
      some (execute w f.function f.derivations (f.start w)) := f.lookup_builtins w
  simp only [hlookup]

theorem call_of_shadows {store : Store} {table : Option TableId} {fields : List (String × Data)} (h : Gets store table fields)
    (hnamed : Named store table) (f : Builtin ε) (thread : Thread) (args : List Data) :
    (Shadows store table → f.call thread args fields = Flow.fail badCall) ∧
      (¬ Shadows store table → f.call thread args fields = f thread args fields) := by
  have hiff : (fields.any fun o => Builtin.callParameters.contains o.1) = true ↔ Shadows store table := by
    rw [List.any_eq_true, h.any_iff fun key _ => Builtin.callParameters.contains key]
    simp only [List.contains_iff_mem]
    exact ⟨fun ⟨key, d, hd, hkey⟩ => ⟨hnamed, key, hkey, d, hd⟩, fun ⟨_, key, hkey, d, hd⟩ => ⟨key, d, hd, hkey⟩⟩
  unfold Builtin.call
  constructor
  · intro hs
    rw [if_pos (hiff.mpr hs)]
  · intro hs
    rw [if_neg (mt hiff.mp hs)]

theorem drive_refused {s : Session ε} {fuel : Nat} {m : Machine} {request : HostCall} {waiting : Suspension} {line : String} {e : Fault}
    (hm : Environment.advance m = .asking request waiting) (ha : waiting.ask request = .refused (some line) e)
    (cont : Except Fault Ending → Proc (World ε)) :
    s.drive (fuel + 1) m cont = reporting line (s.drive fuel (waiting.refuse e) cont) := by
  rw [Session.drive]
  simp only [hm, ha]
  rfl

/-- A call with names for all options is refused for what the function gets. -/
theorem Rejected.bad {f : Starter} {store : Store} {args : List Data} {table : Option TableId} {fields : List (String × Data)}
    (h : Rejected f store args table) (hgets : Gets store table fields) (hnamed : Named store table) :
    (∀ name rest, args ≠ .str name :: rest) ∨ ∃ o ∈ fields, f.accepts o.1 o.2 = false := by
  cases h with
  | name h => exact .inl h
  | key h => exact absurd hnamed h
  | option key d h hd => exact .inr ⟨(key, d), (hgets.mem_iff _ _).mpr h, hd⟩

/-- **A refused call only reports.** Whatever is wrong with a call of one of the functions, the log gets one line, and the script goes on in
the same session, under the same context, with the error of that line at the place of the call. The engine is asked for nothing, and neither
it nor any future, scope or run changes. The error says that something is planned when `headers` is the first option not taken, and that an
argument is bad otherwise.

An option with the name of a parameter that all functions have is the exception: the error is that of arguments without a place, and
the log gets no line. -/
theorem rejected_calls_only_report {w : Primitives ε} {info : RunInfo} {s : Session ε} {number : Nat}
    (hmodule : s.module number = plugin.create w info) (hlog : Logs w s.thread.context) (f : Starter) {store : Store} {inv : Invocation}
    {args : List Data} {table : Option TableId} (hgiven : Given store args table inv) (hrejected : Rejected f store args table)
    (frames : List Frame) :
    (¬ Shadows store table → ∃ reason details,
      (reason = unimplemented ∧ HeadersFirst f store args table ∨ reason = invalidArgument ∧ ¬ HeadersFirst f store args table) ∧
      ∀ fuel cont, s.drive (fuel + 1) (Machine.callsBuiltin store frames number f.function inv) cont =
        reporting (reportLine f (.custom reason details)) (s.drive fuel (raising store frames (.custom reason details)) cont)) ∧
    (Shadows store table → ∀ fuel cont, s.drive (fuel + 1) (Machine.callsBuiltin store frames number f.function inv) cont =
      s.drive fuel (raising store frames badCall) cont) := by
  obtain ⟨vs, hsplit, hvs⟩ := hgiven.split
  have hm := Machine.advance_builtin store frames number f.function inv
  rw [hsplit] at hm
  -- a table with another key is refused before the module sees the call, everything else by the module
  by_cases hnamed : Named store table
  · obtain ⟨fields, hgets, hask⟩ := @ask_named store frames Machine.afterReply number f.function vs args table hvs hgiven.readable hnamed
    obtain ⟨hshadowed, hplain⟩ := call_of_shadows hgets hnamed (execute w f.function f.derivations (f.start w)) s.thread args
    refine ⟨fun hs => ?_, fun hs fuel cont => ?_⟩
    · obtain ⟨reason, details, hreason, hexecute⟩ := execute_refused hlog hgets.sorted (hrejected.bad hgets hnamed)
      refine ⟨reason, details, ?_, fun fuel cont => ?_⟩
      · obtain ⟨hname, rfl⟩ | ⟨hname, key, hfirst, rfl⟩ := hreason
        · refine .inr ⟨rfl, fun h => ?_⟩
          obtain ⟨name, rest, rfl⟩ := h.name
          exact hname name rest rfl
        · have hiff := hfirst.headersFirst_iff hgets hname hnamed
          by_cases hkey : key = "headers"
          · exact .inl ⟨if_pos hkey, hiff.mp hkey⟩
          · exact .inr ⟨if_neg hkey, mt hiff.mpr hkey⟩
      · rw [Session.drive_invoke hm hask, invoke_eq hmodule, hplain hs]
        exact hexecute _
    · rw [Session.drive_invoke hm hask, invoke_eq hmodule, hshadowed hs]
      rfl
  · have hask := @ask_unnamed store frames Machine.afterReply number f.function vs args table hvs hgiven.readable hnamed
    refine ⟨fun _ => ?_, fun hs => absurd hs.named hnamed⟩
    exact ⟨invalidArgument, [.str (f.function ++ ": keyword options must be a table of named values")],
      .inr ⟨rfl, fun h => hnamed h.named⟩, fun fuel cont => drive_refused hm hask cont⟩

/-- A store with a table of options; one is misspelt. -/
def misspelt : Store :=
  { tables := #[{ entries := [(.ofText "as_bytes", .bool true), (.ofText "tasklist", .int 1)], meta? := some 1 }, {}], optionsMark := 1 }

/-- A session with the module, on the durable engine. -/
def oneCad : Session Execution :=
  { environment := default
    modules := [("cad", plugin.create Execution.primitives { identity := {}, environ := [], run := 0, number := 0 })]
    thread := { name := "", context := {}, run := 0 } }

theorem mem_misspelt {e : Value × Value} (he : e ∈ (misspelt.table 0).entries) :
    e = (.ofText "as_bytes", .bool true) ∨ e = (.ofText "tasklist", .int 1) := by
  have hentries : (misspelt.table 0).entries = [(.ofText "as_bytes", .bool true), (.ofText "tasklist", .int 1)] := rfl
  rw [hentries] at he
  simpa using he

theorem optionTable_misspelt : misspelt.OptionTable 0 := by
  have hplain : (misspelt.table 0).PlainKeys := by
    refine ⟨⟨fun e he => ?_, fun e he => ?_, ?_⟩, fun e he => ?_⟩
    · obtain rfl | rfl := mem_misspelt he <;> exact ⟨rfl, rfl, Value.noConfusion⟩
    · obtain rfl | rfl := mem_misspelt he <;> exact Value.noConfusion
    · exact .cons (by simp; decide) (.cons (by simp) .nil)
    · obtain rfl | rfl := mem_misspelt he <;> exact ⟨_, Utf8.decode_toUTF8 _⟩
  have hconvertible : misspelt.Convertible (.table 0) := by
    refine .table hplain fun e he => ?_
    obtain rfl | rfl := mem_misspelt he <;> exact .atom rfl
  obtain ⟨val, -, hdata⟩ := hconvertible.toData_table
  refine ⟨hplain.toWellFormed, fun e he n d hobject => ?_, _, hdata⟩
  obtain rfl | rfl := mem_misspelt he <;> cases hobject

theorem given_misspelt : Given misspelt [.str "resize"] (some 0) { args := [.ofText "resize", .table 0] } where
  split := ⟨[.ofText "resize"], rfl, by
    rw [Store.toDataAll, Store.convertAll_ok_iff]
    exact .cons (Store.toDataWithin_plain ⟨"resize", Utf8.decode_toUTF8 _⟩) .nil⟩
  readable t ht := by
    obtain rfl := Option.some.inj ht
    exact optionTable_misspelt

theorem rejected_misspelt : Rejected .activity misspelt [.str "resize"] (some 0) :=
  .option "tasklist" (.int 1) ⟨0, rfl, .int 1, .tail _ (.head _), rfl⟩ rfl

theorem has_misspelt {key : String} {d : Data} (h : Has misspelt (some 0) key d) : key = "as_bytes" ∨ key = "tasklist" := by
  obtain ⟨t, ht, v, hv, -⟩ := h
  obtain rfl := Option.some.inj ht
  obtain heq | heq := mem_misspelt hv
  · exact .inl (Store.ofText_injective (congrArg Prod.fst heq))
  · exact .inr (Store.ofText_injective (congrArg Prod.fst heq))

theorem not_shadows_misspelt : ¬ Shadows misspelt (some 0) := by
  rintro ⟨-, key, hkey, d, hd⟩
  obtain rfl | rfl := has_misspelt hd <;> simp [Builtin.callParameters] at hkey

theorem not_headersFirst_misspelt : ¬ HeadersFirst .activity misspelt [.str "resize"] (some 0) := by
  intro h
  obtain ⟨d, hd⟩ := h.headers
  obtain heq | heq := has_misspelt hd <;> exact absurd heq (by decide)

theorem module_oneCad :
    oneCad.module 0 = plugin.create Execution.primitives { identity := {}, environ := [], run := 0, number := 0 } := rfl

theorem rejected_calls_only_report_of_misspelt :
    oneCad.module 0 = plugin.create Execution.primitives { identity := {}, environ := [], run := 0, number := 0 } ∧
    Logs Execution.primitives oneCad.thread.context ∧
    Given misspelt [.str "resize"] (some 0) { args := [.ofText "resize", .table 0] } ∧
    Rejected .activity misspelt [.str "resize"] (some 0) ∧ ¬ Shadows misspelt (some 0) ∧
    ∃ details, ∀ fuel cont,
      oneCad.drive (fuel + 1) (Machine.callsBuiltin misspelt [] 0 "execute_activity" { args := [.ofText "resize", .table 0] }) cont =
        reporting (reportLine .activity (.custom invalidArgument details))
          (oneCad.drive fuel (raising misspelt [] (.custom invalidArgument details)) cont) := by
  refine ⟨module_oneCad, engines_log.1 _, given_misspelt, rejected_misspelt, not_shadows_misspelt, ?_⟩
  obtain ⟨reason, details, hreason, hdrive⟩ :=
    (rejected_calls_only_report module_oneCad (engines_log.1 _) .activity given_misspelt rejected_misspelt []).1 not_shadows_misspelt
  obtain ⟨-, hheaders⟩ | ⟨rfl, -⟩ := hreason
  · exact absurd hheaders not_headersFirst_misspelt
  · exact ⟨details, hdrive⟩

/-- Scripts that call with the option `self`, and with one that no parameter is named after. -/
def shadowingScripts : Sources :=
  [("/shadowing.lua", "function shadowing() return cad.execute_activity([[resize]], kw{self = 1}) end " ++
    "function misspelling() return cad.execute_activity([[resize]], kw{selves = 1}) end")]

/-- Runs one of the scripts: the name of its error, how many lines the log has, and how many calls were made. -/
def refusals (function : String) : String × Nat × Nat :=
  let w : Primitives Simulator := Simulator.primitives { activity := fun _ _ => Flow.fail badCall, workflow := fun _ _ _ => Flow.fail badCall }
  let cad := plugin.create w { identity := {}, environ := [], run := 0, number := 0 }
  let (r, world) := Loop.runMain ({ engine := {} } : World Simulator) do
    let s ← Flow.ofExcept (Session.create shadowingScripts [("cad", cad)] { name := "", context := { identity := some {} }, run := 0 })
    let (s, _) ← s.load (.str "/shadowing.lua")
    let (_, r) ← s.call (.str "/shadowing.lua") (.str function) [] []
    Flow.ofExcept r
  (Session.ending r, world.log.length, world.engine.activityCalls.length)

/-- **An option with the name of a parameter that all functions have is refused without a report.** -/
theorem parameter_name_passes_unreported : (∀ d, Starter.activity.accepts "self" d = false) ∧
    refusals "misspelling" = ("CustomError", 1, 0) ∧ refusals "shadowing" = ("TypeError", 0, 0) := by
  refine ⟨fun d => rfl, ?_⟩
  decide +kernel

end Cad

end ScriptFlow
