import Mathlib
import ScriptFlow.Proofs.Plugin.Isolation
import ScriptFlow.Proofs.Script.Loader
import ScriptFlow.Proofs.Script.Paths

/-!
# Scripts that load each other

An environment goes from request to request: a script is loaded or a function is called, the machine runs, and its host answers whatever it asks for. On the way
scripts require each other, fail, and catch each other's errors. The loader knows scripts by the normal forms of their paths: a path in normal form is read back as
the components that it was written from, and these have nothing that would be resolved once more.

* `ScriptPath.Plain` — a component that stays as it is; `ScriptPath.plain_of_mem_resolve` — resolved components are plain.
* `ScriptPath.normalize_normalize` — **the normal form of a normal form is the same path**.
* `Stage.Next` — from one stage of an environment to the next; `Stage.Next.change` — what that does to the loader.
* `Machine.Follows.reaches` — a session goes along the stages.
* `Machine.Requires` — a call of `require`; `Machine.Requires.loaded`, `Machine.Requires.cyclic` and `Machine.Requires.starts` — how it goes on.
* `one_normal_form` — **every spelling of a path has one normal form and finds one script**, which is one of the sources.
* `Stage.scripts_load_once` — **a script that has ended never runs again**, a script is not required while it runs, a script that fails leaves no trace,
  and between requests nothing is being loaded.
-/

namespace ScriptFlow.Script

open Relation

namespace Stage

/-- From one stage of an environment to the next; the host may answer anything. -/
inductive Next : Stage → Stage → Prop where
  | load {env : Environment} {path : Data} {m : Machine} (h : env.load path = .ok m) : Next (.idle env) (.running m)
  | call {env : Environment} {path function : Data} {args : List Data} {options : List (Data × Data)} {m : Machine}
      (h : env.call path function args options = .ok m) : Next (.idle env) (.running m)
  /-- the text of an error is read, and its metatable says it -/
  | tell (env : Environment) (h e : Value) : Next (.idle env) (.running (.start env.store h [e]))
  | step (m : Machine) : Next (.running m) (.after m.step)
  | reply (request : HostCall) {waiting : Suspension} {m : Machine} (h : waiting.GoesOn m) : Next (.asking request waiting) (.running m)

end Stage

/-! ## Requests and answers -/

theorem Environment.loader_arguments {s : Store} {ds : List Data} {r : Store × List Value} (h : arguments s ds = .ok r) :
    r.1.loader = s.loader := by
  induction ds generalizing s r with
  | nil =>
    cases h
    rfl
  | cons d ds ih =>
    obtain ⟨a, ha, h⟩ := Store.bind_ok_iff.mp h
    obtain ⟨b, hb, h⟩ := Store.bind_ok_iff.mp h
    cases h
    exact (ih hb).trans (Store.loader_ofData d ha)

theorem Machine.start_carries (s : Store) (v : Value) (args : List Value) : (Machine.start s v args).Carries s.loader [] :=
  .of_orderly rfl (fun _ h => nomatch h) (.call fun vs _ => .done vs)

theorem Environment.load_carries {env : Environment} {path : Data} {m : Machine} (h : env.load path = .ok m) : m.Carries env.store.loader [] := by
  obtain ⟨p, -, h⟩ := Store.bind_ok_iff.mp h
  cases h
  exact Machine.start_carries _ _ _

theorem Environment.call_carries {env : Environment} {path function : Data} {args : List Data} {options : List (Data × Data)} {m : Machine}
    (h : env.call path function args options = .ok m) : m.Carries env.store.loader [] := by
  obtain ⟨normal, -, h⟩ := Store.bind_ok_iff.mp h
  split at h
  · next f _ =>
    obtain ⟨_, -, h⟩ := Store.bind_ok_iff.mp h
    obtain ⟨⟨store, vs⟩, hgiven, h⟩ := Store.bind_ok_iff.mp h
    have hloader := loader_arguments hgiven
    dsimp only at h hloader
    split at h
    · cases h
      exact hloader ▸ Machine.start_carries _ _ _
    · obtain ⟨⟨store', v⟩, htable, h⟩ := Store.bind_ok_iff.mp h
      have hloader' : store'.loader = env.store.loader := (Store.loader_ofData _ htable).trans hloader
      dsimp only at h
      split at h
      · cases h
        exact hloader' ▸ Machine.start_carries _ _ _
      · cases h
        exact hloader' ▸ Machine.start_carries _ _ _
  · cases h

/-- A script goes on where it asked, with the loader as it was. -/
theorem Suspension.GoesOn.eq_reply {waiting : Suspension} {m : Machine} (h : waiting.GoesOn m) :
    ∃ store r, store.loader = waiting.store.loader ∧ m = ({ waiting with store := store } : Suspension).reply r := by
  have hrefused (e : Fault) : ∃ store r, store.loader = waiting.store.loader ∧
      waiting.refuse e = ({ waiting with store := store } : Suspension).reply r :=
    ⟨(waiting.store.newObject (.fault e)).1, .error (waiting.store.newObject (.fault e)).2, rfl, rfl⟩
  cases h with
  | refused e => exact hrefused e
  | stuck => exact ⟨waiting.store, _, rfl, rfl⟩
  | answered a =>
    cases a with
    | function name => exact ⟨waiting.store, _, rfl, rfl⟩
    | error e => exact hrefused e
    | value d =>
      cases hd : waiting.store.ofData d with
      | ok r =>
        refine ⟨r.1, .value r.2, Store.loader_ofData d hd, ?_⟩
        simp only [Suspension.answer, hd]
      | error e =>
        simp only [Suspension.answer, hd]
        exact hrefused e

namespace Stage

variable {st st' : Stage} {l : Loader} {running : List String}

/-- **What comes next changes the loader in one of the known ways.** -/
theorem Next.change (h : st.Next st') (hc : st.Carries l running) : ∃ l' running', st.Change st' l running l' running' ∧ st'.Carries l' running' := by
  cases h with
  | load h =>
    obtain ⟨rfl, rfl⟩ := hc
    exact ⟨_, _, .stays _, Environment.load_carries h⟩
  | call h =>
    obtain ⟨rfl, rfl⟩ := hc
    exact ⟨_, _, .stays _, Environment.call_carries h⟩
  | tell env h e =>
    obtain ⟨rfl, rfl⟩ := hc
    exact ⟨_, _, .stays _, Machine.start_carries _ _ _⟩
  | step m => exact Machine.Carries.step hc
  | reply request h =>
    obtain ⟨rfl, rfl, hframes, hnext⟩ := hc
    obtain ⟨store, r, hloader, rfl⟩ := h.eq_reply
    exact ⟨_, _, .stays _, .of_orderly hloader hframes (hnext r _)⟩

/-! ## What holds at every stage -/

/-- The loader of an environment. -/
def loader : Stage → Loader
  | .idle env => env.store.loader
  | .running m => m.store.loader
  | .asking _ waiting => waiting.store.loader

/-- The scripts that are being loaded, the youngest first. -/
def nesting : Stage → List String
  | .idle _ => []
  | .running m => Machine.chunks m.frames
  | .asking _ waiting => Machine.chunks waiting.frames

/-- A stage at which the loader knows what is being loaded of these sources. -/
def Sound (texts : List (String × String)) (st : Stage) : Prop := ∃ running, st.Carries st.loader running ∧ st.loader.Keeps texts running

theorem Carries.loader_eq (h : st.Carries l running) : st.loader = l := by
  cases st with
  | idle env => exact h.1
  | running m => exact h.loader
  | asking request waiting => exact h.1

variable {texts : List (String × String)}

theorem Sound.change (h : st.Sound texts) (hn : st.Next st') :
    ∃ running running', st.Change st' st.loader running st'.loader running' ∧ st.loader.Keeps texts running ∧ st'.Sound texts := by
  obtain ⟨running, hc, hk⟩ := h
  obtain ⟨l', running', hchange, hc'⟩ := hn.change hc
  obtain rfl := hc'.loader_eq
  exact ⟨running, running', hchange, hk, running', hc', hchange.keeps hk⟩

theorem Sound.next (h : st.Sound texts) (hn : st.Next st') : st'.Sound texts := by
  obtain ⟨_, _, _, _, h'⟩ := h.change hn
  exact h'

theorem Sound.reaches (h : st.Sound texts) (hr : ReflTransGen Next st st') : st'.Sound texts := by
  induction hr with
  | refl => exact h
  | tail _ hn ih => exact ih.next hn

theorem Sound.sources (h : st.Sound texts) : st.loader.sources = texts := by
  obtain ⟨_, _, hk⟩ := h
  exact hk.sources

/-- The scripts with a frame are being loaded. -/
theorem Sound.nesting (h : st.Sound texts) : ∃ running, st.loader.Keeps texts running ∧ st.nesting.Sublist running := by
  obtain ⟨running, hc, hk⟩ := h
  refine ⟨running, hk, ?_⟩
  cases st with
  | idle env => exact List.nil_sublist _
  | running m => exact hc.chunks ▸ List.sublist_append_right _ _
  | asking request waiting => exact hc.2.1 ▸ List.Sublist.refl _

/-- What a script gave stays. -/
theorem Sound.loaded? (h : st.Sound texts) (hr : ReflTransGen Next st st') {path : String} {v : Value} (hv : st.loader.loaded? path = some v) :
    st'.loader.loaded? path = some v := by
  induction hr with
  | refl => exact hv
  | tail hr hn ih =>
    obtain ⟨_, _, hchange, hk, -⟩ := (h.reaches hr).change hn
    exact hchange.loaded? hk ih

/-- A script of which nothing is known stays so until it starts. -/
theorem Sound.untraced (h : st.Sound texts) {path : String} (hu : st.loader.Untraced path)
    (hr : ReflTransGen (fun s s' => s.Next s' ∧ ¬s'.Starts path) st st') : st'.loader.Untraced path := by
  induction hr with
  | refl => exact hu
  | tail hr hn ih =>
    obtain ⟨_, _, hchange, hk, -⟩ := (h.reaches (ReflTransGen.mono (fun _ _ h => h.1) _ _ hr)).change hn.1
    exact hchange.untraced hk ih hn.2

/-- A script that starts has given nothing before. -/
theorem Sound.loaded?_starts (h : st.Sound texts) {path : String} (hs : st.Starts path) : st.loader.loaded? path = none := by
  obtain ⟨running, hc, hk⟩ := h
  cases hs
  exact hk.fresh _ (hc.chunks ▸ .head _)

/-- A script that ends gives what is kept of it. -/
theorem Completes.gives {path : String} {globals : TableId} {vs : List Value} (h : st.Completes path globals vs) (hn : st.Next st') :
    ∃ m, st' = .running m ∧ m.focus = .done [Loader.kept globals vs] := by
  cases h with
  | mk store _ _ _ rest =>
    cases hn
    exact ⟨_, rfl, rfl⟩

/-- A script that has ended is kept with what it gave. -/
theorem Completes.loaded? {path : String} {globals : TableId} {vs : List Value} (h : st.Completes path globals vs) (hn : st.Next st') :
    st'.loader.loaded? path = some (Loader.kept globals vs) := by
  cases h with
  | mk store _ _ _ rest =>
    cases hn
    exact (Loader.loaded?_finish store.loader path path globals vs).trans (if_pos rfl)

theorem Fails.mem_nesting {path : String} (h : st.Fails path) : path ∈ st.nesting := by
  cases h
  exact .head _

/-- Of a script that has failed nothing is left. -/
theorem Sound.untraced_fails (h : st.Sound texts) {path : String} (hf : st.Fails path) (hn : st.Next st') : st'.loader.Untraced path := by
  obtain ⟨running, hk, hsub⟩ := h.nesting
  have hfresh := hk.fresh path (hsub.subset hf.mem_nesting)
  have henvironment := (hk.environments path).mpr hfresh
  cases hf with
  | @mk store v p hp _ globals rest =>
    cases hn
    have hunwind : Machine.step ⟨store, p, .loading path globals :: rest⟩ =
        .running ⟨{ store with loader := store.loader.drop path }, .raise v, rest⟩ := Machine.step_rises hp rfl
    rw [hunwind]
    exact ⟨fun hmem => by simpa using (List.mem_filter.mp hmem).2, hfresh, henvironment⟩

end Stage

/-! ## Calls of `require` -/

namespace Machine

/-- The machine comes to another one by steps of its own. -/
def Comes : Machine → Machine → Prop := ReflTransGen fun m m' => m.step = .running m'

theorem Comes.reaches {m m' : Machine} (h : m.Comes m') : ReflTransGen Stage.Next (.running m) (.running m') := by
  have hstep : (fun m m' => step m = .running m') ≤ Function.onFun Stage.Next Stage.running := fun m m' hm => by
    have hnext := Stage.Next.step m
    rwa [hm] at hnext
  exact ReflTransGen.lift Stage.running hstep _ _ h

/-- What a machine runs to is reached. -/
theorem run_reaches {n : Nat} {m : Machine} {p : Progress} (h : m.run n = some p) : ReflTransGen Stage.Next (.running m) (.after p) := by
  induction n generalizing m with
  | zero => cases h
  | succ n ih =>
    unfold run at h
    have hstep := Stage.Next.step m
    cases hm : m.step with
    | running m' =>
      rw [hm] at h hstep
      exact .head hstep (ih h)
    | finished | failed | asking =>
      rw [hm] at h hstep
      cases h
      exact .single hstep

/-- A machine that is run gets where it is said to be, unless its steps do not suffice. -/
theorem advance_reaches (m : Machine) :
    Environment.advance m = .failed m.store .nil ∨ ReflTransGen Stage.Next (.running m) (.after (Environment.advance m)) := by
  unfold Environment.advance
  cases hrun : m.run Environment.steps with
  | none => exact .inl rfl
  | some p => exact .inr (run_reaches hrun)

/-- The machines that a session goes on with are reached. -/
theorem Follows.reaches {m m' : Machine} (h : m.Follows m') : ReflTransGen Stage.Next (.running m) (.running m') := by
  rcases advance_reaches m with hfailed | hreaches
  · cases h with
    | runs h => cases hfailed.symm.trans h
    | asks h => cases hfailed.symm.trans h
  · cases h with
    | runs h =>
      rw [h] at hreaches
      exact hreaches
    | asks h hm' =>
      rw [h] at hreaches
      exact .tail hreaches (.reply _ hm')

/-- What a store becomes while the text of an error is read is reached. -/
theorem told_reaches (s : Store) (e : Value) : ReflTransGen Stage.Next (.idle ⟨s⟩) (.idle ⟨Environment.told s e⟩) := by
  unfold Environment.told
  split
  · next t =>
    split
    · exact .refl
    · have htell := Stage.Next.tell ⟨s⟩ (s.metaEntry (.table t) "__tostring") (.table t)
      rcases advance_reaches (.start s (s.metaEntry (.table t) "__tostring") [.table t]) with hfailed | hreaches
      · rw [hfailed]
        exact .refl
      · have htold := ReflTransGen.head htell hreaches
        split
        · next h =>
          rw [h] at htold
          exact htold
        · next h =>
          rw [h] at htold
          exact htold
        · exact .refl
  · exact .refl

/-- A call of `require` with a value that names a script. -/
structure Requires (m : Machine) (inv : Invocation) (path : String) : Prop where
  focus : m.focus = (Native.require.run inv).toProg
  named : ∃ text, m.store.sourceOf (inv.get 1) = .ok (path, text)

/-- A value that names a script is found among the sources in one step. -/
theorem step_sourceOf {store : Store} {v : Value} {named : String × String} (h : store.sourceOf v = .ok named) (k : String × String → Prog)
    (frames : List Frame) :
    step ⟨store, Act.convert (fun s => do return (s, ← s.sourceOf v)) k, frames⟩ = .running ⟨store, k named, frames⟩ := by
  have hfound : (do return (store, ← store.sourceOf v) : Except Fault (Store × String × String)) = .ok (store, named) := by
    rw [h]
    rfl
  simp only [step, Act.convert, hfound]

theorem step_touch (store : Store) (f : Store → Store × Prog) (frames : List Frame) :
    step ⟨store, .touch f, frames⟩ = .running ⟨(f store).1, (f store).2, frames⟩ := rfl

namespace Requires

variable {m : Machine} {inv : Invocation} {path : String}

/-- A script that has ended is not run again. -/
theorem loaded (h : m.Requires inv path) {v : Value} (hv : m.store.loader.loaded? path = some v) : m.Comes { m with focus := .done [v] } := by
  obtain ⟨store, focus, frames⟩ := m
  obtain ⟨rfl, text, hnamed⟩ := h
  refine .head (step_sourceOf hnamed _ frames) (.single ?_)
  simp only [step, Act.bind_apply, Act.read_apply, hv]
  rfl

/-- A script that is being loaded is not run a second time. -/
theorem cyclic (h : m.Requires inv path) (hfresh : m.store.loader.loaded? path = none) (hloading : path ∈ m.store.loader.loading) :
    m.Comes { m with focus := .raise (inv.site.text ("cyclic require of " ++ path).toUTF8) } := by
  obtain ⟨store, focus, frames⟩ := m
  obtain ⟨rfl, text, hnamed⟩ := h
  have hcontains : store.loader.loading.contains path = true := List.contains_iff_mem.mpr hloading
  refine .head (step_sourceOf hnamed _ frames) (.single ?_)
  simp only [step, Act.bind_apply, Act.read_apply, hfresh, Act.ite_apply]
  rw [if_pos hcontains]
  rfl

/-- A script of which nothing is known runs. -/
theorem starts (h : m.Requires inv path) {text : String} {body : List Stat} (hu : m.store.loader.Untraced path)
    (hsource : m.store.loader.source? path = some text) (hparse : parseScript path text = .ok body) :
    ∃ store globals, m.Comes ⟨store, .load path body globals, m.frames⟩ := by
  obtain ⟨store, focus, frames⟩ := m
  obtain ⟨rfl, text', hnamed⟩ := h
  obtain rfl : text' = text := Option.some.inj ((Invocation.source_of_sourceOf hnamed).symm.trans hsource)
  have hcontains : ¬store.loader.loading.contains path = true := fun h => hu.loading (List.contains_iff_mem.mp h)
  let shared := store.newTable (({} : Table).set (.ofText "__index") (.table store.base))
  let made := shared.1.newTable { meta? := some shared.2 }
  refine ⟨{ made.1 with loader := made.1.loader.start path }, made.2, .head (step_sourceOf hnamed _ frames) ?_⟩
  simp only [Act.bind_apply, Act.read_apply]
  refine .head (step_touch _ _ _) ?_
  simp only [hu.loaded]
  rw [if_neg hcontains]
  simp only [hparse]
  exact .head (step_touch _ _ _) (.single (step_touch _ _ _))

end Requires

end Machine

/-! ## Spellings of a path -/

/-- A text of a script that leads to a place. -/
def Value.LeadsTo (v : Value) (place : List (List Nat)) : Prop :=
  ∃ bs name, v = .str bs ∧ Utf8.decode bs = .ok name ∧ name ≠ "" ∧ ScriptPath.resolve (ScriptPath.components (name.toList.map Char.toNat)) = place

/-- Texts that lead to one place name one script. -/
theorem Store.sourceOf_leadsTo (s : Store) {v w : Value} {place : List (List Nat)} (hv : v.LeadsTo place) (hw : w.LeadsTo place) :
    s.sourceOf v = s.sourceOf w := by
  obtain ⟨bs, name, rfl, hbs, hname, hplace⟩ := hv
  obtain ⟨bs', name', rfl, hbs', hname', hplace'⟩ := hw
  have hne {name : String} (h : name ≠ "") : name.toList.map Char.toNat ≠ [] := fun hnil =>
    h (String.toList_eq_nil_iff.mp (List.map_eq_nil_iff.mp hnil))
  have hpath : ScriptPath.ofData (.str name) = ScriptPath.ofData (.str name') :=
    ScriptPath.ofData_congr rfl (hne hname) rfl (hne hname') (hplace.trans hplace'.symm)
  simp only [sourceOf, hbs, hbs', bind, Except.bind, hpath]

/-- **What a value names is one of the sources**, by its normal form. -/
theorem Store.mem_of_sourceOf {s : Store} {v : Value} {path text : String} (h : s.sourceOf v = .ok (path, text)) :
    (path, text) ∈ s.loader.sources ∧ ScriptPath.Normal (path.toList.map Char.toNat) := by
  obtain ⟨before, after, hsources, -⟩ := List.lookup_eq_some_iff.mp (Invocation.source_of_sourceOf h)
  refine ⟨hsources ▸ List.mem_append_right _ (.head _), ?_⟩
  have hnormal {d : Data} (hd : ScriptPath.ofData d = .ok path) : ScriptPath.Normal (path.toList.map Char.toNat) := by
    obtain ⟨p, -, -, hcodes⟩ := ScriptPath.ofData_spells hd
    exact hcodes ▸ ScriptPath.normal_normalForm p
  unfold sourceOf at h
  split at h
  all_goals simp only [Store.bind_ok_iff, pure, Except.pure, throw, throwThe, MonadExceptOf.throw] at h
  · obtain ⟨_, -, name, hd, hfound⟩ := h
    split at hfound
    · cases hfound
      exact hnormal hd
    · cases hfound
  · grind
  · grind
  · obtain ⟨_, -, name, hd, hfound⟩ := h
    split at hfound
    · cases hfound
      exact hnormal hd
    · cases hfound

/-- **Paths have one normal form.** The normal form of a text with something in it is one slash and, with a slash between each two, the names of the place where a walk along
the text ends; it is its own normal form. Two texts have one normal form exactly if they lead to one place. What a script names is therefore one of the sources,
wherever its path goes up; a request finds a script by any of its spellings, and so does a script, which gets what was kept when the script ended. -/
theorem one_normal_form {d e : Data} {p q : List Nat} (hd : Json.codePoints? d = some p) (hp : p ≠ []) (he : Json.codePoints? e = some q) (hq : q ≠ []) :
    (∃ n path, ScriptPath.normalize d = .ok n ∧ Json.codePoints? n = some path ∧ ScriptPath.normalize n = .ok n ∧ ScriptPath.Normal path ∧
      path = ScriptPath.slash :: [ScriptPath.slash].intercalate (ScriptPath.resolve (ScriptPath.components p))) ∧
    (ScriptPath.normalize d = ScriptPath.normalize e ↔
      ScriptPath.resolve (ScriptPath.components p) = ScriptPath.resolve (ScriptPath.components q)) ∧
    (ScriptPath.resolve (ScriptPath.components p) = ScriptPath.resolve (ScriptPath.components q) → ∀ env : Environment, env.load d = env.load e) ∧
    (∀ (s : Store) v path text, s.sourceOf v = .ok (path, text) → (path, text) ∈ s.loader.sources ∧ ScriptPath.Normal (path.toList.map Char.toNat)) ∧
    ∀ (m : Machine) inv inv' path place, m.Requires inv path → (inv.get 1).LeadsTo place → (inv'.get 1).LeadsTo place →
      Machine.Requires { m with focus := (Native.require.run inv').toProg } inv' path ∧
      ∀ v, m.store.loader.loaded? path = some v →
        Machine.Comes { m with focus := (Native.require.run inv').toProg } { m with focus := .done [v] } := by
  have hnormal := ScriptPath.normalize_text hd hp
  have hnormal' := ScriptPath.normalize_text he hq
  have hcodes := ScriptPath.codePoints?_textOf (ScriptPath.normalForm p)
  have hcodes' := ScriptPath.codePoints?_textOf (ScriptPath.normalForm q)
  refine ⟨⟨_, _, hnormal, hcodes, ?_, ScriptPath.normal_normalForm p, ScriptPath.normalForm_eq p⟩, ?_, fun hplace env => ?_,
    fun s v path text h => Store.mem_of_sourceOf h, fun m inv inv' path place hrequires hv hw => ?_⟩
  · rw [ScriptPath.normalize_text hcodes (ScriptPath.normalForm_ne_nil p), ScriptPath.normalForm_normalForm]
  · rw [hnormal, hnormal', ← ScriptPath.normalForm_eq_iff]
    refine ⟨fun h => ?_, fun h => by rw [h]⟩
    rw [Except.ok.inj h, hcodes'] at hcodes
    exact (Option.some.inj hcodes).symm
  · simp only [Environment.load, ScriptPath.ofData_congr hd hp he hq hplace]
  · obtain ⟨text, hnamed⟩ := hrequires.named
    have hrequires' : Machine.Requires { m with focus := (Native.require.run inv').toProg } inv' path :=
      ⟨rfl, text, (Store.sourceOf_leadsTo m.store hw hv).trans hnamed⟩
    exact ⟨hrequires', fun v hloaded => hrequires'.loaded hloaded⟩

/-- A path that goes up past the root and one without a slash lead to one place. -/
theorem one_normal_form_of_upwards : ∃ d e p q, Json.codePoints? d = some p ∧ p ≠ [] ∧ Json.codePoints? e = some q ∧ q ≠ [] ∧
    ScriptPath.normalize d = ScriptPath.normalize e ∧ ScriptPath.normalize d = .ok (.str "/b.lua") := by
  have hp : Json.codePoints? (.str "//../a/./..//b.lua/") = some ("//../a/./..//b.lua/".toList.map Char.toNat) := rfl
  have hq : Json.codePoints? (.str "b.lua") = some ("b.lua".toList.map Char.toNat) := rfl
  have hplace : ScriptPath.resolve (ScriptPath.components ("//../a/./..//b.lua/".toList.map Char.toNat)) =
      ScriptPath.resolve (ScriptPath.components ("b.lua".toList.map Char.toNat)) := by decide +kernel
  have hform := one_normal_form hp (by decide +kernel) hq (by decide +kernel)
  exact ⟨_, _, _, _, hp, by decide +kernel, hq, by decide +kernel, hform.2.1.mpr hplace, by cbv⟩

/-! ## Requests -/

/-- The first stage of an environment. -/
theorem Environment.create_sound {sources : Sources} {modules : List (String × String)} {env : Environment} (h : create sources modules = .ok env) :
    (Stage.idle env).Sound env.store.loader.sources := by
  obtain ⟨texts, -, h⟩ := Store.bind_ok_iff.mp h
  dsimp only at h
  generalize StateT.run _ _ = built at h
  cases h
  exact ⟨[], ⟨rfl, rfl⟩, ⟨rfl, rfl, List.nodup_nil, List.forall_mem_nil _, List.forall_mem_nil _, fun _ => ⟨fun _ => rfl, fun _ => rfl⟩⟩⟩

/-- A request for a script comes to a call of `require` for it in one step. -/
theorem Environment.load_requires {env : Environment} {d : Data} {path text : String} (hd : ScriptPath.ofData d = .ok path)
    (hsource : env.store.loader.source? path = some text) :
    ∃ m m' inv, env.load d = .ok m ∧ m.step = .running m' ∧ m'.Requires inv path ∧ m'.store.loader = env.store.loader := by
  have hload : env.load d = .ok (.start (env.store.newFunction (.native .require)).1 (.function env.store.functions.size) [.ofText path]) := by
    simp only [load, hd]
    rfl
  have hfunction : (env.store.newFunction (.native .require)).1.function? env.store.functions.size = some (.native .require) := by
    simp [Store.newFunction, Store.function?]
  have hstep : (Machine.start (env.store.newFunction (.native .require)).1 (.function env.store.functions.size) [.ofText path]).step =
      .running ⟨(env.store.newFunction (.native .require)).1, (Native.require.run ⟨[.ofText path], none, none, Native.require.own⟩).toProg,
        [Machine.callFrame [] .done {}]⟩ := by
    simp only [Machine.start, Machine.step, Machine.call, Machine.callee, Machine.callFrame, Machine.depths, Machine.enter, hfunction]
    rfl
  refine ⟨_, _, _, hload, hstep, ⟨rfl, text, ?_⟩, rfl⟩
  have hnamed : (env.store.newFunction (.native .require)).1.sourceOf (.ofText path) = .ok (path, text) := by
    have hsource : (env.store.newFunction (.native .require)).1.loader.source? path = some text := hsource
    simp only [Store.sourceOf, Value.ofText, Utf8.decode_toUTF8, bind, Except.bind, ScriptPath.ofData_normal hd, hsource]
    rfl
  exact hnamed

namespace Stage

variable {st st' : Stage} {texts : List (String × String)}

theorem Sound.nesting_length (h : st.Sound texts) : st.nesting.length ≤ (texts.map Prod.fst).dedup.length := by
  obtain ⟨running, hk, hsub⟩ := h.nesting
  have hknown : running ⊆ (texts.map Prod.fst).dedup := fun path hpath => by
    obtain ⟨text, body, hlookup, -⟩ := hk.reads path hpath
    obtain ⟨before, after, rfl, -⟩ := List.lookup_eq_some_iff.mp hlookup
    simp
  exact hsub.length_le.trans (List.subperm_of_subset hk.nodup hknown).length_le

/-- Requiring a script gives a value. -/
def Gives (st : Stage) (path : String) (v : Value) : Prop :=
  ∀ m inv, st = .running m → m.Requires inv path → m.Comes { m with focus := .done [v] }

/-- Requiring a script is an error. -/
def Refuses (st : Stage) (path : String) : Prop :=
  ∀ m inv, st = .running m → m.Requires inv path → m.Comes { m with focus := .raise (inv.site.text ("cyclic require of " ++ path).toUTF8) }

/-- Requiring a script runs it. -/
def Runs (st : Stage) (path : String) : Prop :=
  ∀ m inv, st = .running m → m.Requires inv path → ∃ text body store globals,
    st.loader.source? path = some text ∧ parseScript path text = .ok body ∧ m.Comes ⟨store, .load path body globals, m.frames⟩

/-- No function of a script can be called. -/
def Silent (st : Stage) (path : String) : Prop :=
  ∀ env d function args options, st = .idle env → ScriptPath.ofData d = .ok path →
    env.call d function args options = .error (.error .script (d.text ++ ": function '" ++ function.text ++ "' not found"))

/-- A request for a script of the sources comes to a call of `require` for it. -/
def Obeys (st : Stage) : Prop :=
  ∀ env d path, st = .idle env → ScriptPath.ofData d = .ok path → (env.store.loader.source? path).isSome →
    ∃ m m' inv, env.load d = .ok m ∧ m.step = .running m' ∧ m'.Requires inv path ∧ m'.store.loader = env.store.loader

theorem silent_of_untraced {path : String} (hu : st.loader.Untraced path) : st.Silent path := by
  rintro env d function args options rfl hd
  have hnone : env.store.loader.environment? path = none := hu.environment
  have hglobal : env.global? path function = none := by
    simp only [Environment.global?, hnone]
    rfl
  simp only [Environment.call, hd, bind, Except.bind, hglobal]
  rfl

/-- **Scripts are loaded once.** From the first stage of an environment on, whatever is requested of it and whatever its host answers:

* a script that has ended never starts again, and requiring it gives what it gave, or its globals when it gave nothing;
* requiring a script that is being loaded is an error, so no script is under way twice, and no more of them than there are sources;
* of a script that has failed nothing is known until it starts again: requiring it runs it, and its functions cannot be called;
* between requests nothing is being loaded. -/
theorem scripts_load_once {sources : Sources} {modules : List (String × String)} {env : Environment}
    (hcreate : Environment.create sources modules = .ok env) (hst : ReflTransGen Next (.idle env) st) :
    (∀ path globals vs next, st.Completes path globals vs → st.Next next →
      (∃ m, next = .running m ∧ m.focus = .done [Loader.kept globals vs]) ∧
      ∀ later, ReflTransGen Next next later → ¬later.Starts path ∧ later.Gives path (Loader.kept globals vs)) ∧
    (∀ path ∈ st.nesting, st.Refuses path) ∧ st.nesting.Nodup ∧ st.nesting.length ≤ (env.store.loader.sources.map Prod.fst).dedup.length ∧
    (∀ path next later, st.Fails path → st.Next next → ReflTransGen (fun s s' => s.Next s' ∧ ¬s'.Starts path) next later →
      later.loader.Untraced path ∧ later.Runs path ∧ later.Silent path) ∧
    (∀ env', st = .idle env' → env'.store.loader.loading = []) ∧ st.Obeys := by
  have h : st.Sound env.store.loader.sources := (Environment.create_sound hcreate).reaches hst
  obtain ⟨running, hk, hsub⟩ := h.nesting
  refine ⟨fun path globals vs next hcompletes hnext => ⟨hcompletes.gives hnext, fun later hlater => ⟨fun hstarts => ?_, ?_⟩⟩, ?_, hsub.nodup hk.nodup, h.nesting_length,
    fun path next later hfails hnext hlater => ?_, ?_, ?_⟩
  · have hfresh := ((h.next hnext).reaches hlater).loaded?_starts hstarts
    rw [(h.next hnext).loaded? hlater (hcompletes.loaded? hnext)] at hfresh
    cases hfresh
  · rintro m inv rfl hrequires
    exact hrequires.loaded ((h.next hnext).loaded? hlater (hcompletes.loaded? hnext))
  · rintro path hpath m inv rfl hrequires
    have hmem := hsub.subset hpath
    exact hrequires.cyclic (hk.fresh path hmem) (hk.loading ▸ hmem)
  · have hu : later.loader.Untraced path := (h.next hnext).untraced (h.untraced_fails hfails hnext) hlater
    refine ⟨hu, ?_, silent_of_untraced hu⟩
    rintro m inv rfl hrequires
    have hlast := (h.next hnext).reaches (ReflTransGen.mono (fun _ _ h => h.1) _ _ hlater)
    obtain ⟨text, body, hlookup, hparse⟩ := hk.reads path (hsub.subset hfails.mem_nesting)
    have hsource : (Stage.running m).loader.source? path = some text := by
      rw [Loader.source?, hlast.sources]
      exact hlookup
    obtain ⟨store, globals, hcomes⟩ := hrequires.starts hu hsource hparse
    exact ⟨text, body, store, globals, hsource, hparse, hcomes⟩
  · rintro env' rfl
    obtain ⟨_, ⟨-, rfl⟩, hk⟩ := h
    exact hk.loading
  · rintro env' d path rfl hd hsource
    obtain ⟨text, hsource⟩ := Option.isSome_iff_exists.mp hsource
    exact Environment.load_requires hd hsource

/-- A script without statements ends, and nothing runs it again. -/
theorem scripts_load_once_of_emptyScript : ∃ env st next globals, Environment.create [("/a.lua", "")] [] = .ok env ∧
    ReflTransGen Next (.idle env) st ∧ st.Completes "/a.lua" globals [] ∧ st.Next next ∧
    ∀ later, ReflTransGen Next next later → ¬later.Starts "/a.lua" ∧ later.Gives "/a.lua" (.table globals) := by
  obtain ⟨env, hcreate, hloader⟩ : ∃ env, Environment.create [("/a.lua", "")] [] = .ok env ∧
      env.store.loader = { sources := [("/a.lua", "")] } := by
    have hpath : Environment.normalized [("/a.lua", "")] = .ok [("/a.lua", "")] := by cbv
    unfold Environment.create
    rw [hpath]
    dsimp only [bind, Except.bind]
    generalize StateT.run _ _ = built
    exact ⟨_, rfl, rfl⟩
  have hpath : ScriptPath.ofData (.str "/a.lua") = .ok "/a.lua" := by cbv
  have hsource : env.store.loader.source? "/a.lua" = some "" := by
    rw [hloader]
    rfl
  have huntraced : env.store.loader.Untraced "/a.lua" := by
    rw [hloader]
    exact ⟨List.not_mem_nil, rfl, rfl⟩
  have hparse : parseScript "/a.lua" "" = .ok [] := by with_unfolding_all rfl
  obtain ⟨m, m', inv, hload, hstep, hrequires, hkept⟩ := Environment.load_requires hpath hsource
  obtain ⟨store, globals, hcomes⟩ := hrequires.starts (hkept ▸ huntraced) (hkept ▸ hsource) hparse
  have hends : Machine.Comes ⟨store, .load "/a.lua" [] globals, m'.frames⟩
      ⟨(store.newCell (.table globals)).1, .done [], .loading "/a.lua" globals :: m'.frames⟩ := .head rfl (.head rfl (.head rfl (.single rfl)))
  have hreaches : ReflTransGen Next (.idle env) (.running ⟨_, .done [], .loading "/a.lua" globals :: m'.frames⟩) :=
    .head (.load hload) ((Machine.Comes.reaches (.head hstep (hcomes.trans hends))))
  have hcompletes := Completes.mk (store.newCell (.table globals)).1 [] "/a.lua" globals m'.frames
  exact ⟨env, _, _, globals, hcreate, hreaches, hcompletes, .step _, ((scripts_load_once hcreate hreaches).1 _ _ _ _ hcompletes (.step _)).2⟩

end Stage

end ScriptFlow.Script
