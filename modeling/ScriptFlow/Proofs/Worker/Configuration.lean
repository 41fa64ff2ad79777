import Mathlib
import ScriptFlow.Proofs.Data.Keys
import ScriptFlow.Proofs.Script.Options
import ScriptFlow.Worker.Life
import ScriptFlow.Worker.Location

/-!
# Configurations that workers can use

A configuration is read from a file or from the variables of the environment and then checked. The check looks at the location, at the texts and at the sign of the
timeouts. It does not look at how long a timeout is nor at the number of threads, and what cannot be read as a number or as a location at all is
an error of its own. Reading a location ends in one of three ways: it is a place with a known transport, a host and a port; it is refused as a configuration; or its
text does not even come apart, which only brackets and look-alikes of separators can bring about.

* `Uri.split_eq_error` — what a text that does not come apart holds.
* `Location.read_cases` — **how reading a location ends.**
* `WorkerConfig.Unread` — what cannot be read, and with which error.
* `WorkerConfig.validate_cases` — what a configuration that passes the check is like.
* `WorkerConfig.configurations_are_refused_or_used` — **how loading a configuration ends, and what can be done with it.**
-/

namespace ScriptFlow

/-! ## Letter case -/

namespace Text

theorem mapCase_ne_nil {rules : CaseRules} {expansions : CaseExpansions} (h : ∀ e ∈ expansions, e.2 ≠ []) (c : Char) :
    mapCase rules expansions c ≠ [] := by
  unfold mapCase
  split
  · rename_i n cs hfind
    simpa using h _ (Array.mem_of_find?_eq_some hfind)
  · split <;> simp

/-- A text that is not empty is not empty in small letters. -/
theorem lower_ne_empty {cs : List Char} (h : cs ≠ []) : lower (String.ofList cs) ≠ "" := by
  cases cs with
  | nil => exact absurd rfl h
  | cons c rest =>
    have hlower : lowerAt [] c rest ≠ [] := by
      unfold lowerAt
      split
      · simp
      · exact mapCase_ne_nil (by decide) c
    rw [lower, String.toList_ofList, lowerFrom]
    simp [← String.toList_inj, hlower]

end Text

/-! ## Texts that do not come apart -/

namespace Uri

/-- A character that the authority of a location cannot hold just anywhere: a bracket, or what looks like a separator. -/
def IsDelicate (c : Char) : Prop := c = '[' ∨ c = ']' ∨ c.toNat ∈ separatorLookalikes

theorem checkBracketed_eq_error {host : List Char} {e : Fault} (h : checkBracketed host = .error e) : ∃ m, e = .error .badValue m := by
  unfold checkBracketed at h
  split_ifs at h <;> cases h <;> exact ⟨_, rfl⟩

theorem checkBrackets_eq_error {authority : List Char} {e : Fault} (h : checkBrackets authority = .error e) :
    (∃ m, e = .error .badValue m) ∧ ∃ c ∈ authority, IsDelicate c := by
  unfold checkBrackets at h
  split at h
  · cases h
  · rename_i hopen hclosed
    refine ⟨?_, '[', List.contains_iff_mem.mp hopen, .inl rfl⟩
    dsimp only at h
    split_ifs at h
    · cases h
      exact ⟨_, rfl⟩
    · cases h
      exact ⟨_, rfl⟩
    · exact checkBracketed_eq_error h
    · exact checkBracketed_eq_error h
  · rename_i hnone hboth
    cases h
    refine ⟨⟨_, rfl⟩, ?_⟩
    cases hopen : authority.contains '[' with
    | true => exact ⟨'[', List.contains_iff_mem.mp hopen, .inl rfl⟩
    | false =>
      cases hclosed : authority.contains ']' with
      | true => exact ⟨']', List.contains_iff_mem.mp hclosed, .inr (.inl rfl)⟩
      | false => exact absurd hclosed (hnone hopen)

theorem checkLookalikes_eq_error {authority : List Char} {e : Fault} (h : checkLookalikes authority = .error e) :
    (∃ m, e = .error .badValue m) ∧ ∃ c ∈ authority, IsDelicate c := by
  unfold checkLookalikes at h
  split at h
  · rename_i hany
    cases h
    obtain ⟨c, hc, hlook⟩ := List.any_eq_true.mp hany
    exact ⟨⟨_, rfl⟩, c, hc, .inr (.inr (List.contains_iff_mem.mp hlook))⟩
  · cases h

theorem mem_of_mem_spanScheme {cs : List Char} {c : Char} (h : c ∈ (spanScheme cs).2) : c ∈ cs := by
  unfold spanScheme at h
  dsimp only at h
  split at h
  · rename_i rest d front hrest hfront
    split_ifs at h
    · exact (List.dropWhile_sublist _).subset (hrest ▸ List.mem_cons_of_mem _ h)
    · exact h
  · exact h

/-- **A text that does not come apart** holds a bracket or a look-alike, and is a bad value. -/
theorem split_eq_error {s : String} {e : Fault} (h : split s = .error e) :
    (∃ m, e = .error .badValue m) ∧ ∃ c ∈ s.toList, IsDelicate c := by
  unfold split at h
  dsimp only at h
  split at h
  · rename_i rest hrest
    have hmem {c : Char} (hc : c ∈ rest.takeWhile fun c => !(c == '/' || c == '?' || c == '#')) : c ∈ s.toList := by
      have hrest' := mem_of_mem_spanScheme (hrest ▸ List.mem_cons_of_mem _ (List.mem_cons_of_mem _ ((List.takeWhile_sublist _).subset hc)))
      exact (List.dropWhile_sublist _).subset (List.mem_of_mem_filter hrest')
    cases hbrackets : checkBrackets (rest.takeWhile fun c => !(c == '/' || c == '?' || c == '#')) with
    | error e' =>
      rw [hbrackets] at h
      cases h
      obtain ⟨hkind, c, hc, hd⟩ := checkBrackets_eq_error hbrackets
      exact ⟨hkind, c, hmem hc, hd⟩
    | ok u =>
      rw [hbrackets] at h
      cases hlook : checkLookalikes (rest.takeWhile fun c => !(c == '/' || c == '?' || c == '#')) with
      | error e' =>
        rw [hlook] at h
        cases h
        obtain ⟨hkind, c, hc, hd⟩ := checkLookalikes_eq_error hlook
        exact ⟨hkind, c, hmem hc, hd⟩
      | ok u =>
        rw [hlook] at h
        cases h
  · cases h

theorem host_ne_empty {u : Uri} (h : u.place.1 ≠ []) : u.host ≠ "" := by
  unfold host
  dsimp only
  intro hempty
  have hparts := congrArg String.toList hempty
  simp only [String.toList_append, String.toList_ofList, String.toList_empty, List.append_eq_nil_iff] at hparts
  have hname : u.place.1.takeWhile (· != '%') = [] := by
    by_contra hne
    exact Text.lower_ne_empty hne (String.toList_inj.mp hparts.1)
  exact h (by rw [← List.takeWhile_append_dropWhile (p := (· != '%')) (l := u.place.1), hname, hparts.2]; rfl)

theorem port_le {u : Uri} {port : Option Nat} (h : u.port = .ok port) : port.getD 0 ≤ 65535 := by
  unfold Uri.port at h
  dsimp only at h
  split_ifs at h
  · cases h
    exact Nat.zero_le _
  · cases hread : Text.readInt (String.ofList u.place.2) with
    | error e =>
      rw [hread] at h
      cases h
    | ok n =>
      rw [hread] at h
      simp only [bind, Except.bind] at h
      split_ifs at h with hle
      · cases h
        simp only [Option.getD_some]
        omega

end Uri

/-! ## Locations -/

namespace Location

/-- A place with a transport that is known, a host and a port. -/
structure Usable (l : Location) : Prop where
  transport : (l.scheme, l.tls) ∈ schemes
  host : l.host ≠ ""
  port : 0 < l.port ∧ l.port ≤ 65535

theorem read_eq_error {s : String} {e : Fault} (h : Uri.split s = .error e) (shown : String) : read s shown = .error e := by
  rw [read, h]
  rfl

/-- **Reading a location** gives a usable place, or refuses it as a configuration, unless its text does not come apart. -/
theorem read_cases (s shown : String) :
    (∃ l, read s shown = .ok l ∧ l.Usable) ∨ (∃ m, read s shown = .error (.error .configuration m)) ∨
      ∃ e, Uri.split s = .error e ∧ read s shown = .error e := by
  unfold read
  cases hsplit : Uri.split s with
  | error e => exact .inr (.inr ⟨e, rfl, rfl⟩)
  | ok u =>
    simp only [bind, Except.bind]
    cases hscheme : schemes.lookup u.scheme with
    | none => exact .inr (.inl ⟨_, rfl⟩)
    | some tls =>
      cases hport : u.port with
      | error e => exact .inr (.inl ⟨_, rfl⟩)
      | ok port =>
        dsimp only
        split
        · exact .inr (.inl ⟨_, rfl⟩)
        · rename_i hplace
          obtain ⟨front, back, hfound, -⟩ := List.lookup_eq_some_iff.mp hscheme
          refine .inl ⟨_, rfl, by rw [hfound]; simp, Uri.host_ne_empty (by simpa using hplace), ?_⟩
          have hle := Uri.port_le hport
          by_cases hzero : port.getD 0 = 0
          · simp [hzero, defaultPort]
          · simpa [hzero, Nat.pos_iff_ne_zero] using hle

end Location

/-! ## Numbers of a configuration -/

/-- A value of the type of whole numbers, which truth values are of too. -/
inductive Data.Whole : Data → Int → Prop where
  | int (n : Int) : Whole (.int n) n
  | bool (b : Bool) : Whole (.bool b) (if b then 1 else 0)

namespace Data.Whole

variable {d : Data} {n : Int}

theorem numeric? (h : d.Whole n) : d.numeric? = some (.ofInt n) := by
  cases h <;> rfl

theorem less_ofInt (m n : Int) : (Numeric.ofInt m).less (Numeric.ofInt n) = decide (m < n) := by
  rw [Numeric.less_eq Numeric.noConfusion Numeric.noConfusion]
  exact decide_eq_decide.mpr Numeric.height_ofInt_lt

theorem same_ofInt (m n : Int) : (Numeric.ofInt m).same (Numeric.ofInt n) = decide (m = n) := by
  rw [Bool.eq_iff_iff, Numeric.same_ofInt, decide_eq_true_iff]

theorem compareZero (h : d.Whole n) (test : Numeric → Numeric → Bool) :
    WorkerConfig.compareZero d test = .ok (test (.ofInt n) (.ofInt 0)) := by
  rw [WorkerConfig.compareZero, h.numeric?]

theorem isPositive (h : d.Whole n) : WorkerConfig.compareZero d (fun n zero => zero.less n) = .ok (decide (0 < n)) := by
  rw [h.compareZero, less_ofInt]

theorem isNegative (h : d.Whole n) : WorkerConfig.compareZero d (fun n zero => n.less zero) = .ok (decide (n < 0)) := by
  rw [h.compareZero, less_ofInt]

theorem isNotPositive (h : d.Whole n) :
    WorkerConfig.compareZero d (fun n zero => n.less zero || n.same zero) = .ok (decide (n ≤ 0)) := by
  rw [h.compareZero, less_ofInt, same_ofInt, ← Bool.decide_or]
  exact congrArg Except.ok (decide_eq_decide.mpr Int.le_iff_lt_or_eq.symm)

theorem ofNumber (h : d.Whole n) : Span.ofNumber d = Span.check (n * 1000000) := by
  cases h with
  | int n => rfl
  | bool b => cases b <;> rfl

end Data.Whole

namespace Span

/-- The most seconds that a span has. -/
def maxSeconds : Int := 86399999999999

theorem check_seconds {n : Int} (h : 0 ≤ n) : check (n * 1000000) = if n ≤ maxSeconds then .ok (n * 1000000) else .error outOfRange := by
  have hrange : isInRange (n * 1000000) = true ↔ n ≤ maxSeconds := by
    have hdays : (n * 1000000).fdiv dayMicros = n / 86400 := by
      rw [Int.fdiv_eq_ediv_of_nonneg _ (by decide), show dayMicros = 86400 * 1000000 from by decide]
      exact Int.mul_ediv_mul_of_pos_left n 86400 (by decide)
    simp only [isInRange, hdays, maxDays, maxSeconds, Bool.and_eq_true, decide_eq_true_eq]
    omega
  simp only [check, hrange]

end Span

namespace WorkerConfig

/-! ## Fields of their types -/

/-- A configuration whose fields are of the types that are declared for them. -/
structure Typed (c : WorkerConfig) (location domain taskList : String) (timeout beats workers : Int) : Prop where
  location : c.location = .str location
  domain : c.domain = .str domain
  taskList : c.taskList = .str taskList
  timeout : c.activityTimeout.Whole timeout
  beats : c.heartbeatTimeout.Whole beats
  workers : c.maxConcurrentActivities.Whole workers

/-- A value is of the type that is declared for a field. Of other names nothing is asked. -/
structure FieldFits (name : String) (d : Data) : Prop where
  text : name ∈ ["location", "domain", "task_list"] → ∃ s, d = .str s
  whole : name ∈ ["activity_start_to_close_timeout", "activity_heartbeat_timeout", "max_concurrent_activities"] → ∃ n, d.Whole n
  plugins : name = "plugins" → ∃ ids : List String, d = .list (ids.map .str) ∨ d = .null

variable {c : WorkerConfig} {location domain taskList : String} {timeout beats workers : Int}

/-! ## The check -/

theorem ofData_text (t : String) : Location.ofData (.str t) = Location.read t (Data.str t).expression := by
  by_cases h : t = "" <;> simp [Location.ofData, Data.truthy, h]

/-- **What a configuration that passes the check is like**, and why one fails it. -/
theorem validate_cases (h : c.Typed location domain taskList timeout beats workers) :
    (c.validate = .ok () ∧ (∃ l, Location.ofData c.location = .ok l ∧ l.Usable) ∧ 0 < timeout ∧ 0 ≤ beats) ∨
      (∃ m, c.validate = .error (.error .configuration m)) ∨ ∃ e, Uri.split location = .error e ∧ c.validate = .error e := by
  rw [validate, h.timeout.isNotPositive, h.beats.isNegative, h.location, ofData_text]
  rcases Location.read_cases location (Data.str location).expression with ⟨l, hl, husable⟩ | ⟨m, hm⟩ | ⟨e, hsplit, he⟩
  · rw [hl]
    cases hdomain : c.domain.truthy with
    | false => exact .inr (.inl ⟨_, rfl⟩)
    | true =>
      cases htaskList : c.taskList.truthy with
      | false => exact .inr (.inl ⟨_, rfl⟩)
      | true =>
        by_cases htimeout : timeout ≤ 0
        · exact .inr (.inl ⟨"activity_start_to_close_timeout must be positive", by simp [htimeout]; rfl⟩)
        by_cases hbeats : beats < 0
        · exact .inr (.inl ⟨"activity_heartbeat_timeout must not be negative", by simp [htimeout, hbeats]; rfl⟩)
        exact .inl ⟨by simp [htimeout, hbeats]; rfl, ⟨l, rfl, husable⟩, by omega, by omega⟩
  · rw [hm]
    exact .inr (.inl ⟨m, rfl⟩)
  · rw [he]
    exact .inr (.inr ⟨e, hsplit, rfl⟩)

/-! ## What the fields are used for -/

/-- The options of activities exist when no timeout is too long. -/
theorem activityOptions_eq (h : c.Typed location domain taskList timeout beats workers) (htimeout : 0 < timeout) (hbeats : 0 ≤ beats) :
    c.activityOptions = if timeout ≤ Span.maxSeconds ∧ beats ≤ Span.maxSeconds then
      .ok { startToClose := some (timeout * 1000000), heartbeat := if 0 < beats then some (beats * 1000000) else none }
    else .error Span.outOfRange := by
  rw [activityOptions, h.timeout.ofNumber, h.beats.isPositive, h.beats.ofNumber, Span.check_seconds htimeout.le, Span.check_seconds hbeats]
  by_cases hlong : timeout ≤ Span.maxSeconds
  · rw [if_pos hlong]
    by_cases hpositive : 0 < beats
    · rw [decide_eq_true hpositive, if_pos hpositive]
      by_cases hrare : beats ≤ Span.maxSeconds
      · rw [if_pos hrare, if_pos ⟨hlong, hrare⟩]
        rfl
      · have hneither : ¬(timeout ≤ Span.maxSeconds ∧ beats ≤ Span.maxSeconds) := fun h => hrare h.2
        rw [if_neg hrare, if_neg hneither]
        rfl
    · have hboth : timeout ≤ Span.maxSeconds ∧ beats ≤ Span.maxSeconds := ⟨hlong, (Int.not_lt.mp hpositive).trans (by decide)⟩
      rw [decide_eq_false hpositive, if_neg hpositive, if_pos hboth]
      rfl
  · have hneither : ¬(timeout ≤ Span.maxSeconds ∧ beats ≤ Span.maxSeconds) := fun h => hlong h.1
    rw [if_neg hlong, if_neg hneither]
    rfl

/-- A pool of threads can be made when it has one. -/
theorem poolSize_eq (h : c.Typed location domain taskList timeout beats workers) :
    WorkerLife.poolSize c =
      if 0 < workers then .ok c.maxConcurrentActivities else .error (.error .badValue "max_workers must be greater than 0") := by
  have hname : (c.maxConcurrentActivities.typeName == "NoneType") = false := by
    cases hw : c.maxConcurrentActivities <;> first | rfl | cases hw ▸ h.workers
  rw [WorkerLife.poolSize, hname, h.workers.isNotPositive]
  by_cases hpositive : 0 < workers
  · rw [if_pos hpositive, decide_eq_false (Int.not_le.mpr hpositive)]
    rfl
  · rw [if_neg hpositive, decide_eq_true (Int.not_lt.mp hpositive)]
    rfl

/-! ## Where a configuration comes from -/

/-- What succeeds for every element of a list succeeds for the list. -/
theorem mapM_pure {m : Type → Type} [Monad m] [LawfulMonad m] {α β : Type} {f : α → m β} {P : β → Prop} {as : List α}
    (h : ∀ a ∈ as, ∃ b, f a = pure b ∧ P b) : ∃ bs, as.mapM f = pure bs ∧ ∀ b ∈ bs, P b := by
  induction as with
  | nil => exact ⟨[], List.mapM_nil, List.forall_mem_nil P⟩
  | cons a as ih =>
    obtain ⟨b, hb, hP⟩ := h a (.head _)
    obtain ⟨bs, hbs, hall⟩ := ih fun a ha => h a (.tail _ ha)
    exact ⟨b :: bs, by simp [hb, hbs], List.forall_mem_cons.mpr ⟨hP, hall⟩⟩

theorem mapM_ne_none {α β : Type} {f : α → Option β} {as : List α} (h : ∀ a ∈ as, ∃ b, f a = some b) : as.mapM f ≠ none := by
  have hall : ∀ a ∈ as, ∃ b, f a = pure b ∧ True := fun a ha => (h a ha).imp fun _ hb => ⟨hb, trivial⟩
  obtain ⟨bs, hbs, -⟩ := mapM_pure hall
  rw [hbs]
  exact Option.some_ne_none bs

/-- Fields of their types make a configuration of that kind. -/
theorem ofFields_typed {fields : List (String × Data)} (h : ∀ f ∈ fields, f.1 ≠ "plugins" → FieldFits f.1 f.2) :
    ∃ location domain taskList timeout beats workers, (ofFields fields).Typed location domain taskList timeout beats workers := by
  have hfits (name : String) (hname : name ≠ "plugins") {d : Data} (hd : fields.lookup name = some d) : FieldFits name d := by
    obtain ⟨front, back, hfound, -⟩ := List.lookup_eq_some_iff.mp hd
    exact h (name, d) (by simp [hfound]) hname
  have htext (name default : String) (hname : name ∈ ["location", "domain", "task_list"]) (hne : name ≠ "plugins") :
      ∃ s, (fields.lookup name).getD (.str default) = .str s := by
    cases hd : fields.lookup name with
    | none => exact ⟨default, rfl⟩
    | some d => exact (hfits name hne hd).text hname
  have hwhole (name : String) (default : Int) (hne : name ≠ "plugins")
      (hname : name ∈ ["activity_start_to_close_timeout", "activity_heartbeat_timeout", "max_concurrent_activities"]) :
      ∃ n, ((fields.lookup name).getD (.int default)).Whole n := by
    cases hd : fields.lookup name with
    | none => exact ⟨default, .int default⟩
    | some d => exact (hfits name hne hd).whole hname
  obtain ⟨location, hlocation⟩ := htext "location" "grpc://localhost:7233" (by decide) (by decide)
  obtain ⟨domain, hdomain⟩ := htext "domain" "default" (by decide) (by decide)
  obtain ⟨taskList, htaskList⟩ := htext "task_list" "starworker" (by decide) (by decide)
  obtain ⟨timeout, htimeout⟩ := hwhole "activity_start_to_close_timeout" 300 (by decide) (by decide)
  obtain ⟨beats, hbeats⟩ := hwhole "activity_heartbeat_timeout" 0 (by decide) (by decide)
  obtain ⟨workers, hworkers⟩ := hwhole "max_concurrent_activities" 100 (by decide) (by decide)
  exact ⟨location, domain, taskList, timeout, beats, workers, hlocation, hdomain, htaskList, htimeout, hbeats, hworkers⟩

theorem pluginList_ok {d : Data} (h : FieldFits "plugins" d) : ∃ p, pluginList d = .ok p := by
  unfold pluginList
  obtain ⟨ids, rfl | rfl⟩ := h.plugins rfl
  · split <;> exact ⟨_, rfl⟩
  · exact ⟨_, rfl⟩

/-- A mapping whose keys are texts, with known fields of their types, is a configuration, or is refused for its unknown keys. -/
theorem ofMapping_cases {es : List (Data × Data)} (h : ∀ e ∈ es, ∃ name, e.1 = .str name ∧ FieldFits name e.2) :
    (∃ m, ofMapping (.dict es) = .error (.error .configuration m)) ∨ ∃ c location domain taskList timeout beats workers,
      ofMapping (.dict es) = .ok c ∧ c.Typed location domain taskList timeout beats workers := by
  unfold ofMapping
  dsimp only
  split
  · right
    have hfields : ∀ f ∈ es.filterMap fun e => e.1.text?.map fun name => (name, e.2), ∃ g : String × Data,
        (do return (f.1, ← if f.1 == "plugins" then pluginList f.2 else pure f.2) : Except Fault (String × Data)) = pure g ∧
          (g.1 ≠ "plugins" → FieldFits g.1 g.2) := by
      intro f hf
      obtain ⟨e, he, hfield⟩ := List.mem_filterMap.mp hf
      obtain ⟨name, hname, hfit⟩ := h e he
      rw [hname] at hfield
      cases hfield
      by_cases hplugins : name = "plugins"
      · subst hplugins
        obtain ⟨p, hp⟩ := pluginList_ok hfit
        exact ⟨("plugins", p), by simp [hp]; rfl, fun hne => absurd rfl hne⟩
      · exact ⟨(name, e.2), by simp [hplugins], fun _ => hfit⟩
    obtain ⟨fields, hfields, hfits⟩ := mapM_pure hfields
    obtain ⟨location, domain, taskList, timeout, beats, workers, htyped⟩ := ofFields_typed hfits
    exact ⟨_, location, domain, taskList, timeout, beats, workers, by rw [hfields]; rfl, htyped⟩
  · left
    split
    · exact ⟨_, rfl⟩
    · rename_i hnone
      -- every key is a text, the unknown ones too
      refine absurd hnone (mapM_ne_none fun k hk => ?_)
      obtain ⟨e, he, rfl⟩ := List.mem_map.mp (List.mem_filter.mp hk).1
      obtain ⟨name, hname, -⟩ := h e he
      exact ⟨name, by rw [hname]; rfl⟩

/-- The file that a configuration is read from, if one is named. -/
def chosenFile (s : Surroundings) (path : Option String) : Option String :=
  (nonEmpty path).orElse fun _ => nonEmpty (s.setting? "STARWORKER_CONFIG")

/-- A configuration as it is read, before the check. -/
def unchecked (s : Surroundings) (path : Option String) : Except Fault WorkerConfig :=
  match chosenFile s path with
  | some file => ofFile s file
  | none => ofEnvironment s

theorem load_eq (s : Surroundings) (path : Option String) :
    load s path = (unchecked s path).bind fun c => c.validate.bind fun _ => .ok c := by
  unfold load unchecked chosenFile
  cases (nonEmpty path).orElse fun _ => nonEmpty (s.setting? "STARWORKER_CONFIG") <;> rfl

/-- The variables that stand for numbers, in the order in which they are read. -/
def numberSettings : List String := ["STARWORKER_ACTIVITY_TIMEOUT", "STARWORKER_HEARTBEAT_TIMEOUT", "STARWORKER_MAX_CONCURRENT_ACTIVITIES"]

/-- The error of a variable that stands for a number and holds none. -/
def settingError? (s : Surroundings) (name : String) : Option Fault :=
  (s.setting? name).bind fun t => match Text.readInt t with
    | .ok _ => none
    | .error e => some e

/-- The error of the first variable that stands for a number and holds none. -/
def numberError? (s : Surroundings) : Option Fault := numberSettings.findSome? (settingError? s)

/-- If a file is named and holds a mapping, its keys are texts and known fields have their types. -/
def Fits (s : Surroundings) (path : Option String) : Prop :=
  ∀ file ∈ chosenFile s path, ∀ bs ∈ s.file? file, ∀ text es, Sources.fileText bs = .ok text → Yaml.read text = .ok (.dict es) →
    ∀ e ∈ es, ∃ name, e.1 = .str name ∧ FieldFits name e.2

/-- What cannot be read, and with which error. -/
inductive Unread (s : Surroundings) (path : Option String) (e : Fault) : Prop where
  /-- a variable that stands for a number and holds none -/
  | number (hfile : chosenFile s path = none) (hnumber : numberError? s = some e)
  /-- a file that is no text -/
  | bytes {file : String} {bs : ByteArray} (hfile : chosenFile s path = some file) (hbytes : s.file? file = some bs)
      (hread : Sources.fileText bs = .error e)
  /-- a file that looks like a value and is none, such as a day that no calendar has -/
  | value {file : String} {bs : ByteArray} {text : String} (hfile : chosenFile s path = some file) (hbytes : s.file? file = some bs)
      (htext : Sources.fileText bs = .ok text) (hread : Yaml.read text = .error (.unfit e))
  /-- a location whose text does not come apart -/
  | location {c : WorkerConfig} {t : String} (hread : unchecked s path = .ok c) (hlocation : c.location = .str t)
      (hsplit : Uri.split t = .error e)

theorem readInt_eq_error {t : String} {e : Fault} (h : Text.readInt t = .error e) : ∃ m, e = .error .badValue m := by
  unfold Text.readInt at h
  dsimp only at h
  split at h
  · cases h
    exact ⟨_, rfl⟩
  · split_ifs at h
    cases h
    exact ⟨_, rfl⟩

theorem settingError?_badValue {s : Surroundings} {name : String} {e : Fault} (h : settingError? s name = some e) :
    ∃ m, e = .error .badValue m := by
  obtain ⟨t, -, ht⟩ := Option.bind_eq_some_iff.mp h
  split at ht
  · cases ht
  · rename_i hread
    cases ht
    exact readInt_eq_error hread

/-- Variables that hold no numbers where these are asked for are bad values. -/
theorem numberError?_badValue {s : Surroundings} {e : Fault} (h : numberError? s = some e) : ∃ m, e = .error .badValue m := by
  obtain ⟨name, -, hname⟩ := List.exists_of_findSome?_eq_some h
  exact settingError?_badValue hname

/-- The value of a variable that stands for a number. -/
def wholeSetting (s : Surroundings) (name : String) (default : Data) : Except Fault Data :=
  match s.setting? name with
  | some t => (Text.readInt t).map .int
  | none => .ok default

theorem wholeSetting_cases (s : Surroundings) (name : String) (default : Int) :
    (∃ e, settingError? s name = some e ∧ wholeSetting s name (.int default) = .error e) ∨
      settingError? s name = none ∧ ∃ n : Int, wholeSetting s name (.int default) = .ok (.int n) := by
  unfold settingError? wholeSetting
  cases s.setting? name with
  | none => exact .inr ⟨rfl, default, rfl⟩
  | some t =>
    dsimp only [Option.bind_some]
    cases Text.readInt t with
    | error e => exact .inl ⟨e, rfl, rfl⟩
    | ok n => exact .inr ⟨rfl, n, rfl⟩

theorem ofEnvironment_eq (s : Surroundings) : ofEnvironment s =
    ((wholeSetting s "STARWORKER_ACTIVITY_TIMEOUT" (.int 300)).bind fun timeout =>
      (wholeSetting s "STARWORKER_HEARTBEAT_TIMEOUT" (.int 0)).bind fun beats =>
        (wholeSetting s "STARWORKER_MAX_CONCURRENT_ACTIVITIES" (.int 100)).bind fun workers =>
          .ok { location := .str ((s.setting? "STARWORKER_LOCATION").getD "grpc://localhost:7233")
                domain := .str ((s.setting? "STARWORKER_DOMAIN").getD "default")
                taskList := .str ((s.setting? "STARWORKER_TASK_LIST").getD "starworker")
                activityTimeout := timeout, heartbeatTimeout := beats, maxConcurrentActivities := workers
                plugins := .tuple ((commaParts ((s.setting? "STARWORKER_PLUGINS").getD "")).map .str) }) := by
  have htext (name default : String) : ((s.setting? name).map Data.str).getD (.str default) = .str ((s.setting? name).getD default) := by
    cases s.setting? name <;> rfl
  rw [← htext, ← htext, ← htext]
  rfl

/-- The environment gives a configuration, unless a variable that stands for a number holds none. -/
theorem ofEnvironment_cases (s : Surroundings) :
    (∃ e, numberError? s = some e ∧ ofEnvironment s = .error e) ∨
      numberError? s = none ∧ ∃ c location domain taskList timeout beats workers,
        ofEnvironment s = .ok c ∧ c.Typed location domain taskList timeout beats workers := by
  rw [ofEnvironment_eq, numberError?, numberSettings]
  rcases wholeSetting_cases s "STARWORKER_ACTIVITY_TIMEOUT" 300 with ⟨e, he, hwhole⟩ | ⟨hnone, timeout, htimeout⟩
  · exact .inl ⟨e, by simp [he], by rw [hwhole]; rfl⟩
  rcases wholeSetting_cases s "STARWORKER_HEARTBEAT_TIMEOUT" 0 with ⟨e, he, hwhole⟩ | ⟨hnone', beats, hbeats⟩
  · exact .inl ⟨e, by simp [hnone, he], by rw [htimeout, hwhole]; rfl⟩
  rcases wholeSetting_cases s "STARWORKER_MAX_CONCURRENT_ACTIVITIES" 100 with ⟨e, he, hwhole⟩ | ⟨hnone'', workers, hworkers⟩
  · exact .inl ⟨e, by simp [hnone, hnone', he], by rw [htimeout, hbeats, hwhole]; rfl⟩
  refine .inr ⟨by simp [hnone, hnone', hnone''], ?_⟩
  rw [htimeout, hbeats, hworkers]
  exact ⟨_, _, _, _, timeout, beats, workers, rfl, rfl, rfl, rfl, .int timeout, .int beats, .int workers⟩

/-- A file gives a configuration, or is refused as one, unless it cannot be read. -/
theorem ofFile_cases {s : Surroundings} {path : Option String} {file : String} (hfile : chosenFile s path = some file) (h : Fits s path) :
    (∃ e, ofFile s file = .error e ∧ ((∃ m, e = .error .configuration m) ∨ Unread s path e)) ∨
      ∃ c location domain taskList timeout beats workers,
        ofFile s file = .ok c ∧ c.Typed location domain taskList timeout beats workers := by
  unfold ofFile
  cases hbytes : s.file? file with
  | none => exact .inl ⟨_, rfl, .inl ⟨_, rfl⟩⟩
  | some bs =>
    dsimp only
    cases htext : Sources.fileText bs with
    | error e => exact .inl ⟨e, rfl, .inr (.bytes hfile hbytes htext)⟩
    | ok text =>
      simp only [bind, Except.bind]
      cases hread : Yaml.read text with
      | error e =>
        cases e with
        | malformed m => exact .inl ⟨_, rfl, .inl ⟨_, rfl⟩⟩
        | unfit e => exact .inl ⟨e, rfl, .inr (.value hfile hbytes htext hread)⟩
      | ok d =>
        dsimp only
        cases htruthy : d.truthy with
        | false =>
          refine (ofMapping_cases (List.forall_mem_nil _)).imp_left ?_
          rintro ⟨m, hm⟩
          exact ⟨_, hm, .inl ⟨m, rfl⟩⟩
        | true =>
          cases d with
          | dict es =>
            refine (ofMapping_cases (h file hfile bs hbytes text es htext hread)).imp_left ?_
            rintro ⟨m, hm⟩
            exact ⟨_, hm, .inl ⟨m, rfl⟩⟩
          | _ => exact .inl ⟨_, rfl, .inl ⟨_, rfl⟩⟩

theorem unchecked_cases {s : Surroundings} {path : Option String} (h : Fits s path) :
    (∃ e, unchecked s path = .error e ∧ ((∃ m, e = .error .configuration m) ∨ Unread s path e)) ∨
      ∃ c location domain taskList timeout beats workers,
        unchecked s path = .ok c ∧ c.Typed location domain taskList timeout beats workers := by
  unfold unchecked
  cases hfile : chosenFile s path with
  | some file => exact ofFile_cases hfile h
  | none =>
    rcases ofEnvironment_cases s with ⟨e, he, herror⟩ | ⟨-, hok⟩
    · exact .inl ⟨e, herror, .inr (.number hfile he)⟩
    · exact .inr hok

/-! ## Loading a configuration -/

/-- What cannot be read ends the loading with its own error. -/
theorem load_unread {s : Surroundings} {path : Option String} {e : Fault} (h : Unread s path e) : load s path = .error e := by
  rw [load_eq]
  cases h with
  | number hfile hnumber =>
    rw [unchecked, hfile]
    rcases ofEnvironment_cases s with ⟨e', he', herror⟩ | ⟨hnone, -⟩
    · cases hnumber.symm.trans he'
      exact congrArg (Except.bind · _) herror
    · cases hnumber.symm.trans hnone
  | bytes hfile hbytes hread =>
    simp only [unchecked, hfile, ofFile, hbytes, hread]
    rfl
  | value hfile hbytes htext hread =>
    simp only [unchecked, hfile, ofFile, hbytes, htext, hread, bind, Except.bind]
    rfl
  | location hread hlocation hsplit =>
    rw [hread, Except.bind, validate, hlocation, ofData_text, Location.read_eq_error hsplit]
    rfl

/-- What a configuration that was loaded can be used for. -/
structure Loaded (c : WorkerConfig) (timeout beats workers : Int) : Prop where
  activityTimeout : c.activityTimeout.Whole timeout ∧ 0 < timeout
  heartbeatTimeout : c.heartbeatTimeout.Whole beats ∧ 0 ≤ beats
  maxConcurrentActivities : c.maxConcurrentActivities.Whole workers
  location : ∃ l, Location.ofData c.location = .ok l ∧ l.Usable
  /-- no timeout may be longer than a span -/
  options : c.activityOptions = if timeout ≤ Span.maxSeconds ∧ beats ≤ Span.maxSeconds then
      .ok { startToClose := some (timeout * 1000000), heartbeat := if 0 < beats then some (beats * 1000000) else none }
    else .error Span.outOfRange
  /-- the check did not ask whether there are threads -/
  pool : WorkerLife.poolSize c =
    if 0 < workers then .ok c.maxConcurrentActivities else .error (.error .badValue "max_workers must be greater than 0")

/-- **How loading a configuration ends, and what can be done with it.** What cannot be read at all has an error of its own, and nothing else than the refusal of
a configuration ends the loading too. A configuration that is loaded has a location to connect to. It has options for activities unless a timeout is longer
than any span, and a pool of threads unless their number is not positive. -/
theorem configurations_are_refused_or_used (s : Surroundings) (path : Option String) (h : Fits s path) :
    (∀ e, Unread s path e → load s path = .error e) ∧
      (∀ e, load s path = .error e → (∃ m, e = .error .configuration m) ∨ Unread s path e) ∧
      ∀ c, load s path = .ok c → ∃ timeout beats workers, c.Loaded timeout beats workers := by
  refine ⟨fun e => load_unread, ?_, ?_⟩
  · intro e he
    rw [load_eq] at he
    rcases unchecked_cases h with ⟨e', herror, hkind⟩ | ⟨c, location, domain, taskList, timeout, beats, workers, hread, htyped⟩
    · rw [herror] at he
      cases he
      exact hkind
    · rw [hread, Except.bind] at he
      rcases validate_cases htyped with ⟨hvalid, -⟩ | ⟨m, hinvalid⟩ | ⟨e', hsplit, hinvalid⟩
      · rw [hvalid] at he
        cases he
      · rw [hinvalid] at he
        cases he
        exact .inl ⟨m, rfl⟩
      · rw [hinvalid] at he
        cases he
        exact .inr (.location hread htyped.location hsplit)
  · intro c hc
    rw [load_eq] at hc
    rcases unchecked_cases h with ⟨e', herror, -⟩ | ⟨c', location, domain, taskList, timeout, beats, workers, hread, htyped⟩
    · rw [herror] at hc
      cases hc
    · rw [hread, Except.bind] at hc
      rcases validate_cases htyped with ⟨hvalid, hlocation, htimeout, hbeats⟩ | ⟨m, hinvalid⟩ | ⟨e', hsplit, hinvalid⟩
      · rw [hvalid] at hc
        cases hc
        exact ⟨timeout, beats, workers, ⟨htyped.timeout, htimeout⟩, ⟨htyped.beats, hbeats⟩, htyped.workers, hlocation,
          activityOptions_eq htyped htimeout hbeats, poolSize_eq htyped⟩
      · rw [hinvalid] at hc
        cases hc
      · rw [hinvalid] at hc
        cases hc

theorem eq_ok_of_toOption {ε α : Type} {r : Except ε α} {a : α} (h : r.toOption = some a) : r = .ok a := by
  cases r with
  | error e => cases h
  | ok b => exact congrArg Except.ok (Option.some.inj h)

theorem load_eq_ok {s : Surroundings} {path : Option String} {c : WorkerConfig} (hread : unchecked s path = .ok c)
    (hvalid : c.validate.toOption = some ()) : load s path = .ok c := by
  rw [load_eq, hread, Except.bind, eq_ok_of_toOption hvalid]
  rfl

/-- A file that asks for no threads. -/
def withoutThreads : Surroundings :=
  { root := "/w", files := { files := [("/a.yaml", "max_concurrent_activities: 0".toUTF8)], directories := [] } }

/-- A mapping that says how many threads there are, and nothing else. -/
def saysThreads : Data → Bool
  | .dict [(.str name, .int _)] => name == "max_concurrent_activities"
  | _ => false

theorem configurations_are_refused_or_used_withoutThreads :
    Fits withoutThreads (some "/w/a.yaml") ∧ ∃ c, load withoutThreads (some "/w/a.yaml") = .ok c ∧
      ∃ timeout beats workers, c.Loaded timeout beats workers := by
  have hbytes : withoutThreads.file? "/w/a.yaml" = some "max_concurrent_activities: 0".toUTF8 := by decide +kernel
  have htext : Sources.fileText "max_concurrent_activities: 0".toUTF8 = .ok "max_concurrent_activities: 0" :=
    eq_ok_of_toOption (by decide +kernel)
  have hfields : (Yaml.read "max_concurrent_activities: 0").toOption.map saysThreads = some true := by decide +kernel
  have hfits : Fits withoutThreads (some "/w/a.yaml") := by
    rintro file ⟨⟩ bs hbs text es htext' hread e he
    cases hbytes.symm.trans hbs
    cases htext.symm.trans htext'
    rw [hread] at hfields
    have hsays := Option.some.inj hfields
    unfold saysThreads at hsays
    split at hsays
    · rename_i name n hes
      cases hes
      cases List.mem_singleton.mp he
      cases beq_iff_eq.mp hsays
      exact ⟨_, rfl, fun h => absurd h (by decide), fun _ => ⟨n, .int n⟩, fun h => absurd h (by decide)⟩
    · cases hsays
  have hloads : ((load withoutThreads (some "/w/a.yaml")).toOption.isSome) = true := by decide +kernel
  refine ⟨hfits, ?_⟩
  cases hload : load withoutThreads (some "/w/a.yaml") with
  | error e => rw [hload] at hloads; cases hloads
  | ok c => exact ⟨c, rfl, (configurations_are_refused_or_used withoutThreads (some "/w/a.yaml") hfits).2.2 c hload⟩

/-- Configurations that are neither refused nor of use: two that cannot be read, one with a timeout that is too long and one without threads. -/
theorem configurations_pass_the_check_unusable :
    load { settings := [("STARWORKER_ACTIVITY_TIMEOUT", "abc")] } none =
        .error (.error .badValue "invalid literal for int() with base 10: 'abc'") ∧
      load { settings := [("STARWORKER_LOCATION", "grpc://[::1")] } none = .error (.error .badValue "Invalid IPv6 URL") ∧
      (∃ c, load { settings := [("STARWORKER_ACTIVITY_TIMEOUT", "100000000000000")] } none = .ok c ∧
        c.activityOptions = .error Span.outOfRange) ∧
      ∃ c, load { settings := [("STARWORKER_MAX_CONCURRENT_ACTIVITIES", "0")] } none = .ok c ∧
        WorkerLife.poolSize c = .error (.error .badValue "max_workers must be greater than 0") := by
  have hempty : commaParts "" = [] := by cbv
  have hread : Text.readInt "100000000000000" = .ok 100000000000000 := eq_ok_of_toOption (by decide +kernel)
  have hlong : Typed { activityTimeout := .int 100000000000000 } _ _ _ _ _ _ :=
    ⟨rfl, rfl, rfl, .int 100000000000000, .int 0, .int 100⟩
  have hnone : Typed { maxConcurrentActivities := .int 0 } _ _ _ _ _ _ := ⟨rfl, rfl, rfl, .int 300, .int 0, .int 0⟩
  refine ⟨by cbv, by cbv, ⟨{ activityTimeout := .int 100000000000000 }, load_eq_ok ?_ (by decide +kernel), ?_⟩,
    { maxConcurrentActivities := .int 0 }, load_eq_ok (by cbv) (by decide +kernel), ?_⟩
  · rw [unchecked, show chosenFile _ none = none from by decide, ofEnvironment_eq]
    simp [wholeSetting, Surroundings.setting?, hread, Except.map, Except.bind, hempty, List.lookup]
  · rw [activityOptions_eq hlong (by decide) (by decide), if_neg (by decide)]
  · rw [poolSize_eq hnone, if_neg (lt_irrefl 0)]

end WorkerConfig

end ScriptFlow
