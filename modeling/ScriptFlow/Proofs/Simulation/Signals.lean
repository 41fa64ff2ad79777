import Mathlib
import ScriptFlow.Proofs.Loop.Calls
import ScriptFlow.Proofs.Simulation.Acts

/-!
# The way of signals

A signal to a run goes to the handler of its name, or waits until there is one; a new handler gets what waited, and then nothing waits any more. So
what was handed over, what the task under way has in hand and what waits are together what was sent, in order.

* `Simulator.sent`, `Simulator.handed`, `Simulator.lastSet` — what a history says of a run and a name.
* `Simulator.Delivery` — what holds of every history; `Simulator.History.delivery` — **it does.**
* `Simulator.History.frame` — signals of other runs or names are not affected; `Simulator.History.receivedIn` — what is handed over arrives.
* `Simulator.signals_are_delivered_once` — **every signal is delivered once and in order**, and the calls of programs make just these histories.
-/

namespace ScriptFlow

open Loop

/-! ## Tables by run and name -/

namespace ByRun

variable {α : Type} {m : ByRun α} {run run' name name' : String}

theorem ofRun_setRun (m : ByRun α) (run : String) (entries : List (String × α)) (run' : String) :
    (m.setRun run entries).ofRun run' = if run' = run then entries else m.ofRun run' := by
  rw [setRun, ofRun, List.lookup_cons, Entries.lookup_filter, ofRun]
  by_cases hrun : run' = run
  · simp [hrun]
  · simp [hrun, beq_false_of_ne hrun]

theorem get?_set (m : ByRun α) (run name : String) (a : α) (run' name' : String) :
    (m.set run name a).get? run' name' = if run' = run ∧ name' = name then some a else m.get? run' name' := by
  rw [set, get?, ofRun_setRun]
  by_cases hrun : run' = run
  · subst hrun
    rw [if_pos rfl, List.lookup_cons, Entries.lookup_filter]
    by_cases hname : name' = name
    · simp [hname]
    · simp [hname, beq_false_of_ne hname, get?]
  · simp [hrun, get?]

theorem get?_erase (m : ByRun α) (run name run' name' : String) :
    (m.erase run name).get? run' name' = if run' = run ∧ name' = name then none else m.get? run' name' := by
  rw [erase, get?, ofRun_setRun]
  by_cases hrun : run' = run
  · subst hrun
    rw [if_pos rfl, Entries.lookup_filter]
    by_cases hname : name' = name
    · simp [hname]
    · simp [hname, get?]
  · simp [hrun, get?]

end ByRun

namespace Simulator

variable {w w' w₀ : World Simulator} {hand hand' : List Duty} {acts acts' : List Act} {run name : String} {a : Act}

/-! ## What a history says -/

/-- The datum that an act sends. -/
def Act.sent? (run name : String) : Act → Option Data
  | .sends r n d => if run = r ∧ name = n then some d else none
  | _ => none

/-- The datum that an act hands over. -/
def Act.handed? (run name : String) : Act → Option Data
  | .hands r n _ d => if run = r ∧ name = n then some d else none
  | _ => none

/-- The handler that an act sets. -/
def Act.set? (run name : String) : Act → Option SignalHandler
  | .sets r n h => if run = r ∧ name = n then some h else none
  | _ => none

/-- What has been sent, in order. -/
def sent (run name : String) (acts : List Act) : List Data := acts.filterMap (Act.sent? run name)

/-- What has been handed over, in order. -/
def handed (run name : String) (acts : List Act) : List Data := acts.filterMap (Act.handed? run name)

/-- The handler that was set last. -/
def lastSet (run name : String) (acts : List Act) : Option SignalHandler := (acts.filterMap (Act.set? run name)).getLast?

theorem sent_append (a : Act) : sent run name (acts ++ [a]) = sent run name acts ++ (a.sent? run name).toList := by
  cases h : a.sent? run name <;> simp [sent, h]

theorem handed_append (a : Act) : handed run name (acts ++ [a]) = handed run name acts ++ (a.handed? run name).toList := by
  cases h : a.handed? run name <;> simp [handed, h]

theorem lastSet_append (a : Act) : lastSet run name (acts ++ [a]) = (a.set? run name).or (lastSet run name acts) := by
  cases h : a.set? run name <;> simp [lastSet, h]

theorem lastSet_append_of_none (h : a.set? run name = none) : lastSet run name (acts ++ [a]) = lastSet run name acts := by
  rw [lastSet_append, h, Option.none_or]

/-- What the task under way will hand over. -/
def Duty.toHand? (run name : String) : Duty → Option Data
  | .hand r n _ d => if run = r ∧ name = n then some d else none
  | _ => none

/-- What it will keep. -/
def Duty.toKeep? (run name : String) : Duty → Option Data
  | .keep r n d => if run = r ∧ name = n then some d else none
  | _ => none

/-- A signal in hand goes where the engine has it go. -/
def Duty.Fits (s : Simulator) : Duty → Prop
  | .hand run name h _ => s.signalHandlers.get? run name = some h
  | .keep run name _ => s.signalHandlers.get? run name = none

/-- What holds of every history of an engine that begins without handlers and signals. -/
structure Delivery (acts : List Act) (hand : List Duty) (w : World Simulator) : Prop where
  handler (run name : String) : w.engine.signalHandlers.get? run name = lastSet run name acts
  /-- nothing is lost, nothing is doubled, and nothing overtakes -/
  conserved (run name : String) :
    handed run name acts ++ hand.filterMap (·.toHand? run name) ++ w.engine.waiting run name ++ hand.filterMap (·.toKeep? run name) =
      sent run name acts
  /-- nothing waits beside a handler -/
  apart (run name : String) : w.engine.waiting run name ≠ [] → w.engine.signalHandlers.get? run name = none
  fits (x : Duty) (hx : x ∈ hand) : x.Fits w.engine
  /-- every datum was handed to the handler of that moment -/
  delivered (i : Nat) (run name : String) (h : SignalHandler) (d : Data) : acts[i]? = some (.hands run name h d) →
    lastSet run name (acts.take i) = some h

theorem waiting_setHandler (s : Simulator) (r n : String) (h : SignalHandler) :
    (s.setHandler r n h).waiting run name = if run = r ∧ name = n then [] else s.waiting run name := by
  rw [waiting, setHandler, ByRun.get?_erase]
  split <;> rfl

theorem waiting_keep (s : Simulator) (r n : String) (d : Data) :
    (s.keep r n d).waiting run name = if run = r ∧ name = n then s.waiting run name ++ [d] else s.waiting run name := by
  rw [waiting, keep, ByRun.get?_set]
  split
  · rename_i h
    rw [h.1, h.2]
    rfl
  · rfl

namespace Delivery

theorem delivered_append (h : Delivery acts hand w) (ha : ∀ run name h' d, a = .hands run name h' d → lastSet run name acts = some h')
    (i : Nat) (run name : String) (h' : SignalHandler) (d : Data) (hi : (acts ++ [a])[i]? = some (.hands run name h' d)) :
    lastSet run name ((acts ++ [a]).take i) = some h' := by
  by_cases hlt : i < acts.length
  · rw [List.getElem?_append_left hlt] at hi
    rw [List.take_append_of_le_length hlt.le]
    exact h.delivered i run name h' d hi
  · rw [List.getElem?_append_right (not_lt.mp hlt), List.getElem?_singleton] at hi
    split at hi
    · rename_i heq
      have hi' : i = acts.length := by omega
      rw [hi', List.take_left]
      exact ha run name h' d (Option.some.inj hi)
    · cases hi

/-- An act that signals do not see. -/
theorem still (h : Delivery acts [] w) (hsent : ∀ run name, a.sent? run name = none) (hhanded : ∀ run name, a.handed? run name = none)
    (hset : ∀ run name, a.set? run name = none) (hhandlers : w'.engine.signalHandlers = w.engine.signalHandlers)
    (hpending : w'.engine.pendingSignals = w.engine.pendingSignals) : Delivery (acts ++ [a]) [] w' where
  handler run name := by rw [hhandlers, lastSet_append_of_none (hset run name), h.handler]
  conserved run name := by
    have hwaiting : w'.engine.waiting run name = w.engine.waiting run name := by rw [waiting, hpending, waiting]
    rw [hwaiting, handed_append, sent_append, hsent, hhanded, ← h.conserved]
    simp
  apart run name := by
    rw [waiting, hpending, hhandlers]
    exact h.apart run name
  fits x hx := (List.not_mem_nil hx).elim
  delivered := h.delivered_append fun run name h' d ha => by
    have hnone := hhanded run name
    rw [ha] at hnone
    simp [Act.handed?] at hnone

theorem sends (h : Delivery acts [] w) (r n : String) (d : Data) : Delivery (acts ++ [.sends r n d]) [w.engine.dutyOf r n d] w where
  handler run name := (h.handler run name).trans (lastSet_append_of_none rfl).symm
  conserved run name := by
    rw [handed_append, sent_append, ← h.conserved, dutyOf]
    by_cases heq : run = r ∧ name = n
    · obtain ⟨rfl, rfl⟩ := heq
      cases hh : w.engine.signalHandlers.get? run name with
      | none => simp [Act.sent?, Act.handed?, Duty.toHand?, Duty.toKeep?]
      | some h' =>
        have hempty : w.engine.waiting run name = [] := by
          by_contra hne
          exact absurd (h.apart run name hne) (by simp [hh])
        simp [Act.sent?, Act.handed?, Duty.toHand?, Duty.toKeep?, hempty]
    · cases hh : w.engine.signalHandlers.get? r n <;> simp [Act.sent?, Act.handed?, Duty.toHand?, Duty.toKeep?, heq]
  apart := h.apart
  fits x hx := by
    obtain rfl := List.mem_singleton.mp hx
    rw [dutyOf]
    cases hh : w.engine.signalHandlers.get? r n with
    | none => exact hh
    | some h' => exact hh
  delivered := h.delivered_append fun _ _ _ _ ha => by cases ha

theorem sets (h : Delivery acts [] w) (r n : String) (h' : SignalHandler) :
    Delivery (acts ++ [.sets r n h']) ((w.engine.waiting r n).map (.hand r n h')) (w.onEngine (·.setHandler r n h')) where
  handler run name := by
    rw [lastSet_append, World.engine_onEngine, setHandler, ByRun.get?_set, h.handler, Act.set?]
    split <;> simp
  conserved run name := by
    have hkeep : ((w.engine.waiting r n).map (Duty.hand r n h')).filterMap (·.toKeep? run name) = [] := by
      rw [List.filterMap_map]
      simp [Duty.toKeep?, Function.comp_def]
    rw [handed_append, sent_append, ← h.conserved, World.engine_onEngine, waiting_setHandler, hkeep, List.filterMap_map]
    by_cases heq : run = r ∧ name = n
    · obtain ⟨rfl, rfl⟩ := heq
      simp [Act.sent?, Act.handed?, Duty.toHand?, Function.comp_def]
    · simp [Act.sent?, Act.handed?, Duty.toHand?, Function.comp_def, heq]
  apart run name := by
    rw [World.engine_onEngine, waiting_setHandler, setHandler, ByRun.get?_set]
    split
    · simp
    · exact h.apart run name
  fits x hx := by
    obtain ⟨d, -, rfl⟩ := List.mem_map.mp hx
    rw [Duty.Fits, World.engine_onEngine, setHandler, ByRun.get?_set, if_pos ⟨rfl, rfl⟩]
  delivered := h.delivered_append fun _ _ _ _ ha => by cases ha

theorem hands {rest : List Duty} {r n : String} {h' : SignalHandler} {d : Data} (h : Delivery acts (.hand r n h' d :: rest) w) :
    Delivery (acts ++ [.hands r n h' d]) rest (w.deliver h' d) where
  handler run name := (h.handler run name).trans (lastSet_append_of_none rfl).symm
  conserved run name := by
    rw [handed_append, sent_append, ← h.conserved, World.engine_deliver]
    by_cases heq : run = r ∧ name = n <;> simp [Act.sent?, Act.handed?, Duty.toHand?, Duty.toKeep?, heq]
  apart := h.apart
  fits x hx := h.fits x (.tail _ hx)
  delivered := h.delivered_append fun run name h'' d' ha => by
    cases ha
    rw [← h.handler]
    exact h.fits _ (.head _)

theorem keeps {rest : List Duty} {r n : String} {d : Data} (h : Delivery acts (.keep r n d :: rest) w) :
    Delivery (acts ++ [.keeps r n d]) rest (w.onEngine (·.keep r n d)) where
  handler run name := (h.handler run name).trans (lastSet_append_of_none rfl).symm
  conserved run name := by
    rw [handed_append, sent_append, ← h.conserved, World.engine_onEngine, waiting_keep]
    by_cases heq : run = r ∧ name = n <;> simp [Act.sent?, Act.handed?, Duty.toHand?, Duty.toKeep?, heq]
  apart run name := by
    rw [World.engine_onEngine, waiting_keep]
    split
    · rename_i heq
      rw [heq.1, heq.2]
      exact fun _ => h.fits _ (.head _)
    · exact h.apart run name
  fits x hx := by
    have hfits := h.fits x (.tail _ hx)
    cases x <;> exact hfits
  delivered := h.delivered_append fun _ _ _ _ ha => by cases ha

end Delivery

theorem signalHandlers_expect (s : Simulator) (kind : CallKind) (name : String) (args : List Data) :
    (s.expect kind name args).1.signalHandlers = s.signalHandlers ∧ (s.expect kind name args).1.pendingSignals = s.pendingSignals := by
  unfold expect
  split
  · exact ⟨rfl, rfl⟩
  · split <;> exact ⟨rfl, rfl⟩

theorem Delivery.step (h : Delivery acts hand w) (ha : Does hand w a hand' w') : Delivery (acts ++ [a]) hand' w' := by
  cases ha with
  | executes _ kind name args =>
    obtain ⟨hhandlers, hpending⟩ := signalHandlers_expect w.engine kind name args
    exact h.still (fun _ _ => rfl) (fun _ _ => rfl) (fun _ _ => rfl) hhandlers hpending
  | sends => exact h.sends _ _ _
  | sets => exact h.sets _ _ _
  | hands => exact h.hands
  | keeps => exact h.keeps
  | other hstill => exact h.still (fun _ _ => rfl) (fun _ _ => rfl) (fun _ _ => rfl) hstill.signalHandlers hstill.pendingSignals

/-- An engine without handlers and signals. -/
structure Silent (s : Simulator) : Prop where
  signalHandlers : s.signalHandlers = []
  pendingSignals : s.pendingSignals = []

/-- **Nothing is lost in a history.** -/
theorem History.delivery (h : History [] w₀ acts hand w) (hsilent : w₀.engine.Silent) : Delivery acts hand w := by
  induction h with
  | refl =>
    have hnone {α : Type} (run name : String) : ByRun.get? ([] : ByRun α) run name = none := rfl
    exact
      { handler := fun run name => by rw [hsilent.signalHandlers, hnone]; rfl
        conserved := fun run name => by rw [waiting, hsilent.pendingSignals, hnone]; rfl
        apart := fun run name hne => absurd (by rw [waiting, hsilent.pendingSignals, hnone]; rfl) hne
        fits := fun x hx => (List.not_mem_nil hx).elim
        delivered := fun i run name h d hi => by simp at hi }
  | tail _ ha ih => exact ih.step ha

/-! ## Other runs and names -/

/-- An act about a run and a name. -/
def Act.IsAbout (run name : String) : Act → Prop
  | .sends r n _ | .sets r n _ | .hands r n _ _ | .keeps r n _ => run = r ∧ name = n
  | .executes .. | .other => False

/-- An act about another run or name leaves what waits and the handler as they are. -/
theorem Does.frame (ha : Does hand w a hand' w') (hno : ¬ a.IsAbout run name) :
    w'.engine.signalHandlers.get? run name = w.engine.signalHandlers.get? run name ∧ w'.engine.waiting run name = w.engine.waiting run name := by
  cases ha with
  | executes _ kind n args =>
    obtain ⟨hhandlers, hpending⟩ := signalHandlers_expect w.engine kind n args
    rw [World.engine_onEngine, waiting, hhandlers, hpending]
    exact ⟨rfl, rfl⟩
  | sets _ r n h =>
    have hno : ¬ (run = r ∧ name = n) := hno
    rw [World.engine_onEngine, waiting_setHandler, setHandler, ByRun.get?_set, if_neg hno, if_neg hno]
    exact ⟨rfl, rfl⟩
  | keeps _ r n d =>
    have hno : ¬ (run = r ∧ name = n) := hno
    rw [World.engine_onEngine, waiting_keep, if_neg hno]
    exact ⟨rfl, rfl⟩
  | other hstill =>
    rw [waiting, hstill.signalHandlers, hstill.pendingSignals]
    exact ⟨rfl, rfl⟩
  | sends | hands => exact ⟨rfl, rfl⟩

/-- **Signals of other runs or names are not affected.** -/
theorem History.frame (h : History hand w acts hand' w') (hno : ∀ a ∈ acts, ¬ a.IsAbout run name) :
    w'.engine.signalHandlers.get? run name = w.engine.signalHandlers.get? run name ∧ w'.engine.waiting run name = w.engine.waiting run name := by
  induction h with
  | refl => exact ⟨rfl, rfl⟩
  | tail _ ha ih =>
    obtain ⟨hhandler, hwaiting⟩ := ih fun a ha => hno a (List.mem_append_left _ ha)
    obtain ⟨hhandler', hwaiting'⟩ := ha.frame (hno _ (List.mem_append_right _ (List.mem_singleton_self _)))
    exact ⟨hhandler'.trans hhandler, hwaiting'.trans hwaiting⟩

/-! ## Arrival -/

/-- What a program has received in a list. -/
def receivedIn (w : World Simulator) (n : Nat) (list : String) : List Data := ((w.received n).lookup list).getD []

/-- The datum that an act hands to a list of a program. -/
def Act.collected? (n : Nat) (list : String) : Act → Option Data
  | .hands _ _ (.collect m l) d => if m = n ∧ list = l then some d else none
  | _ => none

/-- What has been handed to a list of a program, in order. -/
def collected (n : Nat) (list : String) (acts : List Act) : List Data := acts.filterMap (Act.collected? n list)

theorem receivedIn_deliver {n : Nat} (hn : n < w.programs.size) (list : String) (m : Nat) (l : String) (d : Data) :
    receivedIn (w.deliver (.collect m l) d) n list = receivedIn w n list ++ (if m = n ∧ list = l then [d] else []) := by
  simp only [receivedIn, World.received, World.deliver, Array.getElem?_modify]
  by_cases hm : m = n
  · subst hm
    rw [if_pos rfl, Array.getElem?_eq_getElem hn]
    simp only [Option.map_some, Option.getD_some, List.lookup_cons, Entries.lookup_filter]
    by_cases hl : list = l
    · simp [hl]
    · simp [hl, beq_false_of_ne hl]
  · simp [hm]

theorem Does.receivedIn (ha : Does hand w a hand' w') {n : Nat} (hn : n < w.programs.size) (list : String) :
    n < w'.programs.size ∧ Simulator.receivedIn w' n list = Simulator.receivedIn w n list ++ (a.collected? n list).toList := by
  cases ha with
  | hands _ r name h d =>
    obtain ⟨m, l⟩ := h
    refine ⟨by simpa [World.deliver] using hn, ?_⟩
    rw [receivedIn_deliver hn, Act.collected?]
    split <;> rfl
  | other hstill =>
    refine ⟨hn.trans_le hstill.programs, ?_⟩
    rw [Simulator.receivedIn, hstill.received]
    exact (List.append_nil _).symm
  | _ => exact ⟨hn, (List.append_nil _).symm⟩

/-- **What is handed over arrives**, in the order in which it is handed over. -/
theorem History.receivedIn (h : History hand w acts hand' w') {n : Nat} (hn : n < w.programs.size) (list : String) :
    n < w'.programs.size ∧ Simulator.receivedIn w' n list = Simulator.receivedIn w n list ++ collected n list acts := by
  induction h with
  | refl => exact ⟨hn, (List.append_nil _).symm⟩
  | @tail acts _ _ _ _ a _ ha ih =>
    obtain ⟨hn', hreceived⟩ := ih
    obtain ⟨hn'', hreceived'⟩ := ha.receivedIn hn' list
    refine ⟨hn'', ?_⟩
    rw [hreceived', hreceived, collected, collected, List.filterMap_append, List.append_assoc]
    cases hc : a.collected? n list <;> simp [hc]

/-! ## The calls of programs -/

section Calls

variable {l : Loop (World Simulator)} {t : FutureId} {ctx : Context} {p : Promise} {id : String} {d payload : Data} {o : Outcome}
  {cont : Except Fault Promise → Proc (World Simulator)}

theorem decided_eq (o : Outcome) (cont : Except Fault Promise → Proc (World Simulator)) : Promise.decided o false cont =
    .access fun st => ({ st with kernel := (st.kernel.decided o).1 }, cont (.ok { source := st.kernel.futures.size })) := rfl

/-- A call goes on with a promise that is decided from the start. -/
theorem proceeds_decided (hf : l.focus = some (t, Promise.decided o false cont)) :
    ∃ l' source, Proceeds l 1 l' ∧ l'.state.world = l.state.world ∧ l'.focus = some (t, cont (.ok { source := source })) ∧
      l'.state.kernel.outcome? source = some o := by
  rw [decided_eq] at hf
  refine ⟨_, l.state.kernel.futures.size, .access hf (.refl _), rfl, rfl, ?_⟩
  change (l.state.kernel.newFuture _).1.outcome? _ = _
  rw [Kernel.outcome?, Kernel.future_newFuture, if_pos rfl]

/-- **A signal that cannot be encoded fails its own future** and changes nothing. -/
theorem proceeds_signalChild_of_error (hchild : p.child = some (.known id run)) {e : Fault} (hd : d.toPayload = .error e)
    (hf : l.focus = some (t, signalChild ctx p name d cont)) :
    ∃ l' source, Proceeds l 1 l' ∧ l'.state.world = l.state.world ∧ l'.focus = some (t, cont (.ok { source := source })) ∧
      l'.state.kernel.outcome? source = some (.error e) := by
  rw [signalChild, hchild] at hf
  simp only [hd] at hf
  exact proceeds_decided hf

/-- How a call goes on when its signal is on its way. -/
def signalled (cont : Except Fault Promise → Proc (World Simulator)) : Except Fault Unit → Proc (World Simulator)
  | .ok _ => Promise.decided (.value .null) false cont
  | .error e => cont (.error e)

theorem signalChild_eq (hchild : p.child = some (.known id run)) (hd : d.toPayload = .ok payload)
    (cont : Except Fault Promise → Proc (World Simulator)) : signalChild ctx p name d cont =
      .access fun st => (st, (st.world.engine.dutyOf run name payload).fulfil (signalled cont)) := by
  rw [signalChild, hchild]
  simp only [hd]
  rw [bind_apply, ← deliverSignal_eq]
  exact congrArg (deliverSignal run name payload) (funext fun r => by cases r <;> rfl)

/-- A call that signals looks for a handler, and does what is to be done with the signal. -/
theorem proceeds_signalled (hchild : p.child = some (.known id run)) (hd : d.toPayload = .ok payload)
    (hf : l.focus = some (t, signalChild ctx p name d cont)) :
    ∃ l' source, Proceeds l 3 l' ∧ l'.state.world = (l.state.world.engine.dutyOf run name payload).after l.state.world ∧
      l'.focus = some (t, cont (.ok { source := source })) ∧ l'.state.kernel.outcome? source = some (.value .null) := by
  let x := l.state.world.engine.dutyOf run name payload
  let looked (st : LoopState (World Simulator)) := (st, (st.world.engine.dutyOf run name payload).fulfil (signalled cont))
  let fulfilled (st : LoopState (World Simulator)) := ({ st with world := x.after st.world }, signalled cont (.ok ()))
  have hlooked : l.focus = some (t, .access looked) := hf.trans (by rw [signalChild_eq hchild hd])
  have hfulfilled : (l.accessed t looked).focus = some (t, .access fulfilled) := congrArg (fun p => some (t, p)) (x.fulfil_eq _)
  obtain ⟨l', source, hp, hworld, hfocus, houtcome⟩ := proceeds_decided (l := (l.accessed t looked).accessed t fulfilled) rfl
  exact ⟨l', source, .access hlooked (.access hfulfilled hp), hworld, hfocus, houtcome⟩

/-- **A signal goes to the handler that is there**, or waits. -/
theorem proceeds_signalChild (hchild : p.child = some (.known id run)) (hd : d.toPayload = .ok payload)
    (hf : l.focus = some (t, signalChild ctx p name d cont)) :
    ∃ l' source, Proceeds l 3 l' ∧ l'.focus = some (t, cont (.ok { source := source })) ∧ l'.state.kernel.outcome? source = some (.value .null) ∧
      History [] l.state.world [.sends run name payload, (l.state.world.engine.dutyOf run name payload).act] [] l'.state.world := by
  obtain ⟨l', source, hp, hworld, hfocus, houtcome⟩ := proceeds_signalled hchild hd hf
  exact ⟨l', source, hp, hfocus, houtcome, hworld ▸ (History.single (.sends _ run name payload)).tail (Duty.does _ _ [])⟩

/-- Signals that waited are handed over one after the other. -/
theorem proceeds_handed (run name : String) (h : SignalHandler) (ds : List Data) (next : Proc (World Simulator)) {l : Loop (World Simulator)}
    (hf : l.focus = some (t, ds.foldr (fun d next => Play.deliver h d fun _ => next) next)) :
    ∃ l', Proceeds l ds.length l' ∧ l'.focus = some (t, next) ∧
      History (ds.map (.hand run name h)) l.state.world (ds.map (.hands run name h)) [] l'.state.world := by
  induction ds generalizing l with
  | nil => exact ⟨l, .refl l, hf, .refl⟩
  | cons d ds ih =>
    have hf' := hf.trans (congrArg (fun p => some (t, p)) ((Duty.hand run name h d).fulfil_eq fun _ => ds.foldr _ next))
    obtain ⟨l', hp, hfocus, hhistory⟩ := ih (l := l.accessed t fun st =>
      ({ st with world := (Duty.hand run name h d).after st.world }, ds.foldr (fun d next => Play.deliver h d fun _ => next) next)) rfl
    exact ⟨l', .access hf' hp, hfocus, (History.single (.hands _ run name h d _)).trans hhistory⟩

/-- **A handler gets the signals that waited for it**, in order. -/
theorem proceeds_setSignalHandler {i : Identity} (hi : ctx.identity = some i) {h : SignalHandler} {cont : Except Fault Unit → Proc (World Simulator)}
    (hf : l.focus = some (t, setSignalHandler ctx name h cont)) :
    ∃ n l', Proceeds l n l' ∧ l'.focus = some (t, cont (.ok ())) ∧
      History [] l.state.world (.sets i.runId name h :: (l.state.world.engine.waiting i.runId name).map (.hands i.runId name h)) []
        l'.state.world := by
  rw [setSignalHandler_eq hi] at hf
  obtain ⟨l', hp, hfocus, hhistory⟩ := proceeds_handed i.runId name h (l.state.world.engine.waiting i.runId name) (cont (.ok ()))
    (l := l.accessed t fun st => ({ st with world := st.world.onEngine (·.setHandler i.runId name h) }, _)) rfl
  exact ⟨_, l', .access hf hp, hfocus, (History.single (.sets _ i.runId name h)).trans hhistory⟩

end Calls

/-- **Every signal is delivered once and in order.** At every point between the calls of a history that begins without handlers and signals, for
every run and name: what was handed over and what waits are together what was sent, in order; signals wait only where there is no handler; each was
handed to the handler that had been set last; and the handler's list has received just this. A signal that cannot be encoded fails its own future and
leaves the world as it was; one that can be is handed over at once or kept, and a new handler is handed what waited. Acts about another run or name
change nothing. Whatever the loops of such programs do goes on with the history. -/
theorem signals_are_delivered_once (hsilent : w₀.engine.Silent) (h : History [] w₀ acts [] w) :
    (∀ run name, handed run name acts ++ w.engine.waiting run name = sent run name acts) ∧
    (∀ run name, w.engine.waiting run name ≠ [] → w.engine.signalHandlers.get? run name = none) ∧
    (∀ run name, w.engine.signalHandlers.get? run name = lastSet run name acts) ∧
    (∀ i run name h d, acts[i]? = some (.hands run name h d) → lastSet run name (acts.take i) = some h) ∧
    (∀ hand₁ w₁ acts₁, History hand₁ w₁ acts₁ [] w → ∀ n list, n < w₁.programs.size →
      receivedIn w n list = receivedIn w₁ n list ++ collected n list acts₁) ∧
    (∀ (l : Loop (World Simulator)) t ctx p name d cont id run, l.state.world = w → p.child = some (.known id run) →
      l.focus = some (t, signalChild ctx p name d cont) →
      (∀ e, d.toPayload = .error e → ∃ l' source, Proceeds l 1 l' ∧ l'.state.world = w ∧
        l'.focus = some (t, cont (.ok { source := source })) ∧ l'.state.kernel.outcome? source = some (.error e)) ∧
      ∀ payload, d.toPayload = .ok payload → ∃ l' source, Proceeds l 3 l' ∧ l'.focus = some (t, cont (.ok { source := source })) ∧
        l'.state.kernel.outcome? source = some (.value .null) ∧
        History [] w₀ (acts ++ [.sends run name payload, (w.engine.dutyOf run name payload).act]) [] l'.state.world) ∧
    (∀ (l : Loop (World Simulator)) t ctx i name h cont, l.state.world = w → ctx.identity = some i →
      l.focus = some (t, setSignalHandler ctx name h cont) → ∃ n l', Proceeds l n l' ∧ l'.focus = some (t, cont (.ok ())) ∧
        History [] w₀ (acts ++ .sets i.runId name h :: (w.engine.waiting i.runId name).map (.hands i.runId name h)) [] l'.state.world) ∧
    (∀ acts' hand' w', History [] w acts' hand' w' → ∀ run name, (∀ a ∈ acts', ¬ a.IsAbout run name) →
      w'.engine.signalHandlers.get? run name = w.engine.signalHandlers.get? run name ∧
      w'.engine.waiting run name = w.engine.waiting run name) ∧
    (∀ (l l' : Loop (World Simulator)) duty, l.state.world = w → l.Conforms protocol duty → inHand duty l = [] → Steps l l' →
      ∃ duty' acts', l'.Conforms protocol duty' ∧ History [] w₀ (acts ++ acts') (inHand duty' l') l'.state.world) := by
  have hdelivery := h.delivery hsilent
  refine ⟨fun run name => ?_, hdelivery.apart, hdelivery.handler, hdelivery.delivered, fun _ _ _ h₁ n list hn => (h₁.receivedIn hn list).2,
    fun l t ctx p name d cont id run hw hchild hf => ⟨fun e he => ?_, fun payload hd => ?_⟩, fun l t ctx i name h' cont hw hi hf => ?_,
    fun _ _ _ h' _ _ hno => h'.frame hno, fun l l' duty hw hl hhand hs => ?_⟩
  · simpa using hdelivery.conserved run name
  · exact hw ▸ proceeds_signalChild_of_error hchild he hf
  · subst hw
    obtain ⟨l', source, hp, hfocus, houtcome, hhistory⟩ := proceeds_signalChild hchild hd hf
    exact ⟨l', source, hp, hfocus, houtcome, h.trans hhistory⟩
  · subst hw
    obtain ⟨n, l', hp, hfocus, hhistory⟩ := proceeds_setSignalHandler hi hf
    exact ⟨n, l', hp, hfocus, h.trans hhistory⟩
  · subst hw
    obtain ⟨duty', acts', hl', hhistory⟩ := History.steps hl hs
    rw [hhand] at hhistory
    exact ⟨duty', acts', hl', h.trans hhistory⟩

/-! ## A signal before its handler and one after it -/

/-- A world with one program. -/
def oneProgram : World Simulator := { engine := {}, programs := #[{}] }

def earlyAndLate : List Act :=
  [.sends "run" "news" (.int 1), .keeps "run" "news" (.int 1), .sets "run" "news" (.collect 0 "inbox"),
   .hands "run" "news" (.collect 0 "inbox") (.int 1), .sends "run" "news" (.int 2), .hands "run" "news" (.collect 0 "inbox") (.int 2)]

theorem history_earlyAndLate : ∃ w, History [] oneProgram earlyAndLate [] w := by
  have hearly := (History.single (.sends oneProgram "run" "news" (.int 1))).tail (.keeps _ "run" "news" (.int 1) [])
  have hset := hearly.tail (.sets _ "run" "news" (.collect 0 "inbox"))
  have hhanded := hset.tail (.hands _ "run" "news" (.collect 0 "inbox") (.int 1) [])
  have hlate := hhanded.tail (.sends _ "run" "news" (.int 2))
  exact ⟨_, hlate.tail (.hands _ "run" "news" (.collect 0 "inbox") (.int 2) [])⟩

/-- Both signals come to the handler, and none waits any more. -/
theorem signals_are_delivered_once_of_earlyAndLate : oneProgram.engine.Silent ∧ ∃ w, History [] oneProgram earlyAndLate [] w ∧
    w.engine.waiting "run" "news" = [] ∧ receivedIn w 0 "inbox" = [.int 1, .int 2] := by
  have hsilent : oneProgram.engine.Silent := ⟨rfl, rfl⟩
  obtain ⟨w, h⟩ := history_earlyAndLate
  obtain ⟨hconserved, -, -, -, hreceived, -⟩ := signals_are_delivered_once hsilent h
  refine ⟨hsilent, w, h, ?_, ?_⟩
  · have hall : handed "run" "news" earlyAndLate = sent "run" "news" earlyAndLate := rfl
    have h := hconserved "run" "news"
    rwa [hall, List.append_right_eq_self] at h
  · rw [hreceived [] oneProgram earlyAndLate h 0 "inbox" Nat.zero_lt_one]
    rfl

end Simulator

end ScriptFlow
