import Mathlib
import ScriptFlow.Proofs.Simulation.Signals

/-!
# Handlers that raise

A handler may raise when it is called with a signal. A signal that comes to its handler at once is then lost alone, and whoever sent it is told. But a handler
that is set for signals that waited is called with them one after the other, and they wait no more from the start: with the first call that raises the rest of them
is gone, neither handed over nor waiting, and no handler that is set later gets it.

* `Simulator.Reaction` — what calls of handlers do; `Simulator.react` — calling them.
* `Simulator.Called` — calls one after the other, up to the first that raises.
* `Simulator.failing_handlers_drop_what_follows` — **what is handed over and what is lost.**
-/

namespace ScriptFlow

open Loop

namespace Simulator

/-! ## Calls -/

/-- What a call of a handler with a datum does: it changes the world, and it returns or raises. -/
abbrev Reaction := SignalHandler → Data → World Simulator → World Simulator × Except Fault Unit

/-- Calls a handler. -/
def react (f : Reaction) (h : SignalHandler) (d : Data) : Play Unit := fun cont => .access fun st =>
  let (w, r) := f h d st.world
  ({ st with world := w }, cont r)

variable {f : Reaction} {h : SignalHandler} {w w' : World Simulator} {ds : List Data} {r : Except Fault Unit}

/-- What the handlers of programs do: they take the datum and never raise. -/
def taking : Reaction := fun h d w => (w.deliver h d, .ok ())

theorem deliver_eq_react : (Play.deliver : SignalHandler → Data → Play Unit) = react taking := by
  funext h d
  cases h
  rfl

/-- Calls do nothing to signals and handlers. -/
structure Reaction.LeavesSignals (f : Reaction) : Prop where
  handlers (h : SignalHandler) (d : Data) (w : World Simulator) : (f h d w).1.engine.signalHandlers = w.engine.signalHandlers
  pending (h : SignalHandler) (d : Data) (w : World Simulator) : (f h d w).1.engine.pendingSignals = w.engine.pendingSignals

/-- A handler is called with data one after the other, each call but the last returns, and this is how the last one ends. -/
inductive Called (f : Reaction) (h : SignalHandler) : World Simulator → List Data → World Simulator → Except Fault Unit → Prop where
  | done (w : World Simulator) : Called f h w [] w (.ok ())
  | next {w w' w'' : World Simulator} {d : Data} {ds : List Data} {r : Except Fault Unit} (hd : f h d w = (w', .ok ())) (hds : Called f h w' ds w'' r) :
      Called f h w (d :: ds) w'' r
  | raised {w w' : World Simulator} {d : Data} {e : Fault} (hd : f h d w = (w', .error e)) : Called f h w [d] w' (.error e)

theorem Called.signals (hf : Reaction.LeavesSignals f) (hc : Called f h w ds w' r) :
    w'.engine.signalHandlers = w.engine.signalHandlers ∧ w'.engine.pendingSignals = w.engine.pendingSignals := by
  induction hc with
  | done w => exact ⟨rfl, rfl⟩
  | next hd _ ih =>
    have hhandlers := congrArg (fun p : _ × Except Fault Unit => p.1.engine.signalHandlers) hd
    have hpending := congrArg (fun p : _ × Except Fault Unit => p.1.engine.pendingSignals) hd
    exact ⟨ih.1.trans (hhandlers.symm.trans (hf.handlers ..)), ih.2.trans (hpending.symm.trans (hf.pending ..))⟩
  | raised hd =>
    have hhandlers := congrArg (fun p : _ × Except Fault Unit => p.1.engine.signalHandlers) hd
    have hpending := congrArg (fun p : _ × Except Fault Unit => p.1.engine.pendingSignals) hd
    exact ⟨hhandlers.symm.trans (hf.handlers ..), hpending.symm.trans (hf.pending ..)⟩

/-- When it is the datum that makes a handler raise, it is called with all that come before the first such datum, and with that one. -/
theorem Called.eq_takeWhile (hc : Called f h w ds w' r) {rest : List Data} (hrest : rest ≠ [] → ∃ e, r = .error e) {out : Data → Except Fault Unit}
    (hout : ∀ d w, (f h d w).2 = out d) :
    ds = (ds ++ rest).takeWhile (fun d => (out d).isOk) ++ ((ds ++ rest).dropWhile fun d => (out d).isOk).take 1 := by
  induction hc with
  | done w =>
    have hnil : rest = [] := by
      by_contra hne
      obtain ⟨e, he⟩ := hrest hne
      cases he
    rw [hnil]
    rfl
  | @next w w' w'' d ds r hd _ ih =>
    have hok : (out d).isOk = true := by rw [← hout d w, hd]; rfl
    simp only [List.cons_append, List.takeWhile_cons, List.dropWhile_cons, hok, if_true]
    exact congrArg (d :: ·) (ih hrest)
  | @raised w w' d e hd =>
    have hno : (out d).isOk = false := by rw [← hout d w, hd]; rfl
    simp [hno]

/-! ## Signals that waited -/

/-- Calls a handler with data one after the other. -/
def callAll (call : SignalHandler → Data → Play Unit) (h : SignalHandler) (cont : Except Fault Unit → Proc (World Simulator)) :
    List Data → Proc (World Simulator)
  | [] => cont (.ok ())
  | d :: ds => call h d fun
    | .ok _ => callAll call h cont ds
    | .error e => cont (.error e)

/-- The call with the first of the data, and how it goes on. -/
def calling (f : Reaction) (h : SignalHandler) (cont : Except Fault Unit → Proc (World Simulator)) (d : Data) (ds : List Data)
    (st : LoopState (World Simulator)) : LoopState (World Simulator) × Proc (World Simulator) :=
  ({ st with world := (f h d st.world).1 }, match (f h d st.world).2 with
    | .ok _ => callAll (react f) h cont ds
    | .error e => cont (.error e))

theorem callAll_cons (f : Reaction) (h : SignalHandler) (cont : Except Fault Unit → Proc (World Simulator)) (d : Data) (ds : List Data) :
    callAll (react f) h cont (d :: ds) = .access (calling f h cont d ds) := rfl

theorem forIn_call (call : SignalHandler → Data → Play Unit) (h : SignalHandler) (cont : Except Fault PUnit → Proc (World Simulator)) (ds : List Data) :
    (forIn ds PUnit.unit fun d _ => do
      call h d
      pure (ForInStep.yield PUnit.unit) : Play PUnit) cont = callAll call h cont ds := by
  induction ds with
  | nil => rfl
  | cons d ds ih =>
    rw [List.forIn_cons]
    refine congrArg (call h d) (funext fun r => ?_)
    cases r with
    | error e => rfl
    | ok u => exact ih

theorem setSignalHandlerBy_eq {ctx : Context} {i : Identity} (hi : ctx.identity = some i) (call : SignalHandler → Data → Play Unit) (name : String)
    (h : SignalHandler) (cont : Except Fault Unit → Proc (World Simulator)) : setSignalHandlerBy call ctx name h cont = .access fun st =>
      ({ st with world := st.world.onEngine (·.setHandler i.runId name h) }, callAll call h cont (st.world.engine.waiting i.runId name)) := by
  unfold setSignalHandlerBy own
  rw [hi]
  refine congrArg Proc.access (funext fun st => congrArg (Prod.mk _) ?_)
  dsimp only
  rw [bind_apply]
  refine (forIn_call call h _ (st.world.engine.waiting i.runId name)).trans ?_
  exact congrArg (fun cont => callAll call h cont _) (funext fun r => by cases r <;> rfl)

section Handing

variable {l : Loop (World Simulator)} {t : FutureId} {ctx : Context} {i : Identity} {run name : String} {d : Data}
  {cont : Except Fault Unit → Proc (World Simulator)}

/-- A handler is called up to the first call that raises. -/
theorem proceeds_callAll (f : Reaction) (h : SignalHandler) (cont : Except Fault Unit → Proc (World Simulator)) (ds : List Data) (hf : l.focus = some (t, callAll (react f) h cont ds)) :
    ∃ handed dropped r n l', ds = handed ++ dropped ∧ (dropped ≠ [] → ∃ e, r = .error e) ∧ Proceeds l n l' ∧ l'.focus = some (t, cont r) ∧
      Called f h l.state.world handed l'.state.world r := by
  induction ds generalizing l with
  | nil => exact ⟨[], [], .ok (), 0, l, rfl, fun h => absurd rfl h, .refl l, hf, .done _⟩
  | cons d ds ih =>
    rw [callAll_cons] at hf
    have hworld : (l.accessed t (calling f h cont d ds)).state.world = (f h d l.state.world).1 := rfl
    have hfocus : (l.accessed t (calling f h cont d ds)).focus = some (t, (calling f h cont d ds l.state).2) := rfl
    cases hd : f h d l.state.world with
    | mk w r =>
      simp only [calling, hd] at hfocus
      rw [hd] at hworld
      cases r with
      | ok u =>
        obtain ⟨handed, dropped, r, n, l', rfl, hdropped, hp, hl', hcalled⟩ := ih hfocus
        rw [hworld] at hcalled
        exact ⟨d :: handed, dropped, r, n + 1, l', rfl, hdropped, .access hf hp, hl', .next hd hcalled⟩
      | error e =>
        refine ⟨[d], ds, .error e, 1, _, rfl, fun _ => ⟨e, rfl⟩, .access hf (.refl _), hfocus, ?_⟩
        rw [hworld]
        exact .raised hd

/-- **A handler that is set is called with what waited**, up to the first call that raises. -/
theorem proceeds_setSignalHandlerBy (hi : ctx.identity = some i) (hf : l.focus = some (t, setSignalHandlerBy (react f) ctx name h cont)) :
    ∃ handed dropped r n l', l.state.world.engine.waiting i.runId name = handed ++ dropped ∧ (dropped ≠ [] → ∃ e, r = .error e) ∧
      Proceeds l n l' ∧ l'.focus = some (t, cont r) ∧ Called f h (l.state.world.onEngine (·.setHandler i.runId name h)) handed l'.state.world r := by
  rw [setSignalHandlerBy_eq hi] at hf
  obtain ⟨handed, dropped, r, n, l', hds, hdropped, hp, hl', hcalled⟩ := proceeds_callAll f h cont (l.state.world.engine.waiting i.runId name)
    (l := l.accessed t fun st => ({ st with world := st.world.onEngine (·.setHandler i.runId name h) },
      callAll (react f) h cont (st.world.engine.waiting i.runId name))) rfl
  exact ⟨handed, dropped, r, n + 1, l', hds, hdropped, .access hf hp, hl', hcalled⟩

/-- **A signal that comes to its handler at once** is handed to it, and whoever sends it hears how that ended. -/
theorem proceeds_deliverSignalBy (hh : l.state.world.engine.signalHandlers.get? run name = some h)
    (hf : l.focus = some (t, deliverSignalBy (react f) run name d cont)) :
    ∃ l', Proceeds l 2 l' ∧ l'.state.world = (f h d l.state.world).1 ∧ l'.focus = some (t, cont (f h d l.state.world).2) := by
  unfold deliverSignalBy at hf
  rw [engine_bind] at hf
  obtain ⟨looked, hlooked, hnext⟩ : ∃ looked, l.focus = some (t, .access looked) ∧ looked l.state = (l.state, react f h d cont) := by
    refine ⟨_, hf, ?_⟩
    simp only [hh]
  have hstate : (l.accessed t looked).state = l.state := by rw [accessed, hnext]
  have hfocus : (l.accessed t looked).focus = some (t, react f h d cont) := by rw [accessed, hnext]
  exact ⟨_, .access hlooked (.access hfocus (.refl _)), by rw [← hstate]; rfl, by rw [← hstate]; rfl⟩

end Handing

/-! ## What is handed over and what is lost -/

theorem waiting_of_signals {s s' : Simulator} (h : s'.pendingSignals = s.pendingSignals) (run name : String) : s'.waiting run name = s.waiting run name := by
  rw [waiting, waiting, h]

/-- **What is handed over and what is lost.** A handler that is set is called with the signals that waited, in order and each once, up to the first call that raises; when
it is the datum that makes it raise, up to the first such datum. What follows is lost: nothing waits any more for this run and name, and a handler that is set later
gets none of it. What waits for other runs and names stays. Of signals that come to the handler later each is lost alone if its call raises. The handlers of programs are
called in the same way. -/
theorem failing_handlers_drop_what_follows {l : Loop (World Simulator)} {t : FutureId} {ctx : Context} {i : Identity} {name : String} {h : SignalHandler}
    {cont : Except Fault Unit → Proc (World Simulator)} (f : Reaction) (hi : ctx.identity = some i)
    (hf : l.focus = some (t, setSignalHandlerBy (react f) ctx name h cont)) :
    setSignalHandler = setSignalHandlerBy (react taking) ∧ deliverSignal = deliverSignalBy (react taking) ∧
    ∃ handed dropped r n l', l.state.world.engine.waiting i.runId name = handed ++ dropped ∧ (dropped ≠ [] → ∃ e, r = .error e) ∧
      Proceeds l n l' ∧ l'.focus = some (t, cont r) ∧ Called f h (l.state.world.onEngine (·.setHandler i.runId name h)) handed l'.state.world r ∧
      (∀ out : Data → Except Fault Unit, (∀ d w, (f h d w).2 = out d) → handed =
        (l.state.world.engine.waiting i.runId name).takeWhile (fun d => (out d).isOk) ++
          ((l.state.world.engine.waiting i.runId name).dropWhile fun d => (out d).isOk).take 1) ∧
      (f.LeavesSignals →
        (∀ run' name', l'.state.world.engine.waiting run' name' =
          if run' = i.runId ∧ name' = name then [] else l.state.world.engine.waiting run' name') ∧
        (∀ run' name', l'.state.world.engine.signalHandlers.get? run' name' =
          if run' = i.runId ∧ name' = name then some h else l.state.world.engine.signalHandlers.get? run' name') ∧
        -- a later handler
        (∀ l₁ t' ctx' i' h' cont', ctx'.identity = some i' → i'.runId = i.runId →
          l₁.state.world.engine.pendingSignals = l'.state.world.engine.pendingSignals →
          l₁.focus = some (t', setSignalHandlerBy (react f) ctx' name h' cont') → ∃ n l₂, Proceeds l₁ n l₂ ∧ l₂.focus = some (t', cont' (.ok ())) ∧
            l₂.state.world = l₁.state.world.onEngine (·.setHandler i.runId name h')) ∧
        -- a later signal
        ∀ l₁ t' d cont', l₁.state.world.engine.signalHandlers = l'.state.world.engine.signalHandlers →
          l₁.focus = some (t', deliverSignalBy (react f) i.runId name d cont') → ∃ l₂, Proceeds l₁ 2 l₂ ∧ l₂.state.world = (f h d l₁.state.world).1 ∧
            l₂.state.world.engine.pendingSignals = l₁.state.world.engine.pendingSignals ∧ l₂.focus = some (t', cont' (f h d l₁.state.world).2)) := by
  obtain ⟨handed, dropped, r, n, l', hds, hdropped, hp, hl', hcalled⟩ := proceeds_setSignalHandlerBy hi hf
  refine ⟨by rw [← deliver_eq_react]; rfl, by rw [← deliver_eq_react]; rfl, handed, dropped, r, n, l', hds, hdropped, hp, hl', hcalled,
    fun out hout => ?_, fun hleaves => ?_⟩
  · rw [hds]
    exact hcalled.eq_takeWhile hdropped hout
  obtain ⟨hhandlers, hpending⟩ := hcalled.signals hleaves
  rw [World.engine_onEngine] at hhandlers hpending
  have hwaiting (run' name' : String) : l'.state.world.engine.waiting run' name' =
      if run' = i.runId ∧ name' = name then [] else l.state.world.engine.waiting run' name' := by
    rw [waiting_of_signals hpending, waiting_setHandler]
  have hset (run' name' : String) : l'.state.world.engine.signalHandlers.get? run' name' =
      if run' = i.runId ∧ name' = name then some h else l.state.world.engine.signalHandlers.get? run' name' := by
    rw [hhandlers, setHandler, ByRun.get?_set]
  refine ⟨hwaiting, hset, fun l₁ t' ctx' i' h' cont' hi' hrun hsame hf' => ?_, fun l₁ t' d cont' hsame hf' => ?_⟩
  · obtain ⟨handed', dropped', r', n', l₂, hds', -, hp', hl₂, hcalled'⟩ := proceeds_setSignalHandlerBy hi' hf'
    rw [hrun, waiting_of_signals hsame, hwaiting, if_pos ⟨rfl, rfl⟩] at hds'
    obtain ⟨rfl, rfl⟩ := List.append_eq_nil_iff.mp hds'.symm
    rw [hrun] at hcalled'
    generalize hw : l₂.state.world = w₂ at hcalled'
    cases hcalled'
    exact ⟨n', l₂, hp', hl₂, hw⟩
  · have hh : l₁.state.world.engine.signalHandlers.get? i.runId name = some h := by rw [hsame, hset, if_pos ⟨rfl, rfl⟩]
    obtain ⟨l₂, hp', hworld, hfocus⟩ := proceeds_deliverSignalBy hh hf'
    exact ⟨l₂, hp', hworld, hworld ▸ hleaves.pending h d _, hfocus⟩

/-! ## Two signals for a handler that raises -/

/-- Handlers take every datum into their list, and that of the list of refused ones raises. -/
def refusing : Reaction := fun h d w => (w.deliver h d, match h with
  | .collect _ list => if list == "refused" then .error (.error .badValue "refused") else .ok ())

/-- Two signals wait. -/
def twoWaiting : World Simulator := { engine := { pendingSignals := [("run", [("news", [.int 1, .int 2])])] }, programs := #[{}] }

/-- A context of the run that they wait for. -/
def receiver : Context := { scope := 0, identity := some { runId := "run" } }

/-- A task is about to set the handler that raises. -/
def aboutToSet : Loop (World Simulator) :=
  { state := { world := twoWaiting }
    focus := some (0, setSignalHandlerBy (react refusing) receiver "news" (.collect 0 "refused") fun r => .finish (r.map fun _ => .null)) }

theorem failing_handlers_drop_what_follows_refusing :
    receiver.identity = some { runId := "run" } ∧
    ∃ (dropped : List Data) (r : Except Fault Unit) (n : Nat) (l' : Loop (World Simulator)), dropped = [.int 2] ∧ Proceeds aboutToSet n l' ∧
      Called refusing (.collect 0 "refused") (twoWaiting.onEngine (·.setHandler "run" "news" (.collect 0 "refused"))) [.int 1] l'.state.world r ∧
      l'.state.world.engine.waiting "run" "news" = [] := by
  obtain ⟨-, -, handed, dropped, r, n, l', hds, -, hp, -, hcalled, hout, hleaves⟩ := failing_handlers_drop_what_follows (l := aboutToSet) refusing
    (i := { runId := "run" }) rfl rfl
  have hhanded : handed = [.int 1] := hout (fun _ => .error (.error .badValue "refused")) fun _ _ => rfl
  subst hhanded
  have hdropped : dropped = [.int 2] := (List.cons_inj_right (Data.int 1)).mp hds.symm
  have hrest := (hleaves ⟨fun _ _ _ => rfl, fun _ _ _ => rfl⟩).1 "run" "news"
  rw [if_pos ⟨rfl, rfl⟩] at hrest
  exact ⟨rfl, dropped, r, n, l', hdropped, hp, hcalled, hrest⟩

/-- Sets the handler that raises, and then another. -/
def setsTwice : Play Data := do
  discard (Flow.attempt (setSignalHandlerBy (react refusing) receiver "news" (.collect 0 "refused")))
  setSignalHandlerBy (react refusing) receiver "news" (.collect 0 "inbox")
  return .null

/-- The handler that raises is called with the first signal. The second is neither handed over nor does it wait, and the other handler does not get it. -/
theorem signal_behind_a_failing_one_is_lost :
    let w := (runMain twoWaiting setsTwice).2
    receivedIn w 0 "refused" = [.int 1] ∧ receivedIn w 0 "inbox" = [] ∧ w.engine.waiting "run" "news" = [] :=
  ⟨rfl, rfl, rfl⟩

end Simulator

end ScriptFlow
