import Mathlib
import ScriptFlow.Proofs.Script.Iteration

/-!
# Texts without addresses

Scripts see the text of a value by `tostring` and by `print`. A table or a function has no text but its kind, unless its metatable has one for it. What a script can see
of a metatable decides which of the two holds, and that need not be the metatable.

* `Machine.Yields` — an act goes on with a result, whatever comes after it.
* `Machine.Faceless` — a function, or a table of which nothing shows that it has a text of its own; `Machine.yields_faceless` — **its text is its kind**.
* `Machine.Veiled` — a table of which something else is shown; `Machine.yields_veiled` — **its text is its address**, if nothing gives it a text in earnest.
* `Machine.kinds_are_shown` — what `tostring` gives and what `print` writes.
* `Environment.veiled_tables_show_addresses` — a table can be veiled in more than one way.
-/

namespace ScriptFlow.Script

open Relation

namespace Machine

variable {frames : List Frame} {s s' s'' : Store} {t m : TableId}

/-! ## Acts that give a result -/

/-- The act goes on with this result and in this store, whatever comes after it. -/
def Yields {α : Type} (frames : List Frame) (s : Store) (act : Act α) (s' : Store) (a : α) : Prop :=
  ∀ k : α → Prog, Comes ⟨s, act k, frames⟩ ⟨s', k a, frames⟩

namespace Yields

variable {α β : Type}

theorem pure (a : α) : Yields frames s (Pure.pure a) s a := fun _ => .refl

theorem read (f : Store → α) : Yields frames s (Act.read f) s (f s) := fun _ => .single rfl

theorem bind {act : Act α} {f : α → Act β} {a : α} {b : β} (h : Yields frames s act s' a) (hf : Yields frames s' (f a) s'' b) :
    Yields frames s (act >>= f) s'' b := fun k => (h fun a => f a k).trans (hf k)

/-- After a look at the store. -/
theorem read_bind {f : Store → α} {g : α → Act β} {b : β} (h : Yields frames s (g (f s)) s' b) : Yields frames s (Act.read f >>= g) s' b :=
  (read f).bind h

end Yields

/-- A table without the entry and without a metatable that has one for it gives nothing. -/
theorem yields_index_nothing {key : Value} (h : (s.table t).get key = .nil) (hmeta : s.metaEntry (.table t) "__index" = .nil) (c : Caller)
    (naming : Option Naming) : Yields frames s (Act.index c naming (.table t) key) s .nil :=
  fun _ => .single (step_index_nothing h hmeta c 1999 naming _ _)

/-! ## Texts -/

/-- A look at the text that a table shows to have: the entry of what it shows for its metatable, read as scripts read it. -/
def Looks (frames : List Frame) (s : Store) (m : TableId) (s' : Store) (found : Value) : Prop :=
  Yields frames s (Act.index .hidden none (.table m) (.ofText "__tostring")) s' found

/-- A function, or a table of which nothing shows that it has a text of its own; `s'` is the store after the look at it. -/
inductive Faceless (frames : List Frame) (s : Store) : Value → Store → Prop where
  | function (f : FunctionId) : Faceless frames s (.function f) s
  | plain {t : TableId} (h : Act.shownMeta s (.table t) = .nil) : Faceless frames s (.table t) s
  | looked {t m : TableId} {s' : Store} (h : Act.shownMeta s (.table t) = .table m) (hlook : Looks frames s m s' .nil) : Faceless frames s (.table t) s'

/-- A table that shows something else than a table for its metatable, or one that shows a text. -/
inductive Veiled (frames : List Frame) (s : Store) : TableId → Store → Prop where
  | hidden {t : TableId} {shown : Value} (h : Act.shownMeta s (.table t) = shown) (hnil : shown ≠ .nil) (htable : ∀ m, shown ≠ .table m) :
      Veiled frames s t s
  | looked {t m : TableId} {s' : Store} {found : Value} (h : Act.shownMeta s (.table t) = .table m) (hlook : Looks frames s m s' found)
      (hfound : found ≠ .nil) : Veiled frames s t s'

/-- **The text of a function, or of a table that shows none of its own, is its kind.** -/
theorem yields_faceless {v : Value} (h : Faceless frames s v s') : Yields frames s (Act.stableText v) s' v.typeName.toUTF8 := by
  unfold Act.stableText
  cases h with
  | function f => exact .pure _
  | plain h =>
    refine .read_bind ?_
    rw [h]
    exact .pure _
  | looked h hlook =>
    refine .read_bind ?_
    rw [h]
    exact hlook.bind (.pure _)

/-- Where no metatable gives a text the address is in it. -/
theorem yields_bareText {v : Value} (h : s.metaEntry v "__tostring" = .nil) (c : Caller) : Yields frames s (Act.textOf c v) s (Act.bareText s v) := by
  unfold Act.textOf
  refine .read_bind ?_
  rw [h]
  exact .read _

/-- **The text of a table that shows another one has its address in it**, unless its metatable gives it a text in earnest. -/
theorem yields_veiled (h : Veiled frames s t s') (hnone : s'.metaEntry (.table t) "__tostring" = .nil) :
    Yields frames s (Act.stableText (.table t)) s' (Act.bareText s' (.table t)) := by
  unfold Act.stableText
  cases h with
  | hidden h hnil htable =>
    refine .read_bind ?_
    rw [h]
    generalize Act.shownMeta s (.table t) = shown at h
    subst h
    split
    · exact absurd rfl hnil
    · exact absurd rfl (htable _)
    · exact yields_bareText hnone _
  | looked h hlook hfound =>
    refine .read_bind ?_
    rw [h]
    refine Yields.bind hlook ?_
    split
    · exact absurd rfl hfound
    · exact yields_bareText hnone _

/-- A metatable that a script can see and that has no metatable itself shows what it has. -/
structure Open (s : Store) (t : TableId) : Prop where
  shown : ∀ m, s.meta? (.table t) = some m → (s.table m).get (.ofText "__metatable") = .nil
  alone : ∀ m, s.meta? (.table t) = some m → s.metaEntry (.table m) "__index" = .nil

/-- A table with an open metatable, or with none, shows a text if it has one. -/
theorem Open.faceless (h : Open s t) (hnone : s.metaEntry (.table t) "__tostring" = .nil) : Faceless frames s (.table t) s := by
  cases hmeta : s.meta? (.table t) with
  | none => exact .plain (by rw [Act.shownMeta, hmeta])
  | some m =>
    have hshown : Act.shownMeta s (.table t) = .table m := by simp only [Act.shownMeta, hmeta, h.shown m hmeta]
    have hentry : (s.table m).get (.ofText "__tostring") = .nil := by rwa [Store.metaEntry, hmeta] at hnone
    exact .looked hshown (yields_index_nothing hentry (h.alone m hmeta) _ _)

/-- The texts of values, one look after the other. -/
inductive Shown (frames : List Frame) : Store → List Value → Store → List ByteArray → Prop where
  | nil (s : Store) : Shown frames s [] s []
  | cons {s s' s'' : Store} {v : Value} {vs : List Value} {text : ByteArray} {texts : List ByteArray} (h : Yields frames s (Act.stableText v) s' text)
      (hrest : Shown frames s' vs s'' texts) : Shown frames s (v :: vs) s'' (text :: texts)

theorem Shown.yields {vs : List Value} {texts : List ByteArray} (h : Shown frames s vs s' texts) :
    Yields frames s (Invocation.texts vs) s' texts := by
  induction h with
  | nil s => exact .pure _
  | cons h _ ih => exact h.bind (ih.bind (.pure _))

/-- Faceless values show their kinds. -/
theorem Shown.cons_faceless {v : Value} {vs : List Value} {texts : List ByteArray} (hrest : Shown frames s' vs s'' texts) (h : Faceless frames s v s') :
    Shown frames s (v :: vs) s'' (v.typeName.toUTF8 :: texts) := .cons (yields_faceless h) hrest

/-! ## What scripts see -/

/-- **Kinds are shown.** The text of a function is its kind, and so is that of a table unless something shows that it has a text of its own; a table whose metatable is open
shows none that it has not. A table that shows another text than it has, or a metatable that is no table, and has no text, is shown with its address. These are the texts that
`tostring` gives and that `print` writes, with tabulators between them; so faceless values of one kind are printed alike. -/
theorem kinds_are_shown (frames : List Frame) (s : Store) :
    (∀ v s', Faceless frames s v s' → Yields frames s (Act.stableText v) s' v.typeName.toUTF8) ∧
    (∀ f, Faceless frames s (.function f) s) ∧
    (∀ t, Open s t → s.metaEntry (.table t) "__tostring" = .nil → Faceless frames s (.table t) s) ∧
    (∀ t s', Veiled frames s t s' → s'.metaEntry (.table t) "__tostring" = .nil →
      Yields frames s (Act.stableText (.table t)) s' (Act.bareText s' (.table t))) ∧
    (∀ (inv : Invocation) s' text, Yields frames s (Act.stableText (inv.get 1)) s' text →
      Comes ⟨s, (Native.tostring.run inv).toProg, frames⟩ ⟨s', .done [.str text], frames⟩) ∧
    (∀ v s' vs s'' texts, Faceless frames s v s' → Shown frames s' vs s'' texts → Shown frames s (v :: vs) s'' (v.typeName.toUTF8 :: texts)) ∧
    ∀ (inv : Invocation) s' texts, Shown frames s inv.args s' texts → ∃ next,
      Comes ⟨s, (Native.print.run inv).toProg, frames⟩ ⟨s', .host (.log (Invocation.joined texts)) next, frames⟩ :=
  ⟨fun _ _ h => yields_faceless h, .function, fun _ h hnone => h.faceless hnone, fun _ _ h hnone => yields_veiled h hnone,
    fun _ _ _ h => h _, fun _ _ _ _ _ h hrest => hrest.cons_faceless h, fun _ _ _ h => ⟨_, h.yields _⟩⟩

end Machine

/-- **A veiled table is shown with its address**, though it has no text of its own: when its metatable is hidden behind something that is no table, when it is hidden behind a table
with a text, and when the metatable of the metatable has one. -/
theorem Environment.veiled_tables_show_addresses :
    unaided "return tostring(setmetatable(\x7b\x7d, \x7b__metatable = 'hidden'\x7d)) == 'table' and 1 or 0" = some [.int 0] ∧
    unaided "return tostring(setmetatable(\x7b\x7d, \x7b__metatable = \x7b__tostring = print\x7d\x7d)) == 'table' and 1 or 0" = some [.int 0] ∧
    unaided ("local base = \x7b__tostring = function() return 'named' end\x7d local derived = setmetatable(\x7b\x7d, \x7b__index = base\x7d) " ++
      "return tostring(setmetatable(\x7b\x7d, derived)) == 'table' and 1 or 0") = some [.int 0] := by
  have hgives {text : String} (h : (unaided text).bind onlyInt? = some 0) : unaided text = some [.int 0] := by
    obtain ⟨vs, hvs, hone⟩ := Option.bind_eq_some_iff.mp h
    rw [hvs, eq_of_onlyInt? hone]
  exact ⟨hgives (by decide +kernel), hgives (by decide +kernel), hgives (by decide +kernel)⟩

end ScriptFlow.Script
