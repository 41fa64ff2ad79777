import Mathlib
import ScriptFlow.Proofs.Script.Orderly

/-!
# Native functions load scripts in order

Every native function is orderly. `require` is the only one that starts a script, and it does so after it has seen that the script may start.

* `Invocation.orderly_require` — `require`; `Native.run_orderly` — every native function.
-/

namespace ScriptFlow.Script

namespace Invocation

variable (inv : Invocation)

/-! ## Arguments -/

section

variable {α : Type} (n : Nat)

@[grind ←]
theorem orderly_fail (message : String) : (inv.fail message : Act α).Orderly := Act.orderly_failText _ _

@[grind ←]
theorem orderly_badArgument (message : ByteArray) : (inv.badArgument n message : Act α).Orderly := by
  unfold badArgument
  grind

@[grind ←]
theorem orderly_badArgumentText (message : String) : (inv.badArgumentText n message : Act α).Orderly := inv.orderly_badArgument n _

@[grind ←]
theorem orderly_expected (what : String) : (inv.expected n what : Act α).Orderly := by
  unfold expected
  grind

@[grind ←]
theorem orderly_check (ok : Bool) (message : String) : (inv.check ok n message).Orderly := by
  unfold check
  grind

@[grind ←]
theorem orderly_any : (inv.any n).Orderly := by
  unfold any
  grind

@[grind ←]
theorem orderly_table : (inv.table n).Orderly := by
  unfold table
  grind

@[grind ←]
theorem orderly_number : (inv.number n).Orderly := by
  unfold number
  grind

@[grind ←]
theorem orderly_float : (inv.float n).Orderly := by
  unfold float
  grind

@[grind ←]
theorem orderly_int : (inv.int n).Orderly := by
  unfold int
  grind

@[grind ←]
theorem orderly_intOr (default : Int) : (inv.intOr n default).Orderly := by
  unfold intOr
  grind

@[grind ←]
theorem orderly_text : (inv.text n).Orderly := by
  unfold text
  grind

@[grind ←]
theorem orderly_textOr (default : ByteArray) : (inv.textOr n default).Orderly := by
  unfold textOr
  grind

end

/-! ## Basic functions -/

@[grind ←]
theorem orderly_raiseAt (v : Value) (level : Int) : (raiseAt v level).Orderly := by
  unfold raiseAt
  grind

@[grind ←]
theorem orderly_error : inv.error.Orderly := by
  unfold error
  grind

@[grind ←]
theorem orderly_assert : inv.assert.Orderly := by
  unfold assert
  grind

@[grind ←]
theorem orderly_select : inv.select.Orderly := by
  have hrest (n : Nat) : (select.rest inv n).Orderly := by
    unfold select.rest
    grind
  unfold select
  grind

@[grind ←]
theorem orderly_tonumber : inv.tonumber.Orderly := by
  unfold tonumber
  grind

@[grind ←]
theorem orderly_rawget : inv.rawget.Orderly := by
  unfold rawget
  grind

@[grind ←]
theorem orderly_rawset : inv.rawset.Orderly := by
  unfold rawset
  grind

@[grind ←]
theorem orderly_rawlen : inv.rawlen.Orderly := by
  unfold rawlen
  grind

@[grind ←]
theorem orderly_setMeta (site : Site) (t : TableId) (m : Option TableId) : (setMeta site t m).Orderly := by
  unfold setMeta
  refine Act.orderly_bind (Act.orderly_read _) fun protection => ?_
  split
  · exact Act.orderly_bind (Act.orderly_write fun _ => rfl) fun _ => Act.orderly_pure _
  · exact Act.orderly_failText _ _

@[grind ←]
theorem orderly_setmetatable : inv.setmetatable.Orderly := by
  unfold setmetatable
  grind

@[grind ←]
theorem orderly_getmetatable : inv.getmetatable.Orderly := by
  unfold getmetatable
  grind

@[grind ←]
theorem orderly_ipairsNext : inv.ipairsNext.Orderly := by
  unfold ipairsNext
  grind

@[grind ←]
theorem orderly_sortedKeys (v : Value) : (sortedKeys v).Orderly := by
  unfold sortedKeys
  grind

@[grind ←]
theorem orderly_pairs : inv.pairs.Orderly := by
  unfold pairs
  grind

@[grind ←]
theorem orderly_pairsNext (subject : Value) (keys : Array Value) (position : CellId) : (pairsNext subject keys position).Orderly := by
  unfold pairsNext
  exact Act.orderly_bind (Act.orderly_modifyGet fun _ => rfl) fun i => by grind

/-! ## Functions on tables -/

@[grind ←]
theorem orderly_entry (i : Int) : (inv.entry i).Orderly := Act.orderly_index _ _ _ _

@[grind ←]
theorem orderly_setEntry (i : Int) (v : Value) : (inv.setEntry i v).Orderly := Act.orderly_setIndex _ _ _ _ _

@[grind ←]
theorem orderly_tableLike (n : Nat) (events : List String) : (inv.tableLike n events).Orderly := by
  unfold tableLike
  grind

@[grind ←]
theorem orderly_lengthOf (n : Nat) : (inv.lengthOf n).Orderly := by
  unfold lengthOf
  grind

@[grind ←]
theorem orderly_concatFrom (sep : ByteArray) (left : Nat) (i : Int) (out : ByteArray) : (inv.concatFrom sep left i out).Orderly := by
  induction left generalizing i out with
  | zero => exact Act.orderly_pure out
  | succ left ih =>
    unfold concatFrom
    grind

@[grind ←]
theorem orderly_concat : inv.concat.Orderly := by
  unfold concat
  grind

@[grind ←]
theorem orderly_shiftUp (left : Nat) (i : Int) : (inv.shiftUp left i).Orderly := by
  induction left generalizing i with
  | zero => exact Act.orderly_pure ()
  | succ left ih =>
    unfold shiftUp
    grind

@[grind ←]
theorem orderly_insert : inv.insert.Orderly := by
  unfold insert
  grind

@[grind ←]
theorem orderly_shiftDown (left : Nat) (i : Int) : (inv.shiftDown left i).Orderly := by
  induction left generalizing i with
  | zero => exact Act.orderly_pure ()
  | succ left ih =>
    unfold shiftDown
    grind

@[grind ←]
theorem orderly_remove : inv.remove.Orderly := by
  unfold remove
  grind

@[grind ←]
theorem orderly_moveUp (target : Value) (f t : Int) (left i : Nat) : (inv.moveUp target f t left i).Orderly := by
  induction left generalizing i with
  | zero => exact Act.orderly_pure ()
  | succ left ih =>
    unfold moveUp
    grind

@[grind ←]
theorem orderly_moveDown (target : Value) (f t : Int) (left : Nat) : (inv.moveDown target f t left).Orderly := by
  induction left with
  | zero => exact Act.orderly_pure ()
  | succ left ih =>
    unfold moveDown
    grind

@[grind ←]
theorem orderly_move : inv.move.Orderly := by
  unfold move
  refine Act.orderly_bind (inv.orderly_tableLike 1 _) fun _ => ?_
  refine Act.orderly_bind (inv.orderly_int 2) fun f => ?_
  refine Act.orderly_bind (inv.orderly_int 3) fun e => ?_
  refine Act.orderly_bind (inv.orderly_int 4) fun t => ?_
  grind

@[grind ←]
theorem orderly_entries (left : Nat) (i : Int) : (inv.entries left i).Orderly := by
  induction left generalizing i with
  | zero => exact Act.orderly_pure []
  | succ left ih =>
    unfold entries
    grind

@[grind ←]
theorem orderly_unpack : inv.unpack.Orderly := by
  unfold unpack
  grind

@[grind ←]
theorem orderly_before (a b : Value) : (inv.before a b).Orderly := by
  unfold before
  grind

@[grind ←]
theorem orderly_exchange (i j : Int) (atI atJ : Value) : (inv.exchange i j atI atJ).Orderly := by
  unfold exchange
  grind

@[grind ←]
theorem orderly_scanUp (pivot : Value) (limit : Int) (fuel : Nat) (i : Int) : (inv.scanUp pivot limit fuel i).Orderly := by
  induction fuel generalizing i with
  | zero =>
    unfold scanUp
    grind
  | succ fuel ih =>
    unfold scanUp badOrder
    grind

@[grind ←]
theorem orderly_scanDown (pivot : Value) (limit : Int) (fuel : Nat) (j : Int) : (inv.scanDown pivot limit fuel j).Orderly := by
  induction fuel generalizing j with
  | zero =>
    unfold scanDown
    grind
  | succ fuel ih =>
    unfold scanDown badOrder
    grind

@[grind ←]
theorem orderly_partition (pivot : Value) (up : Int) (fuel : Nat) (i j : Int) : (inv.partition pivot up fuel i j).Orderly := by
  induction fuel generalizing i j with
  | zero => exact Act.orderly_pure i
  | succ fuel ih =>
    unfold partition
    grind

@[grind ←]
theorem orderly_sortRange (fuel : Nat) (lo up : Int) : (inv.sortRange fuel lo up).Orderly := by
  induction fuel generalizing lo up with
  | zero => exact Act.orderly_pure ()
  | succ fuel ih =>
    unfold sortRange
    split
    · exact Act.orderly_pure ()
    · refine Act.orderly_bind (inv.orderly_entry lo) fun a => ?_
      refine Act.orderly_bind (inv.orderly_entry up) fun b => ?_
      refine Act.orderly_bind (inv.orderly_before b a) fun swapped => ?_
      refine Act.orderly_when (inv.orderly_exchange lo up a b) fun _ => ?_
      refine Act.orderly_ite (Act.orderly_pure ()) ?_
      · refine Act.orderly_bind (inv.orderly_entry _) fun vp => ?_
        refine Act.orderly_bind (inv.orderly_entry lo) fun vl => ?_
        refine Act.orderly_bind (inv.orderly_before vp vl) fun below => ?_
        refine Act.orderly_ite ?_ ?_
        · exact Act.orderly_bind (inv.orderly_exchange _ lo vp vl) fun _ => by grind
        · refine Act.orderly_bind (inv.orderly_entry up) fun vu => ?_
          refine Act.orderly_bind (inv.orderly_before vu vp) fun above => ?_
          exact Act.orderly_when (inv.orderly_exchange _ up vp vu) fun _ => by grind

@[grind ←]
theorem orderly_sort : inv.sort.Orderly := by
  unfold sort
  grind

@[grind ←]
theorem orderly_runTable (f : TableFunction) : (inv.runTable f).Orderly := by
  unfold runTable pack
  grind

/-! ## Functions on strings -/

@[grind ←]
theorem orderly_captureValue (s : ByteArray) (start stop : Nat) (caps : List Capture) (i : Nat) :
    (inv.captureValue s start stop caps i).Orderly := by
  unfold captureValue
  grind

@[grind ←]
theorem orderly_captureValues (s : ByteArray) (start stop : Nat) (caps : List Capture) (whole : Bool) :
    (inv.captureValues s start stop caps whole).Orderly :=
  Act.orderly_mapM (inv.orderly_captureValue s start stop caps) _

@[grind ←]
theorem orderly_matchAt (s p : ByteArray) (i j : Nat) : (inv.matchAt s p i j).Orderly := by
  unfold matchAt
  grind

@[grind ←]
theorem orderly_firstMatch (s p : ByteArray) (j fuel i : Nat) : (inv.firstMatch s p j fuel i).Orderly := by
  induction fuel generalizing i with
  | zero => exact Act.orderly_pure none
  | succ fuel ih =>
    unfold firstMatch
    grind

@[grind ←]
theorem orderly_search (find : Bool) : (inv.search find).Orderly := by
  unfold search
  refine Act.orderly_bind (inv.orderly_text 1) fun s => ?_
  refine Act.orderly_bind (inv.orderly_text 2) fun p => ?_
  refine Act.orderly_bind (inv.orderly_intOr 3 1) fun start => ?_
  grind

@[grind ←]
theorem orderly_gmatch : inv.gmatch.Orderly := by
  unfold gmatch
  grind

@[grind ←]
theorem orderly_nextMatch (s p : ByteArray) (last : Int) (fuel i : Nat) : (inv.nextMatch s p last fuel i).Orderly := by
  induction fuel generalizing i with
  | zero => exact Act.orderly_pure none
  | succ fuel ih =>
    unfold nextMatch
    grind

@[grind ←]
theorem orderly_gmatchNext (s p : ByteArray) (position last : CellId) : (inv.gmatchNext s p position last).Orderly := by
  unfold gmatchNext
  refine Act.orderly_bind (Act.orderly_read _) fun cells => ?_
  dsimp only
  split
  · refine Act.orderly_bind (inv.orderly_nextMatch s p _ _ _) fun found => ?_
    split
    · exact Act.orderly_bind (Act.orderly_write fun _ => rfl) fun _ => by grind
    · grind
  · grind

@[grind ←]
theorem orderly_expand (s : ByteArray) (start stop : Nat) (caps : List Capture) (bs : List UInt8) :
    (inv.expand s start stop caps bs).Orderly := by
  fun_induction expand inv s start stop caps bs
  all_goals grind

@[grind ←]
theorem orderly_replacement (s : ByteArray) (start stop : Nat) (caps : List Capture) (v : Value) :
    (inv.replacement s start stop caps v).Orderly := by
  unfold replacement
  grind

@[grind ←]
theorem orderly_replaceFrom (s p : ByteArray) (j : Nat) (v : Value) (fuel i : Nat) (last left : Int) (n : Nat) (out : ByteArray) :
    (inv.replaceFrom s p j v fuel i last left n out).Orderly := by
  induction fuel generalizing i last left n out with
  | zero => exact Act.orderly_pure _
  | succ fuel ih =>
    unfold replaceFrom
    grind

@[grind ←]
theorem orderly_gsub : inv.gsub.Orderly := by
  unfold gsub
  grind

@[grind ←]
theorem orderly_byteValues : inv.byteValues.Orderly := by
  unfold byteValues
  grind

@[grind ←]
theorem orderly_chars (left n : Nat) : (inv.chars left n).Orderly := by
  induction left generalizing n with
  | zero => exact Act.orderly_pure []
  | succ left ih =>
    unfold chars
    grind

@[grind ←]
theorem orderly_rep : inv.rep.Orderly := by
  unfold rep
  grind

@[grind ←]
theorem orderly_directive (n : Nat) (spec : List Char) (letter : Char) : (inv.directive n spec letter).Orderly := by
  unfold directive
  grind

@[grind ←]
theorem orderly_formatFrom (fuel n : Nat) (out : ByteArray) (bs : List UInt8) : (inv.formatFrom fuel n out bs).Orderly := by
  fun_induction formatFrom inv fuel n out bs
  all_goals grind

@[grind ←]
theorem orderly_format : inv.format.Orderly := by
  unfold format
  grind

@[grind ←]
theorem orderly_runText (f : TextFunction) : (inv.runText f).Orderly := by
  unfold runText
  grind

@[grind ←]
theorem orderly_runTextArith (op : ArithOp) : (inv.runTextArith op).Orderly := by
  unfold runTextArith
  grind

/-! ## Functions on numbers and on UTF-8 -/

@[grind ←]
theorem orderly_rounding (f : Float → Float) : (inv.rounding f).Orderly := by
  unfold rounding
  grind

@[grind ←]
theorem orderly_extremum (better : Value → Value → Bool) (left n : Nat) (best : Value) : (inv.extremum better left n best).Orderly := by
  induction left generalizing n best with
  | zero => exact Act.orderly_pure best
  | succ left ih =>
    unfold extremum
    grind

@[grind ←]
theorem orderly_remainder : inv.remainder.Orderly := by
  unfold remainder
  grind

@[grind ←]
theorem orderly_one (f : Float → Float) : (inv.one f).Orderly := by
  unfold one
  grind

@[grind ←]
theorem orderly_runMath (f : MathFunction) : (inv.runMath f).Orderly := by
  unfold runMath
  grind

@[grind ←]
theorem orderly_utf8Chars (left n : Nat) : (inv.utf8Chars left n).Orderly := by
  induction left generalizing n with
  | zero => exact Act.orderly_pure []
  | succ left ih =>
    unfold utf8Chars
    grind

@[grind ←]
theorem orderly_codepoints (s : ByteArray) (lax : Bool) (stop : Int) (fuel i : Nat) : (inv.codepoints s lax stop fuel i).Orderly := by
  induction fuel generalizing i with
  | zero => exact Act.orderly_pure []
  | succ fuel ih =>
    unfold codepoints
    grind

@[grind ←]
theorem orderly_runUtf8 (f : Utf8Function) : (inv.runUtf8 f).Orderly := by
  unfold runUtf8
  cases f with
  | char => grind
  | codepoint => grind
  | codes => grind
  | len =>
    refine Act.orderly_bind (inv.orderly_text 1) fun s => ?_
    refine Act.orderly_bind (inv.orderly_intOr 2 1) fun i => ?_
    grind
  | offset =>
    refine Act.orderly_bind (inv.orderly_text 1) fun s => ?_
    refine Act.orderly_bind (inv.orderly_int 2) fun n => ?_
    refine Act.orderly_bind (inv.orderly_intOr 3 _) fun i => ?_
    grind

@[grind ←]
theorem orderly_codesNext (lax : Bool) : (inv.codesNext lax).Orderly := by
  unfold codesNext
  grind

/-! ## Modules -/

@[grind ←]
theorem orderly_answered (request : HostCall) : (answered request).Orderly := by
  unfold answered
  grind

@[grind ←]
theorem orderly_moduleIndex (module : Nat) : (inv.moduleIndex module).Orderly := by
  unfold moduleIndex
  grind

@[grind ←]
theorem orderly_moduleAssign : inv.moduleAssign.Orderly := by
  unfold moduleAssign
  grind

@[grind ←]
theorem orderly_called (module : Nat) (name : String) : (inv.called module name).Orderly := by
  unfold called
  grind

@[grind ←]
theorem orderly_builtin (module : Nat) (name : String) : (inv.builtin module name).Orderly := by
  unfold builtin
  grind

@[grind ←]
theorem orderly_kw : inv.kw.Orderly := by
  unfold kw
  split
  · exact Act.orderly_bind (Act.orderly_modifyGet fun _ => rfl) fun t => Act.orderly_pure _
  · grind
  · grind

@[grind ←]
theorem orderly_texts (vs : List Value) : (texts vs).Orderly := by
  induction vs with
  | nil => exact Act.orderly_pure []
  | cons v vs ih =>
    unfold texts
    grind

@[grind ←]
theorem orderly_print : inv.print.Orderly := by
  unfold print
  grind

@[grind ←]
theorem orderly_dir : inv.dir.Orderly := by
  unfold dir
  grind

/-- A value names a script by the path that its text stands under. -/
theorem source_of_sourceOf {s : Store} {v : Value} {path text : String} (h : s.sourceOf v = .ok (path, text)) :
    s.loader.source? path = some text := by
  unfold Store.sourceOf at h
  split at h
  all_goals simp only [Store.bind_ok_iff, pure, Except.pure, throw, throwThe, MonadExceptOf.throw] at h
  all_goals grind

theorem named_of_sourceOf {s : Store} {v : Value} {r : Store × String × String}
    (h : (do return (s, ← s.sourceOf v) : Except Fault (Store × String × String)) = .ok r) : r.1 = s ∧ s.sourceOf v = .ok r.2 := by
  obtain ⟨named, hnamed, hr⟩ := Store.bind_ok_iff.mp h
  cases hr
  exact ⟨rfl, hnamed⟩

/-- **`require` starts a script only when it may start.** -/
theorem orderly_require : inv.require.Orderly := by
  intro k hk l
  -- the value is looked up among the sources
  refine .touch (fun s hs => ?_) fun s hs => ?_
  · split
    · next h => rw [(named_of_sourceOf h).1, hs]
    · exact hs
  split
  · next named h =>
    obtain ⟨path, text⟩ := named
    have hsource : l.source? path = some text := hs ▸ source_of_sourceOf (named_of_sourceOf h).2
    -- the loader is read
    refine .touch (fun _ h => h) fun s hs => ?_
    subst hs
    cases hl : s.loader.loaded? path with
    | some v =>
      simp only [hl]
      exact hk [v] _
    | none =>
      simp only [hl, Act.ite_apply]
      split
      · exact .raise _
      · next hidle =>
        cases hparse : parseScript path text with
        | error e => exact .raise _
        | ok body =>
          have hstart : s.loader.MayStart path body := ⟨⟨text, hsource, hparse⟩, hl, by simpa using hidle⟩
          -- the globals are made, and then the script starts
          exact .touch (fun _ h => h) fun _ _ => .starts hstart fun _ hs => by rw [← hs]
  · exact .raise _

end Invocation

/-- **Every native function is orderly.** -/
theorem Native.run_orderly (f : Native) (inv : Invocation) : (f.run inv).Orderly := by
  have hrequire := inv.orderly_require
  unfold Native.run
  cases f
  all_goals grind

end ScriptFlow.Script
