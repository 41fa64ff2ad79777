import Mathlib
import ScriptFlow.Proofs.Script.Confined
import ScriptFlow.Proofs.Script.OrderlyLibrary

/-!
# Native functions leave modules sealed

Every native function is confined but `rawset`, which writes what it is given into the table it is given. It is confined when that table is free, or when an argument is missing.

* `Invocation.confined_rawset` — `rawset`; `Invocation.confined_setMeta` — a metatable is given to no module; `Native.run_confined` — every native function.
-/

namespace ScriptFlow.Script

open Bears (Public)

variable {S : List Seal}

/-! ## Numbers -/

namespace Number

theorem public_decimalNumber? (negative : Bool) (cs : List Char) : Public S (decimalNumber? negative cs) := by
  unfold decimalNumber?
  dsimp only
  generalize (if negative then Nat.pow 2 63 else Nat.pow 2 63 - 1) = limit
  split
  · exact Bears.public_some.mpr (Bears.public_int _)
  · split
    · exact Bears.public_some.mpr (Bears.public_float _)
    · exact Bears.public_none

theorem public_hexNumber? (cs : List Char) : Public S (hexNumber? cs) := by
  unfold hexNumber?
  grind

theorem public_negate {v : Value} (hv : Public S v) : Public S (negate v) := by
  cases v with
  | int n => exact Bears.public_int (-n)
  | float x => exact Bears.public_float (-x)
  | _ => exact hv

theorem public_ofChars? (cs : List Char) : Public S (ofChars? cs) := by
  have hdecimal := public_decimalNumber? (S := S)
  unfold ofChars?
  dsimp only
  split
  · next rest _ =>
    split
    · intro v hv
      obtain ⟨w, hw, rfl⟩ := Option.map_eq_some_iff.mp hv
      have hpublic : Public S w := public_hexNumber? rest w hw
      split
      · exact public_negate hpublic
      · exact hpublic
    · exact hdecimal _ _
  · exact hdecimal _ _

end Number

@[grind .]
theorem Act.public_asNumber? (v : Value) : Public S (asNumber? v) := by
  cases v with
  | str s => exact Number.public_ofChars? _
  | int n => exact Bears.public_some.mpr (Bears.public_int n)
  | float x => exact Bears.public_some.mpr (Bears.public_float x)
  | _ => exact Bears.public_none

namespace Invocation

/-! ## Arguments -/

section

variable (inv : Invocation) {α : Type} [Bears α] (n : Nat)

@[grind ←]
theorem confined_fail (message : String) : (inv.fail message : Act α).Confined S := Act.confined_failText _ _

/-- A wrong argument is an error, whatever was to come. -/
theorem ends_badArgument {γ : Type} (message : ByteArray) : (inv.badArgument n message : Act γ).Ends S := by
  unfold badArgument
  split
  · split
    · exact Act.ends_fail _ _
    · exact Act.ends_fail _ _

theorem ends_expected {γ : Type} (what : String) : (inv.expected n what : Act γ).Ends S := by
  unfold expected
  split
  · exact inv.ends_badArgument n _
  · exact Act.ends_bind (α := ByteArray) (by grind) fun got _ => inv.ends_badArgument n _

@[grind ←]
theorem confined_badArgument (message : ByteArray) : (inv.badArgument n message : Act α).Confined S := (inv.ends_badArgument n message).confined

@[grind ←]
theorem confined_badArgumentText (message : String) : (inv.badArgumentText n message : Act α).Confined S := inv.confined_badArgument n _

@[grind ←]
theorem confined_expected (what : String) : (inv.expected n what : Act α).Confined S := (inv.ends_expected n what).confined

@[grind ←]
theorem confined_check (ok : Bool) (message : String) : (inv.check ok n message).Confined S := by
  unfold check
  grind

@[grind ←]
theorem confined_table : (inv.table n).Confined S := by
  unfold table
  grind

/-- What comes after an argument that has to be a table. -/
theorem confined_table_bind {f : TableId → Act α} (hf : ∀ t, inv.get n = .table t → (f t).Confined S) : (inv.table n >>= f).Confined S := by
  unfold table
  split
  · next t ht => exact hf t ht
  · exact ((inv.ends_expected n _).bind f).confined

@[grind ←]
theorem confined_number : (inv.number n).Confined S := by
  have hnumber := Act.public_asNumber? (S := S) (inv.get n)
  unfold number
  split
  · next v hv => exact Act.confined_pure (hnumber v hv)
  · exact inv.confined_expected n _

@[grind ←]
theorem confined_float : (inv.float n).Confined S := by
  unfold float
  grind

@[grind ←]
theorem confined_int : (inv.int n).Confined S := by
  unfold int
  grind

@[grind ←]
theorem confined_intOr (default : Int) : (inv.intOr n default).Confined S := by
  unfold intOr
  grind

@[grind ←]
theorem confined_text : (inv.text n).Confined S := by
  unfold text
  grind

@[grind ←]
theorem confined_textOr (default : ByteArray) : (inv.textOr n default).Confined S := by
  unfold textOr
  grind

/-- What comes after an argument that is missing. -/
theorem confined_missing_bind (h : inv.count < n) {f : Unit → Act α} : (discard (inv.any n) >>= f).Confined S := by
  have hmissing : inv.at? n = none := List.getElem?_eq_none (Nat.le_sub_one_of_lt h)
  have hdiscard : discard (inv.any n) = inv.any n >>= fun _ => pure () := rfl
  have hany : inv.any n = inv.badArgument n "value expected".toUTF8 := by
    unfold any
    rw [hmissing]
    rfl
  rw [hdiscard, hany]
  exact (((inv.ends_badArgument n _).bind _).bind f).confined

end

@[grind ←]
theorem confined_any {inv : Invocation} (hinv : Public S inv) (n : Nat) : (inv.any n).Confined S := by
  have hat := Bears.public_at? hinv n
  unfold any
  split
  · next v hv => exact Act.confined_pure (hat v hv)
  · exact inv.confined_badArgumentText n _

/-! ## Basic functions -/

section

variable {inv : Invocation} (hinv : Public S inv)

include hinv

omit hinv in
@[grind ←]
theorem confined_raiseAt {v : Value} (hv : Public S v) (level : Int) : (raiseAt v level).Confined S := by
  have hplaced (site : Site) (s : ByteArray) := Act.public_siteText (S := S) site s
  unfold raiseAt
  grind

@[grind ←]
theorem confined_error : inv.error.Confined S := by
  unfold error
  grind

@[grind ←]
theorem confined_assert : inv.assert.Confined S := by
  have hmessage : Public S ((inv.at? 2).getD (.ofText "assertion failed!")) := by
    cases hat : inv.at? 2 with
    | none => exact Bears.public_ofText _
    | some v => exact Bears.public_at? hinv 2 v hat
  unfold assert
  grind

@[grind ←]
theorem confined_select : inv.select.Confined S := by
  have hrest (n : Nat) : (select.rest inv n).Confined S := by
    unfold select.rest
    grind
  unfold select
  grind

@[grind ←]
theorem confined_tonumber : inv.tonumber.Confined S := by
  have hnumber : ∀ v, Act.asNumber? (inv.get 1) = some v → Public S v := Act.public_asNumber? (S := S) (inv.get 1)
  have hbase (base : Nat) (cs : List Char) : Public S ((inBase? base cs).getD .nil) := by
    unfold inBase?
    grind
  unfold tonumber
  grind

@[grind ←]
theorem confined_rawget : inv.rawget.Confined S := by
  unfold rawget
  grind

/-- **`rawset` is confined when its table is free**, or when an argument is missing. -/
theorem confined_rawset (h : inv.count < 3 ∨ ∀ t, inv.get 1 = .table t → Free S t) : inv.rawset.Confined S := by
  unfold rawset
  refine inv.confined_table_bind 1 fun t ht => ?_
  refine Act.confined_bind (Act.confined_discard (confined_any hinv 2)) fun _ _ => ?_
  rcases h with hcount | hfree
  · exact inv.confined_missing_bind 3 hcount
  · refine Act.confined_bind (Act.confined_discard (confined_any hinv 3)) fun _ _ => ?_
    refine Act.confined_bind (Act.confined_rawSet none (hfree t ht) (Bears.public_argument hinv 2) (Bears.public_argument hinv 3)) fun _ _ => ?_
    exact Act.confined_pure (Bears.public_singleton.mpr (hfree t ht).public)

omit hinv in
@[grind ←]
theorem confined_rawlen : inv.rawlen.Confined S := by
  unfold rawlen
  grind

omit hinv in
/-- **A module keeps its metatable.** -/
@[grind ←]
theorem confined_setMeta (site : Site) {t : TableId} (ht : Public S (Value.table t)) (m : Option TableId) : (setMeta site t m).Confined S := by
  unfold setMeta
  refine Act.confined_read_bind fun s hs => ?_
  split
  · next hprotection =>
    have hfree : Free S t := hs.free_of_metaEntry ht _ fun q _ heq => by
      rw [hprotection, q.get_metatable] at heq
      cases heq
    refine Act.confined_bind (Act.confined_write fun s hs => hs.setTable hfree fun x hx => hx) fun _ _ => ?_
    exact Act.confined_pure (Bears.public_singleton.mpr ht)
  · exact Act.confined_failText _ _

@[grind ←]
theorem confined_setmetatable : inv.setmetatable.Confined S := by
  unfold setmetatable
  refine inv.confined_table_bind 1 fun t ht => ?_
  have hpublic : Public S (Value.table t) := ht ▸ Bears.public_argument hinv 1
  grind

@[grind ←]
theorem confined_getmetatable : inv.getmetatable.Confined S := by
  unfold getmetatable
  grind

@[grind ←]
theorem confined_ipairsNext : inv.ipairsNext.Confined S := by
  unfold ipairsNext
  grind

omit hinv in
@[grind ←]
theorem confined_sortedKeys (v : Value) : (sortedKeys v).Confined S := by
  unfold sortedKeys
  grind

@[grind ←]
theorem confined_pairs : inv.pairs.Confined S := by
  have hnext {keys : List Value} (hkeys : Public S keys) (position : CellId) : Public S (Native.pairsNext (inv.get 1) keys.toArray position) :=
    fun _ _ _ heq => by
      cases heq
      exact ⟨Bears.public_argument hinv 1, by simpa using hkeys⟩
  unfold pairs
  grind

omit hinv in
theorem confined_pairsNext {subject : Value} {keys : Array Value} (hsubject : Public S subject) (hkeys : Public S keys.toList) (position : CellId) :
    (pairsNext subject keys position).Confined S := by
  unfold pairsNext
  refine Act.confined_modifyGet_bind (fun s hs => hs.setCell position (Bears.public_intValue _)) fun s _ => ?_
  dsimp only
  split
  · next key hkey =>
    have hpublic : Public S key := hkeys key (Array.mem_def.mp (Array.mem_of_getElem? hkey))
    grind
  · exact Act.confined_pure Bears.public_emptyList

/-! ## Functions on tables -/

@[grind ←]
theorem confined_entry (i : Int) : (inv.entry i).Confined S := Act.confined_index _ _ (Bears.public_argument hinv 1) (Bears.public_intValue i)

@[grind ←]
theorem confined_setEntry (i : Int) {v : Value} (hv : Public S v) : (inv.setEntry i v).Confined S :=
  Act.confined_setIndex _ _ (Bears.public_argument hinv 1) (Bears.public_intValue i) hv

omit hinv in
@[grind ←]
theorem confined_tableLike (n : Nat) (events : List String) : (inv.tableLike n events).Confined S := by
  unfold tableLike
  grind

@[grind ←]
theorem confined_lengthOf (n : Nat) : (inv.lengthOf n).Confined S := by
  unfold lengthOf
  grind

@[grind ←]
theorem confined_concatFrom (sep : ByteArray) (left : Nat) (i : Int) (out : ByteArray) : (inv.concatFrom sep left i out).Confined S := by
  induction left generalizing i out with
  | zero => exact Act.confined_pure (Bears.public_plain out)
  | succ left ih =>
    unfold concatFrom
    grind

@[grind ←]
theorem confined_concat : inv.concat.Confined S := by
  unfold concat
  refine Act.confined_bind (inv.confined_tableLike 1 _) fun _ _ => ?_
  refine Act.confined_bind (confined_lengthOf hinv 1) fun n _ => ?_
  refine Act.confined_bind (inv.confined_textOr 2 _) fun sep _ => ?_
  grind

@[grind ←]
theorem confined_shiftUp (left : Nat) (i : Int) : (inv.shiftUp left i).Confined S := by
  induction left generalizing i with
  | zero => exact Act.confined_pure (Bears.public_plain ())
  | succ left ih =>
    unfold shiftUp
    grind

@[grind ←]
theorem confined_insert : inv.insert.Confined S := by
  unfold insert
  refine Act.confined_bind (inv.confined_tableLike 1 _) fun _ _ => ?_
  refine Act.confined_bind (confined_lengthOf hinv 1) fun n _ => ?_
  grind

@[grind ←]
theorem confined_shiftDown (left : Nat) (i : Int) : (inv.shiftDown left i).Confined S := by
  induction left generalizing i with
  | zero => exact Act.confined_pure (Bears.public_plain ())
  | succ left ih =>
    unfold shiftDown
    grind

@[grind ←]
theorem confined_remove : inv.remove.Confined S := by
  have hremoved (size i : Int) : (do
      let v ← inv.entry i
      inv.shiftDown (size - i).toNat i
      inv.setEntry (max i size) .nil
      return [v] : Act (List Value)).Confined S := by grind
  unfold remove
  refine Act.confined_bind (inv.confined_tableLike 1 _) fun _ _ => ?_
  refine Act.confined_bind (confined_lengthOf hinv 1) fun size _ => ?_
  refine Act.confined_bind (inv.confined_intOr 2 size) fun i _ => ?_
  exact Act.confined_when (inv.confined_check 2 _ _) fun _ => hremoved size i

@[grind ←]
theorem confined_moveUp {target : Value} (htarget : Public S target) (f t : Int) (left i : Nat) : (inv.moveUp target f t left i).Confined S := by
  induction left generalizing i with
  | zero => exact Act.confined_pure (Bears.public_plain ())
  | succ left ih =>
    unfold moveUp
    grind

@[grind ←]
theorem confined_moveDown {target : Value} (htarget : Public S target) (f t : Int) (left : Nat) : (inv.moveDown target f t left).Confined S := by
  induction left with
  | zero => exact Act.confined_pure (Bears.public_plain ())
  | succ left ih =>
    unfold moveDown
    grind

@[grind ←]
theorem confined_move : inv.move.Confined S := by
  unfold move
  refine Act.confined_bind (inv.confined_tableLike 1 _) fun _ _ => ?_
  refine Act.confined_bind (inv.confined_int 2) fun f _ => ?_
  refine Act.confined_bind (inv.confined_int 3) fun e _ => ?_
  refine Act.confined_bind (inv.confined_int 4) fun t _ => ?_
  grind

@[grind ←]
theorem confined_pack : inv.pack.Confined S := by
  have hfilled : Public S ((Table.ofList inv.args).set (.ofText "n") (intValue inv.count)) :=
    Bears.public_set (Bears.public_ofList hinv) (Bears.public_ofText _) (Bears.public_intValue _)
  have hroom (layout : Layout) : Public S { (Table.ofList inv.args).set (.ofText "n") (intValue inv.count) with layout := layout } := hfilled
  unfold pack
  exact Act.confined_bind (Act.confined_newTable (hroom _)) fun v hv => Act.confined_pure (Bears.public_singleton.mpr hv)

@[grind ←]
theorem confined_entries (left : Nat) (i : Int) : (inv.entries left i).Confined S := by
  induction left generalizing i with
  | zero => exact Act.confined_pure Bears.public_emptyList
  | succ left ih =>
    unfold entries
    grind

@[grind ←]
theorem confined_unpack : inv.unpack.Confined S := by
  unfold unpack
  grind

@[grind ←]
theorem confined_before {a b : Value} (ha : Public S a) (hb : Public S b) : (inv.before a b).Confined S := by
  unfold before
  grind

@[grind ←]
theorem confined_exchange (i j : Int) {atI atJ : Value} (hi : Public S atI) (hj : Public S atJ) : (inv.exchange i j atI atJ).Confined S := by
  unfold exchange
  grind

@[grind ←]
theorem confined_scanUp {pivot : Value} (hpivot : Public S pivot) (limit : Int) (fuel : Nat) (i : Int) : (inv.scanUp pivot limit fuel i).Confined S := by
  induction fuel generalizing i with
  | zero =>
    unfold scanUp
    grind
  | succ fuel ih =>
    unfold scanUp badOrder
    grind

@[grind ←]
theorem confined_scanDown {pivot : Value} (hpivot : Public S pivot) (limit : Int) (fuel : Nat) (j : Int) :
    (inv.scanDown pivot limit fuel j).Confined S := by
  induction fuel generalizing j with
  | zero =>
    unfold scanDown
    grind
  | succ fuel ih =>
    unfold scanDown badOrder
    grind

@[grind ←]
theorem confined_partition {pivot : Value} (hpivot : Public S pivot) (up : Int) (fuel : Nat) (i j : Int) :
    (inv.partition pivot up fuel i j).Confined S := by
  induction fuel generalizing i j with
  | zero => exact Act.confined_pure (Bears.public_plain i)
  | succ fuel ih =>
    unfold partition
    refine Act.confined_bind (confined_scanUp hinv hpivot _ _ _) fun low hlow => ?_
    refine Act.confined_bind (confined_scanDown hinv hpivot _ _ _) fun high hhigh => ?_
    obtain ⟨i, vi⟩ := low
    obtain ⟨j, vj⟩ := high
    have hi : Public S vi := hlow.2
    have hj : Public S vj := hhigh.2
    grind

@[grind ←]
theorem confined_sortRange (fuel : Nat) (lo up : Int) : (inv.sortRange fuel lo up).Confined S := by
  induction fuel generalizing lo up with
  | zero => exact Act.confined_pure (Bears.public_plain ())
  | succ fuel ih =>
    unfold sortRange
    split
    · exact Act.confined_pure (Bears.public_plain _)
    · refine Act.confined_bind (confined_entry hinv lo) fun a ha => ?_
      refine Act.confined_bind (confined_entry hinv up) fun b hb => ?_
      refine Act.confined_bind (confined_before hinv hb ha) fun swapped _ => ?_
      refine Act.confined_when (confined_exchange hinv lo up ha hb) fun _ => ?_
      refine Act.confined_ite (Act.confined_pure (Bears.public_plain _)) ?_
      · refine Act.confined_bind (confined_entry hinv _) fun vp hp => ?_
        refine Act.confined_bind (confined_entry hinv lo) fun vl hl => ?_
        refine Act.confined_bind (confined_before hinv hp hl) fun below _ => ?_
        refine Act.confined_ite ?_ ?_
        · exact Act.confined_bind (confined_exchange hinv _ lo hp hl) fun _ _ => by grind
        · refine Act.confined_bind (confined_entry hinv up) fun vu hu => ?_
          refine Act.confined_bind (confined_before hinv hu hp) fun above _ => ?_
          exact Act.confined_when (confined_exchange hinv _ up hp hu) fun _ => by grind

@[grind ←]
theorem confined_sort : inv.sort.Confined S := by
  unfold sort
  grind

@[grind ←]
theorem confined_runTable (f : TableFunction) : (inv.runTable f).Confined S := by
  unfold runTable
  grind

end

/-! ## Functions on strings -/

section

variable (inv : Invocation)

instance : Inert Capture := ⟨⟩

@[grind ←]
theorem confined_captureValue (s : ByteArray) (start stop : Nat) (caps : List Capture) (i : Nat) :
    (inv.captureValue s start stop caps i).Confined S := by
  unfold captureValue
  grind

@[grind ←]
theorem confined_captureValues (s : ByteArray) (start stop : Nat) (caps : List Capture) (whole : Bool) :
    (inv.captureValues s start stop caps whole).Confined S :=
  Act.confined_mapM (inv.confined_captureValue s start stop caps) _

@[grind ←]
theorem confined_matchAt (s p : ByteArray) (i j : Nat) : (inv.matchAt s p i j).Confined S := by
  unfold matchAt
  grind

@[grind ←]
theorem confined_firstMatch (s p : ByteArray) (j fuel i : Nat) : (inv.firstMatch s p j fuel i).Confined S := by
  induction fuel generalizing i with
  | zero => exact Act.confined_pure (Bears.public_plain _)
  | succ fuel ih =>
    unfold firstMatch
    grind

@[grind ←]
theorem confined_search (find : Bool) : (inv.search find).Confined S := by
  unfold search
  refine Act.confined_bind (inv.confined_text 1) fun s _ => ?_
  refine Act.confined_bind (inv.confined_text 2) fun p _ => ?_
  refine Act.confined_bind (inv.confined_intOr 3 1) fun start _ => ?_
  refine Act.confined_ite (by grind) (Act.confined_ite (by grind) ?_)
  dsimp only
  split
  · refine Act.confined_bind (inv.confined_matchAt s p _ _) fun found _ => ?_
    grind
  · refine Act.confined_bind (inv.confined_firstMatch s p _ _ _) fun found _ => ?_
    grind

@[grind ←]
theorem confined_gmatch : inv.gmatch.Confined S := by
  have hnext (s p : ByteArray) (position last : CellId) : Public S (Native.gmatchNext s p position last) := fun _ _ _ h => by cases h
  unfold gmatch
  refine Act.confined_bind (inv.confined_text 1) fun s _ => ?_
  refine Act.confined_bind (inv.confined_text 2) fun p _ => ?_
  refine Act.confined_bind (inv.confined_intOr 3 1) fun start _ => ?_
  grind

@[grind ←]
theorem confined_nextMatch (s p : ByteArray) (last : Int) (fuel i : Nat) : (inv.nextMatch s p last fuel i).Confined S := by
  induction fuel generalizing i with
  | zero => exact Act.confined_pure (Bears.public_plain _)
  | succ fuel ih =>
    unfold nextMatch
    grind

@[grind ←]
theorem confined_gmatchNext (s p : ByteArray) (position last : CellId) : (inv.gmatchNext s p position last).Confined S := by
  unfold gmatchNext
  refine Act.confined_bind (Act.confined_read fun _ hs => Bears.public_pair.mpr ⟨hs.cell position, hs.cell last⟩) fun cells _ => ?_
  dsimp only
  split
  · refine Act.confined_bind (inv.confined_nextMatch s p _ _ _) fun found _ => ?_
    split
    · refine Act.confined_bind (Act.confined_write fun _ hs => ?_) fun _ _ => by grind
      exact (hs.setCell _ (Bears.public_intValue _)).setCell _ (Bears.public_intValue _)
    · grind
  · grind

@[grind ←]
theorem confined_expand (s : ByteArray) (start stop : Nat) (caps : List Capture) (bs : List UInt8) :
    (inv.expand s start stop caps bs).Confined S := by
  fun_induction expand inv s start stop caps bs
  all_goals grind

variable {inv}

@[grind ←]
theorem confined_replacement (s : ByteArray) (start stop : Nat) (caps : List Capture) {v : Value} (hv : Public S v) :
    (inv.replacement s start stop caps v).Confined S := by
  unfold replacement
  split
  · refine Act.confined_bind (inv.confined_captureValue s start stop caps 0) fun key hkey => ?_
    grind
  · refine Act.confined_bind (inv.confined_captureValues s start stop caps true) fun vs hvs => ?_
    grind
  · grind

@[grind ←]
theorem confined_replaceFrom (s p : ByteArray) (j : Nat) {v : Value} (hv : Public S v) (fuel i : Nat) (last left : Int) (n : Nat) (out : ByteArray) :
    (inv.replaceFrom s p j v fuel i last left n out).Confined S := by
  induction fuel generalizing i last left n out with
  | zero => exact Act.confined_pure (Bears.public_plain _)
  | succ fuel ih =>
    unfold replaceFrom
    grind

@[grind ←]
theorem confined_gsub (hinv : Public S inv) : inv.gsub.Confined S := by
  unfold gsub
  refine Act.confined_bind (inv.confined_text 1) fun s _ => ?_
  refine Act.confined_bind (inv.confined_text 2) fun p _ => ?_
  grind

variable (inv)

@[grind ←]
theorem confined_byteValues : inv.byteValues.Confined S := by
  have hbytes (bs : List UInt8) : Public S (bs.map fun b => intValue b.toNat) := fun v hv => by
    obtain ⟨b, -, rfl⟩ := List.mem_map.mp hv
    exact Bears.public_intValue _
  unfold byteValues
  grind

@[grind ←]
theorem confined_chars (left n : Nat) : (inv.chars left n).Confined S := by
  induction left generalizing n with
  | zero => exact Act.confined_pure (Bears.public_plain _)
  | succ left ih =>
    unfold chars
    grind

@[grind ←]
theorem confined_rep : inv.rep.Confined S := by
  unfold rep
  grind

variable {inv} (hinv : Public S inv)

include hinv

@[grind ←]
theorem confined_directive (n : Nat) (spec : List Char) (letter : Char) : (inv.directive n spec letter).Confined S := by
  unfold directive
  grind

@[grind ←]
theorem confined_formatFrom (fuel n : Nat) (out : ByteArray) (bs : List UInt8) : (inv.formatFrom fuel n out bs).Confined S := by
  fun_induction formatFrom inv fuel n out bs
  all_goals grind

@[grind ←]
theorem confined_format : inv.format.Confined S := by
  unfold format
  grind

@[grind ←]
theorem confined_runText (f : TextFunction) : (inv.runText f).Confined S := by
  unfold runText
  grind

@[grind ←]
theorem confined_runTextArith (op : ArithOp) : (inv.runTextArith op).Confined S := by
  have hnumber (n : Nat) : ∀ v, Act.asNumber? (inv.get n) = some v → Public S v := Act.public_asNumber? (S := S) (inv.get n)
  have hargs : Public S [inv.get 1, inv.get 2] :=
    Bears.public_cons.mpr ⟨Bears.public_argument hinv 1, Bears.public_singleton.mpr (Bears.public_argument hinv 2)⟩
  unfold runTextArith
  grind

end

/-! ## Functions on numbers and on UTF-8 -/

section

variable (inv : Invocation)

theorem public_wholeOr (x : Float) : Public S (wholeOr x) := by
  unfold wholeOr
  grind

@[grind ←]
theorem confined_rounding (f : Float → Float) : (inv.rounding f).Confined S := by
  have hwhole := public_wholeOr (S := S)
  unfold rounding
  grind

@[grind ←]
theorem confined_extremum (better : Value → Value → Bool) (left n : Nat) {best : Value} (hbest : Public S best) :
    (inv.extremum better left n best).Confined S := by
  induction left generalizing n best with
  | zero => exact Act.confined_pure hbest
  | succ left ih =>
    unfold extremum
    grind

@[grind ←]
theorem confined_remainder : inv.remainder.Confined S := by
  unfold remainder
  grind

@[grind ←]
theorem confined_one (f : Float → Float) : (inv.one f).Confined S := by
  unfold one
  grind

@[grind ←]
theorem confined_runMath {inv : Invocation} (hinv : Public S inv) (f : MathFunction) : (inv.runMath f).Confined S := by
  unfold runMath
  grind

@[grind ←]
theorem confined_utf8Chars (left n : Nat) : (inv.utf8Chars left n).Confined S := by
  induction left generalizing n with
  | zero => exact Act.confined_pure (Bears.public_plain _)
  | succ left ih =>
    unfold utf8Chars
    grind

@[grind ←]
theorem confined_codepoints (s : ByteArray) (lax : Bool) (stop : Int) (fuel i : Nat) : (inv.codepoints s lax stop fuel i).Confined S := by
  induction fuel generalizing i with
  | zero => exact Act.confined_pure Bears.public_emptyList
  | succ fuel ih =>
    unfold codepoints
    grind

@[grind ←]
theorem confined_runUtf8 (f : Utf8Function) : (inv.runUtf8 f).Confined S := by
  have hnext (lax : Bool) : Public S (Native.codesNext lax) := fun _ _ _ h => by cases h
  unfold runUtf8
  cases f with
  | char => grind
  | codepoint => grind
  | codes => grind
  | len =>
    refine Act.confined_bind (inv.confined_text 1) fun s _ => ?_
    refine Act.confined_bind (inv.confined_intOr 2 1) fun i _ => ?_
    refine Act.confined_bind (inv.confined_intOr 3 (-1)) fun j _ => ?_
    grind
  | offset =>
    refine Act.confined_bind (inv.confined_text 1) fun s _ => ?_
    refine Act.confined_bind (inv.confined_int 2) fun n _ => ?_
    refine Act.confined_bind (inv.confined_intOr 3 _) fun i _ => ?_
    grind

@[grind ←]
theorem confined_codesNext (lax : Bool) : (inv.codesNext lax).Confined S := by
  unfold codesNext
  refine Act.confined_bind (inv.confined_text 1) fun s _ => ?_
  refine Act.confined_bind (inv.confined_int 2) fun n _ => ?_
  grind

end

/-! ## Modules -/

section

variable {inv : Invocation} (hinv : Public S inv)

@[grind ←]
theorem confined_answered (request : HostCall) : (answered request).Confined S := by
  unfold answered
  grind

@[grind ←]
theorem confined_moduleIndex (inv : Invocation) (module : Nat) : (inv.moduleIndex module).Confined S := by
  have hbuiltin (name : String) : Public S (Native.builtin module name) := fun _ _ _ h => by cases h
  unfold moduleIndex
  grind

include hinv

@[grind ←]
theorem confined_moduleAssign : inv.moduleAssign.Confined S := by
  unfold moduleAssign
  grind

omit hinv in
@[grind ←]
theorem confined_called (inv : Invocation) (module : Nat) (name : String) : (inv.called module name).Confined S :=
  Act.confined_read_bind fun _ _ => confined_answered _

omit hinv in
/-- What the last argument shows for its metatable may be seen, and so may the mark of options. -/
theorem public_lookalike {s : Store} (hs : s.Sound S) {args : List Value} {t m : TableId} (h : lookalike? s args = some (t, m)) :
    Public S (Value.table m) := by
  unfold lookalike? at h
  split at h
  · next subject _ =>
    have hshown := hs.shownMeta (.table subject)
    split at h
    · next m' hm =>
      rw [hm] at hshown
      grind
    · cases h
  · cases h

omit hinv in
@[grind ←]
theorem confined_builtin (inv : Invocation) (module : Nat) (name : String) : (inv.builtin module name).Confined S := by
  unfold builtin
  refine Act.confined_read_bind fun s hs => ?_
  split
  · exact confined_called inv module name
  · next t m h =>
    have hm := public_lookalike hs h
    refine Act.confined_read_bind fun s hs => ?_
    have hmark := hs.options
    exact Act.confined_bind (Act.confined_equal _ hm hmark) fun _ _ => Act.confined_ite (confined_answered _) (confined_answered _)

@[grind ←]
theorem confined_kw : inv.kw.Confined S := by
  have hsubject := Bears.public_argument hinv 1
  unfold kw
  split
  · refine Act.confined_modifyGet_bind (fun s hs => hs.newTable (Bears.public_empty _ _)) fun s hs => ?_
    exact Act.confined_pure (Bears.public_singleton.mpr (hs.free_size le_rfl).public)
  · next t ht =>
    rw [ht] at hsubject
    grind
  · grind

omit hinv in
@[grind ←]
theorem confined_texts {vs : List Value} (hvs : Public S vs) : (texts vs).Confined S := by
  induction vs with
  | nil => exact Act.confined_pure (Bears.public_plain _)
  | cons v vs ih =>
    unfold texts
    grind

@[grind ←]
theorem confined_print : inv.print.Confined S := by
  unfold print
  grind

omit hinv in
@[grind ←]
theorem confined_dir (inv : Invocation) : inv.dir.Confined S := by
  unfold dir
  split
  · refine Act.confined_read_bind fun s hs => ?_
    grind
  · exact inv.confined_fail _

omit hinv in
/-- The globals of a script are a new table. -/
theorem confined_require (inv : Invocation) : inv.require.Confined S := by
  intro k hk
  -- the value is looked up among the sources
  have hnamed {s : Store} {r : Store × String × String}
      (h : (do return (s, ← s.sourceOf (inv.get 1)) : Except Fault (Store × String × String)) = .ok r) : r.1 = s := (named_of_sourceOf h).1
  refine Act.confined_convert (fun s r hs h => ⟨hnamed h ▸ hs, Bears.public_plain _⟩) _ fun named _ => ?_
  -- the loader is read
  refine Act.confined_read (fun s hs => hs.loader) _ fun loader hloader => ?_
  dsimp only
  cases hl : loader.loaded? named.1 with
  | some v =>
    obtain ⟨before, after, hsplit, -⟩ := List.lookup_eq_some_iff.mp hl
    exact hk [v] (Bears.public_singleton.mpr (hloader (named.1, v) (by simp [hsplit])).2)
  | none =>
    simp only [Act.ite_apply]
    split
    · exact .raise (Act.public_siteText _ _)
    · cases hparse : parseScript named.1 named.2 with
      | error e => exact .raise (Bears.public_str _)
      | ok body =>
        -- the globals are made, and then the script starts
        have hshared {s : Store} (hs : s.Sound S) : Public S (({} : Table).set (.ofText "__index") (.table s.base)) :=
          Bears.public_set (Bears.public_empty _ _) (Bears.public_ofText _) hs.base.public
        refine .touch (fun s hs => (hs.newTable (hshared hs)).newTable (Bears.public_empty _ _)) fun s hs => ?_
        have hglobals := ((hs.newTable (hshared hs)).free_size le_rfl).public
        exact .touch (fun s hs => hs.withLoader (l := s.loader.start named.1) hs.loader) fun s hs => .load hglobals

end

end Invocation

/-- **Every native function is confined**, but for `rawset` with a module. -/
theorem Native.run_confined {f : Native} (hf : Public S f) {inv : Invocation} (hinv : Public S inv)
    (h : f = .rawset → inv.count < 3 ∨ ∀ t, inv.get 1 = .table t → Free S t) : (f.run inv).Confined S := by
  have hhandler : Public S (some (inv.get 2)) := Bears.public_some.mpr (Bears.public_argument hinv 2)
  have hrequire := Invocation.confined_require (S := S) inv
  unfold Native.run
  cases f with
  | rawset => exact Invocation.confined_rawset hinv (h rfl)
  | pairsNext subject keys position =>
    obtain ⟨hsubject, hkeys⟩ := hf subject keys position rfl
    exact Invocation.confined_pairsNext hsubject hkeys position
  | ipairs =>
    have hnext : Public S Native.ipairsNext := fun _ _ _ h => by cases h
    grind
  | _ => grind

end ScriptFlow.Script
