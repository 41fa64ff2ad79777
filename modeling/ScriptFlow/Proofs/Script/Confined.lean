import Mathlib
import ScriptFlow.Proofs.Script.Orderly
import ScriptFlow.Proofs.Script.Sealed

/-!
# Programs that leave modules sealed

A program is confined when, given only public values, it passes on only public values, and when it leaves every sound store sound: it writes to no module and to no
metatable of one.

* `Prog.Confined` — of a program; `Act.Confined` — of a part of a program. Operators, expressions and statements are confined: every write that consults the metatable of
  a table first finds that the table is no module (`Act.confined_setIndexWithin`), and a new table is none (`Act.confined_newTable`).
* `Stat.body_confined` — the program of a function's body is confined.
-/

namespace ScriptFlow.Script

open Bears (Public)

/-- A program that keeps stores sound and passes on only public values, as long as it is given no others. -/
inductive Prog.Confined (S : List Seal) : Prog → Prop where
  | done {vs : List Value} (h : Public S vs) : Confined S (.done vs)
  | raise {e : Value} (h : Public S e) : Confined S (.raise e)
  | unwind {e : Value} (h : Public S e) : Confined S (.unwind e)
  | touch {f : Store → Store × Prog} (hs : ∀ s, s.Sound S → (f s).1.Sound S) (hn : ∀ s, s.Sound S → Confined S (f s).2) : Confined S (.touch f)
  | call {v : Value} {args : List Value} {how : CallSite} {next : List Value → Prog} (hv : Public S v) (hargs : Public S args)
      (h : ∀ vs, Public S vs → Confined S (next vs)) : Confined S (.call v args how next)
  | pass {v : Value} {args : List Value} {how : CallSite} (hv : Public S v) (hargs : Public S args) : Confined S (.pass v args how)
  | guard {v : Value} {args : List Value} {handler : Option Value} {next : Except Value (List Value) → Prog} (hv : Public S v) (hargs : Public S args)
      (hhandler : Public S handler) (h : ∀ r, Public S r → Confined S (next r)) : Confined S (.guard v args handler next)
  | places {next : List Site → Prog} (h : ∀ sites, Confined S (next sites)) : Confined S (.places next)
  | host {request : HostCall} {next : HostReply → Prog} (h : ∀ r, Public S r → Confined S (next r)) : Confined S (.host request next)
  | load {path : String} {body : List Stat} {globals : TableId} (h : Public S (Value.table globals)) : Confined S (.load path body globals)
  | run {all rest : List Stat} {scope : Scope} {exits : Exits Prog} (hscope : Public S scope) (hfinish : ∀ sc, Public S sc → Confined S (exits.finish sc))
      (hleave : Confined S (exits.leave ())) (hlabels : ∀ label ∈ exits.labels, ∀ sc, Public S sc → Confined S (label.2.2 sc)) :
      Confined S (.run all rest scope exits)
  | opened {v : Value} {next : Prog} (hv : Public S v) (h : Confined S next) : Confined S (.opened v next)
  | closed {how : CallSite} {next : Prog} (h : Confined S next) : Confined S (.closed how next)

variable {S : List Seal}

/-- A part of a program that is confined, whatever confined program comes after it. -/
def Act.Confined {α : Type} [Bears α] (S : List Seal) (m : Act α) : Prop := ∀ k : α → Prog, (∀ a, Public S a → (k a).Confined S) → (m k).Confined S

/-! ## What acts are made of -/

namespace Act

variable {α β : Type} [Bears α] [Bears β]

@[grind ←]
theorem confined_pure {a : α} (h : Public S a) : (pure a : Act α).Confined S := fun _ hk => hk a h

@[grind ←]
theorem confined_bind {m : Act α} {f : α → Act β} (hm : m.Confined S) (hf : ∀ a, Public S a → (f a).Confined S) : (m >>= f).Confined S :=
  fun k hk => hm _ fun a ha => hf a ha k hk

theorem confined_ite {p : Prop} [Decidable p] {m m' : Act α} (hm : m.Confined S) (hm' : m'.Confined S) : (if p then m else m').Confined S := by
  split
  · exact hm
  · exact hm'

/-- Something is done on the way, or not. -/
theorem confined_when {p : Prop} [Decidable p] {m : Act PUnit} {f : PUnit → Act α} (hm : m.Confined S) (hf : ∀ u, (f u).Confined S) :
    (if p then m >>= f else f ⟨⟩).Confined S :=
  confined_ite (confined_bind hm fun u _ => hf u) (hf ⟨⟩)

@[grind ←]
theorem confined_discard {m : Act α} (hm : m.Confined S) : (discard m).Confined S := by
  have hdiscard : discard m = m >>= fun _ => pure () := rfl
  rw [hdiscard]
  exact confined_bind hm fun _ _ => confined_pure (Bears.public_plain ())

theorem confined_mapM {γ : Type} {f : γ → Act α} (hf : ∀ c, (f c).Confined S) (cs : List γ) : (cs.mapM f).Confined S := by
  induction cs with
  | nil => exact confined_pure Bears.public_emptyList
  | cons c cs ih =>
    rw [List.mapM_cons]
    exact confined_bind (hf c) fun b hb => confined_bind ih fun bs hbs => confined_pure (Bears.public_cons.mpr ⟨hb, hbs⟩)

@[grind ←]
theorem confined_raise {e : Value} (he : Public S e) : (raise e : Act α).Confined S := fun _ _ => .raise he

theorem public_siteText (site : Site) (message : ByteArray) : Public S (site.text message) := by
  cases site with
  | none => exact Bears.public_str _
  | some place => exact Bears.public_str _

@[grind ←]
theorem confined_fail (site : Site) (message : ByteArray) : (fail site message : Act α).Confined S := confined_raise (public_siteText site message)

@[grind ←]
theorem confined_failText (site : Site) (message : String) : (failText site message : Act α).Confined S := confined_fail site _

/-- A part of a program that comes to no end of its own: what comes after it does not matter. -/
def Ends {γ : Type} (S : List Seal) (m : Act γ) : Prop := ∀ k : γ → Prog, (m k).Confined S

theorem ends_fail {γ : Type} (site : Site) (message : ByteArray) : (fail site message : Act γ).Ends S := fun _ => .raise (public_siteText site message)

theorem ends_bind {γ : Type} {m : Act α} {f : α → Act γ} (hm : m.Confined S) (hf : ∀ a, Public S a → (f a).Ends S) : (m >>= f).Ends S :=
  fun k => hm _ fun a ha => hf a ha k

theorem Ends.bind {γ δ : Type} {m : Act γ} (h : m.Ends S) (f : γ → Act δ) : (m >>= f).Ends S := fun k => h fun a => f a k

theorem Ends.confined {m : Act α} (h : m.Ends S) : m.Confined S := fun k _ => h k

@[grind ←]
theorem confined_read {f : Store → α} (hf : ∀ s, s.Sound S → Public S (f s)) : (read f).Confined S :=
  fun _ hk => .touch (fun _ hs => hs) fun s hs => hk _ (hf s hs)

/-- What comes after a look at a sound store. -/
theorem confined_read_bind {γ : Type} {f : Store → γ} {g : γ → Act β} (h : ∀ s, s.Sound S → (g (f s)).Confined S) : (read f >>= g).Confined S :=
  fun k hk => .touch (fun _ hs => hs) fun s hs => h s hs k hk

theorem confined_write {f : Store → Store} (hf : ∀ s, s.Sound S → (f s).Sound S) : (write f).Confined S :=
  fun _ hk => .touch hf fun _ _ => hk () (Bears.public_plain ())

theorem confined_modifyGet {f : Store → Store × α} (hs : ∀ s, s.Sound S → (f s).1.Sound S) (hf : ∀ s, s.Sound S → Public S (f s).2) :
    (modifyGet f).Confined S :=
  fun _ hk => .touch hs fun s h => hk _ (hf s h)

/-- What comes after a change of a sound store. -/
theorem confined_modifyGet_bind {γ : Type} {f : Store → Store × γ} {g : γ → Act β} (hs : ∀ s, s.Sound S → (f s).1.Sound S)
    (h : ∀ s, s.Sound S → (g (f s).2).Confined S) : (modifyGet f >>= g).Confined S :=
  fun k hk => .touch hs fun s hsound => h s hsound k hk

theorem confined_convert {f : Store → Except Fault (Store × α)} (hf : ∀ s r, s.Sound S → f s = .ok r → r.1.Sound S ∧ Public S r.2) :
    (convert f).Confined S := by
  refine fun k hk => .touch (fun s hs => ?_) fun s hs => ?_
  · cases hr : f s with
    | ok r => exact (hf s r hs hr).1
    | error e => exact hs.newObject (.fault e)
  · cases hr : f s with
    | ok r => exact hk _ (hf s r hs hr).2
    | error e => exact .raise (s.public_newObject _)

@[grind ←]
theorem confined_raiseFault (e : Fault) : (raiseFault e : Act α).Confined S := confined_convert fun _ _ _ h => by cases h

@[grind ←]
theorem confined_call {v : Value} {args : List Value} (hv : Public S v) (hargs : Public S args) (how : CallSite) : (call v args how).Confined S :=
  fun _ hk => .call hv hargs hk

@[grind ←]
theorem confined_guard {v : Value} {args : List Value} {handler : Option Value} (hv : Public S v) (hargs : Public S args) (hhandler : Public S handler) :
    (guard v args handler).Confined S :=
  fun _ hk => .guard hv hargs hhandler hk

@[grind ←]
theorem confined_places : places.Confined S := fun _ hk => .places fun sites => hk sites (Bears.public_plain sites)

@[grind ←]
theorem confined_host (request : HostCall) : (host request).Confined S := fun _ hk => .host hk

@[grind ←]
theorem confined_newTable {t : Table} (ht : Public S t) : (newTable t).Confined S :=
  confined_modifyGet (fun _ hs => hs.newTable ht) fun _ hs => (hs.free_size le_rfl).public

@[grind ←]
theorem confined_newNative {f : Native} (hf : Public S f) : (newNative f).Confined S :=
  confined_modifyGet (fun _ hs => hs.newFunction fun _ hg => FunctionObject.native.inj hg ▸ hf) fun _ _ => Bears.public_function _

@[grind ←]
theorem confined_newCell {v : Value} (hv : Public S v) : (newCell v).Confined S :=
  confined_modifyGet (fun _ hs => hs.newCell hv) fun _ _ => Bears.public_plain _

@[grind ←]
theorem confined_table (t : TableId) : (table t).Confined S := confined_read fun _ hs => hs.tables t

end Act

/-! ## Operators -/

/-! ### Numbers -/

namespace Number

theorem public_intArith {op : ArithOp} {m n : Int64} {v : Value} (h : intArith op m n = .ok v) : Public S v := by
  cases op with
  | mod | idiv =>
    simp only [intArith] at h
    split at h
    · cases h
    · cases h
      exact Bears.public_int _
  | pow | div =>
    cases h
    exact Bears.public_float _
  | _ =>
    cases h
    exact Bears.public_int _

theorem public_floatArith {op : ArithOp} {x y : Float} {v : Value} (h : floatArith op x y = .ok v) : Public S v := by
  cases op with
  | add | sub | mul | mod | idiv | pow | div | unm =>
    cases h
    exact Bears.public_float _
  | _ => cases h

theorem public_arith {op : ArithOp} {a b v : Value} (h : arith op a b = .ok v) : Public S v := by
  unfold arith at h
  split at h
  · split at h
    · exact public_intArith h
    · cases h
  · split at h
    · exact public_intArith h
    · exact public_floatArith h

end Number

theorem Act.public_plainArith {op : ArithOp} {a b v : Value} (h : plainArith op a b = some (.ok v)) : Public S v := by
  unfold plainArith at h
  split at h
  · split at h
    · exact Number.public_intArith (Option.some.inj h)
    · cases h
  · split at h
    · exact Number.public_arith (Option.some.inj h)
    · cases h

/-! ### Entries, comparison and texts -/

namespace Act

variable {α : Type} [Bears α] (c : Caller)

@[grind ←]
theorem confined_typeError (what : String) (v : Value) (naming : Option Naming) : (typeError c what v naming : Act α).Confined S := by
  unfold typeError
  grind

@[grind ←]
theorem confined_binaryHandler (event : String) (a b : Value) : (binaryHandler event a b).Confined S := by
  refine confined_read fun s hs => ?_
  split
  · exact hs.metaEntry b event
  · exact hs.metaEntry a event

/-- Entries are written to tables that are free. -/
theorem confined_rawSet (site : Site) {t : TableId} {key v : Value} (ht : Free S t) (hkey : Public S key) (hv : Public S v) :
    (rawSet site t key v).Confined S := by
  have hwrite : (write (·.setTable t (·.set key v))).Confined S := confined_write fun s hs => hs.setTable ht fun x hx => Bears.public_set hx hkey hv
  unfold rawSet
  grind

@[grind ←]
theorem confined_arith (op : ArithOp) (na nb : Option Naming) {a b : Value} (ha : Public S a) (hb : Public S b) : (arith c op na nb a b).Confined S := by
  have hargs : Public S [a, b] := Bears.public_cons.mpr ⟨ha, Bears.public_singleton.mpr hb⟩
  have hplain {v : Value} (h : plainArith op a b = some (.ok v)) : Public S v := public_plainArith h
  unfold arith
  grind

@[grind ←]
theorem confined_concat (na nb : Option Naming) {a b : Value} (ha : Public S a) (hb : Public S b) : (concat c na nb a b).Confined S := by
  unfold concat
  grind

@[grind ←]
theorem confined_length (naming : Option Naming) {v : Value} (hv : Public S v) : (length c naming v).Confined S := by
  unfold length
  grind

@[grind ←]
theorem confined_equal {a b : Value} (ha : Public S a) (hb : Public S b) : (equal c a b).Confined S := by
  have hargs : Public S [a, b] := Bears.public_cons.mpr ⟨ha, Bears.public_singleton.mpr hb⟩
  unfold equal
  grind

@[grind ←]
theorem confined_orderBy (event name : String) {a b : Value} (ha : Public S a) (hb : Public S b) : (orderBy c event name a b).Confined S := by
  unfold orderBy orderError
  grind

@[grind ←]
theorem confined_less {a b : Value} (ha : Public S a) (hb : Public S b) : (less c a b).Confined S := by
  unfold less
  grind

@[grind ←]
theorem confined_lessEq {a b : Value} (ha : Public S a) (hb : Public S b) : (lessEq c a b).Confined S := by
  unfold lessEq
  grind

@[grind ←]
theorem confined_objectIndex (d : Data) (key : Value) : (objectIndex d key).Confined S := by
  refine confined_convert fun s r hs h => ?_
  obtain ⟨k, -, h⟩ := Store.bind_ok_iff.mp h
  obtain ⟨part, -, h⟩ := Store.bind_ok_iff.mp h
  obtain ⟨hsound, hfree⟩ := hs.shallow h
  exact ⟨hsound, hfree.public⟩

theorem confined_indexWithin (fuel : Nat) (naming : Option Naming) {v key : Value} (hv : Public S v) (hkey : Public S key) :
    (indexWithin c fuel naming v key).Confined S := by
  induction fuel generalizing naming v with
  | zero => exact confined_failText _ _
  | succ fuel ih =>
    unfold indexWithin
    split
    · exact confined_objectIndex _ _
    · refine confined_bind (confined_read fun s hs => ?_) fun found hfound => ?_
      · have htables := hs.tables
        grind
      · obtain ⟨value, handler⟩ := found
        obtain ⟨hvalue, hhandler⟩ := hfound
        have hargs : Public S [v, key] := Bears.public_cons.mpr ⟨hv, Bears.public_singleton.mpr hkey⟩
        dsimp only
        split
        · exact confined_pure hvalue
        · exact confined_typeError c _ _ _
        · exact confined_bind (confined_call (Bears.public_function _) hargs _) fun vs hvs => confined_pure (Bears.public_first hvs)
        · exact ih none hhandler

@[grind ←]
theorem confined_index (naming : Option Naming) {v key : Value} (hv : Public S v) (hkey : Public S key) : (index c naming v key).Confined S :=
  confined_indexWithin c _ naming hv hkey

/-- **A write that consults metatables reaches no module**: a table that has the entry, or whose metatable does not object, is none. -/
theorem confined_setIndexWithin (fuel : Nat) (naming : Option Naming) {v key new : Value} (hv : Public S v) (hkey : Public S key)
    (hnew : Public S new) : (setIndexWithin c fuel naming v key new).Confined S := by
  induction fuel generalizing naming v with
  | zero => exact confined_failText _ _
  | succ fuel ih =>
    unfold setIndexWithin
    split
    · exact confined_raiseFault _
    · exact confined_raiseFault _
    · exact confined_raiseFault _
    · refine confined_bind (confined_convert fun s r hs h => ?_) fun name _ => confined_raiseFault _
      obtain ⟨d, -, h⟩ := Store.bind_ok_iff.mp h
      cases h
      exact ⟨hs, Bears.public_plain d⟩
    · refine confined_read_bind fun s hs => ?_
      have hargs : Public S [v, key, new] := Bears.public_cons.mpr ⟨hv, Bears.public_cons.mpr ⟨hkey, Bears.public_singleton.mpr hnew⟩⟩
      have hhandler : Public S (s.metaEntry v "__newindex") := hs.metaEntry v _
      have hraw (t : TableId) (ht : Free S t) : (rawSet c.site t key new).Confined S := confined_rawSet c.site ht hkey hnew
      have hentry (t : TableId) (ht : v = .table t) (hget : (s.table t).get key ≠ .nil) : Free S t := hs.free_of_entry (ht ▸ hv) hget
      have hsilent (t : TableId) (ht : v = .table t) (hevent : s.metaEntry v "__newindex" = .nil) : Free S t := by
        subst ht
        refine hs.free_of_metaEntry hv "__newindex" fun q _ heq => ?_
        rw [hevent, q.get_newindex] at heq
        cases heq
      grind

@[grind ←]
theorem confined_setIndex (naming : Option Naming) {v key new : Value} (hv : Public S v) (hkey : Public S key) (hnew : Public S new) :
    (setIndex c naming v key new).Confined S :=
  confined_setIndexWithin c _ naming hv hkey hnew

@[grind ←]
theorem confined_textOf {v : Value} (hv : Public S v) : (textOf c v).Confined S := by
  unfold textOf
  grind

@[grind ←]
theorem confined_stableText {v : Value} (hv : Public S v) : (stableText v).Confined S := by
  unfold stableText
  split
  · exact confined_pure (Bears.public_plain _)
  · refine confined_bind (confined_read fun s hs => hs.shownMeta _) fun shown hshown => ?_
    split
    · exact confined_pure (Bears.public_plain _)
    · refine confined_bind (confined_index _ _ hshown (Bears.public_ofText _)) fun handler _ => ?_
      grind
    · exact confined_textOf _ hv
  · exact confined_textOf _ hv

end Act

/-! ## Expressions -/

namespace Act

variable (c : Caller)

@[grind ←]
theorem confined_binary (op : BinaryOp) (na nb : Option Naming) {a b : Value} (ha : Public S a) (hb : Public S b) : (binary c op na nb a b).Confined S := by
  unfold binary
  grind

@[grind ←]
theorem confined_unary (op : UnaryOp) (naming : Option Naming) {a : Value} (ha : Public S a) : (unary c op naming a).Confined S := by
  unfold unary
  grind

@[grind ←]
theorem confined_fill {t : TableId} (ht : Free S t) (start : Nat) {vs : List Value} (hvs : Public S vs) : (fill t start vs).Confined S :=
  confined_write fun _ hs => hs.setTable ht fun x hx => by
    have hroom (layout : Layout) : Public S { x with layout := layout } := hx
    exact Bears.public_foldl_set (hroom _) fun e he => hvs e.1 (List.fst_mem_of_mem_zipIdx he)

theorem confined_newCells {vs : List Value} (hvs : Public S vs) (env : List CellId) : (modifyGet fun s => s.newCells vs env).Confined S :=
  confined_modifyGet (fun _ hs => hs.newCells hvs env) fun _ _ => Bears.public_plain _

theorem confined_setCell (cell : CellId) {v : Value} (hv : Public S v) : (write (·.setCell cell v)).Confined S :=
  confined_write fun _ hs => hs.setCell cell hv

instance : Inert Count := ⟨⟩

theorem confined_count (start limit step : Value) : (count c start limit step).Confined S := by
  unfold count
  dsimp only
  split
  · refine confined_when (confined_failText _ _) fun _ => ?_
    grind
  · split
    · grind
    · grind
    · grind
    · exact confined_when (confined_failText _ _) fun _ => confined_pure (Bears.public_plain _)

end Act

section

variable (sc : Scope)

attribute [local grind ←] Act.confined_rawSet

mutual

/-- One case for each kind of expression. -/
theorem Exp.confined_values (hsc : Public S sc) : (e : Exp) → (e.values sc).Confined S
  | .value v => by
    unfold Exp.values
    grind
  | .varargs => by
    unfold Exp.values
    exact Act.confined_pure hsc
  | .function params takesMore body => by
    unfold Exp.values
    exact Act.confined_modifyGet (fun _ hs => hs.newFunction fun _ h => by cases h) fun _ _ => Bears.public_singleton.mpr (Bears.public_function _)
  | .var v => by
    unfold Exp.values
    grind
  | .index object key line => by
    have hobject := Exp.confined_values hsc object
    have hkey := Exp.confined_values hsc key
    unfold Exp.values
    grind
  | .call callee args line => by
    have hcallee := Exp.confined_values hsc callee
    have hargs := Exp.confined_listValues hsc args
    unfold Exp.values
    grind
  | .method object name args nameLine line => by
    have hobject := Exp.confined_values hsc object
    have hargs := Exp.confined_listValues hsc args
    unfold Exp.values
    grind
  | .binary op left right line => by
    have hleft := Exp.confined_values hsc left
    have hright := Exp.confined_values hsc right
    unfold Exp.values
    grind
  | .unary op operand line => by
    have hoperand := Exp.confined_values hsc operand
    unfold Exp.values
    grind
  | .and left right => by
    have hleft := Exp.confined_values hsc left
    have hright := Exp.confined_values hsc right
    unfold Exp.values
    grind
  | .or left right => by
    have hleft := Exp.confined_values hsc left
    have hright := Exp.confined_values hsc right
    unfold Exp.values
    grind
  | .paren e => by
    have he := Exp.confined_values hsc e
    unfold Exp.values
    grind
  | .table items => by
    unfold Exp.values
    -- the new table is free
    refine Act.confined_modifyGet_bind (fun _ hs => hs.newTable (Bears.public_empty _ _)) fun s hs => ?_
    have hfree : Free S s.tables.size := hs.free_size le_rfl
    refine Act.confined_bind (Item.confined_build hsc items hfree 1 Bears.public_emptyList) fun _ _ => ?_
    exact Act.confined_pure (Bears.public_singleton.mpr hfree.public)

theorem Exp.confined_listValues (hsc : Public S sc) : (es : List Exp) → (Exp.listValues sc es).Confined S
  | [] => by
    unfold Exp.listValues
    grind
  | [e] => by
    have he := Exp.confined_values hsc e
    unfold Exp.listValues
    exact he
  | e :: e' :: es => by
    have he := Exp.confined_values hsc e
    have hes := Exp.confined_listValues hsc (e' :: es)
    unfold Exp.listValues
    grind

theorem Item.confined_build (hsc : Public S sc) : (items : List Item) → ∀ {t : TableId}, Free S t → ∀ (start : Nat) {waiting : List Value},
    Public S waiting → (Item.build sc t start waiting items).Confined S
  | [], _, ht, _, _, hwaiting => by
    unfold Item.build
    exact Act.confined_fill ht _ hwaiting
  | [.positional e], _, ht, _, _, hwaiting => by
    have he := Exp.confined_values hsc e
    unfold Item.build
    grind
  | .positional e :: item :: rest, _, ht, _, _, hwaiting => by
    have he := Exp.confined_values hsc e
    have hrest (start : Nat) {waiting : List Value} (hwaiting : Public S waiting) := Item.confined_build hsc (item :: rest) ht start hwaiting
    unfold Item.build
    grind
  | .keyed key value line :: rest, _, ht, _, _, hwaiting => by
    have hkey := Exp.confined_values hsc key
    have hvalue := Exp.confined_values hsc value
    have hrest (start : Nat) {waiting : List Value} (hwaiting : Public S waiting) := Item.confined_build hsc rest ht start hwaiting
    unfold Item.build
    grind

end

theorem Exp.confined_eval (hsc : Public S sc) (e : Exp) : (e.eval sc).Confined S := by
  have he := Exp.confined_values sc hsc e
  unfold Exp.eval
  grind

instance : Bears Target := ⟨fun S t => ∀ object key naming, t = .entry object key naming → Public S object ∧ Public S key⟩

theorem Exp.confined_target (hsc : Public S sc) (e : Exp) : (e.target sc).Confined S := by
  have heval := Exp.confined_eval sc hsc
  have hcell (cell : CellId) : Public S (Target.cell cell) := fun _ _ _ h => by cases h
  have hentry {object key : Value} (naming : Option Naming) (hobject : Public S object) (hkey : Public S key) :
      Public S (Target.entry object key naming) := fun _ _ _ h => by
    cases h
    exact ⟨hobject, hkey⟩
  unfold Exp.target
  grind

theorem Exp.confined_targets (hsc : Public S sc) (es : List Exp) : (Exp.targets sc es).Confined S := by
  have htarget := Exp.confined_target sc hsc
  induction es with
  | nil => exact Act.confined_pure Bears.public_emptyList
  | cons e es ih =>
    unfold Exp.targets
    grind

theorem Target.confined_write (c : Caller) {t : Target} {v : Value} (ht : Public S t) (hv : Public S v) : (t.write c v).Confined S := by
  cases t with
  | cell cell => exact Act.confined_setCell cell hv
  | entry object key naming =>
    obtain ⟨hobject, hkey⟩ := ht object key naming rfl
    exact Act.confined_setIndex c naming hobject hkey hv

theorem Target.confined_writeAll (c : Caller) {ts : List (Target × Value)} (hts : Public S ts) : (Target.writeAll c ts).Confined S := by
  induction ts with
  | nil => exact Act.confined_pure (Bears.public_plain ())
  | cons t ts ih =>
    obtain ⟨⟨ht, hv⟩, hts⟩ := Bears.public_cons.mp hts
    unfold Target.writeAll
    exact Act.confined_bind (ih hts) fun _ _ => Target.confined_write c ht hv

end

/-! ## Statements -/

/-- Ways out that are confined programs. -/
structure Exits.Confined (S : List Seal) (ex : Exits Prog) : Prop where
  finish : ∀ sc, Public S sc → (ex.finish sc).Confined S
  leave : (ex.leave ()).Confined S
  labels : ∀ label ∈ ex.labels, ∀ sc, Public S sc → (label.2.2 sc).Confined S

namespace Exits.Confined

variable {ex : Exits Prog} {sc : Scope}

theorem run (h : ex.Confined S) (all rest : List Stat) (hsc : Public S sc) : (Prog.run all rest sc ex).Confined S :=
  .run hsc h.finish h.leave h.labels

theorem finishing (h : ex.Confined S) {finish : Scope → Prog} (hf : ∀ sc, Public S sc → (finish sc).Confined S) :
    ({ ex with finish := finish }).Confined S :=
  ⟨hf, h.leave, h.labels⟩

theorem loop (h : ex.Confined S) (hsc : Public S sc) {finish : Scope → Prog} (hf : ∀ sc, Public S sc → (finish sc).Confined S) :
    (ex.loop sc finish).Confined S :=
  ⟨hf, h.finish sc hsc, h.labels⟩

theorem before (h : ex.Confined S) {wrap : Prog → Prog} (hw : ∀ p, p.Confined S → (wrap p).Confined S) : (ex.before wrap).Confined S where
  finish sc hsc := hw _ (h.finish sc hsc)
  leave := hw _ h.leave
  labels label hlabel sc hsc := by
    obtain ⟨inner, hinner, rfl⟩ := List.mem_map.mp hlabel
    exact hw _ (h.labels inner hinner sc hsc)

end Exits.Confined

section

variable {ex : Exits Prog} {sc : Scope}

theorem jump_confined (h : ex.Confined S) (hsc : Public S sc) (name : ByteArray) : (jump sc ex name).Confined S := by
  unfold jump
  split
  · next label depth go hfind => exact h.labels _ (List.mem_of_find?_eq_some hfind) _ hsc
  · exact .done Bears.public_emptyList

theorem open_confined (h : ex.Confined S) (sc : Scope) (line : Nat) {v : Value} (hv : Public S v) {next : Exits Prog → Prog}
    (hnext : ∀ ex', ex'.Confined S → (next ex').Confined S) : (open' sc line v ex next).Confined S := by
  unfold open'
  split
  · exact hnext ex h
  · refine Act.confined_read (fun s hs => hs.metaEntry v _) _ fun handler _ => ?_
    split
    · exact .raise (Act.public_siteText _ _)
    · exact .opened hv (hnext _ (h.before fun p hp => .closed hp))

theorem public_closingValue {attributes : List Attribute} {vs : List Value} (h : Public S vs) : Public S (closingValue attributes vs) := by
  induction attributes generalizing vs with
  | nil => exact Bears.public_none
  | cons a attributes ih =>
    cases vs with
    | nil =>
      cases a with
      | closing | none | constant => exact Bears.public_none
    | cons v vs =>
      obtain ⟨hv, hvs⟩ := Bears.public_cons.mp h
      cases a with
      | closing => exact Bears.public_some.mpr hv
      | none => exact ih hvs
      | constant => exact ih hvs

/-- One case for each kind of statement. -/
theorem Stat.exec_confined (s : Stat) (hsc : Public S sc) (h : ex.Confined S) {next : Scope → Exits Prog → Prog}
    (hnext : ∀ sc' ex', Public S sc' → ex'.Confined S → (next sc' ex').Confined S) : (s.exec sc ex next).Confined S := by
  have hbehind : ({ ex with finish := fun _ => next sc ex }).Confined S := h.finishing fun _ _ => hnext sc ex hsc h
  have hwith (cells : List CellId) : Public S { sc with cells := cells } := hsc
  cases s with
  | declare attributes values line =>
    refine Exp.confined_listValues sc hsc values _ fun vs hvs => ?_
    refine Act.confined_newCells (Bears.public_adjust hvs _) _ _ fun cells _ => ?_
    split
    · next v hv => exact open_confined h sc line (public_closingValue (Bears.public_adjust hvs _) v hv) fun ex' h' => hnext _ ex' (hwith cells) h'
    · exact hnext _ ex (hwith cells) h
  | declareFunction f =>
    refine Act.confined_newCell Bears.public_nil _ fun c _ => ?_
    refine Exp.confined_eval _ (hwith _) f _ fun v hv => ?_
    exact Act.confined_setCell c hv _ fun _ _ => hnext _ ex (hwith _) h
  | assign targets values line =>
    refine Exp.confined_targets sc hsc targets _ fun ts hts => ?_
    refine Exp.confined_listValues sc hsc values _ fun vs hvs => ?_
    refine Target.confined_writeAll _ (fun e he => ?_) _ fun _ _ => hnext sc ex hsc h
    obtain ⟨t, v⟩ := e
    exact ⟨hts t (List.of_mem_zip he).1, Bears.public_adjust hvs _ v (List.of_mem_zip he).2⟩
  | perform call => exact Exp.confined_values sc hsc call _ fun _ _ => hnext sc ex hsc h
  | block body => exact hbehind.run _ _ hsc
  | whileLoop condition body => exact hbehind.run _ _ hsc
  | whileRound condition body =>
    refine Exp.confined_eval sc hsc condition _ fun v _ => ?_
    split
    · exact (h.loop hsc fun _ _ => h.run _ _ hsc).run _ _ hsc
    · exact h.finish sc hsc
  | repeatLoop body condition => exact hbehind.run _ _ hsc
  | repeatRound body condition =>
    refine (h.loop hsc fun inner _ => ?_).run _ _ hsc
    refine Exp.confined_eval _ (hwith _) condition _ fun v _ => ?_
    split
    · exact h.finish sc hsc
    · exact h.run _ _ hsc
  | branch condition body otherwise =>
    exact Exp.confined_eval sc hsc condition _ fun v _ => hbehind.run _ _ hsc
  | numericFor start limit step body line =>
    refine Exp.confined_eval sc hsc start _ fun a _ => ?_
    refine Exp.confined_eval sc hsc limit _ fun b _ => ?_
    refine Exp.confined_eval sc hsc step _ fun d _ => ?_
    refine Act.confined_count _ a b d _ fun count _ => ?_
    split
    · exact hnext sc ex hsc h
    · exact hbehind.run _ _ hsc
    · exact hbehind.run _ _ hsc
  | counting i step left body =>
    refine Act.confined_newCell (Bears.public_int i) _ fun c _ => ?_
    refine (h.loop hsc fun _ _ => ?_).run _ _ (hwith _)
    split
    · exact h.finish sc hsc
    · exact h.run _ _ hsc
  | stepping x limit step body =>
    refine Act.confined_newCell (Bears.public_float x) _ fun c _ => ?_
    refine (h.loop hsc fun _ _ => ?_).run _ _ (hwith _)
    dsimp only
    split_ifs
    · exact h.run _ _ hsc
    · exact h.finish sc hsc
    · exact h.run _ _ hsc
    · exact h.finish sc hsc
  | genericFor names values body line =>
    refine Exp.confined_listValues sc hsc values _ fun vs hvs => ?_
    refine Act.confined_newCell (Bears.public_arg hvs 0) _ fun iterator _ => ?_
    refine Act.confined_newCell (Bears.public_arg hvs 1) _ fun state _ => ?_
    refine Act.confined_newCell (Bears.public_arg hvs 2) _ fun control _ => ?_
    exact open_confined hbehind sc line (Bears.public_arg hvs 3) fun ex' h' => h'.run _ _ hsc
  | drawing iterator state control names body line =>
    unfold Stat.exec
    refine Act.confined_read (fun _ hs => hs.cells iterator) _ fun f hf => ?_
    refine Act.confined_read (fun _ hs => hs.cells state) _ fun v hv => ?_
    refine Act.confined_read (fun _ hs => hs.cells control) _ fun last hlast => ?_
    refine Act.confined_call hf (Bears.public_cons.mpr ⟨hv, Bears.public_singleton.mpr hlast⟩) _ _ fun vs hvs => ?_
    split
    · exact h.finish sc hsc
    · refine Act.confined_setCell _ (Bears.public_first hvs) _ fun _ _ => ?_
      refine Act.confined_newCells (Bears.public_adjust hvs _) _ _ fun cells _ => ?_
      exact (h.loop hsc fun _ _ => h.run _ _ hsc).run _ _ (hwith _)
  | give values => exact Exp.confined_listValues sc hsc values _ fun vs hvs => .done hvs
  | giveCall call =>
    cases call with
    | call callee args line =>
      refine Exp.confined_eval sc hsc callee _ fun f hf => ?_
      exact Exp.confined_listValues sc hsc args _ fun vs hvs => .pass hf hvs
    | method object name args nameLine line =>
      refine Exp.confined_eval sc hsc object _ fun o ho => ?_
      refine Act.confined_index _ _ ho (Bears.public_str _) _ fun f hf => ?_
      exact Exp.confined_listValues sc hsc args _ fun vs hvs => .pass hf (Bears.public_cons.mpr ⟨ho, hvs⟩)
    | _ => exact Exp.confined_values sc hsc _ _ fun vs hvs => .done hvs
  | breakLoop => exact h.leave
  | goto name => exact jump_confined h hsc name
  | label name depth => exact hnext sc ex hsc h

theorem Stat.execAll_confined (rest : List Stat) (hsc : Public S sc) (h : ex.Confined S) : (Stat.execAll rest sc ex).Confined S := by
  induction rest generalizing sc ex with
  | nil => exact h.finish sc hsc
  | cons s rest ih => exact s.exec_confined hsc h fun sc' ex' hsc' h' => ih hsc' h'

theorem runBlock_confined (all rest : List Stat) (hsc : Public S sc) (h : ex.Confined S) : (runBlock all rest sc ex).Confined S := by
  refine Stat.execAll_confined rest hsc ⟨h.finish, h.leave, fun label hlabel sc' hsc' => ?_⟩
  rcases List.mem_append.mp hlabel with hown | houter
  · obtain ⟨inner, -, rfl⟩ := List.mem_map.mp hown
    exact h.run _ _ hsc'
  · exact h.labels label houter sc' hsc'

/-- **The program of a function's body is confined.** -/
theorem Stat.body_confined (body : List Stat) (hsc : Public S sc) : (Stat.body body sc).Confined S :=
  .run hsc (fun _ _ => .done Bears.public_emptyList) (.done Bears.public_emptyList) fun _ h => by cases h

end

end ScriptFlow.Script
