import Mathlib
import ScriptFlow.Proofs.Script.Conversion
import ScriptFlow.Script.Machine

/-!
# Programs that load scripts in order

Of all that a function under way can do, only `require` touches the loader, and it does so in one way: it marks a script as loading that is neither loaded nor
being loaded, and loads it at once. `Prog.Orderly` says so of a program, whatever it is answered; `Act.Orderly` of a part of a program.

* `Act.Orderly` — closed under what acts are made of, and true of every operator, expression and statement.
* `Stat.body_orderly` — the program of a function's body is orderly.
-/

namespace ScriptFlow.Script

/-- A script may start: its source reads as these statements, and it is neither loaded nor being loaded. -/
structure Loader.MayStart (l : Loader) (path : String) (body : List Stat) : Prop where
  reads : ∃ text, l.source? path = some text ∧ parseScript path text = .ok body
  fresh : l.loaded? path = none
  idle : path ∉ l.loading

/-- A program that leaves a loader alone, but for scripts that it starts because they may start. What a call, a question or a jump comes back with finds any
loader. -/
inductive Prog.Orderly : Loader → Prog → Prop where
  | done {l : Loader} (vs : List Value) : Orderly l (.done vs)
  | raise {l : Loader} (e : Value) : Orderly l (.raise e)
  | unwind {l : Loader} (e : Value) : Orderly l (.unwind e)
  | touch {l : Loader} {f : Store → Store × Prog} (hl : ∀ s, s.loader = l → (f s).1.loader = l)
      (hn : ∀ s, s.loader = l → Orderly l (f s).2) : Orderly l (.touch f)
  | starts {l : Loader} {f : Store → Store × Prog} {path : String} {body : List Stat} {globals : TableId} (h : l.MayStart path body)
      (hf : ∀ s, s.loader = l → f s = ({ s with loader := l.start path }, .load path body globals)) : Orderly l (.touch f)
  | call {l : Loader} {v : Value} {args : List Value} {how : CallSite} {next : List Value → Prog} (h : ∀ vs l', Orderly l' (next vs)) :
      Orderly l (.call v args how next)
  | pass {l : Loader} (v : Value) (args : List Value) (how : CallSite) : Orderly l (.pass v args how)
  | guard {l : Loader} {v : Value} {args : List Value} {handler : Option Value} {next : Except Value (List Value) → Prog}
      (h : ∀ r l', Orderly l' (next r)) : Orderly l (.guard v args handler next)
  | places {l : Loader} {next : List Site → Prog} (h : ∀ sites, Orderly l (next sites)) : Orderly l (.places next)
  | host {l : Loader} {request : HostCall} {next : HostReply → Prog} (h : ∀ r l', Orderly l' (next r)) : Orderly l (.host request next)
  | run {l : Loader} {all rest : List Stat} {scope : Scope} {exits : Exits Prog} (hfinish : ∀ sc l', Orderly l' (exits.finish sc))
      (hleave : ∀ l', Orderly l' (exits.leave ())) (hlabels : ∀ label ∈ exits.labels, ∀ sc l', Orderly l' (label.2.2 sc)) :
      Orderly l (.run all rest scope exits)
  | opened {l : Loader} {v : Value} {next : Prog} (h : Orderly l next) : Orderly l (.opened v next)
  | closed {l : Loader} {how : CallSite} {next : Prog} (h : ∀ l', Orderly l' next) : Orderly l (.closed how next)

/-- A part of a program that is orderly, whatever orderly program comes after it. -/
def Act.Orderly {α : Type} (m : Act α) : Prop := ∀ k : α → Prog, (∀ a l, (k a).Orderly l) → ∀ l, (m k).Orderly l

/-! ## Stores -/

namespace Store

theorem loader_shallow {s : Store} {d : Data} {r : Store × Value} (h : s.shallow d = .ok r) : r.1.loader = s.loader := by
  cases d with
  | int n =>
    simp only [shallow] at h
    split at h <;> cases h
    rfl
  | _ =>
    cases h
    all_goals rfl

theorem loader_keyOf {s : Store} {d : Data} {r : Store × Value} (h : s.keyOf d = .ok r) : r.1.loader = s.loader := by
  unfold keyOf at h
  split at h
  · cases h
    rfl
  · exact loader_shallow h

mutual

/-- Data that is brought into a script leaves the loader. -/
theorem loader_ofData : (d : Data) → ∀ {s : Store} {r : Store × Value}, s.ofData d = .ok r → r.1.loader = s.loader
  | .list xs | .tuple xs => fun h => by
    unfold ofData at h
    obtain ⟨s', hs', h⟩ := bind_ok_iff.mp h
    cases h
    exact (loader_ofItems xs hs').trans rfl
  | .dict es => fun h => by
    unfold ofData at h
    obtain ⟨s', hs', h⟩ := bind_ok_iff.mp h
    cases h
    exact (loader_ofEntries es hs').trans rfl
  | .null | .bool _ | .int _ | .float _ | .str _ | .looseText _ | .bytes _ | .span _ | .instant _ | .execution .. | .fault _ | .anything
  | .foreign .. => fun h => by
    unfold ofData at h
    exact loader_shallow h

theorem loader_ofItems : (xs : List Data) → ∀ {s s' : Store} {t : TableId} {i : Nat}, s.ofItems t i xs = .ok s' → s'.loader = s.loader
  | [], _, _, _, _, h => by
    cases h
    rfl
  | x :: xs, _, _, _, _, h => by
    unfold ofItems at h
    obtain ⟨r, hr, h⟩ := bind_ok_iff.mp h
    exact (loader_ofItems xs h).trans (loader_ofData x hr)

theorem loader_ofEntries : (es : List (Data × Data)) → ∀ {s s' : Store} {t : TableId}, s.ofEntries t es = .ok s' → s'.loader = s.loader
  | [], _, _, _, h => by
    cases h
    rfl
  | (_, x) :: es, _, _, _, h => by
    unfold ofEntries at h
    obtain ⟨r, hr, h⟩ := bind_ok_iff.mp h
    obtain ⟨key, hkey, h⟩ := bind_ok_iff.mp h
    exact (loader_ofEntries es h).trans ((loader_keyOf hkey).trans (loader_ofData x hr))

end

theorem loader_newCells (s : Store) (vs : List Value) (env : List CellId) : (s.newCells vs env).1.loader = s.loader := by
  induction vs generalizing s env with
  | nil => rfl
  | cons v vs ih => exact ih (s.newCell v).1 ((s.newCell v).2 :: env)

end Store

/-! ## What acts are made of -/

namespace Act

variable {α β : Type}

theorem bind_apply (m : Act α) (f : α → Act β) (k : β → Prog) : (m >>= f) k = m fun a => f a k := rfl

theorem read_apply (f : Store → α) (k : α → Prog) : read f k = .touch fun s => (s, k (f s)) := rfl

theorem ite_apply (p : Prop) [Decidable p] (m m' : Act α) (k : α → Prog) : (if p then m else m') k = if p then m k else m' k := by
  split <;> rfl

@[grind ←]
theorem orderly_pure (a : α) : (pure a : Act α).Orderly := fun _ hk l => hk a l

@[grind ←]
theorem orderly_bind {m : Act α} {f : α → Act β} (hm : m.Orderly) (hf : ∀ a, (f a).Orderly) : (m >>= f).Orderly :=
  fun k hk l => hm _ (fun a l => hf a k hk l) l

theorem orderly_ite {p : Prop} [Decidable p] {m m' : Act α} (hm : m.Orderly) (hm' : m'.Orderly) : (if p then m else m').Orderly := by
  split
  · exact hm
  · exact hm'

/-- Something is done on the way, or not. -/
theorem orderly_when {p : Prop} [Decidable p] {m : Act PUnit} {f : PUnit → Act α} (hm : m.Orderly) (hf : ∀ u, (f u).Orderly) :
    (if p then m >>= f else f ⟨⟩).Orderly :=
  orderly_ite (orderly_bind hm hf) (hf ⟨⟩)

@[grind ←]
theorem orderly_discard {m : Act α} (hm : m.Orderly) : (discard m).Orderly := by
  have hdiscard : discard m = m >>= fun _ => pure () := rfl
  rw [hdiscard]
  exact orderly_bind hm fun _ => orderly_pure ()

instance : LawfulMonad Act := .mk' Act (fun _ => rfl) (fun _ _ => rfl) (fun _ _ _ => rfl)

theorem orderly_mapM {f : α → Act β} (hf : ∀ a, (f a).Orderly) (as : List α) : (as.mapM f).Orderly := by
  induction as with
  | nil => exact orderly_pure []
  | cons a as ih =>
    rw [List.mapM_cons]
    exact orderly_bind (hf a) fun b => orderly_bind ih fun bs => orderly_pure (b :: bs)

@[grind ←]
theorem orderly_raise (e : Value) : (raise e : Act α).Orderly := fun _ _ _ => .raise e

@[grind ←]
theorem orderly_fail (site : Site) (message : ByteArray) : (fail site message : Act α).Orderly := orderly_raise _

@[grind ←]
theorem orderly_failText (site : Site) (message : String) : (failText site message : Act α).Orderly := orderly_raise _

@[grind ←]
theorem orderly_read (f : Store → α) : (read f).Orderly := fun _ hk _ => .touch (fun _ hs => hs) fun _ _ => hk _ _

theorem orderly_write {f : Store → Store} (hf : ∀ s, (f s).loader = s.loader) : (write f).Orderly :=
  fun _ hk _ => .touch (fun s hs => (hf s).trans hs) fun _ _ => hk _ _

theorem orderly_modifyGet {f : Store → Store × α} (hf : ∀ s, (f s).1.loader = s.loader) : (modifyGet f).Orderly :=
  fun _ hk _ => .touch (fun s hs => (hf s).trans hs) fun _ _ => hk _ _

theorem orderly_convert {f : Store → Except Fault (Store × α)} (hf : ∀ s r, f s = .ok r → r.1.loader = s.loader) : (convert f).Orderly := by
  intro k hk l
  refine .touch (fun s hs => ?_) fun s _ => ?_
  · cases hr : f s with
    | ok r => exact (hf s r hr).trans hs
    | error e => exact hs
  · cases hr : f s with
    | ok r => exact hk r.2 l
    | error e => exact .raise _

@[grind ←]
theorem orderly_raiseFault (e : Fault) : (raiseFault e : Act α).Orderly := orderly_convert fun _ _ h => nomatch h

@[grind ←]
theorem orderly_call (v : Value) (args : List Value) (how : CallSite) : (call v args how).Orderly := fun _ hk _ => .call hk

@[grind ←]
theorem orderly_guard (v : Value) (args : List Value) (handler : Option Value) : (guard v args handler).Orderly := fun _ hk _ => .guard hk

@[grind ←]
theorem orderly_places : places.Orderly := fun _ hk l => .places fun sites => hk sites l

@[grind ←]
theorem orderly_host (request : HostCall) : (host request).Orderly := fun _ hk _ => .host hk

@[grind ←]
theorem orderly_newTable (t : Table) : (newTable t).Orderly := orderly_modifyGet fun _ => rfl

@[grind ←]
theorem orderly_newNative (f : Native) : (newNative f).Orderly := orderly_modifyGet fun _ => rfl

@[grind ←]
theorem orderly_newCell (v : Value) : (newCell v).Orderly := orderly_modifyGet fun _ => rfl

@[grind ←]
theorem orderly_table (t : TableId) : (table t).Orderly := orderly_read _

end Act

/-! ## Operators -/

namespace Act

variable {α : Type} (c : Caller)

@[grind ←]
theorem orderly_typeError (what : String) (v : Value) (naming : Option Naming) : (typeError c what v naming : Act α).Orderly := by
  unfold typeError
  grind

@[grind ←]
theorem orderly_binaryHandler (event : String) (a b : Value) : (binaryHandler event a b).Orderly := orderly_read _

@[grind ←]
theorem orderly_rawSet (site : Site) (t : TableId) (key v : Value) : (rawSet site t key v).Orderly := by
  have hwrite : (write (·.setTable t (·.set key v))).Orderly := orderly_write fun _ => rfl
  unfold rawSet
  grind

@[grind ←]
theorem orderly_arith (op : ArithOp) (na nb : Option Naming) (a b : Value) : (arith c op na nb a b).Orderly := by
  unfold arith
  grind

@[grind ←]
theorem orderly_concat (na nb : Option Naming) (a b : Value) : (concat c na nb a b).Orderly := by
  unfold concat
  grind

@[grind ←]
theorem orderly_length (naming : Option Naming) (v : Value) : (length c naming v).Orderly := by
  unfold length
  grind

@[grind ←]
theorem orderly_equal (a b : Value) : (equal c a b).Orderly := by
  unfold equal
  grind

@[grind ←]
theorem orderly_orderBy (event name : String) (a b : Value) : (orderBy c event name a b).Orderly := by
  unfold orderBy orderError
  grind

@[grind ←]
theorem orderly_less (a b : Value) : (less c a b).Orderly := by
  unfold less
  grind

@[grind ←]
theorem orderly_lessEq (a b : Value) : (lessEq c a b).Orderly := by
  unfold lessEq
  grind

/-! ### Entries and texts -/

@[grind ←]
theorem orderly_objectIndex (d : Data) (key : Value) : (objectIndex d key).Orderly := by
  refine orderly_convert fun s r h => ?_
  obtain ⟨k, -, h⟩ := Store.bind_ok_iff.mp h
  obtain ⟨part, -, h⟩ := Store.bind_ok_iff.mp h
  exact Store.loader_shallow h

theorem orderly_indexWithin (fuel : Nat) (naming : Option Naming) (v key : Value) : (indexWithin c fuel naming v key).Orderly := by
  induction fuel generalizing naming v with
  | zero => exact orderly_failText _ _
  | succ fuel ih =>
    unfold indexWithin
    grind

@[grind ←]
theorem orderly_index (naming : Option Naming) (v key : Value) : (index c naming v key).Orderly := orderly_indexWithin c _ naming v key

theorem orderly_setIndexWithin (fuel : Nat) (naming : Option Naming) (v key new : Value) :
    (setIndexWithin c fuel naming v key new).Orderly := by
  induction fuel generalizing naming v with
  | zero => exact orderly_failText _ _
  | succ fuel ih =>
    have hname : (convert fun s => do let d ← s.toData key; pure (s, d)).Orderly := orderly_convert fun s r h => by
      obtain ⟨d, -, h⟩ := Store.bind_ok_iff.mp h
      cases h
      rfl
    unfold setIndexWithin
    grind

@[grind ←]
theorem orderly_setIndex (naming : Option Naming) (v key new : Value) : (setIndex c naming v key new).Orderly :=
  orderly_setIndexWithin c _ naming v key new

@[grind ←]
theorem orderly_textOf (v : Value) : (textOf c v).Orderly := by
  unfold textOf
  grind

@[grind ←]
theorem orderly_stableText (v : Value) : (stableText v).Orderly := by
  unfold stableText
  grind

end Act

/-! ## Expressions -/

namespace Act

variable (c : Caller)

@[grind ←]
theorem orderly_binary (op : BinaryOp) (na nb : Option Naming) (a b : Value) : (binary c op na nb a b).Orderly := by
  unfold binary
  grind

@[grind ←]
theorem orderly_unary (op : UnaryOp) (naming : Option Naming) (a : Value) : (unary c op naming a).Orderly := by
  unfold unary
  grind

@[grind ←]
theorem orderly_fill (t : TableId) (start : Nat) (vs : List Value) : (fill t start vs).Orderly := orderly_write fun _ => rfl

theorem orderly_newCells (vs : List Value) (env : List CellId) : (modifyGet fun s => s.newCells vs env).Orderly :=
  orderly_modifyGet fun s => s.loader_newCells vs env

theorem orderly_setCell (cell : CellId) (v : Value) : (write (·.setCell cell v)).Orderly := orderly_write fun _ => rfl

theorem orderly_count (start limit step : Value) : (count c start limit step).Orderly := by
  unfold count
  dsimp only
  split
  · refine orderly_when (orderly_failText _ _) fun _ => ?_
    grind
  · split
    · grind
    · grind
    · grind
    · exact orderly_when (orderly_failText _ _) fun _ => orderly_pure _

end Act

section

variable (sc : Scope)

mutual

/-- One case for each kind of expression. -/
theorem Exp.orderly_values : (e : Exp) → (e.values sc).Orderly
  | .value v => by
    unfold Exp.values
    grind
  | .varargs => by
    unfold Exp.values
    grind
  | .function params takesMore body => Act.orderly_modifyGet fun _ => rfl
  | .var v => by
    unfold Exp.values
    grind
  | .index object key line => by
    have hobject := Exp.orderly_values object
    have hkey := Exp.orderly_values key
    unfold Exp.values
    grind
  | .call callee args line => by
    have hcallee := Exp.orderly_values callee
    have hargs := Exp.orderly_listValues args
    unfold Exp.values
    grind
  | .method object name args nameLine line => by
    have hobject := Exp.orderly_values object
    have hargs := Exp.orderly_listValues args
    unfold Exp.values
    grind
  | .binary op left right line => by
    have hleft := Exp.orderly_values left
    have hright := Exp.orderly_values right
    unfold Exp.values
    grind
  | .unary op operand line => by
    have hoperand := Exp.orderly_values operand
    unfold Exp.values
    grind
  | .and left right => by
    have hleft := Exp.orderly_values left
    have hright := Exp.orderly_values right
    unfold Exp.values
    grind
  | .or left right => by
    have hleft := Exp.orderly_values left
    have hright := Exp.orderly_values right
    unfold Exp.values
    grind
  | .paren e => by
    have he := Exp.orderly_values e
    unfold Exp.values
    grind
  | .table items => by
    have hitems := Item.orderly_build items
    unfold Exp.values
    exact Act.orderly_bind (Act.orderly_modifyGet fun _ => rfl) fun t => by grind

theorem Exp.orderly_listValues : (es : List Exp) → (Exp.listValues sc es).Orderly
  | [] => by
    unfold Exp.listValues
    grind
  | [e] => by
    have he := Exp.orderly_values e
    unfold Exp.listValues
    exact he
  | e :: e' :: es => by
    have he := Exp.orderly_values e
    have hes := Exp.orderly_listValues (e' :: es)
    unfold Exp.listValues
    grind

theorem Item.orderly_build : (items : List Item) → ∀ (t : TableId) (start : Nat) (waiting : List Value), (Item.build sc t start waiting items).Orderly
  | [], _, _, _ => by
    unfold Item.build
    grind
  | [.positional e], _, _, _ => by
    have he := Exp.orderly_values e
    unfold Item.build
    grind
  | .positional e :: item :: rest, _, _, _ => by
    have he := Exp.orderly_values e
    have hrest := Item.orderly_build (item :: rest)
    unfold Item.build
    grind
  | .keyed key value line :: rest, _, _, _ => by
    have hkey := Exp.orderly_values key
    have hvalue := Exp.orderly_values value
    have hrest := Item.orderly_build rest
    unfold Item.build
    grind

end

theorem Exp.orderly_eval (e : Exp) : (e.eval sc).Orderly := by
  have he := Exp.orderly_values sc e
  unfold Exp.eval
  grind

theorem Exp.orderly_target (e : Exp) : (e.target sc).Orderly := by
  have heval := Exp.orderly_eval sc
  unfold Exp.target
  grind

theorem Exp.orderly_targets (es : List Exp) : (Exp.targets sc es).Orderly := by
  have htarget := Exp.orderly_target sc
  induction es with
  | nil => exact Act.orderly_pure []
  | cons e es ih =>
    unfold Exp.targets
    grind

theorem Target.orderly_write (c : Caller) (t : Target) (v : Value) : (t.write c v).Orderly := by
  cases t with
  | cell cell => exact Act.orderly_setCell cell v
  | entry object key naming => exact Act.orderly_setIndex c naming object key v

theorem Target.orderly_writeAll (c : Caller) (ts : List (Target × Value)) : (Target.writeAll c ts).Orderly := by
  have hwrite := Target.orderly_write c
  induction ts with
  | nil => exact Act.orderly_pure ()
  | cons t ts ih =>
    unfold Target.writeAll
    grind

end

/-! ## Statements -/

/-- Ways out that are orderly programs. -/
structure Exits.Orderly (ex : Exits Prog) : Prop where
  finish : ∀ sc l, (ex.finish sc).Orderly l
  leave : ∀ l, (ex.leave ()).Orderly l
  labels : ∀ label ∈ ex.labels, ∀ sc l, (label.2.2 sc).Orderly l

namespace Exits.Orderly

variable {ex : Exits Prog}

theorem run (h : ex.Orderly) (all rest : List Stat) (sc : Scope) (l : Loader) : (Prog.run all rest sc ex).Orderly l :=
  .run h.finish h.leave h.labels

theorem finishing (h : ex.Orderly) {finish : Scope → Prog} (hf : ∀ sc l, (finish sc).Orderly l) : ({ ex with finish := finish }).Orderly :=
  ⟨hf, h.leave, h.labels⟩

theorem loop (h : ex.Orderly) (sc : Scope) {finish : Scope → Prog} (hf : ∀ sc l, (finish sc).Orderly l) : (ex.loop sc finish).Orderly :=
  ⟨hf, h.finish sc, h.labels⟩

theorem before (h : ex.Orderly) {wrap : Prog → Prog} (hw : ∀ p, (∀ l, p.Orderly l) → ∀ l, (wrap p).Orderly l) : (ex.before wrap).Orderly where
  finish sc := hw _ (h.finish sc)
  leave := hw _ h.leave
  labels label hlabel sc := by
    obtain ⟨inner, hinner, rfl⟩ := List.mem_map.mp hlabel
    exact hw _ (h.labels inner hinner sc)

end Exits.Orderly

section

variable {ex : Exits Prog}

theorem jump_orderly (h : ex.Orderly) (sc : Scope) (name : ByteArray) (l : Loader) : (jump sc ex name).Orderly l := by
  unfold jump
  split
  · next label depth go hfind => exact h.labels _ (List.mem_of_find?_eq_some hfind) _ l
  · exact .done []

theorem open_orderly (h : ex.Orderly) (sc : Scope) (line : Nat) (v : Value) {next : Exits Prog → Prog}
    (hnext : ∀ ex', ex'.Orderly → ∀ l, (next ex').Orderly l) (l : Loader) : (open' sc line v ex next).Orderly l := by
  unfold open'
  split
  · exact hnext ex h l
  · refine Act.orderly_read _ _ (fun handler l => ?_) l
    split
    · exact .raise _
    · exact .opened (hnext _ (h.before fun p hp l => .closed hp) l)

/-- One case for each kind of statement. -/
theorem Stat.exec_orderly (s : Stat) (sc : Scope) (h : ex.Orderly) {next : Scope → Exits Prog → Prog}
    (hnext : ∀ sc' ex', ex'.Orderly → ∀ l, (next sc' ex').Orderly l) (l : Loader) : (s.exec sc ex next).Orderly l := by
  have hbehind : ({ ex with finish := fun _ => next sc ex }).Orderly := h.finishing fun _ => hnext sc ex h
  cases s with
  | declare attributes values line =>
    refine Exp.orderly_listValues sc values _ (fun vs l => ?_) l
    refine Act.orderly_newCells _ _ _ (fun cells l => ?_) l
    split
    · exact open_orderly h sc line _ (hnext _) l
    · exact hnext _ ex h l
  | declareFunction f =>
    refine Act.orderly_newCell _ _ (fun c l => ?_) l
    refine Exp.orderly_eval _ f _ (fun v l => ?_) l
    exact Act.orderly_setCell c v _ (fun _ => hnext _ ex h) l
  | assign targets values line =>
    refine Exp.orderly_targets sc targets _ (fun ts l => ?_) l
    refine Exp.orderly_listValues sc values _ (fun vs l => ?_) l
    exact Target.orderly_writeAll _ _ _ (fun _ => hnext sc ex h) l
  | perform call => exact Exp.orderly_values sc call _ (fun _ => hnext sc ex h) l
  | block body => exact hbehind.run _ _ _ l
  | whileLoop condition body => exact hbehind.run _ _ _ l
  | whileRound condition body =>
    refine Exp.orderly_eval sc condition _ (fun v l => ?_) l
    split
    · exact (h.loop sc fun _ => h.run _ _ sc).run _ _ _ l
    · exact h.finish sc l
  | repeatLoop body condition => exact hbehind.run _ _ _ l
  | repeatRound body condition =>
    refine (h.loop sc fun inner l => ?_).run _ _ _ l
    refine Exp.orderly_eval _ condition _ (fun v l => ?_) l
    split
    · exact h.finish sc l
    · exact h.run _ _ sc l
  | branch condition body otherwise =>
    exact Exp.orderly_eval sc condition _ (fun v => hbehind.run _ _ sc) l
  | numericFor start limit step body line =>
    refine Exp.orderly_eval sc start _ (fun a l => ?_) l
    refine Exp.orderly_eval sc limit _ (fun b l => ?_) l
    refine Exp.orderly_eval sc step _ (fun d l => ?_) l
    refine Act.orderly_count _ a b d _ (fun count l => ?_) l
    split
    · exact hnext sc ex h l
    · exact hbehind.run _ _ sc l
    · exact hbehind.run _ _ sc l
  | counting i step left body =>
    refine Act.orderly_newCell _ _ (fun c l => ?_) l
    refine (h.loop sc fun _ l => ?_).run _ _ _ l
    split
    · exact h.finish sc l
    · exact h.run _ _ sc l
  | stepping x limit step body =>
    refine Act.orderly_newCell _ _ (fun c l => ?_) l
    refine (h.loop sc fun _ l => ?_).run _ _ _ l
    dsimp only
    split_ifs
    · exact h.run _ _ sc l
    · exact h.finish sc l
    · exact h.run _ _ sc l
    · exact h.finish sc l
  | genericFor names values body line =>
    refine Exp.orderly_listValues sc values _ (fun vs l => ?_) l
    refine Act.orderly_newCell _ _ (fun iterator l => ?_) l
    refine Act.orderly_newCell _ _ (fun state l => ?_) l
    refine Act.orderly_newCell _ _ (fun control l => ?_) l
    exact open_orderly hbehind sc line _ (fun ex' h' => h'.run _ _ sc) l
  | drawing iterator state control names body line =>
    unfold Stat.exec
    refine Act.orderly_read _ _ (fun f l => ?_) l
    refine Act.orderly_read _ _ (fun v l => ?_) l
    refine Act.orderly_read _ _ (fun last l => ?_) l
    refine Act.orderly_call _ _ _ _ (fun vs l => ?_) l
    split
    · exact h.finish sc l
    · refine Act.orderly_setCell _ _ _ (fun _ l => ?_) l
      refine Act.orderly_newCells _ _ _ (fun cells l => ?_) l
      exact (h.loop sc fun _ => h.run _ _ sc).run _ _ _ l
  | give values => exact Exp.orderly_listValues sc values _ (fun vs _ => .done vs) l
  | giveCall call =>
    cases call with
    | call callee args line =>
      refine Exp.orderly_eval sc callee _ (fun f l => ?_) l
      exact Exp.orderly_listValues sc args _ (fun vs _ => .pass f vs _) l
    | method object name args nameLine line =>
      refine Exp.orderly_eval sc object _ (fun o l => ?_) l
      refine Act.orderly_index _ _ _ _ _ (fun f l => ?_) l
      exact Exp.orderly_listValues sc args _ (fun vs _ => .pass f (o :: vs) _) l
    | _ => exact Exp.orderly_values sc _ _ (fun vs _ => .done vs) l
  | breakLoop => exact h.leave l
  | goto name => exact jump_orderly h sc name l
  | label name depth => exact hnext sc ex h l

theorem Stat.execAll_orderly (rest : List Stat) (sc : Scope) (h : ex.Orderly) (l : Loader) : (Stat.execAll rest sc ex).Orderly l := by
  induction rest generalizing sc ex l with
  | nil => exact h.finish sc l
  | cons s rest ih => exact s.exec_orderly sc h (fun sc' ex' h' l => ih sc' h' l) l

theorem runBlock_orderly (all rest : List Stat) (sc : Scope) (h : ex.Orderly) (l : Loader) : (runBlock all rest sc ex).Orderly l := by
  apply Stat.execAll_orderly
  refine ⟨h.finish, h.leave, fun label hlabel sc' => ?_⟩
  rcases List.mem_append.mp hlabel with hown | houter
  · obtain ⟨inner, -, rfl⟩ := List.mem_map.mp hown
    exact h.run _ _ sc'
  · exact h.labels label houter sc'

/-- **The program of a function's body is orderly.** -/
theorem Stat.body_orderly (body : List Stat) (sc : Scope) (l : Loader) : (Stat.body body sc).Orderly l :=
  .run (fun _ _ => .done []) (fun _ => .done []) fun _ h => nomatch h

end

end ScriptFlow.Script
