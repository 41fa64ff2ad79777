import ScriptFlow.Script.Operation

/-!
# Evaluation of scripts

`Exp.values` evaluates an expression to all its values, `Stat.exec` says what a statement does before the next one, and `runBlock` makes the program
of a block. A loop that goes round once more, and a jump to a label, are nodes of the program that name the
statements to run; so the program of every statement is finite, and only the machine goes round.
-/

namespace ScriptFlow.Script

/-- The cell of a variable. -/
def Scope.cell (sc : Scope) (v : Variable) : CellId := (sc.cells[v.index]?).getD 0

/-- A script at a line of the chunk of a scope. -/
def Scope.caller (sc : Scope) (line : Nat) : Caller := .script sc.chunk line

/-- A call written at a line. -/
def Scope.callSite (sc : Scope) (line : Nat) (naming : Option Naming) : CallSite :=
  { site := some (sc.chunk, line), naming := naming }

/-- Exactly `n` values. -/
def adjust : Nat → List Value → List Value
  | 0, _ => []
  | n + 1, [] => .nil :: adjust n []
  | n + 1, v :: vs => v :: adjust n vs

namespace Act

/-- An operator on two values. -/
def binary (c : Caller) (op : BinaryOp) (na nb : Option Naming) (a b : Value) : Act Value := do
  match op with
  | .arith op => arith c op na nb a b
  | .concat => concat c na nb a b
  | .eq => return .bool (← equal c a b)
  | .ne => return .bool (!(← equal c a b))
  | .lt => return .bool (← less c a b)
  | .le => return .bool (← lessEq c a b)
  | .gt => return .bool (← less c b a)
  | .ge => return .bool (← lessEq c b a)

/-- An operator on one value. -/
def unary (c : Caller) (op : UnaryOp) (naming : Option Naming) (a : Value) : Act Value := do
  match op with
  | .arith op => arith c op naming naming a a
  | .not => return .bool (!a.truthy)
  | .length => length c naming a

/-- Puts positional values into a new table, from a position on. -/
def fill (t : TableId) (start : Nat) (vs : List Value) : Act Unit := write fun s => s.setTable t fun table =>
  let table := { table with layout := { table.layout with places := max table.layout.places (start - 1 + vs.length) } }
  (vs.zipIdx start).foldl (fun table e => table.set (.int (Int64.ofNat e.2)) e.1) table

end Act

namespace Item

def isPositional : Item → Bool
  | positional _ => true
  | keyed .. => false

/-- How many positional and how many other entries a constructor announces. -/
def counts (items : List Item) : Nat × Nat :=
  let positional := items.filter isPositional
  let openEnd := match items.getLast? with
    | some (.positional e) => if e.isOpen then 1 else 0
    | _ => 0
  (positional.length - openEnd, items.length - positional.length)

end Item

mutual

/-- All values of an expression. -/
def Exp.values (sc : Scope) : Exp → Act (List Value)
  | .value c => return [c.value]
  | .varargs => return sc.varargs
  | .function params takesMore body =>
    Act.modifyGet fun s =>
      let (s, f) := s.newFunction (.closure params takesMore body sc.cells sc.chunk)
      (s, [.function f])
  | .var v => do
    let c := sc.cell v
    return [← Act.read (·.cell c)]
  | .index object key line => do
    let o := first (← Exp.values sc object)
    let k := first (← Exp.values sc key)
    return [← Act.index (sc.caller line) object.naming o k]
  | .call callee args line => do
    let f := first (← Exp.values sc callee)
    let vs ← Exp.listValues sc args
    Act.call f vs (sc.callSite line callee.naming)
  | .method object name args nameLine line => do
    let o := first (← Exp.values sc object)
    let f ← Act.index (sc.caller nameLine) object.naming o (.str name)
    let vs ← Exp.listValues sc args
    Act.call f (o :: vs) (sc.callSite line (some ⟨"method", name⟩))
  | .binary op left right line => do
    let a := first (← Exp.values sc left)
    let b := first (← Exp.values sc right)
    return [← Act.binary (sc.caller line) op left.naming right.naming a b]
  | .unary op operand line => do
    let a := first (← Exp.values sc operand)
    return [← Act.unary (sc.caller line) op operand.naming a]
  | .and left right => do
    let a := first (← Exp.values sc left)
    if a.truthy then return [first (← Exp.values sc right)] else return [a]
  | .or left right => do
    let a := first (← Exp.values sc left)
    if a.truthy then return [a] else return [first (← Exp.values sc right)]
  | .paren e => do return [first (← Exp.values sc e)]
  | .table items => do
    let (places, others) := Item.counts items
    let t ← Act.modifyGet fun s => s.newTable { layout := .withRoom places others }
    Item.build sc t 1 [] items
    return [.table t]

/-- The values of a list of expressions: all of the last one, one of each other. -/
def Exp.listValues (sc : Scope) : List Exp → Act (List Value)
  | [] => return []
  | [e] => Exp.values sc e
  | e :: es => do
    let v := first (← Exp.values sc e)
    return v :: (← Exp.listValues sc es)

/-- Fills a new table; positional values wait until the end of the constructor, at most fifty at a time. -/
def Item.build (sc : Scope) (t : TableId) (start : Nat) (waiting : List Value) : List Item → Act Unit
  | [] => Act.fill t start waiting
  | [.positional e] => do
    let vs ← Exp.values sc e
    Act.fill t start (waiting ++ (if e.isOpen then vs else [first vs]))
  | .positional e :: rest => do
    let v := first (← Exp.values sc e)
    let waiting := waiting ++ [v]
    if waiting.length == 50 then
      Act.fill t start waiting
      Item.build sc t (start + 50) [] rest
    else Item.build sc t start waiting rest
  | .keyed key value line :: rest => do
    let k := first (← Exp.values sc key)
    let v := first (← Exp.values sc value)
    Act.rawSet (sc.caller line).site t k v
    Item.build sc t start waiting rest

end

/-- The value of an expression. -/
def Exp.eval (sc : Scope) (e : Exp) : Act Value := do return first (← e.values sc)

/-- A target of an assignment, with everything but the new value known. -/
inductive Target where
  | cell (c : CellId)
  | entry (object key : Value) (naming : Option Naming)

def Exp.target (sc : Scope) : Exp → Act Target
  | .var v => return .cell (sc.cell v)
  | .index object key _ => do
    let o ← object.eval sc
    let k ← key.eval sc
    return .entry o k object.naming
  | _ => return .cell 0

def Exp.targets (sc : Scope) : List Exp → Act (List Target)
  | [] => return []
  | e :: es => do
    let t ← e.target sc
    return t :: (← Exp.targets sc es)

def Target.write (caller : Caller) (t : Target) (v : Value) : Act Unit :=
  match t with
  | .cell c => Act.write (·.setCell c v)
  | .entry o k naming => Act.setIndex caller naming o k v

/-- Writes values to targets, the last one first. -/
def Target.writeAll (c : Caller) : List (Target × Value) → Act Unit
  | [] => return ()
  | (t, v) :: rest => do
    Target.writeAll c rest
    t.write c v

/-! ### Numeric loops -/

/-- A prepared numeric loop. -/
inductive Count where
  | never
  | whole (start step : Int64) (left : Nat)
  | floating (start limit step : Float)

namespace Count

/-- The whole number a limit stands for: its floor or ceiling, cut to 64 bits; `none` when the loop never runs. -/
def limitOf (step : Int64) (limit : Value) : Option Int64 :=
  match limit with
  | .int n => some n
  | v =>
    let x := Number.toFloat v
    let cut := if step < 0 then x.ceil else x.floor
    match Value.wholeOf? cut with
    | some n => some n
    | none =>
      if x > 0.0 then (if step < 0 then none else some Int64.maxValue)
      else if step > 0 then none else some Int64.minValue

/-- A loop over whole numbers. -/
def ofInts (start step limit : Int64) : Count :=
  let a := start.toInt
  let b := limit.toInt
  if step > 0 then
    if a > b then .never else .whole start step ((b - a) / step.toInt).toNat
  else if a < b then .never else .whole start step ((a - b) / (-step.toInt)).toNat

/-- A loop over floating-point numbers. -/
def ofFloats (start limit step : Float) : Count :=
  if (if step > 0.0 then limit < start else start < limit) then .never else .floating start limit step

end Count

/-- Checks the three numbers of a loop. -/
def Act.count (c : Caller) (start limit step : Value) : Act Count := do
  let bad (what : String) (v : Value) : Act Count := do
    let t ← Act.read (·.typeName v)
    Act.fail c.site (("bad 'for' " ++ what ++ " (number expected, got ").toUTF8 ++ t ++ ")".toUTF8)
  match start, step with
  | .int a, .int d =>
    if d == 0 then Act.failText c.site "'for' step is zero"
    match Act.asNumber? limit with
    | none => bad "limit" limit
    | some l =>
      match Count.limitOf d l with
      | some b => return .ofInts a d b
      | none => return .never
  | _, _ =>
    match Act.asNumber? limit, Act.asNumber? step, Act.asNumber? start with
    | none, _, _ => bad "limit" limit
    | _, none, _ => bad "step" step
    | _, _, none => bad "initial value" start
    | some l, some d, some a =>
      let d := Number.toFloat d
      if d == 0.0 then Act.failText c.site "'for' step is zero"
      return .ofFloats (Number.toFloat a) (Number.toFloat l) d

/-! ### Statements -/

namespace Exits

/-- The ways out of a block whose end comes first with something else to do. -/
def before {P : Type} (ex : Exits P) (wrap : P → P) : Exits P where
  finish sc := wrap (ex.finish sc)
  leave := fun _ => wrap (ex.leave ())
  labels := ex.labels.map fun l => (l.1, l.2.1, fun sc => wrap (l.2.2 sc))

/-- The ways out of the body of a loop. -/
def loop {P : Type} (ex : Exits P) (sc : Scope) (finish : Scope → P) : Exits P :=
  { ex with finish := finish, leave := fun _ => ex.finish sc }

end Exits

/-- The place behind a label, with the environment that is in scope there. -/
def jump (sc : Scope) (ex : Exits Prog) (name : ByteArray) : Prog :=
  match ex.labels.find? (·.1 == name) with
  | some (_, depth, go) => go { sc with cells := sc.cells.drop (sc.cells.length - depth) }
  | none => .done []

/-- The value of the variable that is told when its block is left. -/
def closingValue : List Attribute → List Value → Option Value
  | .closing :: _, v :: _ => some v
  | _ :: as, _ :: vs => closingValue as vs
  | _, _ => none

/-- Opens a value that has to be told when its block is left. -/
def open' (sc : Scope) (line : Nat) (v : Value) (ex : Exits Prog) (next : Exits Prog → Prog) : Prog :=
  if !v.truthy then next ex
  else
    (Act.read (·.metaEntry v "__close")) fun
      | .nil => Act.failText (α := Unit) (sc.caller line).site "variable got a non-closable value" fun _ => .done []
      | _ => .opened v (next (ex.before (.closed { site := (sc.caller line).site, nests := true })))

/-- One statement; `next` is what comes behind it in its block. A round of a loop stands alone: behind it the exits are taken. -/
def Stat.exec (s : Stat) (sc : Scope) (ex : Exits Prog) (next : Scope → Exits Prog → Prog) : Prog :=
  /- a loop starts, and then comes what is behind `s` -/
  let begin (round : Stat) : Prog := .run [] [round] sc { ex with finish := fun _ => next sc ex }
  let again (round : Stat) : Prog := .run [] [round] sc ex
  match s with
  | .declare attributes values line =>
    (Exp.listValues sc values) fun vs =>
      let vs := adjust attributes.length vs
      (Act.modifyGet fun s => s.newCells vs sc.cells) fun cells =>
        let sc' := { sc with cells := cells }
        match closingValue attributes vs with
        | some v => open' sc line v ex (next sc')
        | none => next sc' ex
  | .declareFunction f =>
    (Act.newCell .nil) fun c =>
      let sc' := { sc with cells := c :: sc.cells }
      (f.eval sc') fun v => (Act.write (·.setCell c v)) fun _ => next sc' ex
  | .assign targets values line =>
    (Exp.targets sc targets) fun ts =>
      (Exp.listValues sc values) fun vs =>
        (Target.writeAll (sc.caller line) (ts.zip (adjust ts.length vs))) fun _ => next sc ex
  | .perform call => (call.values sc) fun _ => next sc ex
  | .block body => .run body body sc { ex with finish := fun _ => next sc ex }
  | .whileLoop condition body => begin (.whileRound condition body)
  | .whileRound condition body =>
    (condition.eval sc) fun v =>
      if v.truthy then .run body body sc (ex.loop sc fun _ => again s) else ex.finish sc
  | .repeatLoop body condition => begin (.repeatRound body condition)
  | .repeatRound body condition =>
    .run body body sc (ex.loop sc fun inner =>
      (condition.eval { sc with cells := inner.cells }) fun v => if v.truthy then ex.finish sc else again s)
  | .branch condition body otherwise =>
    (condition.eval sc) fun v =>
      let chosen := if v.truthy then body else otherwise
      .run chosen chosen sc { ex with finish := fun _ => next sc ex }
  | .numericFor start limit step body line =>
    (start.eval sc) fun a => (limit.eval sc) fun b => (step.eval sc) fun d =>
      (Act.count (sc.caller line) a b d) fun
        | .never => next sc ex
        | .whole a d n => begin (.counting a d n body)
        | .floating a b d => begin (.stepping a b d body)
  | .counting i step left body =>
    (Act.newCell (.int i)) fun c =>
      .run body body { sc with cells := c :: sc.cells } (ex.loop sc fun _ =>
        match left with
        | 0 => ex.finish sc
        | n + 1 => again (.counting (i + step) step n body))
  | .stepping x limit step body =>
    (Act.newCell (.float x)) fun c =>
      .run body body { sc with cells := c :: sc.cells } (ex.loop sc fun _ =>
        let y := x + step
        if (if step > 0.0 then y ≤ limit else limit ≤ y) then again (.stepping y limit step body) else ex.finish sc)
  | .genericFor names values body line =>
    (Exp.listValues sc values) fun vs =>
      (Act.newCell (arg vs 0)) fun iterator => (Act.newCell (arg vs 1)) fun state => (Act.newCell (arg vs 2)) fun control =>
        open' sc line (arg vs 3) { ex with finish := fun _ => next sc ex } fun ex' =>
          .run [] [.drawing iterator state control names body line] sc ex'
  | .drawing iterator state control names body line =>
    (Act.read (·.cell iterator)) fun f => (Act.read (·.cell state)) fun v => (Act.read (·.cell control)) fun last =>
      (Act.call f [v, last] (sc.callSite line (some (.ofText "for iterator" "for iterator")))) fun vs =>
        match first vs with
        | .nil => ex.finish sc
        | drawn =>
          (Act.write (·.setCell control drawn)) fun _ =>
            (Act.modifyGet fun s => s.newCells (adjust names vs) sc.cells) fun cells =>
              .run body body { sc with cells := cells } (ex.loop sc fun _ => again s)
  | .give values => (Exp.listValues sc values) .done
  | .giveCall call =>
    match call with
    | .call callee args line =>
      (callee.eval sc) fun f => (Exp.listValues sc args) fun vs => .pass f vs (sc.callSite line callee.naming)
    | .method object name args nameLine line =>
      (object.eval sc) fun o => (Act.index (sc.caller nameLine) object.naming o (.str name)) fun f =>
        (Exp.listValues sc args) fun vs => .pass f (o :: vs) (sc.callSite line (some ⟨"method", name⟩))
    | e => (e.values sc) .done
  | .breakLoop => ex.leave ()
  | .goto name => jump sc ex name
  | .label .. => next sc ex

/-- Statements one after the other. -/
def Stat.execAll (rest : List Stat) (sc : Scope) (ex : Exits Prog) : Prog :=
  match rest with
  | [] => ex.finish sc
  | s :: rest => s.exec sc ex fun sc' ex' => Stat.execAll rest sc' ex'

/-- The labels of a block with the statements behind them. -/
def labelsOf : List Stat → List (ByteArray × Nat × List Stat)
  | [] => []
  | .label name depth :: rest => (name, depth, rest) :: labelsOf rest
  | _ :: rest => labelsOf rest

/-- Statements of a block, with the labels of the whole block in sight. -/
def runBlock (all rest : List Stat) (sc : Scope) (ex : Exits Prog) : Prog :=
  let own := (labelsOf all).map fun l => (l.1, l.2.1, fun sc' => Prog.run all l.2.2 sc' ex)
  Stat.execAll rest sc { ex with labels := own ++ ex.labels }

/-- The program of a function's body. -/
def Stat.body (body : List Stat) (sc : Scope) : Prog :=
  .run body body sc { finish := fun _ => .done [], leave := fun _ => .done [], labels := [] }

end ScriptFlow.Script
