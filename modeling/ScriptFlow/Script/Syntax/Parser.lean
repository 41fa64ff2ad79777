import ScriptFlow.Script.Token.Lexer

/-!
# From tokens to syntax

`Chunk.parse` reads a whole script. Variables are resolved on the way (`Scope.find?`), jumps are checked against the labels in sight, and
every error names the line of the token at which it was noticed.

* `Grammar` ties expressions and blocks together: level `n + 1` is built from level `n`, so nesting is limited by the level one starts at.
-/

namespace ScriptFlow.Script

namespace Parser

/-- A variable in scope. -/
structure Declared where
  name : ByteArray
  trait : Attribute
  /-- how many functions stand around its declaration -/
  level : Nat

/-- A label in sight. -/
structure LabelPlace where
  name : ByteArray
  line : Nat
  /-- variables in scope after it -/
  depth : Nat

/-- A jump whose label has not been seen. -/
structure Jump where
  name : ByteArray
  line : Nat
  /-- variables in scope at it -/
  depth : Nat

/-- What is known about the function under way. -/
structure FunctionPlace where
  level : Nat
  /-- variables in scope around the function -/
  base : Nat
  takesMore : Bool
  /-- the line it starts on, none for the chunk itself -/
  line : Option Nat
  /-- is a variable in scope that is told when its block is left? -/
  closes : Bool := false

structure State where
  chunk : ByteArray
  tokens : List PlacedToken
  /-- the line on which the last token taken ends -/
  lastLine : Nat
  /-- variables in scope, younger ones first -/
  vars : List Declared
  place : FunctionPlace
  labels : List LabelPlace
  jumps : List Jump
  /-- variables in scope at the start of the block -/
  blockDepth : Nat

/-- A parser of something. -/
abbrev P := StateT State (Except SyntaxError)

def fail {α : Type} (message : ByteArray) : P α := throw ⟨message⟩

/-- The token at hand. -/
def current : P PlacedToken := do
  match (← get).tokens with
  | t :: _ => pure t
  | [] => pure ⟨.finish, (← get).lastLine⟩

/-- Reports an error at the token at hand. -/
def failNear {α : Type} (message : String) : P α := do
  let t ← current
  fail (placed (← get).chunk t.line (message.toUTF8 ++ " near ".toUTF8 ++ t.token.shown))

/-- Reports an error of meaning. -/
def failHere {α : Type} (message : ByteArray) : P α := do
  fail (placed (← get).chunk (← current).line message)

/-- A token that cannot be read is reported as soon as it is at hand. -/
def checkReadable : List PlacedToken → P Unit
  | ⟨.broken message, _⟩ :: _ => fail message
  | _ => pure ()

/-- Takes the token at hand. -/
def advance : P Unit := do
  let t ← current
  modify fun s => { s with tokens := s.tokens.drop 1, lastLine := t.line }
  checkReadable (← get).tokens

def atMark (m : String) : P Bool := do return (← current).token.isMark m

def atAnyMark (ms : List String) : P Bool := do
  let t ← current
  return ms.any t.token.isMark

/-- Takes a mark if it is at hand. -/
def tryMark (m : String) : P Bool := do
  if ← atMark m then
    advance
    return true
  return false

/-- A mark as an error names it. -/
def expected {α : Type} (m : String) : P α := failNear ("'" ++ m ++ "' expected")

def check (m : String) : P Unit := do
  unless ← atMark m do expected m

def takeMark (m : String) : P Unit := do
  check m
  advance

/-- Takes the mark that closes what another one opened on a line. -/
def close (what opener : String) (line : Nat) : P Unit := do
  if ← tryMark what then return
  if (← current).line == line then expected what
  else failNear ("'" ++ what ++ "' expected (to close '" ++ opener ++ "' at line " ++ toString line ++ ")")

def takeName : P ByteArray := do
  match (← current).token with
  | .name s =>
    advance
    return s
  | _ => failNear "<name> expected"

/-! ### Variables -/

/-- The most variables a function may declare. -/
def maxVariables : Nat := 200

/-- Adds variables to the scope, the last one youngest. -/
def declare (vs : List (ByteArray × Attribute)) : P Unit := do
  for (name, trait) in vs do
    let s ← get
    if s.vars.length - s.place.base ≥ maxVariables then
      let owner := match s.place.line with
        | some l => "function at line " ++ toString l
        | none => "main function"
      failNear ("too many local variables (limit is " ++ toString maxVariables ++ ") in " ++ owner)
    set { s with vars := ⟨name, trait, s.place.level⟩ :: s.vars }

/-- The use of a name as a variable, if one of that name is in scope. -/
def resolve (s : State) (name : ByteArray) : Option (Variable × Attribute) :=
  match s.vars.findIdx? (·.name == name) with
  | some i =>
    (s.vars[i]?).map fun d => (⟨name, i, d.level < s.place.level⟩, d.trait)
  | none => none

def environmentName : ByteArray := "_ENV".toUTF8

/-- A name as an expression: a variable, or an entry of the environment. -/
def nameExpression (name : ByteArray) : P Exp := do
  let s ← get
  match resolve s name with
  | some (v, _) => return .var v
  | none =>
    let line := s.lastLine
    match resolve s environmentName with
    | some (e, _) => return .index (.var e) (.value (.str name)) line
    | none => return .value .nil

/-! ### Jumps -/

def breakName : ByteArray := "break".toUTF8

/-- Runs a parser for a block: names, labels and the start of the block are restored behind it, and open jumps
now start where the block ends. -/
def inBlock {α : Type} (p : P α) : P α := do
  let outer ← get
  set { outer with blockDepth := outer.vars.length }
  let r ← p
  modify fun s => { s with
    vars := outer.vars, labels := outer.labels, blockDepth := outer.blockDepth,
    place := { s.place with closes := outer.place.closes },
    jumps := s.jumps.map fun j => { j with depth := min j.depth outer.vars.length } }
  return r

/-- A loop: jumps out of it by `break` end here. -/
def inLoop {α : Type} (p : P α) : P α := do
  let before := (← get).jumps.length
  let r ← p
  modify fun s => { s with
    jumps := s.jumps.take before ++ (s.jumps.drop before).filter (·.name != breakName) }
  return r

/-- A name in an error. -/
def quoted (name : ByteArray) : ByteArray := inQuotes name

/-- The variable that a jump would enter. -/
def enteredName (s : State) (depth : Nat) : ByteArray :=
  match s.vars[s.vars.length - 1 - depth]? with
  | some d => d.name
  | none => ByteArray.empty

/-- Puts a label where we are; open jumps to it are done. -/
def placeLabel (name : ByteArray) (line : Nat) (isLast : Bool) : P Nat := do
  let s ← get
  match s.labels.find? (·.name == name) with
  | some l =>
    failHere ("label ".toUTF8 ++ quoted name ++ (" already defined on line " ++ toString l.line).toUTF8)
  | none =>
    let depth := if isLast then s.blockDepth else s.vars.length
    match s.jumps.find? fun j => j.name == name && j.depth < depth with
    | some j =>
      failHere ("<goto ".toUTF8 ++ name ++ ("> at line " ++ toString j.line ++ " jumps into the scope of local ").toUTF8 ++
        quoted (enteredName s j.depth))
    | none =>
      let here : LabelPlace := ⟨name, line, depth⟩
      set { s with labels := here :: s.labels, jumps := s.jumps.filter (·.name != name) }
      return depth

/-- Records a jump, unless its label is in sight. -/
def recordJump (name : ByteArray) (line : Nat) : P Unit := do
  let s ← get
  unless s.labels.any (·.name == name) do
    let jump : Jump := ⟨name, line, s.vars.length⟩
    set { s with jumps := s.jumps ++ [jump] }

/-- At the end of a function every jump must have found its label. -/
def checkJumps : P Unit := do
  match (← get).jumps with
  | [] => pure ()
  | j :: _ =>
    if j.name == breakName then
      failHere ("break outside a loop at line " ++ toString j.line).toUTF8
    else
      failHere ("no visible label ".toUTF8 ++ quoted j.name ++ (" for goto at line " ++ toString j.line).toUTF8)

/-! ### Operators -/

def unaryOf : String → Option UnaryOp
  | "not" => some .not
  | "-" => some (.arith .unm)
  | "~" => some (.arith .bnot)
  | "#" => some .length
  | _ => none

/-- What stands between two operands. -/
inductive Joint where
  | op (o : BinaryOp)
  | and
  | or

/-- An operator between operands with its binding strengths to the left and to the right. -/
def jointOf : String → Option (Joint × Nat × Nat)
  | "+" => some (.op (.arith .add), 10, 10)
  | "-" => some (.op (.arith .sub), 10, 10)
  | "*" => some (.op (.arith .mul), 11, 11)
  | "%" => some (.op (.arith .mod), 11, 11)
  | "^" => some (.op (.arith .pow), 14, 13)
  | "/" => some (.op (.arith .div), 11, 11)
  | "//" => some (.op (.arith .idiv), 11, 11)
  | "&" => some (.op (.arith .band), 6, 6)
  | "|" => some (.op (.arith .bor), 4, 4)
  | "~" => some (.op (.arith .bxor), 5, 5)
  | "<<" => some (.op (.arith .shl), 7, 7)
  | ">>" => some (.op (.arith .shr), 7, 7)
  | ".." => some (.op .concat, 9, 8)
  | "==" => some (.op .eq, 3, 3)
  | "~=" => some (.op .ne, 3, 3)
  | "<" => some (.op .lt, 3, 3)
  | "<=" => some (.op .le, 3, 3)
  | ">" => some (.op .gt, 3, 3)
  | ">=" => some (.op .ge, 3, 3)
  | "and" => some (.and, 2, 2)
  | "or" => some (.or, 1, 1)
  | _ => none

/-- Binding strength of operators in front of an operand. -/
def unaryStrength : Nat := 12

def Joint.build (j : Joint) (a b : Exp) (line : Nat) : Exp :=
  match j with
  | .op o => .binary o a b line
  | .and => .and a b
  | .or => .or a b

/-! ### Expressions and statements -/

/-- The parsers of one nesting level. -/
structure Grammar where
  /-- an expression of operators that bind stronger than the given strength -/
  expr : Nat → P Exp
  /-- statements up to the end of their block -/
  block : P (List Stat)

variable (g : Grammar)

/-- The marks that end a block. -/
def blockEnds : List String := ["else", "elseif", "end", "until"]

def atBlockEnd (withUntil : Bool) : P Bool := do
  match (← current).token with
  | .finish => return true
  | t => return (blockEnds.any t.isMark) && (withUntil || !t.isMark "until")

/-- Expressions separated by commas. -/
def moreExpressions : Nat → List Exp → P (List Exp)
  | 0, es => return es
  | fuel + 1, es => do
    if ← tryMark "," then
      let line := (← get).lastLine
      let es := match es with
        | e :: rest => e.completedAt line :: rest
        | [] => []
      moreExpressions fuel ((← g.expr 0) :: es)
    else return es

def expressions : P (List Exp) := do
  let first ← g.expr 0
  return (← moreExpressions g (← get).tokens.length [first]).reverse

/-- The parameters of a function: their names, and does it take more? -/
def parameters : Nat → List ByteArray → P (List ByteArray × Bool)
  | 0, names => return (names, false)
  | fuel + 1, names => do
    match (← current).token with
    | .name s =>
      advance
      if ← tryMark "," then parameters fuel (names ++ [s]) else return (names ++ [s], false)
    | t =>
      if t.isMark "..." then
        advance
        return (names, true)
      failNear "<name> or '...' expected"

/-- Parameters and body of a function whose head stands on a line. -/
def functionBody (selfParameter : Bool) (line : Nat) : P Exp := do
  let outer ← get
  set { outer with
    place := ⟨outer.place.level + 1, outer.vars.length, false, some line, false⟩
    labels := [], jumps := [], blockDepth := outer.vars.length }
  takeMark "("
  let (names, takesMore) ← if ← atMark ")" then pure ([], false) else parameters (← get).tokens.length []
  let names := if selfParameter then "self".toUTF8 :: names else names
  declare (names.map (·, .none))
  modify fun s => { s with place := { s.place with takesMore := takesMore }, blockDepth := s.vars.length }
  takeMark ")"
  let body ← g.block
  close "end" "function" line
  checkJumps
  modify fun s => { s with
    vars := outer.vars, place := outer.place, labels := outer.labels, jumps := outer.jumps, blockDepth := outer.blockDepth }
  return .function names.length takesMore body

/-- The entries of a table up to its closing brace. -/
def tableItems (line : Nat) : Nat → List Item → P (List Item)
  | 0, items => return items
  | fuel + 1, items => do
    if ← atMark "\x7d" then return items
    let s ← get
    let item ← match s.tokens with
      | ⟨.name name, _⟩ :: next :: _ => do
        checkReadable [next]
        if next.token.isMark "=" then
          advance
          advance
          let v ← g.expr 0
          pure (Item.keyed (.value (.str name)) v (← get).lastLine)
        else pure (Item.positional (← g.expr 0))
      | _ => do
        if ← tryMark "[" then
          let k ← g.expr 0
          takeMark "]"
          takeMark "="
          let v ← g.expr 0
          pure (Item.keyed k v (← get).lastLine)
        else pure (Item.positional (← g.expr 0))
    if ← tryMark "," then tableItems line fuel (item :: items)
    else if ← tryMark ";" then tableItems line fuel (item :: items)
    else return item :: items

def tableConstructor : P Exp := do
  let line := (← current).line
  takeMark "\x7b"
  let items ← tableItems g line ((← get).tokens.length + 1) []
  close "\x7d" "\x7b" line
  return .table items.reverse

/-- Arguments of a call and the line of the call. -/
def arguments : P (List Exp × Nat) := do
  let t ← current
  match t.token with
  | .text s _ =>
    advance
    return ([.value (.str s)], t.line)
  | k =>
    if k.isMark "\x7b" then return ([← tableConstructor g], t.line)
    if k.isMark "(" then
      advance
      if ← tryMark ")" then return ([], t.line)
      let es ← expressions g
      close ")" "(" t.line
      return (es, t.line)
    failNear "function arguments expected"

def primary : P Exp := do
  let t ← current
  match t.token with
  | .name s =>
    advance
    nameExpression s
  | k =>
    if k.isMark "(" then
      advance
      let e ← g.expr 0
      close ")" "(" t.line
      return .paren (e.completedAt (← get).lastLine)
    failNear "unexpected symbol"

/-- Fields, calls and methods behind an expression. -/
def suffixes : Nat → Exp → P Exp
  | 0, e => return e
  | fuel + 1, e => do
    let t ← current
    match t.token with
    | .text .. =>
      let (args, line) ← arguments g
      suffixes fuel (.call e args line)
    | k =>
      if k.isMark "." then
        advance
        let name ← takeName
        suffixes fuel (.index e (.value (.str name)) (← get).lastLine)
      else if k.isMark "[" then
        advance
        let key ← g.expr 0
        takeMark "]"
        suffixes fuel (.index e key (← get).lastLine)
      else if k.isMark ":" then
        advance
        let name ← takeName
        let nameLine := (← get).lastLine
        let (args, line) ← arguments g
        suffixes fuel (.method e name args nameLine line)
      else if k.isMark "(" || k.isMark "\x7b" then
        let (args, line) ← arguments g
        suffixes fuel (.call e args line)
      else return e

def suffixed : P Exp := do
  let e ← primary g
  suffixes g ((← get).tokens.length + 1) e

def simple : P Exp := do
  let t ← current
  match t.token with
  | .number c _ =>
    advance
    return .value c
  | .text s _ =>
    advance
    return .value (.str s)
  | .mark "nil" =>
    advance
    return .value .nil
  | .mark "true" =>
    advance
    return .value (.bool true)
  | .mark "false" =>
    advance
    return .value (.bool false)
  | .mark "..." =>
    unless (← get).place.takesMore do failNear "cannot use '...' outside a vararg function"
    advance
    return .varargs
  | .mark "\x7b" => tableConstructor g
  | .mark "function" =>
    advance
    functionBody g false t.line
  | _ => suffixed g

/-- Operators behind an operand, as long as they bind stronger than the limit. -/
def operators (limit : Nat) : Nat → Exp → P Exp
  | 0, e => return e
  | fuel + 1, e => do
    let t ← current
    match t.token with
    | .mark m =>
      match jointOf m with
      | some (j, left, right) =>
        if left > limit then
          advance
          let e := e.completedAt (← get).lastLine
          let b ← g.expr right
          operators limit fuel (j.build e b t.line)
        else return e
      | none => return e
    | _ => return e

def expression (limit : Nat) : P Exp := do
  let t ← current
  let first ← match t.token with
    | .mark m =>
      match unaryOf m with
      | some op => do
        advance
        let e ← g.expr unaryStrength
        pure (Exp.unary op e t.line)
      | none => simple g
    | _ => simple g
  operators g limit ((← get).tokens.length + 1) first

/-- A block of its own. -/
def innerBlock : P (List Stat) := inBlock g.block

/-- Refuses to write to a constant. -/
def checkWritable (e : Exp) : P Unit := do
  match e with
  | .var v =>
    let s ← get
    match (s.vars[v.index]?).map Declared.trait with
    | some .none | none => pure ()
    | some _ => failHere ("attempt to assign to const variable ".toUTF8 ++ quoted v.name)
  | _ => pure ()

/-- The targets of an assignment behind the first one. -/
def moreTargets : Nat → List Exp → P (List Exp)
  | 0, es => return es
  | fuel + 1, es => do
    if ← tryMark "," then
      let e ← suffixed g
      match e with
      | .var _ | .index .. => pure ()
      | _ => failNear "syntax error"
      checkWritable e
      moreTargets fuel (es ++ [e])
    else return es

/-- A call or an assignment. -/
def expressionStatement : P Stat := do
  let e ← suffixed g
  if (← atMark "=") || (← atMark ",") then
    match e with
    | .var _ | .index .. => pure ()
    | _ => failNear "syntax error"
    checkWritable e
    let targets ← moreTargets g (← get).tokens.length [e]
    takeMark "="
    let values ← expressions g
    return .assign targets values (← get).lastLine
  match e with
  | .call .. | .method .. => return .perform e
  | _ => failNear "syntax error"

/-- The clauses of a conditional behind its condition. -/
def branches (line : Nat) : Nat → P Stat
  | 0 => failNear "syntax error"
  | fuel + 1 => do
    let c ← g.expr 0
    takeMark "then"
    let c := c.completedAt (← get).lastLine
    let body ← innerBlock g
    if ← tryMark "elseif" then return .branch c body [← branches line fuel]
    if ← tryMark "else" then
      let otherwise ← innerBlock g
      close "end" "if" line
      return .branch c body otherwise
    close "end" "if" line
    return .branch c body []

/-- The attribute behind the name of a local variable. -/
def localTrait : P Attribute := do
  if ← tryMark "<" then
    let name ← takeName
    takeMark ">"
    if name == "const".toUTF8 then return .constant
    if name == "close".toUTF8 then return .closing
    failHere ("unknown attribute ".toUTF8 ++ quoted name)
  return .none

/-- The names of local variables with their attributes. -/
def localNames : Nat → List (ByteArray × Attribute) → P (List (ByteArray × Attribute))
  | 0, vs => return vs
  | fuel + 1, vs => do
    let name ← takeName
    let a ← localTrait
    if a == .closing && vs.any (·.2 == .closing) then
      failHere "multiple to-be-closed variables in local list".toUTF8
    if ← tryMark "," then localNames fuel (vs ++ [(name, a)]) else return vs ++ [(name, a)]

def localStatement : P Stat := do
  let vs ← localNames (← get).tokens.length []
  let values ← if ← tryMark "=" then expressions g else pure []
  let line := (← get).lastLine
  declare vs
  if vs.any (·.2 == .closing) then modify fun s => { s with place := { s.place with closes := true } }
  return .declare (vs.map (·.2)) values line

/-- The body of a loop with its variables. -/
def loopBody (names : List ByteArray) (line : Nat) : P (List Stat) := do
  takeMark "do"
  let body ← inBlock do
    declare (names.map (·, .none))
    inBlock g.block
  close "end" "for" line
  return body

/-- More names of a generic loop. -/
def moreNames : Nat → List ByteArray → P (List ByteArray)
  | 0, names => return names
  | fuel + 1, names => do
    if ← tryMark "," then moreNames fuel (names ++ [← takeName]) else return names

def forStatement (line : Nat) : P Stat := do
  let name ← takeName
  if ← tryMark "=" then
    let start ← g.expr 0
    takeMark ","
    let limit ← g.expr 0
    let step ← if ← tryMark "," then g.expr 0 else pure (.value (.int 1))
    check "do"
    let doLine := (← current).line
    return .numericFor start limit step (← loopBody g [name] line) doLine
  if (← atMark ",") || (← atMark "in") then
    let names ← moreNames (← get).tokens.length [name]
    takeMark "in"
    let values ← expressions g
    return .genericFor names.length values (← loopBody g names line) line
  failNear "'=' or 'in' expected"

/-- The name of a function statement: the target and whether it is a method. -/
def functionName : Nat → Exp → P (Exp × Bool)
  | 0, e => return (e, false)
  | fuel + 1, e => do
    if ← tryMark "." then
      let name ← takeName
      functionName fuel (.index e (.value (.str name)) (← get).lastLine)
    else if ← tryMark ":" then
      let name ← takeName
      return (.index e (.value (.str name)) (← get).lastLine, true)
    else return (e, false)

def functionStatement (line : Nat) : P Stat := do
  let name ← takeName
  let base ← nameExpression name
  let (target, isMethod) ← functionName (← get).tokens.length base
  let f ← functionBody g isMethod line
  checkWritable target
  return .assign [target] [f] line

def returnStatement : P Stat := do
  let values ← if (← atBlockEnd true) || (← atMark ";") then pure [] else expressions g
  discard (tryMark ";")
  let s ← get
  match values with
  | [e] =>
    match e with
    | .call .. | .method .. => return if s.place.closes then .give [e] else .giveCall e
    | _ => return .give values
  | _ => return .give values

/-- Statements of other kinds than labels and `return`. -/
def statement (t : PlacedToken) : P Stat := do
  let line := t.line
  match t.token with
  | .mark "if" =>
    advance
    branches g line (← get).tokens.length
  | .mark "while" =>
    advance
    let c ← g.expr 0
    takeMark "do"
    let body ← inLoop (innerBlock g)
    close "end" "while" line
    return .whileLoop c body
  | .mark "do" =>
    advance
    let body ← innerBlock g
    close "end" "do" line
    return .block body
  | .mark "for" =>
    advance
    inLoop (forStatement g line)
  | .mark "repeat" =>
    advance
    inLoop (inBlock (inBlock do
      let body ← g.block
      close "until" "repeat" line
      let c ← g.expr 0
      return .repeatLoop body c))
  | .mark "function" =>
    advance
    functionStatement g line
  | .mark "local" =>
    advance
    if ← tryMark "function" then
      let name ← takeName
      declare [(name, .none)]
      return .declareFunction (← functionBody g false (← get).lastLine)
    localStatement g
  | .mark "break" =>
    advance
    recordJump breakName line
    return .breakLoop
  | .mark "goto" =>
    advance
    let name ← takeName
    recordJump name line
    return .goto name
  | _ => expressionStatement g

/-- A label, with the labels and empty statements behind it. -/
def labelStatement (line : Nat) : Nat → P (List Stat)
  | 0 => return []
  | fuel + 1 => do
    let name ← takeName
    takeMark "::"
    let others ← skip fuel []
    let depth ← placeLabel name line (← atBlockEnd false)
    return .label name depth :: others
where
  skip : Nat → List Stat → P (List Stat)
    | 0, acc => return acc
    | fuel + 1, acc => do
      if ← tryMark ";" then skip fuel acc
      else if ← atMark "::" then
        let l := (← current).line
        advance
        return acc ++ (← labelStatement l fuel)
      else return acc

/-- Statements up to the end of the block. -/
def statements : Nat → List Stat → P (List Stat)
  | 0, acc => return acc.reverse
  | fuel + 1, acc => do
    if ← atBlockEnd true then return acc.reverse
    let t ← current
    if t.token.isMark "return" then
      advance
      let s ← returnStatement g
      return (s :: acc).reverse
    if t.token.isMark ";" then
      advance
      statements fuel acc
    else if t.token.isMark "::" then
      advance
      let ls ← labelStatement t.line ((← get).tokens.length + 1)
      statements fuel (ls.reverse ++ acc)
    else
      let s ← statement g t
      statements fuel (s :: acc)

/-- Grammar whose constructs nest at most so deep. -/
def nested : Nat → Grammar
  | 0 => { expr := fun _ => fail "C stack overflow".toUTF8, block := fail "C stack overflow".toUTF8 }
  | n + 1 =>
    let g := nested n
    { expr := fun limit => expression g limit
      block := do statements g ((← get).tokens.length + 1) [] }

/-- How deep constructs may nest. -/
def maxNesting : Nat := 195

end Parser

/-- Statements of a whole script; its only outer variable is the environment. -/
def Chunk.parse (chunk text : ByteArray) : Except SyntaxError (List Stat) := do
  let start : Parser.State := {
    chunk := chunk, tokens := Token.scanAll chunk text, lastLine := 1
    vars := [⟨Parser.environmentName, .none, 0⟩]
    place := ⟨1, 1, true, none, false⟩, labels := [], jumps := [], blockDepth := 1 }
  let read : Parser.P (List Stat) := do
    Parser.checkReadable (← get).tokens
    let body ← (Parser.nested Parser.maxNesting).block
    match (← Parser.current).token with
    | .finish => pure ()
    | _ => Parser.failNear "<eof> expected"
    Parser.checkJumps
    return body
  let (body, _) ← read.run start
  return body

end ScriptFlow.Script
