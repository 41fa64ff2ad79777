import ScriptFlow.Durable.Wire

/-!
# Headers across calls

The metadata of a context travels in one header of a call. `HeaderScopes` keeps the metadata that the calls of a task carry at present: a block changes it and puts it back;
what a call brings is checked to be a mapping from texts to texts before it becomes a block. An empty mapping is no header at all.

What calls carry is kept for every task by itself. A new task starts with what its maker carries at that moment; after that, neither sees what the other changes. A
block is left by its end or by an error, and puts back what was there before.

* `HeaderProgram` — what a task does with headers.
* `HeaderTask.step` — one step of a task, with the tasks it makes and the messages it sends.
* `HeaderTasks.run` — tasks that take their steps in any order.
-/

namespace ScriptFlow

/-- The name of the header. -/
def headerKey : String := "starworker-headers"

/-- The value of a header of a message: a payload, or something else that was there before. -/
inductive HeaderValue where
  | payload (p : WirePayload)
  | other (d : Data)

abbrev Message := List (String × HeaderValue)

namespace Message

def put (m : Message) (key : String) (v : HeaderValue) : Message :=
  if m.any (·.1 == key) then m.map fun e => if e.1 == key then (key, v) else e else m ++ [(key, v)]

def toData (m : Message) : Data := .object (m.map fun e => (e.1, match e.2 with
  | .payload p => p.toData
  | .other d => d.toNotation))

/-- Adds metadata to a message. -/
def carry (m : Message) (headers : List (Data × Data)) : Except Fault Message := do
  if headers.isEmpty then return m
  else return m.put headerKey (.payload (← WirePayload.encode (.dict headers)))

/-- The error for a header that holds no metadata. -/
def noMetadata {α : Type} : Except Fault α := .error (.error .misuse "headers are a mapping from texts to texts")

/-- Metadata from a value: nothing, or a mapping from texts to texts. -/
def metadataOf (d : Data) : Except Fault (List (Data × Data)) :=
  match d with
  | .null => .ok []
  | .dict es => if es.all fun e => e.2.typeName == "str" then .ok es else noMetadata
  | d => if d.truthy || d.typeName != "bytes" then noMetadata else .ok []

/-- The metadata that a message carries. -/
def metadata (m : Message) : Except Fault (List (Data × Data)) :=
  match m.lookup headerKey with
  | none => .ok []
  | some (.payload p) => do metadataOf (← p.decode)
  | some (.other d) => if d.truthy then .error (.error .access "no payload") else .ok []

end Message

/-- Metadata: a mapping from texts to texts. -/
abbrev Metadata := List (Data × Data)

/-- The metadata that calls carry at present, and what the blocks that were entered put back, the innermost first. -/
structure HeaderScopes where
  value : Option Metadata := none
  tokens : List (Option Metadata) := []

namespace HeaderScopes

/-- The metadata at present; nothing and an empty mapping are the same. -/
def current (s : HeaderScopes) : Metadata := s.value.getD []

/-- A block is entered. -/
def enter (s : HeaderScopes) (headers : Option Metadata) : HeaderScopes :=
  { value := headers.filter (!·.isEmpty), tokens := s.value :: s.tokens }

/-- The innermost block is left. -/
def leave (s : HeaderScopes) : HeaderScopes :=
  match s.tokens with
  | [] => s
  | v :: rest => { value := v, tokens := rest }

/-- What a new task starts with: the same metadata, and no block of its own. -/
def fork (s : HeaderScopes) : HeaderScopes := { value := s.value }

end HeaderScopes

/-! ### Tasks -/

/-- What a task does with headers. -/
inductive HeaderProgram where
  | finish
  | fail (e : Fault)
  /-- looks at the metadata at present -/
  | look (next : Metadata → HeaderProgram)
  /-- a block under other metadata -/
  | block (headers : Option Metadata) (body next : HeaderProgram)
  /-- a block under the metadata of a message that has come in -/
  | receive (m : Message) (body next : HeaderProgram)
  /-- a message goes out -/
  | send (m : Message) (next : HeaderProgram)
  /-- errors come no further than here -/
  | attempt (body : HeaderProgram) (next : Except Fault Unit → HeaderProgram)
  /-- makes a task -/
  | spawn (child next : HeaderProgram)

/-- What a task is in the middle of. -/
inductive HeaderFrame where
  | block (next : HeaderProgram)
  | attempt (next : Except Fault Unit → HeaderProgram)

structure HeaderTask where
  focus : HeaderProgram
  scopes : HeaderScopes := {}
  frames : List HeaderFrame := []

/-- What has become of a task in one step, and what came of it. -/
structure HeaderMove where
  task : HeaderTask
  made : List HeaderTask := []
  sent : List Message := []

namespace HeaderTask

/-- Enters a block. -/
def enter (t : HeaderTask) (headers : Option Metadata) (body next : HeaderProgram) : HeaderTask :=
  { focus := body, scopes := t.scopes.enter headers, frames := .block next :: t.frames }

/-- What the task is in the middle of goes on after this outcome. -/
def close (t : HeaderTask) (r : Except Fault Unit) : Option HeaderTask :=
  match t.frames with
  | [] => none
  | .attempt next :: rest => some { t with focus := next r, frames := rest }
  | .block next :: rest =>
    let focus := match r with
      | .ok () => next
      | .error e => .fail e
    some { focus := focus, scopes := t.scopes.leave, frames := rest }

/-- One step; a task that has ended takes none. -/
def step (t : HeaderTask) : Option HeaderMove :=
  match t.focus with
  | .finish => (t.close (.ok ())).map fun t => { task := t }
  | .fail e => (t.close (.error e)).map fun t => { task := t }
  | .look next => some { task := { t with focus := next t.scopes.current } }
  | .block headers body next => some { task := t.enter headers body next }
  | .receive m body next =>
    match m.metadata with
    | .ok headers => some { task := t.enter (some headers) body next }
    | .error e => some { task := { t with focus := .fail e } }
  | .send m next =>
    match m.carry t.scopes.current with
    | .ok m => some { task := { t with focus := next }, sent := [m] }
    | .error e => some { task := { t with focus := .fail e } }
  | .attempt body next => some { task := { t with focus := body, frames := .attempt next :: t.frames } }
  | .spawn child next => some { task := { t with focus := next }, made := [{ focus := child, scopes := t.scopes.fork }] }

end HeaderTask

/-- Tasks, in the order in which they were made, and the messages that they have sent, the latest first. -/
structure HeaderTasks where
  tasks : List HeaderTask
  sent : List (Nat × Message) := []

namespace HeaderTasks

def task? (s : HeaderTasks) (i : Nat) : Option HeaderTask := s.tasks[i]?

/-- A task takes a step. -/
def advance (s : HeaderTasks) (i : Nat) : HeaderTasks :=
  match (s.task? i).bind HeaderTask.step with
  | none => s
  | some move => { tasks := s.tasks.set i move.task ++ move.made, sent := move.sent.map (i, ·) ++ s.sent }

/-- Tasks take steps in this order. -/
def run (s : HeaderTasks) (turns : List Nat) : HeaderTasks := turns.foldl advance s

end HeaderTasks

end ScriptFlow
