import ScriptFlow.Durable.Headers

/-!
# Trying headers

A trial enters and leaves blocks of metadata and sends and receives named messages.
-/

namespace ScriptFlow

inductive HeaderStep where
  | enter (headers : List (Data × Data))
  | exit
  | current
  /-- adds the metadata to a message, which may be given anew -/
  | set (message : String) (existing : Option Message)
  | restore (message : String)
  | put (message key : String) (d : Data)
  /-- sends a message through the client; shows it with the result -/
  | send (existing : Message) (result : Data)
  /-- receives a message in an activity -/
  | activity (message : String)

structure HeaderTrial where
  scopes : HeaderScopes := {}
  messages : List (String × Message) := []

namespace HeaderTrial

def setMessage (t : HeaderTrial) (name : String) (m : Message) : HeaderTrial :=
  { t with messages := (name, m) :: t.messages.filter (·.1 != name) }

def message (t : HeaderTrial) (name : String) : Except Fault Message :=
  match t.messages.lookup name with
  | some m => .ok m
  | none => .error (.missingKey (.str name))

/-- The metadata of a trial at present. -/
def shown (t : HeaderTrial) : Data := .object [("current", (Data.dict t.scopes.current).toNotation)]

def perform (t : HeaderTrial) : HeaderStep → Except Fault (HeaderTrial × Data)
  | .enter headers =>
    let t := { t with scopes := t.scopes.enter (some headers) }
    .ok (t, t.shown)
  | .exit =>
    let t := { t with scopes := t.scopes.leave }
    .ok (t, t.shown)
  | .current => .ok (t, t.shown)
  | .set name existing => do
    let m ← ((existing.orElse fun _ => t.messages.lookup name).getD []).carry t.scopes.current
    return (t.setMessage name m, m.toData)
  | .restore name => do
    let headers ← (← t.message name).metadata
    let t := { t with scopes := t.scopes.enter (some headers) }
    return (t, t.shown)
  | .put name key d => do
    let m := ((t.messages.lookup name).getD []).put key (.payload (← WirePayload.encode d))
    let t := t.setMessage name m
    return (t, t.shown)
  | .send existing result => do
    let m ← existing.carry t.scopes.current
    return (t, .object [("sent", .list [m.toData]), ("result", result)])
  | .activity name => do
    let headers ← ((t.messages.lookup name).getD []).metadata
    return (t, .object [("inside", (Data.dict (t.scopes.enter (some headers)).current).toNotation)])

/-- Performs steps; one that fails changes nothing. -/
def run (t : HeaderTrial) : List HeaderStep → List (Except Fault Data)
  | [] => []
  | s :: rest =>
    match t.perform s with
    | .ok (t, d) => .ok d :: run t rest
    | .error e => .error e :: run t rest

end HeaderTrial

end ScriptFlow
