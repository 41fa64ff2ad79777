import ScriptFlow.Client.Basic

/-!
# Trying clients

Steps of one client with an engine that answers as it is told, and ways to connect. A step shows what it gives and what the engine sees of it; a way to connect shows also
the lines of the log.
-/

namespace ScriptFlow

inductive ClientStep where
  | connect
  | close
  | start (s : ScriptStart)
  | progress (id : String)
  | status (id : String)
  | cancel (id : String)

/-- What the engine answers. -/
structure ClientAnswers where
  query : Data := .null
  describe : Except Fault WorkflowDescription := .ok {}

namespace ClientStep

def run (files : FileTree) (answers : ClientAnswers) (c : ScriptClient) :
    ClientStep → ScriptClient × Except Fault Data × List ClientCall
  | connect => ({ c with isConnected := true }, .ok .null, [])
  | close => ({ c with isConnected := false }, .ok .null, [])
  | start s =>
    match c.start files s with
    | .error e => (c, .error e, [])
    | .ok (id, call) => (c, .ok (.str id), [call])
  | progress id =>
    match c.progress id with
    | .error e => (c, .error e, [])
    | .ok call => (c, .ok answers.query, [call])
  | status id => (c, do c.status id (← answers.describe), [])
  | cancel id =>
    match c.cancel id with
    | .error e => (c, .error e, [])
    | .ok call => (c, .ok .null, [call])

def runAll (files : FileTree) (answers : ClientAnswers) (c : ScriptClient) :
    List ClientStep → List (Except Fault Data × List ClientCall)
  | [] => []
  | s :: rest =>
    let (c, r, calls) := run files answers c s
    (r, calls) :: runAll files answers c rest

end ClientStep

/-- A way to connect. -/
inductive Visit where
  /-- the connection alone -/
  | connection
  /-- a client that is told to connect -/
  | client
  /-- a client that is connected within a block -/
  | block
  /-- the same, and a second block that fails -/
  | failingBlock

namespace Visit

/-- How many times the way connects. -/
def connections : Visit → Nat
  | failingBlock => 2
  | _ => 1

/-- Connects so many times, or fails. -/
def connectTimes (config : WorkerConfig) (plan : EnginePlan) (s : Sightings) : Nat → Sightings × Except Fault Unit
  | 0 => (s, .ok ())
  | n + 1 =>
    match config.connect plan s with
    | (s, .error e) => (s, .error e)
    | (s, .ok _) => connectTimes config plan s n

/-- What the way shows once it has connected. -/
def shown (config : WorkerConfig) (v : Visit) : Data :=
  let first : List Data := [config.location, .bool true, .str connectedClient]
  let last : Data := .str ScriptClient.notConnected.message
  match v with
  | connection => .str connectedClient
  | client => .list first
  | block => .list (first ++ [last])
  | failingBlock => .list (first ++ [.str "inside", last])

def run (config : Except Fault WorkerConfig) (plan : EnginePlan) (v : Visit) : Sightings × Except Fault Data :=
  match config with
  | .error e => ({}, .error e)
  | .ok config =>
    let (s, r) := connectTimes config plan {} v.connections
    (s, r.map fun _ => v.shown config)

end Visit

end ScriptFlow
