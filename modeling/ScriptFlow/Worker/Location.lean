import ScriptFlow.Text.Uri

/-!
# Locations of engines

A location names a transport, a host and perhaps a port: `grpc` is plain, `grpcs` is encrypted. Without a port, or with port 0, the default port is meant.
-/

namespace ScriptFlow

structure Location where
  scheme : String
  host : String
  port : Nat
  tls : Bool
  deriving DecidableEq, Repr

namespace Location

def schemes : List (String × Bool) := [("grpc", false), ("grpcs", true)]

def defaultPort : Nat := 7233

/-- The address in the form host and port. -/
def target (l : Location) : String := l.host ++ ":" ++ toString l.port

def configurationError {α : Type} (message : String) : Except Fault α := .error (.error .configuration message)

/-- Reads the text of a location; `shown` is how messages quote it. -/
def read (s shown : String) : Except Fault Location := do
  let u ← Uri.split s
  match schemes.lookup u.scheme with
  | none => configurationError ("unsupported transport scheme " ++ Text.quoted u.scheme ++ " in " ++ shown ++ " (expected grpc or grpcs)")
  | some tls =>
    match u.port with
    | .error e => configurationError ("invalid port in " ++ shown ++ ": " ++ e.message)
    | .ok port =>
      if u.place.1.isEmpty then configurationError ("location " ++ shown ++ " has no host")
      else
        let port := port.getD 0
        return { scheme := u.scheme, host := u.host, port := if port == 0 then defaultPort else port, tls := tls }

/-- Reads a location; nothing at all counts as an empty text. -/
def ofData (d : Data) : Except Fault Location :=
  if !d.truthy then read "" d.expression
  else
    match d with
    | .str s => read s d.expression
    | .bytes bs =>
      -- a scheme in bytes is none of the known ones
      if bs.toList.all (· < 128) then do
        let u ← Uri.split (String.ofList (bs.toList.map fun b => Char.ofNat b.toNat))
        configurationError ("unsupported transport scheme " ++ (Data.bytes u.scheme.toUTF8).expression ++ " in " ++ d.expression ++
          " (expected grpc or grpcs)")
      else .error (.error .unicodeDecode "not ASCII")
    | _ => .error (.error .access "a location is a text")

def toData (l : Location) : Data := .object
  [("scheme", .str l.scheme), ("host", .str l.host), ("port", .int l.port), ("tls", .bool l.tls), ("target", .str l.target)]

end Location

end ScriptFlow
