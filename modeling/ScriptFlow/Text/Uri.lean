import ScriptFlow.Data.Text
import ScriptFlow.Text.Case

/-!
# Locations as text

A location is `scheme://authority` with whatever may follow. `Uri.split` finds scheme and authority; the authority holds perhaps a user, then a host and perhaps a
port. A host in brackets must be an IPv6 address, or an address of a later version in its own form.

* `IpAddress.isV4` — four numbers below 256 without leading zeros, between points.
* `IpAddress.isV6` — eight groups of up to four hexadecimal digits between colons; two colons stand once for groups of zeros, the last two groups may be
  written as an address of four numbers, and a zone may follow after a percent sign.
-/

namespace ScriptFlow

namespace IpAddress

/-- The parts between marks. -/
def parts (mark : Char) : List Char → List (List Char)
  | [] => [[]]
  | c :: rest =>
    match parts mark rest with
    | part :: others => if c == mark then [] :: part :: others else (c :: part) :: others
    | [] => [[c]]

def isHexDigit (c : Char) : Bool := c.isDigit || ('a' ≤ c && c ≤ 'f') || ('A' ≤ c && c ≤ 'F')

/-- A number below 256 without leading zeros. -/
def isOctet (cs : List Char) : Bool :=
  !cs.isEmpty && cs.length ≤ 3 && cs.all Char.isDigit && (cs.length == 1 || cs.head? != some '0') &&
    decide (cs.foldl (fun n c => 10 * n + (c.toNat - 48)) 0 < 256)

def isV4 (cs : List Char) : Bool :=
  let octets := parts '.' cs
  octets.length == 4 && octets.all isOctet

/-- A group of hexadecimal digits. -/
def isGroup (cs : List Char) : Bool := !cs.isEmpty && cs.length ≤ 4 && cs.all isHexDigit

/-- Two colons in the middle: the empty part among the inner ones, if there is exactly one. -/
def gapOf (groups : List (List Char)) : Option Nat :=
  match ((groups.zipIdx.drop 1).dropLast.filter fun g => g.1.isEmpty) with
  | [g] => some g.2
  | _ => none

/-- Are these the groups of an address? -/
def areGroups (groups : List (List Char)) : Bool :=
  let inner := (groups.drop 1).dropLast
  if groups.length < 3 || groups.length > 9 then false
  else
    match gapOf groups with
    | none => (inner.all fun g => !g.isEmpty) && groups.length == 8 && groups.all isGroup
    | some i =>
      let front := groups.take i
      let back := groups.drop (i + 1)
      -- an empty part at an end must belong to the gap
      let front := if front == [[]] then [] else front
      let back := if back == [[]] then [] else back
      front.all isGroup && back.all isGroup && decide (front.length + back.length < 8)

def isV6 (cs : List Char) : Bool :=
  let address := cs.takeWhile (· != '%')
  let zone := cs.dropWhile (· != '%')
  let zoneIsFine := zone.isEmpty || (zone.length > 1 && !(zone.drop 1).contains '%')
  let groups := parts ':' address
  let last := groups.getLastD []
  let fine := if last.contains '.' then isV4 last && areGroups (groups.dropLast ++ [['0'], ['0']]) else areGroups groups
  zoneIsFine && !cs.contains '/' && fine

example : (["::1", "1::", "::", "1:2:3:4:5:6:7:8", "::1.2.3.4", "fe80::a%eth0"].map fun s => isV6 s.toList) = List.replicate 6 true := by
  decide +kernel

example : ([":::", "1:2", ":1::", "1:2:3:4:5:6:7:8:9", "12345::", "::1%", "::1.2.3"].map fun s => isV6 s.toList) = List.replicate 7 false := by
  decide +kernel

end IpAddress

structure Uri where
  scheme : String
  authority : List Char
  deriving DecidableEq, Repr

namespace Uri

/-- Blanks and control characters, which count for nothing in front. -/
def isIgnored (c : Char) : Bool := c.toNat ≤ 0x20

def isSchemeCharacter (c : Char) : Bool := c.isAlphanum || c == '+' || c == '-' || c == '.'

/-- The scheme at the front, in small letters, and what follows it. -/
def spanScheme (cs : List Char) : String × List Char :=
  let front := cs.takeWhile (· != ':')
  match cs.dropWhile (· != ':'), front with
  | ':' :: rest, c :: _ =>
    if c.isAlpha && front.all isSchemeCharacter then (String.ofList (front.map Char.toLower), rest) else ("", cs)
  | _, _ => ("", cs)

/-- The part behind the last mark, or all. -/
def afterLast (mark : Char) (cs : List Char) : List Char := (cs.reverse.takeWhile (· != mark)).reverse

/-- The parts before and behind the first mark. -/
def spanAt (mark : Char) (cs : List Char) : List Char × List Char :=
  (cs.takeWhile (· != mark), (cs.dropWhile (· != mark)).drop 1)

def badBrackets {α : Type} : Except Fault α := .error (.error .badValue "Invalid IPv6 URL")

/-- An address of a later version: a version in hexadecimal digits and the address. -/
def isFutureAddress : List Char → Bool
  | 'v' :: rest =>
    let digits := rest.takeWhile IpAddress.isHexDigit
    match rest.dropWhile IpAddress.isHexDigit with
    | '.' :: _ :: _ => !digits.isEmpty
    | _ => false
  | _ => false

/-- Checks a host in brackets. -/
def checkBracketed (host : List Char) : Except Fault Unit :=
  if host.head? == some 'v' then
    if isFutureAddress host then .ok () else .error (.error .badValue "IPvFuture address is invalid")
  else if IpAddress.isV4 host then .error (.error .badValue "An IPv4 address cannot be in brackets")
  else if IpAddress.isV6 host then .ok ()
  else
    .error (.error .badValue (Text.quoted (String.ofList host) ++ " does not appear to be an IPv4 or IPv6 address"))

/-- Checks the brackets of an authority: both or none, nothing before them, a port at most behind them. -/
def checkBrackets (authority : List Char) : Except Fault Unit :=
  match authority.contains '[', authority.contains ']' with
  | false, false => .ok ()
  | true, true =>
    let place := afterLast '@' authority
    if place.contains '[' then
      let (before, bracketed) := spanAt '[' place
      let (host, behind) := spanAt ']' bracketed
      if !before.isEmpty then badBrackets
      else if !behind.isEmpty && behind.head? != some ':' then badBrackets
      else checkBracketed host
    else checkBracketed (spanAt ':' place).1
  | _, _ => badBrackets

/-- Characters that come to hold a separator when compatible characters are unified. -/
def separatorLookalikes : List Nat :=
  [0x2048, 0x2047, 0x2049, 0x2100, 0x2101, 0x2105, 0x2106, 0x2A74, 0xFE13, 0xFE16, 0xFE55, 0xFE56, 0xFE5F, 0xFE6B, 0xFF03, 0xFF0F, 0xFF1A,
   0xFF1F, 0xFF20]

def checkLookalikes (authority : List Char) : Except Fault Unit :=
  if authority.any fun c => separatorLookalikes.contains c.toNat then
    .error (.error .badValue ("netloc " ++ String.ofList authority ++ " contains invalid characters under NFKC normalization"))
  else .ok ()

/-- Scheme and authority of a text. -/
def split (s : String) : Except Fault Uri := do
  let cs := (s.toList.dropWhile isIgnored).filter fun c => !(c == '\t' || c == '\r' || c == '\n')
  let (scheme, rest) := spanScheme cs
  match rest with
  | '/' :: '/' :: rest => do
    let authority := rest.takeWhile fun c => !(c == '/' || c == '?' || c == '#')
    checkBrackets authority
    checkLookalikes authority
    return { scheme := scheme, authority := authority }
  | _ => return { scheme := scheme, authority := [] }

/-- Host and port as they are written. -/
def place (u : Uri) : List Char × List Char :=
  let place := afterLast '@' u.authority
  if place.contains '[' then
    let (host, behind) := spanAt ']' (spanAt '[' place).2
    (host, (spanAt ':' behind).2)
  else spanAt ':' place

/-- The host in small letters; the zone of an address stays as it is. -/
def host (u : Uri) : String :=
  let (name, zone) := (u.place.1.takeWhile (· != '%'), u.place.1.dropWhile (· != '%'))
  Text.lower (String.ofList name) ++ String.ofList zone

/-- The port, if one is written. -/
def port (u : Uri) : Except Fault (Option Nat) :=
  let digits := u.place.2
  if digits.isEmpty then .ok none
  else if digits.all Char.isDigit then do
    let n ← Text.readInt (String.ofList digits)
    if n ≤ 65535 then return some n.toNat else throw (.error .badValue "Port out of range 0-65535")
  else .error (.error .badValue ("Port could not be cast to integer value as " ++ Text.quoted (String.ofList digits)))

end Uri

end ScriptFlow
