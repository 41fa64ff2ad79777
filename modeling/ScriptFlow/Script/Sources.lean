import ScriptFlow.Json.Reader
import ScriptFlow.Json.Writer
import ScriptFlow.Text.Utf8

/-!
# Script paths and sources

A path names a script below the root. Its normal form starts with one slash and holds no empty, `.` or `..` component; `..`
removes the component before it and nothing at the root, so no path leaves the root. A path is a text, perhaps a loose one, and is
worked on by its code points.

The sources of a run are all files below a root directory, keyed by their path from the root. A file is read as UTF-8 text in which
every line end becomes a line feed. Files are listed in the order of their path components.

* `ScriptPath.normpath` — the normal form of any path, with a root or without, as POSIX has it.
* `ScriptPath.normalForm` — that of a path below the root, with as many slashes in front as one likes.
* `ScriptPath.normalize` — the normal form of a value used as a path; the empty text and values that are no texts name no
  script. `ScriptPath.ofData` — the same as a name that scripts can have.
-/

namespace ScriptFlow

/-! ## Paths -/

namespace ScriptPath

def slash : Nat := 47

def dot : Nat := 46

/-- The texts between slashes. -/
def components (cs : List Nat) : List (List Nat) := cs.splitOn slash

/-- Does a component name the directory it stands in? -/
def isHere (part : List Nat) : Bool := part == [] || part == [dot]

/-- Does a component name the directory above? -/
def isUp (part : List Nat) : Bool := part == [dot, dot]

/-- The slashes in front of a normal form: two stay two, any other number of them counts as one. -/
def rootSlashes (cs : List Nat) : Nat :=
  let n := (cs.takeWhile (· == slash)).length
  if n == 2 then 2 else min n 1

/-- Takes in one component; those kept so far stand backwards. `..` takes the last one back. Where there is none to take back, it stays in a path
without a root. -/
def keep (rooted : Bool) (kept : List (List Nat)) (part : List Nat) : List (List Nat) :=
  if isHere part then kept
  else if !isUp part || (!rooted && kept.isEmpty) || kept.head?.any isUp then part :: kept
  else kept.drop 1

/-- The normal form of a path. -/
def normpath (cs : List Nat) : List Nat :=
  let slashes := rootSlashes cs
  let kept := ((components cs).foldl (keep (slashes != 0)) []).reverse
  let text := List.replicate slashes slash ++ [slash].intercalate kept
  if text.isEmpty then [dot] else text

/-- The normal form of a path below the root. -/
def normalForm (cs : List Nat) : List Nat := normpath (slash :: cs.dropWhile (· == slash))

/-- The error for a value that is no path. -/
def invalid (d : Data) : Fault := .error .scriptNotFound ("invalid script path: " ++ d.expression)

/-- The normal form of a value used as a path. -/
def normalize (d : Data) : Except Fault Data :=
  match Json.codePoints? d with
  | some (c :: cs) => .ok (Json.textOf (normalForm (c :: cs)))
  | _ => .error (invalid d)

/-- The normal form as the name of a script, which is written in characters. -/
def ofData (d : Data) : Except Fault String := do
  match ← normalize d with
  | .str path => .ok path
  | path => .error (Utf8.encodeFault ((Json.codePoints? path).getD []))

end ScriptPath

/-! ## Sources -/

/-- Path of a source, with its slash in front, and its text. -/
abbrev Sources := List (String × String)

/-- A directory tree: the files with their contents and the directories, by path from the root. -/
structure FileTree where
  files : List (String × ByteArray)
  directories : List String

namespace Sources

/-- Carriage returns, alone or before a line feed, as line feeds. -/
def unifyLineEnds : List Char → List Char
  | '\r' :: '\n' :: rest => '\n' :: unifyLineEnds rest
  | '\r' :: rest => '\n' :: unifyLineEnds rest
  | c :: rest => c :: unifyLineEnds rest
  | [] => []

/-- The components of a path below the root. -/
def parts (path : String) : List (List Char) := (path.toList.splitOn '/').filter fun part => part != [] && part != ['.']

/-- Components with a slash in front of each. -/
def render (path : List (List Char)) : List Char := path.flatMap fun part => '/' :: part

/-- Order of texts by code point. -/
def textLess : List Char → List Char → Bool
  | _, [] => false
  | [], _ :: _ => true
  | c :: cs, d :: ds => c.toNat < d.toNat || (c == d && textLess cs ds)

/-- Order of paths by their components. -/
def pathLess : List (List Char) → List (List Char) → Bool
  | _, [] => false
  | [], _ :: _ => true
  | p :: ps, q :: qs => textLess p q || (p == q && pathLess ps qs)

/-- The error for bytes that are no UTF-8 text. -/
def notUtf8 : Fault := .error .unicodeDecode "invalid UTF-8"

/-- The text of a file. -/
def fileText (bs : ByteArray) : Except Fault String :=
  match String.fromUTF8? bs with
  | some s => .ok (String.ofList (unifyLineEnds s.toList))
  | none => .error notUtf8

/-- The error for a root that is no directory. -/
def missingRoot : Fault := .error .scriptNotFound "script root is not a directory"

/-- Is there a directory with these components? -/
def FileTree.hasDirectory (tree : FileTree) (dir : List (List Char)) : Bool :=
  dir.isEmpty || tree.directories.any (fun d => dir.isPrefixOf (parts d)) ||
    tree.files.any (fun f => dir.isPrefixOf (parts f.1).dropLast)

/-- Reads files one after the other; the first that is no text decides. -/
def readAll : List (List (List Char) × ByteArray) → Except Fault Sources
  | [] => .ok []
  | (path, bs) :: rest => do
    let text ← fileText bs
    let others ← readAll rest
    pure ((String.ofList (render path), text) :: others)

/-- All sources below a directory of the tree. -/
def load (tree : FileTree) (dir : String) : Except Fault Sources :=
  let root := parts dir
  if !FileTree.hasDirectory tree root then .error missingRoot
  else
    let below := tree.files.filterMap fun f =>
      let path := parts f.1
      if root.isPrefixOf path && path.length > root.length then some (path.drop root.length, f.2) else none
    readAll (below.mergeSort fun a b => !pathLess b.1 a.1)

end Sources

end ScriptFlow
