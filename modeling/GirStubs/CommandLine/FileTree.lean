import GirStubs.Gir.Document

/-! # File trees

The files below a working directory. `FileTree.readText` follows a path from
there, component by component, and reads the file it leads to. Every directory
above a named entry exists; the tree knows nothing of the world outside the
working directory but that there are directories.
-/

namespace GirStubs.CommandLine

open Gir (FileFault)

/-- A file or directory. -/
inductive Entry where
  | directory
  | file (bytes : ByteArray)

/-- The names that lead from one directory to another place. -/
abbrev Place := List String

/-- The entries below a working directory, each at its place. -/
structure FileTree where
  entries : List (Place × Entry) := []

/-- The components of a path. -/
def components (path : String) : List String := (path.toList.splitOn '/').map String.ofList

/-- The place that a relative path without steps upward names. -/
def placeOf (path : String) : Place := (components path).filter fun c => c ≠ "" ∧ c ≠ "."

/-- The most bytes that a name in a path may have. -/
def nameLimit : Nat := 255

/-- The number of bytes that no path reaches. -/
def pathLimit : Nat := 4096

/-- The fault in the writing of a path, whatever it leads to. -/
def pathFault? (path : String) : Option FileFault :=
  if path.toList.any (·.toNat = 0) then some .nullCharacter
  else if pathLimit ≤ path.utf8ByteSize then some .nameTooLong
  else none

/-- The fault of a name that nothing has. -/
def absent (name : String) : FileFault :=
  if nameLimit < name.utf8ByteSize then .nameTooLong else .missing

/-- The text that bytes write. -/
def decodeText (bytes : ByteArray) : Except FileFault String :=
  match String.fromUTF8? bytes with
  | some text => .ok text
  | none => .error .notText

namespace FileTree

/-- What stands at a place. -/
def at? (tree : FileTree) (place : Place) : Option Entry :=
  match tree.entries.lookup place with
  | some entry => some entry
  | none =>
    if place = [] ∨ tree.entries.any (fun entry => place.isPrefixOf entry.1) then some .directory
    else none

/-- Follows the components of a path from a place, or from outside the tree. -/
def follow (tree : FileTree) (here : Option Place) : List String → Except FileFault Entry
  | [] =>
    match here with
    | none => .ok .directory
    | some place =>
      match tree.at? place with
      | some entry => .ok entry
      | none => .error (absent (place.getLastD ""))
  | c :: rest =>
    match here with
    | none => if c = "" ∨ c = "." ∨ c = ".." then tree.follow none rest else .error (absent c)
    | some place =>
      match tree.at? place with
      | none => .error (absent (place.getLastD ""))
      | some (.file _) => .error .notADirectory
      | some .directory =>
        if c = "" ∨ c = "." then tree.follow here rest
        else if c = ".." then
          tree.follow (if place = [] then none else some place.dropLast) rest
        else tree.follow (some (place ++ [c])) rest

/-- The text of the file that a path leads to. -/
def readText (tree : FileTree) (path : String) : Except FileFault String :=
  match pathFault? path with
  | some fault => .error fault
  | none =>
    let start := if path.toList.head? = some '/' then none else some []
    match tree.follow start (components path) with
    | .error fault => .error fault
    | .ok .directory => .error .directory
    | .ok (.file bytes) => decodeText bytes

end FileTree

end GirStubs.CommandLine
