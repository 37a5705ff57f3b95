import GirStubs.CommandLine.FileTree
import GirStubs.CommandLine.Run

/-! # The program

Reads the one file that an invocation asks for, runs the invocation on it, and
prints the outcome.
-/

namespace GirStubs

open CommandLine
open Gir (FileFault)

/-- The fault behind an error of the file system. -/
def faultOf : IO.Error → FileFault
  | .inappropriateType _ 20 _ => .notADirectory
  | .inappropriateType .. => .directory
  | _ => .missing

/-- The text of a file, or why there is none. -/
def readFile (path : String) : IO (Except FileFault String) := do
  match ← (IO.FS.readBinFile path).toBaseIO with
  | .ok bytes => return decodeText bytes
  | .error e => return .error (faultOf e)

/-- What is said about the use of the program. -/
def usage : String :=
  "usage: girstubs (stubs|model) IDENT [--gir-dir DIR] [--file FILE]\n" ++
    "                [--alias-namespace (target|enclosing)] [--no-op]"

/-- No file at all. -/
def noFiles : Files := fun _ => .error .missing

/-- Runs an invocation on the file system and gives the exit code. -/
def perform (i : Invocation) : IO UInt32 := do
  let files : Files ←
    match i.source with
    | .ok (_, path) => if i.dryRun then pure noFiles else do
      let content ← readFile path
      pure fun _ => content
    | .error _ => pure noFiles
  let outcome := i.run files
  IO.print outcome.output
  match outcome with
  | .success _ notes =>
    IO.eprint notes
    return 0
  | .failure during failure =>
    IO.eprintln ("error: " ++ report during failure)
    return 1

end GirStubs

/-- The program. -/
def main (arguments : List String) : IO UInt32 := do
  match GirStubs.CommandLine.parse arguments with
  | .ok invocation => GirStubs.perform invocation
  | .error notice =>
    IO.eprintln GirStubs.usage
    return notice.exitCode
