import GirStubs.Api.Json
import GirStubs.CommandLine.Arguments
import GirStubs.Gir.Document
import GirStubs.Gir.Identifier
import GirStubs.Stub.Render
import GirStubs.Text.Quoted

/-! # Running a command

An invocation needs at most one file. `Invocation.source` says which, once the
identifier is found to be one; `Invocation.run` makes the output from whatever
`Files` holds there. Both commands read the same module, and only what they print
of it differs.
-/

namespace GirStubs.CommandLine

open Api (Module)
open Gir (AliasPolicy Failure FileFault Identifier Options)

/-- The text of the file at each path, or why there is none. -/
abbrev Files := String → Except FileFault String

/-- The outcome of a run. -/
inductive Outcome where
  /-- The texts for standard output and standard error. -/
  | success (output notes : String)
  /-- The failure, with the words that say during what it came up. -/
  | failure (during : Option String) (failure : Failure)
  deriving DecidableEq, Repr

/-- The text for standard output. A run that fails has none. -/
def Outcome.output : Outcome → String
  | .success output _ => output
  | .failure .. => ""

/-- The wording of a failure with its context and its cause. -/
def report (during : Option String) (failure : Failure) : String :=
  let cause :=
    match failure with
    | .unreadable _ fault => [fault.message]
    | _ => []
  ": ".intercalate (during.toList ++ [failure.message] ++ cause)

/-- The names of a command and its settings in the view of an invocation. -/
def Command.viewNames : Command → String × String
  | .stubs => ("Stubs", "StubsOut")
  | .model => ("Model", "ModelOut")

/-- The name of a policy in the view of an invocation. -/
def policyView : AliasPolicy → String
  | .target => "Target"
  | .enclosing => "Enclosing"

namespace Invocation

/-- The lines that show a file option in the view of an invocation. -/
def fileView : Option String → List String
  | none => ["                file: None,"]
  | some path =>
    ["                file: Some(", "                    " ++ Text.quote path ++ ",",
      "                ),"]

/-- The lines that show an invocation. -/
def view (i : Invocation) : List String :=
  ["CommandLineInterface \x7b",
    "    cmd: " ++ i.command.viewNames.1 ++ "(",
    "        " ++ i.command.viewNames.2 ++ " \x7b",
    "            input_settings: InputSettings \x7b",
    "                ident: " ++ Text.quote i.identifier ++ ",",
    "                gir_dir: " ++ Text.quote i.directory ++ ","] ++
  fileView i.file ++
  ["                alias_namespace: " ++ policyView i.aliasPolicy ++ ",",
    "            \x7d,",
    "            no_op: " ++ (if i.dryRun then "true" else "false") ++ ",",
    "        \x7d,",
    "    ),",
    "\x7d"]

/-- The identifier, and the path of the document. -/
def source (i : Invocation) : Except Failure (Identifier × String) :=
  match Identifier.parse? i.identifier with
  | none => .error (.invalidIdentifier i.identifier)
  | some identifier => .ok (identifier, i.file.getD (identifier.pathIn i.directory))

/-- The options for the module and the text of the document. -/
def load (i : Invocation) (files : Files) : Except Failure (Options × String) := do
  let (identifier, path) ← i.source
  match files path with
  | .error fault => throw (.unreadable path fault)
  | .ok text => return (⟨identifier.home, i.aliasPolicy⟩, text)

/-- What a command is doing once the document is read. -/
def activity (i : Invocation) : String :=
  match i.command with
  | .stubs => "generating stubs for " ++ i.identifier
  | .model => "building model for " ++ i.identifier

/-- The text that a command prints for a module. -/
def print (i : Invocation) (m : Module) : String :=
  match i.command with
  | .stubs => Stub.moduleText m
  | .model => m.toJson.pretty 0 ++ "\n"

/-- Runs an invocation. -/
def run (i : Invocation) (files : Files) : Outcome :=
  if i.dryRun then .success "" ("\n".intercalate i.view ++ "\n")
  else
    match i.load files with
    | .error failure => .failure none failure
    | .ok (options, text) =>
      match Gir.readModule options text with
      | .error failure => .failure (some i.activity) failure
      | .ok m => .success (i.print m) ""

end Invocation

end GirStubs.CommandLine
