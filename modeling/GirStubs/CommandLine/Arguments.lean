import GirStubs.Gir.Namespace

/-! # Arguments

The command line names a command, an identifier and options. Arguments are read
from left to right. The value of an option may be attached with an equals sign or
be the next argument. An attached value is checked at once; a value of its own is
checked when the next argument that is understood has come, so that an argument
that is not understood is reported first.

`parse` gives the invocation, or a `Notice` that says why nothing is run.
-/

namespace GirStubs.CommandLine

open Gir (AliasPolicy)

/-- What is asked for. -/
inductive Command where
  /-- The stub module. -/
  | stubs
  /-- The declarations as JSON. -/
  | model
  deriving DecidableEq, Repr

/-- Where documents are looked up unless the command line says otherwise. -/
def defaultDirectory : String := "/usr/share/gir-1.0"

/-- A command line that is understood. -/
structure Invocation where
  command : Command
  /-- The identifier of the document, as written. -/
  identifier : String
  /-- Where the document is looked up. -/
  directory : String := defaultDirectory
  /-- The document itself, when it is not looked up. -/
  file : Option String := none
  aliasPolicy : AliasPolicy := .target
  /-- Nothing is done but to show the invocation. -/
  dryRun : Bool := false
  deriving DecidableEq, Repr

/-- Why nothing is run. -/
inductive Notice where
  /-- Help is asked for. -/
  | help
  /-- The version is asked for. -/
  | version
  /-- There is no argument. -/
  | noCommand
  /-- The command is not known. -/
  | unknownCommand
  /-- The identifier is missing. -/
  | missingIdentifier
  /-- An option is not known, or there is one argument too many. -/
  | unknownArgument
  /-- The value of an option is missing or not allowed. -/
  | invalidValue
  /-- An option is given twice. -/
  | repeatedOption
  /-- A value is attached to an option that takes none. -/
  | needlessValue
  deriving DecidableEq, Repr

/-- The exit code: success where the user asked for the notice. -/
def Notice.exitCode : Notice → UInt32
  | .help | .version => 0
  | _ => 2

/-- The options that take a value. -/
inductive ValueOption where
  | directory
  | file
  | aliasPolicy
  deriving DecidableEq, Repr

/-- The name of an option that takes a value. -/
def ValueOption.ofName? (name : List Char) : Option ValueOption :=
  if name = "gir-dir".toList then some .directory
  else if name = "file".toList then some .file
  else if name = "alias-namespace".toList then some .aliasPolicy
  else none

/-- The policy that a value names. -/
def policyNamed? (value : String) : Option AliasPolicy :=
  if value = "target" then some .target
  else if value = "enclosing" then some .enclosing
  else none

/-- The shape of an argument. -/
inductive Shape where
  /-- The two hyphens behind which every argument is an ordinary one. -/
  | escape
  /-- Two hyphens with a name, and perhaps a value behind an equals sign. -/
  | long (name : List Char) (value : Option (List Char))
  /-- One hyphen with letters. -/
  | short (first : Char)
  /-- Anything else. -/
  | ordinary
  deriving DecidableEq, Repr

/-- The shape of an argument. -/
def shapeOf (argument : String) : Shape :=
  match argument.toList with
  | ['-', '-'] => .escape
  | '-' :: '-' :: rest =>
    match rest.dropWhile (· ≠ '=') with
    | _ :: value => .long (rest.takeWhile (· ≠ '=')) (some value)
    | [] => .long rest none
  | '-' :: first :: _ => .short first
  | _ => .ordinary

/-- The options read so far. -/
structure Draft where
  identifier : Option String := none
  directory : Option String := none
  file : Option String := none
  aliasPolicy : Option AliasPolicy := none
  dryRun : Bool := false
  /-- An option whose value is not checked yet, and the value if it has come. -/
  pending : Option (ValueOption × Option String) := none

namespace Draft

/-- The path that a value writes. -/
def path (value : String) : Except Notice (Option String) :=
  if value = "" then .error .invalidValue else .ok (some value)

/-- Gives an option its value. -/
def assign (d : Draft) (option : ValueOption) (value : String) : Except Notice Draft :=
  match option with
  | .directory =>
    if d.directory.isSome then .error .repeatedOption
    else do return { d with directory := ← path value }
  | .file =>
    if d.file.isSome then .error .repeatedOption
    else do return { d with file := ← path value }
  | .aliasPolicy =>
    if d.aliasPolicy.isSome then .error .repeatedOption
    else
      match policyNamed? value with
      | some policy => .ok { d with aliasPolicy := some policy }
      | none => .error .invalidValue

/-- Checks the pending value. -/
def settle (d : Draft) : Except Notice Draft :=
  match d.pending with
  | none => .ok d
  | some (_, none) => .error .invalidValue
  | some (option, some value) => { d with pending := none }.assign option value

/-- Reads an argument that is no option. -/
def takeOrdinary (d : Draft) (argument : String) : Except Notice Draft :=
  if d.identifier.isSome then .error .unknownArgument
  else do return { ← d.settle with identifier := some argument }

/-- Reads the option with a name and perhaps an attached value. -/
def takeLong (d : Draft) (name : List Char) (value : Option (List Char)) : Except Notice Draft :=
  if name = "help".toList then
    if value.isSome then .error .needlessValue else do let _ ← d.settle; throw .help
  else if name = "no-op".toList then
    if value.isSome then .error .needlessValue
    else do
      let d ← d.settle
      if d.dryRun then throw .repeatedOption else return { d with dryRun := true }
  else
    match ValueOption.ofName? name with
    | none => .error .unknownArgument
    | some option => do
      let d ← d.settle
      match value with
      | some value => d.assign option (String.ofList value)
      | none => return { d with pending := some (option, none) }

/-- Reads one argument before the escape. -/
def take (d : Draft) (argument : String) (shape : Shape) : Except Notice Draft :=
  match shape with
  | .escape => .ok d
  | .long name value => d.takeLong name value
  | .short first =>
    if first = 'h' then do let _ ← d.settle; throw .help else .error .unknownArgument
  | .ordinary =>
    match d.pending with
    | some (option, none) => .ok { d with pending := some (option, some argument) }
    | _ => d.takeOrdinary argument

/-- Reads the arguments of a command; behind the escape all of them are ordinary. -/
def takeAll (d : Draft) (escaped : Bool) : List String → Except Notice Draft
  | [] => d.settle
  | argument :: rest =>
    if escaped then
      match d.takeOrdinary argument with
      | .error notice => .error notice
      | .ok next => next.takeAll true rest
    else
      match d.take argument (shapeOf argument) with
      | .error notice => .error notice
      | .ok next => next.takeAll (shapeOf argument = .escape) rest

/-- The invocation of a command with the options read. -/
def toInvocation (d : Draft) (command : Command) : Except Notice Invocation :=
  match d.identifier with
  | none => .error .missingIdentifier
  | some identifier =>
    .ok {
      command
      identifier
      directory := d.directory.getD defaultDirectory
      file := d.file
      aliasPolicy := d.aliasPolicy.getD .target
      dryRun := d.dryRun }

end Draft

/-- The command with a name. -/
def Command.ofName? (name : String) : Option Command :=
  if name = "stubs" then some .stubs
  else if name = "model" then some .model
  else none

/-- The word that asks for help on a command. -/
def helpWord : String := "help"

/-- What the names behind the help word ask for: at most one command can be named. -/
def helpNotice : List String → Notice
  | [] => .help
  | name :: more =>
    if (Command.ofName? name).isSome ∨ name = helpWord then
      if more = [] then .help else .unknownCommand
    else .unknownCommand

/-- What arguments behind an escape in place of the command lead to. -/
def escapedNotice : List String → Notice
  | [] => .noCommand
  | name :: _ =>
    if (Command.ofName? name).isSome ∨ name = helpWord then .unknownArgument else .unknownCommand

/-- What an argument in place of the command leads to. -/
def leadingNotice (argument : String) (rest : List String) : Notice :=
  match shapeOf argument with
  | .escape => escapedNotice rest
  | .long name value =>
    if name = "help".toList then if value.isSome then .needlessValue else .help
    else if name = "version".toList then if value.isSome then .needlessValue else .version
    else .unknownArgument
  | .short first =>
    if first = 'h' then .help else if first = 'V' then .version else .unknownArgument
  | .ordinary => if argument = helpWord then helpNotice rest else .unknownCommand

/-- The invocation that the arguments write. -/
def parse : List String → Except Notice Invocation
  | [] => .error .noCommand
  | argument :: rest =>
    match Command.ofName? argument with
    | some command => do
      let draft ← Draft.takeAll {} false rest
      draft.toInvocation command
    | none => .error (leadingNotice argument rest)

end GirStubs.CommandLine
