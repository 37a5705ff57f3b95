import GirStubs.CommandLine.Run
import GirStubs.Proofs.Gir.Identifier
import GirStubs.Proofs.Outcome

/-!
# What both commands have in common

The two commands take the same arguments and differ in what they print. `Invocation.load` makes
the options and finds the text of the document, from which `Invocation.module` reads the module; a
run is what is printed of that module, or the failure on the way to it (`run_eq`). The command has
no part in `Invocation.module`, and of the settings and the files only few do: an identifier that
is none is refused before any file is asked for (`load_of_not_identifier`), and where a file is
named, neither the directory nor any other file counts, nor more of the identifier than its
namespace (`load_of_file`).
-/

namespace GirStubs.CommandLine

open Api (Module)
open Gir (Failure Identifier)

/-! ## Arguments -/

/-- The same settings for another command. -/
def Invocation.withCommand (i : Invocation) (command : Command) : Invocation := { i with command }

theorem toInvocation_withCommand {d : Draft} {command : Command} {i : Invocation}
    (h : d.toInvocation command = .ok i) (command' : Command) :
    d.toInvocation command' = .ok (i.withCommand command') := by
  unfold Draft.toInvocation at h ⊢
  cases hidentifier : d.identifier with
  | none =>
    rw [hidentifier] at h
    cases h
  | some identifier =>
    rw [hidentifier] at h
    cases h
    rfl

/-- The name of a command has no part in how the arguments behind it are read. -/
theorem parse_withCommand {name name' : String} {command command' : Command} {tail : List String}
    {i : Invocation} (hname : Command.ofName? name = some command)
    (hname' : Command.ofName? name' = some command') (h : parse (name :: tail) = .ok i) :
    parse (name' :: tail) = .ok (i.withCommand command') := by
  simp only [parse, hname] at h
  simp only [parse, hname']
  cases hdraft : Draft.takeAll {} false tail with
  | error notice =>
    rw [hdraft] at h
    cases h
  | ok draft =>
    rw [hdraft] at h
    exact toInvocation_withCommand h command'

/-! ## Runs -/

namespace Invocation

variable {i i' : Invocation} {files files' : Files} {path : String}

/-- The module that an invocation reads, or why there is none. -/
def module (i : Invocation) (files : Files) : Except Failure Module := do
  let (options, text) ← i.load files
  Gir.readModule options text

/-- Equal outcomes, or one failure during what the two invocations do once the document is at
hand. -/
inductive SameButActivity (i i' : Invocation) : Outcome → Outcome → Prop where
  | same (outcome : Outcome) : SameButActivity i i' outcome outcome
  | during (failure : Failure) :
      SameButActivity i i' (.failure (some i.activity) failure) (.failure (some i'.activity) failure)

/-- The context of a failure. There is one as soon as the document is at hand. -/
def context (i : Invocation) (files : Files) : Option String :=
  match i.load files with
  | .ok _ => some i.activity
  | .error _ => none

/-- A run prints the module that it reads, or fails as the reading of it does. -/
theorem run_eq (hrun : i.dryRun = false) (files : Files) :
    i.run files =
      match i.module files with
      | .ok m => .success (i.print m) ""
      | .error failure => .failure (i.context files) failure := by
  cases hload : i.load files with
  | error failure =>
    have hmodule : i.module files = .error failure := by
      unfold module
      rw [hload]
      rfl
    have hcontext : i.context files = none := by
      unfold context
      rw [hload]
    unfold run
    rw [hrun, hload, hmodule, hcontext]
    rfl
  | ok loaded =>
    obtain ⟨options, text⟩ := loaded
    have hmodule : i.module files = Gir.readModule options text := by
      unfold module
      rw [hload]
      rfl
    have hcontext : i.context files = some i.activity := by
      unfold context
      rw [hload]
    unfold run
    rw [hrun, hload, hmodule, hcontext, if_neg Bool.false_ne_true]
    dsimp only
    cases Gir.readModule options text <;> rfl

theorem run_of_module {m : Module} (hrun : i.dryRun = false) (h : i.module files = .ok m) :
    i.run files = .success (i.print m) "" := by
  rw [run_eq hrun, h]

theorem run_of_failure {failure : Failure} (hrun : i.dryRun = false)
    (h : i.module files = .error failure) :
    i.run files = .failure (i.context files) failure := by
  rw [run_eq hrun, h]

/-- Runs of one command that load the same differ in the context of a failure at most. -/
theorem sameButActivity_run (hrun : i.dryRun = false) (hrun' : i'.dryRun = false)
    (hcommand : i.command = i'.command) (hload : i.load files = i'.load files') :
    SameButActivity i i' (i.run files) (i'.run files') := by
  have hmodule : i.module files = i'.module files' := by
    unfold module
    rw [hload]
  cases hread : i'.module files' with
  | ok m =>
    have hprint : i.print m = i'.print m := by
      unfold print
      rw [hcommand]
    rw [run_of_module hrun (hmodule.trans hread), run_of_module hrun' hread, hprint]
    exact .same _
  | error failure =>
    rw [run_of_failure hrun (hmodule.trans hread), run_of_failure hrun' hread]
    unfold context
    rw [hload]
    cases i'.load files' with
    | ok _ => exact .during failure
    | error _ => exact .same _

/-! ## What is loaded -/

/-- An identifier that is none is refused, whatever the files are. -/
theorem load_of_not_identifier (h : Identifier.parse? i.identifier = none) (files : Files) :
    i.load files = .error (.invalidIdentifier i.identifier) := by
  unfold load source
  rw [h]
  rfl

/-- What is loaded from a named file depends on the file, the namespace and the policy. -/
theorem load_of_file {identifier : Identifier} (hfile : i.file = some path)
    (hidentifier : Identifier.parse? i.identifier = some identifier) (files : Files) :
    i.load files =
      match files path with
      | .ok text => .ok (⟨identifier.home, i.aliasPolicy⟩, text)
      | .error fault => .error (.unreadable path fault) := by
  unfold load source
  rw [hidentifier, hfile]
  simp only [Option.getD_some, bind, Except.bind]
  cases files path <;> rfl

theorem run_of_not_identifier (hrun : i.dryRun = false)
    (h : Identifier.parse? i.identifier = none) (files : Files) :
    i.run files = .failure none (.invalidIdentifier i.identifier) := by
  have hload := load_of_not_identifier h files
  have hmodule : i.module files = .error (.invalidIdentifier i.identifier) := by
    unfold module
    rw [hload]
    rfl
  have hcontext : i.context files = none := by
    unfold context
    rw [hload]
  rw [run_of_failure hrun hmodule, hcontext]

/-- With a named file neither the directory nor another file plays a part. -/
theorem run_of_file (hrun : i.dryRun = false) (hfile : i.file = some path)
    (hfiles : files path = files' path) (directory : String) :
    { i with directory }.run files' = i.run files := by
  have hload : { i with directory }.load files' = i.load files := by
    cases hidentifier : Identifier.parse? i.identifier with
    | none =>
      rw [load_of_not_identifier hidentifier]
      exact load_of_not_identifier (i := { i with directory }) hidentifier files'
    | some identifier =>
      rw [load_of_file hfile hidentifier, hfiles]
      exact load_of_file (i := { i with directory }) hfile hidentifier files'
  have hmodule : { i with directory }.module files' = i.module files := by
    unfold module
    rw [hload]
  have hcontext : { i with directory }.context files' = i.context files := by
    unfold context
    rw [hload]
    rfl
  cases hread : i.module files with
  | ok m =>
    rw [run_of_module hrun hread]
    exact run_of_module (i := { i with directory }) hrun (hmodule.trans hread)
  | error failure =>
    rw [run_of_failure hrun hread, ← hcontext]
    exact run_of_failure (i := { i with directory }) hrun (hmodule.trans hread)

/-- With a named file the version plays no part but in the context of a failure. -/
theorem run_of_file_of_home {identifier identifier' : Identifier} {text : String}
    (hrun : i.dryRun = false) (hfile : i.file = some path) (hfiles : files path = files' path)
    (hidentifier : Identifier.parse? i.identifier = some identifier)
    (hidentifier' : Identifier.parse? text = some identifier')
    (hhome : identifier'.home = identifier.home) (directory : String) :
    SameButActivity { i with directory, identifier := text } i
      ({ i with directory, identifier := text }.run files') (i.run files) := by
  refine sameButActivity_run hrun hrun rfl ?_
  rw [load_of_file hfile hidentifier, hfiles, ← hhome]
  exact load_of_file (i := { i with directory, identifier := text }) hfile hidentifier' files'

/-- Of all files only the one at a path counts, and of the settings that say where a document is
looked up only the namespace in the identifier, but for the context of a failure. -/
structure DecidedBy (path : String) (i : Invocation) : Prop where
  directory : ∀ files files' : Files, files path = files' path → ∀ directory,
    { i with directory }.run files' = i.run files
  version : ∀ files files' : Files, files path = files' path →
    ∀ directory home version version', (Identifier.mk home version).WellFormed →
      (Identifier.mk home version').WellFormed →
      i.identifier = (Identifier.mk home version).render →
      ∀ i', i' = { i with directory, identifier := (Identifier.mk home version').render } →
        SameButActivity i' i (i'.run files') (i.run files)

theorem decidedBy_of_file (hrun : i.dryRun = false) (hfile : i.file = some path) :
    i.DecidedBy path where
  directory := fun _ _ hfiles directory => run_of_file hrun hfile hfiles directory
  version := by
    rintro files files' hfiles directory home version version' h h' hidentifier _ rfl
    have hparse : Identifier.parse? i.identifier = some ⟨home, version⟩ := by
      rw [hidentifier]
      exact Identifier.parse?_render h
    exact run_of_file_of_home hrun hfile hfiles hparse (Identifier.parse?_render h') rfl directory

end Invocation

theorem command_of_parse {name : String} {command : Command} {tail : List String} {i : Invocation}
    (hname : Command.ofName? name = some command) (h : parse (name :: tail) = .ok i) :
    i.command = command := by
  have hself := (parse_withCommand hname hname h).symm.trans h
  exact congrArg Invocation.command (Except.ok.inj hself).symm

/-- **Both commands agree.** For the same arguments both print views of one module, or both fail
with the same cause and print nothing. A text that is no identifier is refused whatever the files
are. Where a file is named, its content decides. -/
theorem run_commands {tail : List String} {i : Invocation} (h : parse ("stubs" :: tail) = .ok i)
    (hrun : i.dryRun = false) :
    ∃ j, parse ("model" :: tail) = .ok j ∧
      (∀ files,
        (∃ m, i.module files = .ok m ∧ i.run files = .success (Stub.moduleText m) "" ∧
          j.run files = .success (m.toJson.pretty 0 ++ "\n") "") ∨
        ∃ during during' failure, i.run files = .failure during failure ∧
          j.run files = .failure during' failure ∧
          (i.run files).output = "" ∧ (j.run files).output = "") ∧
      ((∀ identifier : Identifier, identifier.WellFormed → identifier.render ≠ i.identifier) →
        ∀ files, i.run files = .failure none (.invalidIdentifier i.identifier) ∧
          j.run files = .failure none (.invalidIdentifier i.identifier)) ∧
      ∀ path, i.file = some path → i.DecidedBy path ∧ j.DecidedBy path := by
  let j := i.withCommand .model
  have hjrun : j.dryRun = false := hrun
  refine ⟨j, parse_withCommand rfl rfl h, fun files => ?_, fun hnone files => ?_, ?_⟩
  · have hmodule : j.module files = i.module files := rfl
    cases hread : i.module files with
    | ok m =>
      have hprint : i.print m = Stub.moduleText m := by
        unfold Invocation.print
        rw [command_of_parse rfl h]
      refine Or.inl ⟨m, rfl, ?_, Invocation.run_of_module hjrun (hmodule.trans hread)⟩
      rw [Invocation.run_of_module hrun hread, hprint]
    | error failure =>
      have hi := Invocation.run_of_failure hrun hread
      have hj := Invocation.run_of_failure hjrun (hmodule.trans hread)
      refine Or.inr ⟨_, _, failure, hi, hj, ?_, ?_⟩
      · rw [hi]
        rfl
      · rw [hj]
        rfl
  · have hparse := Identifier.parse?_eq_none_iff.mpr hnone
    exact ⟨Invocation.run_of_not_identifier hrun hparse files,
      Invocation.run_of_not_identifier (i := j) hjrun hparse files⟩
  · intro path hfile
    exact ⟨Invocation.decidedBy_of_file hrun hfile, Invocation.decidedBy_of_file (i := j) hjrun hfile⟩

/-- Settings with a file of their own, and settings without a version. -/
def namedFile : Invocation :=
  { command := .stubs, identifier := "Demo-1.0", file := some "a.gir", aliasPolicy := .enclosing }

def unversioned : Invocation := { command := .stubs, identifier := "Demo" }

theorem run_commands_namedFile :
    parse ["stubs", "--alias-namespace=enclosing", "Demo-1.0", "--file", "a.gir"] =
        .ok namedFile ∧
      namedFile.dryRun = false ∧ namedFile.file = some "a.gir" ∧ namedFile.DecidedBy "a.gir" ∧
      parse ["stubs", "Demo"] = .ok unversioned ∧
      (∀ identifier : Identifier, identifier.WellFormed →
        identifier.render ≠ unversioned.identifier) ∧
      ∀ files, unversioned.run files = .failure none (.invalidIdentifier "Demo") := by
  have hnamed : parse ["stubs", "--alias-namespace=enclosing", "Demo-1.0", "--file", "a.gir"] =
      .ok namedFile :=
    eq_ok_of_toOption (by decide +kernel)
  have hunversioned : parse ["stubs", "Demo"] = .ok unversioned :=
    eq_ok_of_toOption (by decide +kernel)
  have hnone : ∀ identifier : Identifier, identifier.WellFormed →
      identifier.render ≠ unversioned.identifier :=
    Identifier.parse?_eq_none_iff.mp (by decide +kernel)
  obtain ⟨_, -, -, -, hfile⟩ := run_commands hnamed rfl
  obtain ⟨_, -, -, hinvalid, -⟩ := run_commands hunversioned rfl
  exact ⟨hnamed, rfl, rfl, (hfile "a.gir" rfl).1, hunversioned, hnone,
    fun files => (hinvalid hnone files).1⟩

end GirStubs.CommandLine
