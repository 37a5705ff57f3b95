import GirStubs.Gir.Namespace
import GirStubs.Markup.Document
import GirStubs.Markup.LocalName

/-! # From a document to a module

A document is parsed, its labels are reduced to local names, and its first
namespace is read: the root itself or the first child with that tag. `Failure`
collects all that can keep a module from being made.
-/

namespace GirStubs.Gir

open Api
open Markup

/-- Why the text of a file cannot be had. -/
inductive FileFault where
  /-- Nothing has the path. -/
  | missing
  /-- A file stands where the path needs a directory. -/
  | notADirectory
  /-- The path leads to a directory. -/
  | directory
  /-- The path, or a name in it, is longer than a file system takes. -/
  | nameTooLong
  /-- The path holds a null character, which no path can. -/
  | nullCharacter
  /-- The bytes of the file are no text. -/
  | notText
  deriving DecidableEq, Repr

/-- The wording of a file fault. -/
def FileFault.message : FileFault → String
  | .missing => "No such file or directory (os error 2)"
  | .notADirectory => "Not a directory (os error 20)"
  | .directory => "Is a directory (os error 21)"
  | .nameTooLong => "File name too long (os error 36)"
  | .nullCharacter => "file name contained an unexpected NUL byte"
  | .notText => "stream did not contain valid UTF-8"

/-- Why no module is made. -/
inductive Failure where
  /-- The text is no document identifier. -/
  | invalidIdentifier (text : String)
  /-- The document cannot be read. -/
  | unreadable (path : String) (fault : FileFault)
  /-- The document is refused. -/
  | malformed (refusal : Refusal)
  /-- The document has no namespace. -/
  | missingNamespace
  deriving DecidableEq, Repr

/-- The wording of a failure. -/
def Failure.message : Failure → String
  | .invalidIdentifier text =>
    "invalid GIR identifier `" ++ text ++ "` (expected `Namespace-Version`, e.g. `GLib-2.0`)"
  | .unreadable path fault => "failed to read GIR file " ++ path ++ ": " ++ fault.message
  | .malformed refusal =>
    "failed to parse GIR document at byte " ++ toString refusal.position ++ ": " ++
      refusal.fault.message
  | .missingNamespace => "GIR document has no <namespace> element"

/-- The namespace of a tree with local names. -/
def namespaceElement? (root : Element) : Option Element :=
  if root.tag = "namespace" then some root else root.child? "namespace"

/-- The tree of a document with local names. -/
def readTree (text : String) : Except Failure Element :=
  match Document.parse text with
  | .ok root => .ok root.localized
  | .error refusal => .error (.malformed refusal)

/-- The module that a document describes. -/
def readModule (options : Options) (text : String) : Except Failure Module := do
  let root ← readTree text
  match namespaceElement? root with
  | some e => return moduleOf options e
  | none => throw .missingNamespace

end GirStubs.Gir
