import GirStubs.Unicode.DecimalDigit
import GirStubs.Unicode.WordCharacter

/-! # Document identifiers

A document is known by its namespace and version, as in `GLib-2.0`. The namespace
consists of word characters and the version of digits and dots, so the hyphen
between them is the only one.
-/

namespace GirStubs.Gir

open Unicode

/-- A namespace and a version of it. -/
structure Identifier where
  home : String
  version : String
  deriving DecidableEq, Repr

namespace Identifier

/-- A character of a version. -/
def isVersionChar (c : Char) : Bool := isDecimalDigit c || c = '.'

/-- The identifier that a text writes. -/
def parse? (text : String) : Option Identifier :=
  let home := text.toList.takeWhile (· ≠ '-')
  let version := (text.toList.dropWhile (· ≠ '-')).drop 1
  if home ≠ [] ∧ home.all isWordCharacter ∧ version ≠ [] ∧ version.all isVersionChar then
    some ⟨String.ofList home, String.ofList version⟩
  else none

/-- The text of an identifier. -/
def render (i : Identifier) : String := i.home ++ "-" ++ i.version

/-- The name of the file that holds the document. -/
def fileName (i : Identifier) : String := i.render ++ ".gir"

/-- The path of a file in a directory; the empty directory adds nothing. A name that starts with a
slash leads to its file from every directory, but no identifier that is read from a text has one. -/
def pathIn (i : Identifier) (directory : String) : String :=
  if i.fileName.toList.head? = some '/' then i.fileName
  else if directory = "" ∨ directory.toList.getLast? = some '/' then directory ++ i.fileName
  else directory ++ "/" ++ i.fileName

end Identifier

end GirStubs.Gir
