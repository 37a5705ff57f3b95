import GirStubs.Markup.Element

/-! # Names and visibility

An element may be hidden from programs, or shadowed by another one that takes its
place. An empty name counts as no name.
-/

namespace GirStubs.Gir

open Markup

/-- The element is not for programs. -/
def isHidden (e : Element) : Bool := e.attribute? "introspectable" = some "0"

/-- Another element takes the place of this one. -/
def isShadowed (e : Element) : Bool := (e.nonEmpty? "shadowed-by").isSome

/-- The element contributes no function. -/
def isSkipped (e : Element) : Bool := isHidden e || isShadowed e

/-- The name of an element. -/
def name? (e : Element) : Option String := e.nonEmpty? "name"

/-- The documentation of an element, empty when there is none. -/
def documentation (e : Element) : String :=
  ((e.child? "doc").bind Element.text).getD ""

end GirStubs.Gir
