import GirStubs.Gir.Compound

/-! # Namespaces

A namespace element holds the declarations. `DeclarationKind.ofTag?` tells which
children are declarations, `declaration?` reads one of them, and `moduleOf` reads
them all. `Options` names the module and says which namespace the bare names in
alias targets belong to.
-/

namespace GirStubs.Gir

open Api
open Markup

/-- Which namespace qualifies bare names in the targets of aliases. -/
inductive AliasPolicy where
  /-- The namespace that the module is made for. -/
  | target
  /-- The namespace that declares the alias. -/
  | enclosing
  deriving DecidableEq, Repr

/-- How a module is made. -/
structure Options where
  /-- The namespace that the module is made for. It names the module, and the document's
  namespace where that has no name. -/
  target : String
  aliasPolicy : AliasPolicy := .target
  deriving DecidableEq, Repr

/-- The kinds of declaration. -/
inductive DeclarationKind where
  | typeAlias
  | enumeration (kind : EnumerationKind)
  | callback
  | function
  | compound (kind : CompoundKind)
  deriving DecidableEq, Repr

/-- The kind of declaration that a tag stands for. -/
def DeclarationKind.ofTag? (tag : String) : Option DeclarationKind :=
  if tag = "alias" then some .typeAlias
  else if tag = "enumeration" then some (.enumeration .enumeration)
  else if tag = "bitfield" then some (.enumeration .bitfield)
  else if tag = "callback" then some .callback
  else if tag = "function" then some .function
  else if tag = "record" then some (.compound .record)
  else if tag = "class" then some (.compound .object)
  else if tag = "union" then some (.compound .union)
  else if tag = "interface" then some (.compound .interface)
  else none

/-- The enumeration that an element describes, unless it has no name. -/
def enumeration? (home : String) (kind : EnumerationKind) (e : Element) : Option Enumeration :=
  (name? e).map fun name => ⟨name, kind, home⟩

/-- The alias that an element describes, unless it has no name; `targetHome` qualifies the bare
names of its target. -/
def typeAlias? (home targetHome : String) (e : Element) : Option Alias :=
  (name? e).map fun name => ⟨name, heldType (some targetHome) e, home⟩

/-- The namespace that qualifies the targets of aliases declared in `home`. -/
def Options.aliasHome (options : Options) (home : String) : String :=
  match options.aliasPolicy with
  | .target => options.target
  | .enclosing => home

/-- The declaration of a kind that an element describes, hidden or not. -/
def declarationOfKind? (options : Options) (home : String) (e : Element) :
    DeclarationKind → Option Declaration
  | .typeAlias => (typeAlias? home (options.aliasHome home) e).map .typeAlias
  | .enumeration kind => (enumeration? home kind e).map .enumeration
  | .callback => (callback? home e).map .callback
  | .function => (function? home none .static e).map .function
  | .compound kind => (compound? home kind e).map .compound

/-- The declaration that an element describes, unless it is hidden, no declaration, or nameless. -/
def declaration? (options : Options) (home : String) (e : Element) : Option Declaration :=
  if isHidden e then none
  else (DeclarationKind.ofTag? e.tag).bind (declarationOfKind? options home e)

/-- The name of a namespace element, or the target namespace where it has none. -/
def homeOf (options : Options) (e : Element) : String := (name? e).getD options.target

/-- The module that a namespace element describes. -/
def moduleOf (options : Options) (e : Element) : Module where
  name := options.target
  declarations := e.children.filterMap (declaration? options (homeOf options e))

end GirStubs.Gir
