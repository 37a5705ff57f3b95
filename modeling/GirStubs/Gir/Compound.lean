import GirStubs.Gir.Signature

/-! # Compound types

Records, classes, unions and interfaces have fields, functions and parents. A
field that holds a callback is a callback of its own, named by the callback or
else by the field.
-/

namespace GirStubs.Gir

open Api
open Lua (safeIdentifier)
open Markup

/-- The callback in a field, under its own name or else under the name of the field. -/
def fieldCallback? (home : String) (field callback : Element) : Option Callback :=
  (callback? home callback).or
    ((name? field).bind fun name => callback? home (callback.setAttribute "name" name))

/-- The field that an element describes, unless it has no name. -/
def field? (home : String) (e : Element) : Option Field :=
  match e.child? "callback" with
  | some callback => (fieldCallback? home e callback).map .callback
  | none =>
    (name? e).map fun name =>
      .value ⟨safeIdentifier name, heldType (some home) e, documentation e⟩

/-- The visible fields of an element, in order. -/
def fields (home : String) (e : Element) : List Field :=
  ((e.childrenTagged "field").filter fun f => !isHidden f).filterMap (field? home)

/-- The functions that the children with a tag describe, as members of `owner`. -/
def members (home owner : String) (kind : FunctionKind) (tag : String) (e : Element) :
    List Function :=
  (e.childrenTagged tag).filterMap (function? home (some owner) kind)

/-- The names of what an element inherits from and implements, as written. -/
def parentNames (e : Element) : List String :=
  (e.nonEmpty? "parent").toList ++ (e.childrenTagged "implements").filterMap name?

/-- What an element inherits from and implements, qualified, each once. -/
def parents (home : String) (e : Element) : List Lua.TypeExpr :=
  ((parentNames e).map (qualify home)).eraseDups.map .named

/-- The compound type that an element describes, unless it has no name. -/
def compound? (home : String) (kind : CompoundKind) (e : Element) : Option Compound :=
  (name? e).map fun name =>
    let functions := members home name .static "function" e ++
      members home name .static "constructor" e
    { name
      kind
      fields := fields home e
      doc := documentation e
      callable := functions.any fun f => f.name = "new"
      functions
      methods := members home name .method "method" e
      parents := parents home e
      home }

end GirStubs.Gir
