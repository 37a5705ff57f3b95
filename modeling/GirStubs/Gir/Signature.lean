import GirStubs.Api.Declaration
import GirStubs.Gir.TypeName
import GirStubs.Gir.Visibility
import GirStubs.Lua.Identifier

/-! # Functions and callbacks

A function-like element lists its parameters below one `parameters` child and
describes its value in one `return-value` child. A value of type nil is no value.
-/

namespace GirStubs.Gir

open Api
open Lua (TypeExpr safeIdentifier)
open Markup

/-- The element stands for a parameter. -/
def isParameter (e : Element) : Bool := e.tag = "parameter" || e.tag = "instance-parameter"

/-- The parameter that an element describes. -/
def parameter (home : String) (e : Element) : Parameter where
  name := safeIdentifier ((e.attribute? "name").getD "_")
  type := heldType (some home) e
  nilable := e.flag "nullable" || e.flag "allow-none"
  doc := documentation e

/-- The parameters of a function-like element, in order. -/
def parameters (home : String) (e : Element) : List Parameter :=
  match e.child? "parameters" with
  | none => []
  | some list => (list.children.filter isParameter).map (parameter home)

/-- The value of a function-like element, unless there is none. -/
def returnValue? (home : String) (e : Element) : Option ReturnValue :=
  match e.child? "return-value" with
  | none => none
  | some value =>
    let type := heldType (some home) value
    if type = .nil then none else some ⟨type, documentation value⟩

/-- The name under which programs see a function: the one it takes over, or its own. -/
def publicName? (e : Element) : Option String := (e.nonEmpty? "shadows").or (name? e)

/-- The parameters with the first one, if any, made the receiver. -/
def withReceiver : List Parameter → List Parameter
  | [] => []
  | first :: rest => { first with name := receiverName } :: rest

/-- The function that an element describes, unless it is skipped or has no name. A member of a
compound type, its `owner`, carries the name that is fit for programs; a free function keeps the
name as it is. -/
def function? (home : String) (owner : Option String) (kind : FunctionKind) (e : Element) :
    Option Function :=
  if isSkipped e then none
  else
    (publicName? e).map fun name =>
      { name := if owner.isSome then safeIdentifier name else name
        doc := documentation e
        parameters :=
          match kind with
          | .static => parameters home e
          | .method => withReceiver (parameters home e)
        result := returnValue? home e
        table := some (match owner with | some owner => home ++ "." ++ owner | none => home)
        kind }

/-- The callback that an element describes, unless it has no name. -/
def callback? (home : String) (e : Element) : Option Callback :=
  (name? e).map fun name =>
    { name
      parameters := parameters home e
      result := (returnValue? home e).map ReturnValue.type
      home }

end GirStubs.Gir
