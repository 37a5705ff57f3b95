/-! # Lua type expressions

The types that annotations speak of: a name, an array of a type, or a table from
one type to another. The name `unknown` stands wherever a type cannot be told.
-/

namespace GirStubs.Lua

/-- A type as written in an annotation. -/
inductive TypeExpr where
  /-- A type that is written by its name. -/
  | name (text : String)
  /-- The arrays of an element type. -/
  | array (element : TypeExpr)
  /-- The tables from a key type to a value type. -/
  | table (key value : TypeExpr)
  deriving DecidableEq, Repr

namespace TypeExpr

/-- The type of what cannot be told. -/
def unknown : TypeExpr := .name "unknown"

instance : Inhabited TypeExpr := ⟨unknown⟩

/-- The type with no value but nil. -/
def nil : TypeExpr := .name "nil"

/-- The type with a name; the empty name is unknown. -/
def named (text : String) : TypeExpr := if text = "" then unknown else .name text

/-- The text of a type. -/
def render : TypeExpr → String
  | .name text => text
  | .array element => element.render ++ "[]"
  | .table key value => "table<" ++ key.render ++ ", " ++ value.render ++ ">"

end TypeExpr

end GirStubs.Lua
