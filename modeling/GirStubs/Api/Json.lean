import GirStubs.Api.Declaration
import GirStubs.Json.Value

/-! # Declarations as JSON

The debug view of a module: every declaration as an object whose members come in
a fixed order. A declaration starts with the member `declaration`, a field with
the member `field`; both name the kind.
-/

namespace GirStubs.Api

open Json (Value)

/-- The text of a type. -/
def typeJson (type : Lua.TypeExpr) : Value := .string type.render

/-- The JSON view of a parameter. -/
def Parameter.toJson (p : Parameter) : Value :=
  .object [("name", .string p.name), ("ty", typeJson p.type), ("nilable", .bool p.nilable),
    ("doc", .string p.doc)]

/-- The JSON view of a value. -/
def ReturnValue.toJson (r : ReturnValue) : Value :=
  .object [("ty", typeJson r.type), ("doc", .string r.doc)]

/-- The members of a function. -/
def Function.members (f : Function) : List (String × Value) :=
  [("name", .string f.name), ("doc", .string f.doc),
    ("parameters", .array (f.parameters.map Parameter.toJson)),
    ("return_value", .ofOption ReturnValue.toJson f.result),
    ("namespace", .ofOption .string f.table),
    ("is_static", .bool (f.kind = .static))]

/-- The JSON view of a function. -/
def Function.toJson (f : Function) : Value := .object f.members

/-- The members of a callback. -/
def Callback.members (c : Callback) : List (String × Value) :=
  [("name", .string c.name), ("parameters", .array (c.parameters.map Parameter.toJson)),
    ("return_type", .ofOption typeJson c.result), ("namespace", .string c.home)]

/-- The JSON view of a callback. -/
def Callback.toJson (c : Callback) : Value := .object c.members

/-- The JSON view of a field. -/
def Field.toJson : Field → Value
  | .value f =>
    .object [("field", .string "value"), ("name", .string f.name), ("ty", typeJson f.type),
      ("doc", .string f.doc)]
  | .callback c => .object (("field", .string "callback") :: c.members)

/-- The members of a compound type. -/
def Compound.members (c : Compound) : List (String × Value) :=
  [("name", .string c.name), ("kind", .string c.kind.word),
    ("fields", .array (c.fields.map Field.toJson)), ("doc", .string c.doc),
    ("construct_on_call", .bool c.callable),
    ("functions", .array (c.functions.map Function.toJson)),
    ("methods", .array (c.methods.map Function.toJson)),
    ("parents", .array (c.parents.map typeJson)), ("namespace", .string c.home)]

/-- The JSON view of a compound type. -/
def Compound.toJson (c : Compound) : Value := .object c.members

/-- The members of an enumeration. -/
def Enumeration.members (e : Enumeration) : List (String × Value) :=
  [("name", .string e.name), ("kind", .string e.kind.word), ("namespace", .string e.home)]

/-- The members of an alias. -/
def Alias.members (a : Alias) : List (String × Value) :=
  [("name", .string a.name), ("target", typeJson a.target), ("namespace", .string a.home)]

/-- The JSON view of a declaration. -/
def Declaration.toJson : Declaration → Value
  | .typeAlias a => .object (("declaration", .string "alias") :: a.members)
  | .enumeration e => .object (("declaration", .string "enumeration") :: e.members)
  | .callback c => .object (("declaration", .string "callback") :: c.members)
  | .function f => .object (("declaration", .string "function") :: f.members)
  | .compound c => .object (("declaration", .string "record") :: c.members)

/-- The JSON view of a module. -/
def Module.toJson (m : Module) : Value :=
  .object [("namespace", .string m.name),
    ("decls", .array (m.declarations.map Declaration.toJson))]

end GirStubs.Api
