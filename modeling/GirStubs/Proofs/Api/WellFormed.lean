import GirStubs.Api.Declaration
import GirStubs.Proofs.Lua.Identifier

/-!
# Well-formed modules

What a module promises to whoever writes it out: every type has a text, no value has type nil,
what must be named is named, what stands as a name in a program can stand there, and every part
says which namespace or table it belongs to.
-/

namespace GirStubs.Api

open Lua (TypeExpr IsSafe)

structure Parameter.WellFormed (p : Parameter) : Prop where
  name_safe : IsSafe p.name
  type_ne : p.type.render ≠ ""

/-- The type of a value that is there. -/
structure IsValueType (type : TypeExpr) : Prop where
  render_ne : type.render ≠ ""
  render_ne_nil : type.render ≠ "nil"

/-- A function of a kind in a table. -/
structure Function.WellFormed (table : String) (kind : FunctionKind) (f : Function) : Prop where
  name_ne : f.name ≠ ""
  parameters : ∀ p ∈ f.parameters, p.WellFormed
  result : ∀ value, f.result = some value → IsValueType value.type
  table_eq : f.table = some table
  kind_eq : f.kind = kind
  /-- The first parameter of a method, if there is any, is the receiver. -/
  receiver : kind = .method → ∀ p, f.parameters.head? = some p → p.name = receiverName

structure Callback.WellFormed (home : String) (c : Callback) : Prop where
  name_ne : c.name ≠ ""
  parameters : ∀ p ∈ c.parameters, p.WellFormed
  result : ∀ type, c.result = some type → IsValueType type
  home_eq : c.home = home

structure ValueField.WellFormed (field : ValueField) : Prop where
  name_ne : field.name ≠ ""
  name_safe : IsSafe field.name
  type_ne : field.type.render ≠ ""

def Field.WellFormed (home : String) : Field → Prop
  | .value field => field.WellFormed
  | .callback c => c.WellFormed home

structure Compound.WellFormed (home : String) (c : Compound) : Prop where
  name_ne : c.name ≠ ""
  fields : ∀ field ∈ c.fields, field.WellFormed home
  functions : ∀ f ∈ c.functions, f.WellFormed c.fullName .static ∧ IsSafe f.name
  methods : ∀ f ∈ c.methods, f.WellFormed c.fullName .method ∧ IsSafe f.name
  parents : ∀ type ∈ c.parents, type.render ≠ ""
  home_eq : c.home = home

structure Enumeration.WellFormed (home : String) (e : Enumeration) : Prop where
  name_ne : e.name ≠ ""
  home_eq : e.home = home

structure Alias.WellFormed (home : String) (a : Alias) : Prop where
  name_ne : a.name ≠ ""
  target_ne : a.target.render ≠ ""
  home_eq : a.home = home

def Declaration.WellFormed (home : String) : Declaration → Prop
  | .typeAlias a => a.WellFormed home
  | .enumeration e => e.WellFormed home
  | .callback c => c.WellFormed home
  | .function f => f.WellFormed home .static
  | .compound c => c.WellFormed home

/-- Every declaration is well formed and belongs to one namespace. -/
def Module.WellFormed (home : String) (m : Module) : Prop :=
  ∀ declaration ∈ m.declarations, declaration.WellFormed home

end GirStubs.Api
