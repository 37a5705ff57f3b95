import GirStubs.Lua.TypeExpr

/-! # Declarations

What a namespace offers to programs: aliases, enumerations, callbacks, functions
and compound types. A `Module` is the list of them under the name of the table
that will hold them.
-/

namespace GirStubs.Api

open Lua (TypeExpr)

/-- The name of the instance that a method is called on. -/
def receiverName : String := "self"

/-- A parameter of a function or callback. -/
structure Parameter where
  /-- The name, fit to stand in a program. -/
  name : String
  type : TypeExpr
  /-- The argument may be nil. -/
  nilable : Bool
  doc : String
  deriving DecidableEq, Repr

/-- What a function gives back. -/
structure ReturnValue where
  type : TypeExpr
  doc : String
  deriving DecidableEq, Repr

/-- How a function is called. -/
inductive FunctionKind where
  /-- Through its table. -/
  | static
  /-- On an instance, which is the first parameter. -/
  | method
  deriving DecidableEq, Repr

/-- A function, constructor or method. -/
structure Function where
  name : String
  doc : String
  /-- The parameters in order; the first of a method is its receiver. -/
  parameters : List Parameter
  /-- The value, unless there is none. -/
  result : Option ReturnValue
  /-- The table that holds the function. -/
  table : Option String
  kind : FunctionKind
  deriving DecidableEq, Repr

/-- The parameters that a caller writes between the parentheses. -/
def Function.arguments (f : Function) : List Parameter :=
  match f.kind with
  | .static => f.parameters
  | .method => f.parameters.drop 1

/-- A function type with a name. -/
structure Callback where
  name : String
  parameters : List Parameter
  result : Option TypeExpr
  /-- The namespace that declares it. -/
  home : String
  deriving DecidableEq, Repr

/-- A field that holds a value. -/
structure ValueField where
  name : String
  type : TypeExpr
  doc : String
  deriving DecidableEq, Repr

/-- A field of a compound type. -/
inductive Field where
  | value (field : ValueField)
  /-- A field that holds a function. -/
  | callback (callback : Callback)
  deriving DecidableEq, Repr

/-- The kinds of compound type. -/
inductive CompoundKind where
  | record
  | object
  | union
  | interface
  deriving DecidableEq, Repr

/-- The word for a kind of compound type. -/
def CompoundKind.word : CompoundKind → String
  | .record => "record"
  | .object => "class"
  | .union => "union"
  | .interface => "interface"

/-- A record, class, union or interface. -/
structure Compound where
  name : String
  kind : CompoundKind
  fields : List Field
  doc : String
  /-- Some static function is named `new`, so the table itself can be called. -/
  callable : Bool
  /-- Static functions, then constructors. -/
  functions : List Function
  methods : List Function
  /-- What it inherits from and implements, each once. -/
  parents : List TypeExpr
  /-- The namespace that declares it. -/
  home : String
  deriving DecidableEq, Repr

/-- The name of a compound type with its namespace. -/
def Compound.fullName (c : Compound) : String := c.home ++ "." ++ c.name

/-- The kinds of enumeration. -/
inductive EnumerationKind where
  | enumeration
  | bitfield
  deriving DecidableEq, Repr

/-- The word for a kind of enumeration. -/
def EnumerationKind.word : EnumerationKind → String
  | .enumeration => "enumeration"
  | .bitfield => "bitfield"

/-- An enumeration; its members are not listed. -/
structure Enumeration where
  name : String
  kind : EnumerationKind
  /-- The namespace that declares it. -/
  home : String
  deriving DecidableEq, Repr

/-- Another name for a type. -/
structure Alias where
  name : String
  target : TypeExpr
  /-- The namespace that declares it. -/
  home : String
  deriving DecidableEq, Repr

/-- A declaration of a namespace. -/
inductive Declaration where
  | typeAlias (definition : Alias)
  | enumeration (enumeration : Enumeration)
  | callback (callback : Callback)
  | function (function : Function)
  | compound (compound : Compound)
  deriving DecidableEq, Repr

/-- The declarations of a namespace, in document order. -/
structure Module where
  /-- The name of the table that holds them. -/
  name : String
  declarations : List Declaration
  deriving DecidableEq, Repr

end GirStubs.Api
