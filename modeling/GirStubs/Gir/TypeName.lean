import GirStubs.Lua.TypeExpr
import GirStubs.Markup.Element

/-! # Types of introspected values

A type is written as a `type` element with a name, or as an `array` element
around another type. Four names stand for containers and take the types of their
content from `type` elements below them. Every other name is a primitive, a
qualified name, or a bare name of the namespace around it.
-/

namespace GirStubs.Gir

open Lua (TypeExpr)
open Markup

/-- The namespace of bare names when no other is known. -/
def fallbackNamespace : String := "GLib"

/-- Names of integer types. -/
def integerNames : List String :=
  ["short", "int", "long", "ushort", "uint", "ulong", "gint", "guint", "gshort", "gushort",
   "glong", "gulong", "gint8", "guint8", "gint16", "guint16", "gint32", "guint32", "gint64",
   "guint64", "gunichar", "gsize", "gssize", "goffset", "gchar", "guchar"]

/-- The names that have a Lua type of their own, with that type. -/
def primitives : List (String × String) :=
  [("none", "nil"), ("None", "nil"), ("any", "any"), ("unknown", "unknown"),
   ("gboolean", "(boolean|nil)")] ++
    integerNames.map (·, "integer") ++
    ["long double", "gfloat", "gdouble"].map (·, "number") ++
    ["gchar*", "gstring", "utf8", "filename"].map (·, "string") ++
    ["gpointer", "gconstpointer"].map (·, "userdata")

/-- The Lua type of a primitive name. -/
def primitive? (name : String) : Option String := primitives.lookup name

/-- The name is written with its namespace. -/
def isQualified (name : String) : Bool := name.toList.contains '.'

/-- A name with its namespace, unless it has one already. -/
def qualify (home name : String) : String :=
  if isQualified name then name else home ++ "." ++ name

/-- The namespace of bare names: the one around them, unless it is missing or empty. -/
def namespaceOf (home : Option String) : String :=
  (home.filter (· ≠ "")).getD fallbackNamespace

/-- The type with a name. -/
def typeNamed (home : Option String) (name : String) : TypeExpr :=
  match primitive? name with
  | some type => .named type
  | none => .named (qualify (namespaceOf home) name)

/-- The containers. -/
inductive Container where
  /-- A sequence of values of one type. -/
  | sequence
  /-- A table from one type to another. -/
  | table
  deriving DecidableEq, Repr

/-- The container with a name. -/
def container? (name : String) : Option Container :=
  if name ∈ ["GLib.Array", "GLib.List", "GLib.SList"] then some .sequence
  else if name = "GLib.HashTable" then some .table
  else none

/-- The type with a name, around the types of its content. Missing content is unknown. -/
def typeAround (home : Option String) (name : String) (content : List TypeExpr) : TypeExpr :=
  match container? name with
  | some .sequence => .array (content[0]?.getD .unknown)
  | some .table => .table (content[0]?.getD .unknown) (content[1]?.getD .unknown)
  | none => typeNamed home name

mutual

/-- The type of an element that holds one: of its first array, or else of its first `type`. -/
def heldType (home : Option String) : Element → TypeExpr
  | ⟨_, _, _, children⟩ =>
    match heldByArray home children with
    | some element => .array element
    | none => (writtenTypes home children)[0]?.getD .unknown

/-- The type held by the first array among the elements. -/
def heldByArray (home : Option String) : List Element → Option TypeExpr
  | [] => none
  | e :: rest => if e.tag = "array" then some (heldType home e) else heldByArray home rest

/-- The type that a `type` element writes. -/
def writtenType (home : Option String) : Element → TypeExpr
  | ⟨_, attributes, _, children⟩ =>
    match attributes.get? "name" with
    | none => .unknown
    | some name => typeAround home name (writtenTypes home children)

/-- The types that the `type` elements among the elements write. -/
def writtenTypes (home : Option String) : List Element → List TypeExpr
  | [] => []
  | e :: rest =>
    if e.tag = "type" then writtenType home e :: writtenTypes home rest
    else writtenTypes home rest

end

theorem heldByArray_eq (home : Option String) (elements : List Element) :
    heldByArray home elements = (elements.find? (·.tag = "array")).map (heldType home) := by
  induction elements with
  | nil => simp [heldByArray]
  | cons e rest ih => by_cases h : e.tag = "array" <;> simp [heldByArray, h, ih]

theorem writtenTypes_eq (home : Option String) (elements : List Element) :
    writtenTypes home elements = (elements.filter (·.tag = "type")).map (writtenType home) := by
  induction elements with
  | nil => simp [writtenTypes]
  | cons e rest ih => by_cases h : e.tag = "type" <;> simp [writtenTypes, h, ih]

/-- An element holds an array of what its first `array` child holds, or else the type of its first
`type` child, or else an unknown type. -/
theorem heldType_eq (home : Option String) (e : Element) :
    heldType home e =
      match e.child? "array" with
      | some array => .array (heldType home array)
      | none => ((e.child? "type").map (writtenType home)).getD .unknown := by
  obtain ⟨tag, attributes, text, children⟩ := e
  rw [heldType, heldByArray_eq, writtenTypes_eq, ← List.head?_eq_getElem?, List.head?_map,
    List.head?_filter]
  cases h : children.find? (·.tag = "array") <;> simp [Element.child?, h]

/-- A `type` element writes its name around what its own `type` children write. -/
theorem writtenType_eq (home : Option String) (e : Element) :
    writtenType home e =
      match e.attribute? "name" with
      | none => .unknown
      | some name => typeAround home name ((e.childrenTagged "type").map (writtenType home)) := by
  obtain ⟨tag, attributes, text, children⟩ := e
  simp [writtenType, writtenTypes_eq, Element.attribute?, Element.childrenTagged]

end GirStubs.Gir
