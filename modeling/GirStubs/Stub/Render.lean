import GirStubs.Api.Declaration
import GirStubs.Lua.Comment
import GirStubs.Lua.Identifier

/-! # Stub modules

A declaration is written as annotation comments, most of them followed by an
empty definition. The text of a module is a list of blocks with a blank line
between any two: two that open it, those of the declarations, and one that
returns the table. `declarationBlocks` gives the blocks of a declaration;
a compound type has one block of its own and one for each method and function.
-/

namespace GirStubs.Stub

open Api
open Lua (safeIdentifier)
open Lua.Comment (linesText trailingText)

/-- The entries on lines of their own. -/
def unlines (entries : List String) : String := "\n".intercalate entries

/-- The blocks with a blank line between them. -/
def unblocks (blocks : List String) : String := "\n\n".intercalate blocks

/-- The entries in one line with commas between them. -/
def commas (entries : List String) : String := ", ".intercalate entries

/-- The entries of a documentation, if there is one: its comment, and a rule that closes it. -/
def documentation (doc : String) : List String :=
  if doc = "" then [] else [linesText doc, "---\n--- ---\n---"]

/-- The mark of what may be nil. -/
def nilMark (nilable : Bool) : String := if nilable then "?" else ""

/-- The annotation of a parameter. -/
def parameter (p : Parameter) : String :=
  "---@param " ++ p.name ++ nilMark p.nilable ++ " " ++ p.type.render ++ trailingText p.doc

/-- The annotation of a value. -/
def returnValue (r : ReturnValue) : String :=
  "---@return " ++ r.type.render ++ trailingText r.doc

/-- The word for a kind of function. -/
def kindWord : FunctionKind → String
  | .static => "function"
  | .method => "method"

/-- What stands between the table and the name of a function. -/
def separator : FunctionKind → String
  | .static => "."
  | .method => ":"

/-- What stands before the name of a function. -/
def qualifier (f : Function) : String :=
  match f.table with
  | some table => table ++ separator f.kind
  | none => ""

/-- The empty definition of a function. -/
def definition (f : Function) : String :=
  "function " ++ qualifier f ++ safeIdentifier f.name ++ "(" ++
    commas (f.arguments.map Parameter.name) ++ ") end"

/-- The entries of a function. -/
def functionEntries (f : Function) : List String :=
  ["--- # " ++ kindWord f.kind ++ " " ++ qualifier f ++ f.name ++ "()", "---"] ++
    documentation f.doc ++ f.parameters.map parameter ++ (f.result.map returnValue).toList ++
    [definition f]

/-- The block of a function. -/
def function (f : Function) : String := unlines (functionEntries f)

/-- A parameter in a function type. -/
def typedName (p : Parameter) : String := p.name ++ nilMark p.nilable ++ ": " ++ p.type.render

/-- The function type of a callback. -/
def signature (c : Callback) : String :=
  "fun(" ++ commas (c.parameters.map typedName) ++ ")" ++
    (match c.result with
     | some type => ": " ++ type.render
     | none => "")

/-- The block of a callback that a namespace declares. -/
def callbackAlias (c : Callback) : String :=
  "---@alias " ++ c.home ++ "." ++ c.name ++ " " ++ signature c

/-- The text of a callback as a field. -/
def callbackField (c : Callback) : String := safeIdentifier c.name ++ " " ++ signature c

/-- The annotation of a field. -/
def field : Field → String
  | .value f => "---@field " ++ f.name ++ " " ++ f.type.render ++ trailingText f.doc
  | .callback c => "---@field " ++ callbackField c

/-- The annotation of a class with its parents. -/
def classLine (c : Compound) : String :=
  "---@class " ++ c.fullName ++
    (if c.parents = [] then "" else " : " ++ commas (c.parents.map Lua.TypeExpr.render))

/-- The entries of a compound type without its members. -/
def compoundEntries (c : Compound) : List String :=
  ["--- # " ++ c.kind.word ++ " " ++ c.fullName, "---"] ++ documentation c.doc ++
    [classLine c] ++ c.fields.map field ++
    (if c.callable then ["---@operator call: " ++ c.fullName] else []) ++
    [c.fullName ++ " = \x7b\x7d"]

/-- The blocks of a compound type: its own, those of its methods, those of its functions. -/
def compoundBlocks (c : Compound) : List String :=
  unlines (compoundEntries c) :: (c.methods ++ c.functions).map function

/-- The block of an enumeration. -/
def enumeration (e : Enumeration) : String :=
  let name := e.home ++ "." ++ e.name
  unlines ["---@enum " ++ name, name ++ " = \x7b\x7d"]

/-- The block of an alias. -/
def typeAlias (a : Alias) : String :=
  "---@alias " ++ a.home ++ "." ++ a.name ++ " " ++ a.target.render

/-- The blocks of a declaration. -/
def declarationBlocks : Declaration → List String
  | .typeAlias a => [typeAlias a]
  | .enumeration e => [enumeration e]
  | .callback c => [callbackAlias c]
  | .function f => [function f]
  | .compound c => compoundBlocks c

/-- The text of a declaration. -/
def declaration (d : Declaration) : String := unblocks (declarationBlocks d)

/-- The blocks that open a module. -/
def openingBlocks (name : String) : List String :=
  ["---@meta " ++ name, unlines ["---@class " ++ name, "local " ++ name ++ " = \x7b\x7d"]]

/-- The text of a module. A module without declarations keeps an empty block in their place. -/
def moduleText (m : Module) : String :=
  unblocks (openingBlocks m.name ++ [unblocks (m.declarations.map declaration)] ++
    ["return " ++ m.name ++ "\n"])

end GirStubs.Stub
