import GirStubs.Api.Declaration

/-! # Labels and documentation

The texts in a module are of two sorts: its labels, which are names, types and
namespaces, and its documentation. `Module.labels` lists the labels of a module, and
`Module.undocumented` is the module without its documentation.
-/

namespace GirStubs.Api

/-! ## Labels -/

/-- The name and the type of a parameter. -/
def Parameter.labels (p : Parameter) : List String := [p.name, p.type.render]

/-- The names, types and namespaces in a function. -/
def Function.labels (f : Function) : List String :=
  f.name :: f.table.toList ++ f.parameters.flatMap Parameter.labels ++
    f.result.toList.map fun r => r.type.render

/-- The names, types and namespaces in a callback. -/
def Callback.labels (c : Callback) : List String :=
  c.name :: c.home :: c.parameters.flatMap Parameter.labels ++
    c.result.toList.map Lua.TypeExpr.render

/-- The names, types and namespaces in a field. -/
def Field.labels : Field → List String
  | .value f => [f.name, f.type.render]
  | .callback c => c.labels

/-- The names, types and namespaces in a compound type. -/
def Compound.labels (c : Compound) : List String :=
  c.name :: c.home :: c.fields.flatMap Field.labels ++
    (c.methods ++ c.functions).flatMap Function.labels ++ c.parents.map Lua.TypeExpr.render

/-- The names, types and namespaces in a declaration. -/
def Declaration.labels : Declaration → List String
  | .typeAlias a => [a.name, a.target.render, a.home]
  | .enumeration e => [e.name, e.home]
  | .callback c => c.labels
  | .function f => f.labels
  | .compound c => c.labels

/-- The names, types and namespaces in a module. -/
def Module.labels (m : Module) : List String :=
  m.name :: m.declarations.flatMap Declaration.labels

/-- The namespace of a declaration that defines a table of its own. -/
def Declaration.tableHome? : Declaration → Option String
  | .enumeration e => some e.home
  | .compound c => some c.home
  | _ => none

/-- The namespaces in which a module defines tables. -/
def Module.tableHomes (m : Module) : List String :=
  m.declarations.filterMap Declaration.tableHome?

/-- The name of a table that a declaration defines in its namespace. -/
def Declaration.tableName? : Declaration → Option String
  | .enumeration e => some e.name
  | .compound c => some c.name
  | _ => none

/-- The names of the tables that a module defines. -/
def Module.tableNames (m : Module) : List String :=
  m.declarations.filterMap Declaration.tableName?

/-! ## Documentation -/

/-- The documentation in a declaration that is written as whole lines. -/
def Declaration.longDocs : Declaration → List String
  | .function f => [f.doc]
  | .compound c => c.doc :: (c.methods ++ c.functions).map Function.doc
  | _ => []

/-- The documentation in a module that is written as whole lines. -/
def Module.longDocs (m : Module) : List String := m.declarations.flatMap Declaration.longDocs

/-! ## Without documentation -/

def Parameter.undocumented (p : Parameter) : Parameter := { p with doc := "" }

def ReturnValue.undocumented (r : ReturnValue) : ReturnValue := { r with doc := "" }

def Function.undocumented (f : Function) : Function :=
  { f with
    doc := ""
    parameters := f.parameters.map Parameter.undocumented
    result := f.result.map ReturnValue.undocumented }

def Callback.undocumented (c : Callback) : Callback :=
  { c with parameters := c.parameters.map Parameter.undocumented }

def Field.undocumented : Field → Field
  | .value f => .value { f with doc := "" }
  | .callback c => .callback c.undocumented

def Compound.undocumented (c : Compound) : Compound :=
  { c with
    doc := ""
    fields := c.fields.map Field.undocumented
    functions := c.functions.map Function.undocumented
    methods := c.methods.map Function.undocumented }

def Declaration.undocumented : Declaration → Declaration
  | .callback c => .callback c.undocumented
  | .function f => .function f.undocumented
  | .compound c => .compound c.undocumented
  | d => d

/-- The module with every documentation text emptied. -/
def Module.undocumented (m : Module) : Module :=
  { m with declarations := m.declarations.map Declaration.undocumented }

@[simp]
theorem labels_undocumented_parameters (parameters : List Parameter) :
    (parameters.map Parameter.undocumented).flatMap Parameter.labels =
      parameters.flatMap Parameter.labels :=
  List.flatMap_map _ _ _

theorem Function.labels_undocumented (f : Function) : f.undocumented.labels = f.labels := by
  cases hresult : f.result <;> simp [labels, undocumented, ReturnValue.undocumented, hresult]

theorem Callback.labels_undocumented (c : Callback) : c.undocumented.labels = c.labels := by
  simp [labels, undocumented]

theorem Field.labels_undocumented (f : Field) : f.undocumented.labels = f.labels := by
  cases f with
  | value f => rfl
  | callback c => exact c.labels_undocumented

theorem Compound.labels_undocumented (c : Compound) : c.undocumented.labels = c.labels := by
  simp [labels, undocumented, List.flatMap_map, Field.labels_undocumented,
    Function.labels_undocumented]

theorem Declaration.labels_undocumented (d : Declaration) : d.undocumented.labels = d.labels := by
  cases d with
  | typeAlias a => rfl
  | enumeration e => rfl
  | callback c => exact c.labels_undocumented
  | function f => exact f.labels_undocumented
  | compound c => exact c.labels_undocumented

/-- Labels are no documentation. -/
theorem Module.labels_undocumented (m : Module) : m.undocumented.labels = m.labels := by
  simp [labels, undocumented, List.flatMap_map, Declaration.labels_undocumented]

theorem Module.tableHomes_undocumented (m : Module) : m.undocumented.tableHomes = m.tableHomes := by
  have hhome : Declaration.tableHome? ∘ Declaration.undocumented = Declaration.tableHome? := by
    funext d
    cases d <;> rfl
  unfold tableHomes undocumented
  rw [List.filterMap_map, hhome]

end GirStubs.Api
