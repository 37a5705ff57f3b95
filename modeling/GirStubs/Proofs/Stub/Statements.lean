import GirStubs.Proofs.Gir.Names
import GirStubs.Proofs.Stub.CodeLines

/-!
# The code of a stub as statements

Let the names in a namespace element be words. The names of functions and arguments are made fit
for a program on their way into the stub, so a function is always a statement
(`isStatement_definition`). The names of tables are written as they are, so the line that defines a
table is a statement only when its name is no keyword and starts with no digit
(`isStatement_tableDefinition_iff`). No other line can fail to be one (`isStatement_codeLines_iff`).
-/

namespace GirStubs.Stub

open Api Gir Text
open Lua (IsIdentifier IsSafe IsStatement IsWord Statement isIdentifier_safeIdentifier
  oneLine_of_isWord safeIdentifier)
open Markup (Element)

/-- The line that defines a table in a namespace is a statement when, and only when, the name of the
table is safe. -/
theorem isStatement_tableDefinition_iff {home name : String} (hhome : IsIdentifier home)
    (hname : IsWord name) :
    IsStatement (tableDefinition (home ++ "." ++ name)) ↔ IsSafe name := by
  have hrender : tableDefinition (home ++ "." ++ name) = (Statement.table home [name]).render := rfl
  rw [hrender]
  constructor
  · intro h
    exact (Lua.isIdentifier_of_isStatement hhome.word hname h).safe
  · intro hsafe
    have hnames : ∀ other ∈ (Statement.table home [name]).names, IsIdentifier other :=
      List.forall_mem_cons.mpr ⟨hhome, List.forall_mem_singleton.mpr ⟨hname, hsafe⟩⟩
    exact ⟨.table home [name], hnames, rfl⟩

section Function

variable {f : Function} {first table : String} {path : List String} {kind : FunctionKind}

/-- The statement that defines a function in a table. -/
def functionStatement (first : String) (path : List String) (f : Function) : Statement :=
  .function first path (f.kind = .method) (safeIdentifier f.name)
    (f.arguments.map Parameter.name)

theorem definition_eq_render (h : f.table = some (Statement.tablePath first path)) :
    definition f = (functionStatement first path f).render := by
  have hseparator : separator f.kind = if f.kind = .method then ":" else "." := by
    cases f.kind <;> rfl
  simp [definition, qualifier, h, hseparator, functionStatement, Statement.render, commas,
    String.append_assoc]

/-- A well-formed function whose names are words is defined by a statement. -/
theorem isStatement_definition (htable : Statement.tablePath first path = table)
    (hpath : ∀ name ∈ first :: path, IsIdentifier name) (h : f.WellFormed table kind)
    (hwords : f.Worded) : IsStatement (definition f) := by
  have harguments : ∀ name ∈ f.arguments.map Parameter.name, IsIdentifier name := by
    rw [List.forall_mem_map]
    intro p hp
    have hmem := mem_parameters_of_mem_arguments hp
    exact ⟨(hwords.parameters p hmem).name, (h.parameters p hmem).name_safe⟩
  have hnames : ∀ name ∈ (functionStatement first path f).names, IsIdentifier name :=
    List.forall_mem_append.mpr
      ⟨hpath, List.forall_mem_cons.mpr ⟨isIdentifier_safeIdentifier hwords.name, harguments⟩⟩
  have hrender := definition_eq_render (h.table_eq.trans (congrArg some htable.symm))
  exact ⟨functionStatement first path f, hnames, hrender.symm⟩

end Function

/-! ## Declarations -/

section Declaration

variable {home : String} (hhome : IsIdentifier home)

include hhome in
theorem isStatement_compoundCode_iff {c : Compound} (h : c.WellFormed home) (hwords : c.Worded) :
    (∀ line ∈ declarationCode (.compound c), IsStatement line) ↔ IsSafe c.name := by
  obtain rfl := h.home_eq
  have htable := isStatement_tableDefinition_iff hhome hwords.name
  constructor
  · intro hcode
    exact htable.mp (hcode _ List.mem_cons_self)
  · intro hsafe
    have hpath : ∀ name ∈ [c.home, c.name], IsIdentifier name :=
      List.forall_mem_cons.mpr ⟨hhome, List.forall_mem_singleton.mpr ⟨hwords.name, hsafe⟩⟩
    refine List.forall_mem_cons.mpr ⟨htable.mpr hsafe, ?_⟩
    rw [List.forall_mem_map]
    refine List.forall_mem_append.mpr ⟨fun f hf => ?_, fun f hf => ?_⟩
    · exact isStatement_definition rfl hpath (h.methods f hf).1 (hwords.methods f hf)
    · exact isStatement_definition rfl hpath (h.functions f hf).1 (hwords.functions f hf)

include hhome in
theorem isStatement_declarationCode_iff {d : Declaration} (h : d.WellFormed home)
    (hwords : d.Worded) :
    (∀ line ∈ declarationCode d, IsStatement line) ↔ ∀ name ∈ d.tableName?, IsSafe name := by
  cases d with
  | typeAlias a => simp [declarationCode, Declaration.tableName?]
  | enumeration e =>
    obtain rfl : e.home = home := h.home_eq
    have hname : IsWord e.name := hwords.1
    simpa [declarationCode, Declaration.tableName?] using
      isStatement_tableDefinition_iff hhome hname
  | callback c => simp [declarationCode, Declaration.tableName?]
  | function f =>
    have hpath : ∀ name ∈ [home], IsIdentifier name := List.forall_mem_singleton.mpr hhome
    have hdefinition : IsStatement (definition f) := isStatement_definition rfl hpath h hwords
    simpa [declarationCode, Declaration.tableName?] using hdefinition
  | compound c =>
    simpa [Declaration.tableName?] using isStatement_compoundCode_iff hhome h hwords

end Declaration

theorem eq_of_mem_tableHome? {home : String} {d : Declaration} (h : d.WellFormed home) :
    ∀ other ∈ d.tableHome?, other = home := by
  intro other hother
  cases d with
  | enumeration e => exact (Option.some.inj hother).symm.trans h.home_eq
  | compound c => exact (Option.some.inj hother).symm.trans h.home_eq
  | typeAlias | callback | function => cases hother

/-! ## Modules -/

section Module

variable {m : Module} {home : String} (hname : IsIdentifier m.name) (hhome : IsIdentifier home)
  (h : m.WellFormed home) (hwords : m.Worded)

include hhome h in
theorem head?_tableHomes_ne : ∀ other ∈ m.tableHomes, other.toList.head? ≠ some '-' := by
  intro other hother hhead
  obtain ⟨d, hd, hmem⟩ := List.mem_filterMap.mp hother
  obtain rfl := eq_of_mem_tableHome? (h d hd) other hmem
  exact Lua.not_mem_of_isWord hhome.word (by decide) (List.mem_of_head? hhead)

include hname hhome h hwords in
theorem isStatement_moduleCode_iff :
    (∀ line ∈ moduleCode m, IsStatement line) ↔ ∀ name ∈ m.tableNames, IsSafe name := by
  have hopening : IsStatement ("local " ++ tableDefinition m.name) :=
    ⟨.localTable m.name, List.forall_mem_singleton.mpr hname, String.append_assoc ..⟩
  have hclosing : IsStatement ("return " ++ m.name) :=
    ⟨.giveBack m.name, List.forall_mem_singleton.mpr hname, rfl⟩
  have hnames : (∀ name ∈ m.tableNames, IsSafe name) ↔
      ∀ d ∈ m.declarations, ∀ name ∈ d.tableName?, IsSafe name :=
    List.forall_mem_filterMap
  rw [hnames, moduleCode, List.forall_mem_append, List.forall_mem_append, List.forall_mem_singleton,
    List.forall_mem_singleton, List.forall_mem_flatMap]
  refine (and_iff_left hclosing).trans ((and_iff_right hopening).trans ?_)
  exact forall₂_congr fun d hd =>
    isStatement_declarationCode_iff hhome (h d hd) (hwords.declarations d hd)

end Module

section Element

variable {options : Options} {e : Element} (h : NamesAreWords e) (hparents : ParentsOnOneLine e)
  (htarget : IsIdentifier options.target) (hhome : IsIdentifier (homeOf options e))

include h hparents htarget hhome in
theorem worded_moduleOf_of_isIdentifier : (moduleOf options e).Worded :=
  worded_moduleOf (oneLine_of_isWord htarget.word) (oneLine_of_isWord hhome.word) h hparents

include h hparents htarget hhome in
theorem codeLines_moduleOf :
    codeLines (moduleText (moduleOf options e)) = moduleCode (moduleOf options e) := by
  have hwords := worded_moduleOf_of_isIdentifier h hparents htarget hhome
  exact codeLines_module hwords.labels (head?_tableHomes_ne hhome (wellFormed_moduleOf options e))

end Element

/-- **Only table names can spoil the code.** Let the names in a namespace element be words, and let
the module and the namespace be named by identifiers. Then every line of code in the stub is a
statement if, and only if, no table has a keyword or a leading digit for its name. -/
theorem isStatement_codeLines_iff (options : Options) (e : Element) (h : NamesAreWords e)
    (hparents : ParentsOnOneLine e) (htarget : IsIdentifier options.target)
    (hhome : IsIdentifier (homeOf options e)) :
    (∀ line ∈ codeLines (moduleText (moduleOf options e)), IsStatement line) ↔
      ∀ name ∈ (moduleOf options e).tableNames, IsSafe name := by
  rw [codeLines_moduleOf h hparents htarget hhome]
  exact isStatement_moduleCode_iff htarget hhome (wellFormed_moduleOf options e)
    (worded_moduleOf_of_isIdentifier h hparents htarget hhome)

/-- An element with a name. -/
def namedElement (tag name : String) (children : List Element) : Element where
  tag
  attributes := .ofList [("name", name)]
  children

/-- A namespace with keywords and a digit among its names, but not for tables. -/
def keywordNamespace : Element :=
  namedElement "namespace" "Demo"
    [namedElement "enumeration" "Mode" [],
     namedElement "function" "end" [],
     namedElement "record" "Box"
      [namedElement "method" "goto"
        [{ tag := "parameters"
           children := [namedElement "instance-parameter" "box" [],
            namedElement "parameter" "2" []] }]]]

theorem isStatement_codeLines_keywordNamespace :
    NamesAreWords keywordNamespace ∧ ParentsOnOneLine keywordNamespace ∧ IsIdentifier "Demo" ∧
      IsIdentifier (homeOf { target := "Demo" } keywordNamespace) ∧
      codeLines (moduleText (moduleOf { target := "Demo" } keywordNamespace)) =
        ["local Demo = \x7b\x7d", "Demo.Mode = \x7b\x7d", "function Demo.end__() end",
          "Demo.Box = \x7b\x7d", "function Demo.Box:goto__(__2) end", "return Demo"] ∧
      ∀ line ∈ codeLines (moduleText (moduleOf { target := "Demo" } keywordNamespace)),
        IsStatement line :=
  have hwords : NamesAreWords keywordNamespace := by decide
  have hparents : ParentsOnOneLine keywordNamespace := by decide
  have htarget : IsIdentifier "Demo" := by decide
  have hhome : IsIdentifier (homeOf { target := "Demo" } keywordNamespace) := by decide
  have hsafe : ∀ name ∈ (moduleOf { target := "Demo" } keywordNamespace).tableNames,
      IsSafe name := by decide
  ⟨hwords, hparents, htarget, hhome,
    (codeLines_moduleOf hwords hparents htarget hhome).trans (by decide),
    (isStatement_codeLines_iff { target := "Demo" } keywordNamespace hwords hparents htarget
      hhome).mpr hsafe⟩

/-- A namespace with a keyword for the name of a table. -/
def keywordTable : Element := namedElement "namespace" "Demo" [namedElement "enumeration" "end" []]

/-- Words for names are not enough: a table that is named by a keyword is defined by a line that is
no statement. -/
theorem not_forall_isStatement_codeLines :
    ¬∀ (options : Options) (e : Element), NamesAreWords e → IsIdentifier options.target →
      IsIdentifier (homeOf options e) →
      ∀ line ∈ codeLines (moduleText (moduleOf options e)), IsStatement line := by
  intro h
  have hwords : NamesAreWords keywordTable := by
    decide
  have hparents : ParentsOnOneLine keywordTable := by
    decide
  have htarget : IsIdentifier "Demo" := by
    decide
  have hhome : IsIdentifier (homeOf { target := "Demo" } keywordTable) := by
    decide
  have hname : IsWord "end" := by
    decide
  have hcode := codeLines_moduleOf hwords hparents htarget hhome
  have hmem : tableDefinition ("Demo" ++ "." ++ "end") ∈
      moduleCode (moduleOf { target := "Demo" } keywordTable) := by
    decide
  have hline := h { target := "Demo" } keywordTable hwords htarget hhome _ (hcode ▸ hmem)
  have hsafe : IsSafe "end" := (isStatement_tableDefinition_iff htarget hname).mp hline
  exact hsafe.not_keyword (by decide)

end GirStubs.Stub
