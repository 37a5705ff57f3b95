import GirStubs.Proofs.Stub.Entries

/-!
# The code in a stub

A line of a stub is a comment, empty, or code. `codeLines` keeps the code of a text.
It distributes over the entries and blocks that a stub is joined from, so the code of
a module is found entry by entry: a comment has none, a definition is its own
(`codeLines_moduleText`). The result, `moduleCode`, reads the labels of the module and
none of its documentation (`moduleCode_undocumented`).
-/

namespace GirStubs.Stub

open Api Text
open Lua.Comment (commentMark)

/-- A line that Lua runs: it is not empty and not a comment. -/
def isCode (line : String) : Bool := line ≠ "" && !commentMark.isPrefixOf line.toList

/-- The lines of a text that Lua runs. -/
def codeLines (text : String) : List String := (lines text).filter isCode

/-- The code of a declaration. -/
def declarationCode : Declaration → List String
  | .typeAlias _ => []
  | .enumeration e => [tableDefinition (e.home ++ "." ++ e.name)]
  | .callback _ => []
  | .function f => [definition f]
  | .compound c => tableDefinition c.fullName :: (c.methods ++ c.functions).map definition

/-- The code of a module. -/
def moduleCode (m : Module) : List String :=
  ["local " ++ tableDefinition m.name] ++ m.declarations.flatMap declarationCode ++
    ["return " ++ m.name]

/-! ## Joined texts -/

theorem codeLines_append (first second : String) :
    codeLines (first ++ "\n" ++ second) = codeLines first ++ codeLines second := by
  rw [codeLines, lines_append, List.filter_append]
  rfl

theorem codeLines_empty : codeLines "" = [] := by
  rw [codeLines, lines_of_oneLine (by decide)]
  rfl

theorem codeLines_intercalate {separator : String}
    (hsep : ∀ first second,
      codeLines (first ++ separator ++ second) = codeLines first ++ codeLines second)
    (entries : List String) :
    codeLines (separator.intercalate entries) = entries.flatMap codeLines := by
  induction entries with
  | nil => exact codeLines_empty
  | cons entry rest ih =>
    by_cases hrest : rest = []
    · simp [hrest]
    · rw [String.intercalate_cons_of_ne_nil hrest, hsep, ih, List.flatMap_cons]

theorem codeLines_unlines (entries : List String) :
    codeLines (unlines entries) = entries.flatMap codeLines :=
  codeLines_intercalate codeLines_append entries

theorem codeLines_unblocks (blocks : List String) :
    codeLines (unblocks blocks) = blocks.flatMap codeLines := by
  refine codeLines_intercalate (fun first second => ?_) blocks
  have hblank : first ++ "\n\n" ++ second = first ++ "\n" ++ "" ++ "\n" ++ second := by
    rw [← String.toList_inj]
    simp
  rw [hblank, codeLines_append, codeLines_append, codeLines_empty, List.append_nil]

/-! ## Comments -/

theorem isCode_eq_false_of_mark {line : String} (h : commentMark <+: line.toList) :
    isCode line = false := by
  simp [isCode, List.isPrefixOf_iff_prefix.mpr h]

theorem codeLines_comment {text : String} (h : IsComment text) : codeLines text = [] := by
  rw [codeLines, lines, List.filter_eq_nil_iff]
  intro line hline
  obtain ⟨characters, hmem, rfl⟩ := List.mem_map.mp hline
  have hmark := h.splitOn characters hmem
  rw [isCode_eq_false_of_mark (by rwa [String.toList_ofList])]
  exact Bool.false_ne_true

/-- The code of comments with a definition behind them is the definition. -/
theorem codeLines_commented {comments : List String} {definition : String}
    (hcomments : ∀ entry ∈ comments, IsComment entry)
    (hdefinition : codeLines definition = [definition]) :
    codeLines (unlines (comments ++ [definition])) = [definition] := by
  have hnone : comments.flatMap codeLines = [] :=
    List.flatMap_eq_nil_iff.mpr fun entry hentry => codeLines_comment (hcomments entry hentry)
  rw [codeLines_unlines, List.flatMap_append, hnone, List.nil_append, List.flatMap_cons,
    hdefinition]
  rfl

/-! ## Code -/

theorem codeLines_code {line : String} (h : OneLine line) (hcode : isCode line) :
    codeLines line = [line] := by
  rw [codeLines, lines_of_oneLine h, List.filter_cons_of_pos hcode, List.filter_nil]

/-- A line that starts with another character than a hyphen is code. -/
theorem isCode_of_head {line : String} {c : Char} (h : line.toList.head? = some c) (hc : c ≠ '-') :
    isCode line := by
  obtain ⟨rest, hrest⟩ := List.head?_eq_some_iff.mp h
  have hne : line ≠ "" := by
    rintro rfl
    cases hrest
  simp [isCode, hne, hrest, commentMark, List.isPrefixOf, Ne.symm hc]

/-- A table in a namespace that starts with no hyphen is code. -/
theorem codeLines_tableDefinition {home name : String} (h : OneLine (home ++ "." ++ name))
    (hhead : home.toList.head? ≠ some '-') :
    codeLines (tableDefinition (home ++ "." ++ name)) =
      [tableDefinition (home ++ "." ++ name)] := by
  refine codeLines_code (oneLine_tableDefinition h) ?_
  cases hhome : home.toList with
  | nil => exact isCode_of_head (c := '.') (by simp [tableDefinition, hhome]) (by decide)
  | cons c rest =>
    rw [hhome, List.head?_cons, ne_eq, Option.some.injEq] at hhead
    exact isCode_of_head (c := c) (by simp [tableDefinition, hhome]) hhead

theorem codeLines_definition {f : Function} (h : ∀ label ∈ f.labels, OneLine label) :
    codeLines (definition f) = [definition f] :=
  codeLines_code (oneLine_definition h)
    (isCode_of_head (c := 'f') (by simp [definition]) (by decide))

/-- **The code of a function** is its definition. -/
theorem codeLines_function {f : Function} (h : ∀ label ∈ f.labels, OneLine label) :
    codeLines (function f) = [definition f] := by
  rw [function, functionEntries_eq]
  exact codeLines_commented (isComment_functionComments h) (codeLines_definition h)

section Compound

variable {c : Compound} (h : ∀ label ∈ c.labels, OneLine label)

include h in
theorem codeLines_members :
    ((c.methods ++ c.functions).map function).flatMap codeLines =
      (c.methods ++ c.functions).map definition := by
  rw [List.flatMap_map, List.map_eq_flatMap, List.flatMap_def, List.flatMap_def]
  refine congrArg List.flatten (List.map_congr_left fun f hf => ?_)
  exact codeLines_function (oneLine_labels_of_mem_members h hf)

include h in
/-- **The code of a compound type** is its table and the definitions of its members. -/
theorem codeLines_compound (hhome : c.home.toList.head? ≠ some '-') :
    (compoundBlocks c).flatMap codeLines =
      tableDefinition c.fullName :: (c.methods ++ c.functions).map definition := by
  have htable : codeLines (tableDefinition c.fullName) = [tableDefinition c.fullName] :=
    codeLines_tableDefinition (oneLine_fullName h) hhome
  rw [compoundBlocks, List.flatMap_cons, codeLines_members h, compoundEntries_eq,
    codeLines_commented (isComment_compoundComments h) htable]
  rfl

end Compound

theorem codeLines_enumeration {e : Enumeration}
    (h : ∀ label ∈ (Declaration.enumeration e).labels, OneLine label)
    (hhome : e.home.toList.head? ≠ some '-') :
    codeLines (enumeration e) = [tableDefinition (e.home ++ "." ++ e.name)] := by
  rw [enumeration_eq]
  exact codeLines_commented (List.forall_mem_singleton.mpr (isComment_enumLine h))
    (codeLines_tableDefinition (oneLine_enumerationName h) hhome)

theorem codeLines_declaration {d : Declaration} (h : ∀ label ∈ d.labels, OneLine label)
    (hhome : ∀ home ∈ d.tableHome?, home.toList.head? ≠ some '-') :
    codeLines (declaration d) = declarationCode d := by
  rw [declaration, codeLines_unblocks]
  cases d with
  | typeAlias a =>
    simp [declarationBlocks, declarationCode, codeLines_comment (isComment_typeAlias h)]
  | enumeration e =>
    simp [declarationBlocks, declarationCode, codeLines_enumeration h (hhome e.home rfl)]
  | callback c =>
    simp [declarationBlocks, declarationCode,
      codeLines_comment (isComment_callbackAlias (c := c) h)]
  | function f =>
    simp [declarationBlocks, declarationCode, codeLines_function (f := f) h]
  | compound c =>
    exact codeLines_compound h (hhome c.home rfl)

/-! ## Modules -/

/-- **The code of a module**: it opens its table, defines what is declared, and returns the
table. -/
theorem codeLines_module {m : Module} (h : ∀ label ∈ m.labels, OneLine label)
    (hhome : ∀ home ∈ m.tableHomes, home.toList.head? ≠ some '-') :
    codeLines (moduleText m) = moduleCode m := by
  have hname : OneLine m.name := h m.name (by simp [Module.labels])
  have hmeta : codeLines ("---@meta " ++ m.name) = [] :=
    codeLines_comment (isComment_opening hname).1
  have hclass : codeLines ("---@class " ++ m.name) = [] :=
    codeLines_comment (isComment_opening hname).2
  have hlocal : codeLines ("local " ++ m.name ++ " = \x7b\x7d") =
      ["local " ++ tableDefinition m.name] := by
    rw [String.append_assoc]
    refine codeLines_code ?_ (isCode_of_head (c := 'l') (by simp) (by decide))
    simp only [oneLine_append]
    exact ⟨by decide, hname, by decide⟩
  have hreturn : codeLines ("return " ++ m.name ++ "\n") = ["return " ++ m.name] := by
    have hline : codeLines ("return " ++ m.name) = ["return " ++ m.name] :=
      codeLines_code ((oneLine_append _ _).mpr ⟨by decide, hname⟩)
        (isCode_of_head (c := 'r') (by simp) (by decide))
    rw [← String.append_empty (s := "return " ++ m.name ++ "\n"), codeLines_append, hline,
      codeLines_empty, List.append_nil]
  have hdeclarations : (m.declarations.map declaration).flatMap codeLines =
      m.declarations.flatMap declarationCode := by
    rw [List.flatMap_map, List.flatMap_def, List.flatMap_def]
    refine congrArg List.flatten (List.map_congr_left fun d hd => ?_)
    refine codeLines_declaration (fun label hlabel => h label ?_) fun home hmem => hhome home ?_
    · simp only [Module.labels, List.mem_cons, List.mem_flatMap]
      exact Or.inr ⟨d, hd, hlabel⟩
    · exact List.mem_filterMap.mpr ⟨d, hd, hmem⟩
  unfold moduleText openingBlocks
  simp only [codeLines_unblocks, codeLines_unlines, List.flatMap_append, List.flatMap_cons,
    List.flatMap_nil, hmeta, hclass, hlocal, hreturn, hdeclarations, List.nil_append,
    List.append_nil]
  rfl

theorem definition_undocumented (f : Function) : definition f.undocumented = definition f := by
  have harguments : f.undocumented.arguments.map Parameter.name =
      f.arguments.map Parameter.name := by
    have hnames : Parameter.name ∘ Parameter.undocumented = Parameter.name := rfl
    unfold Function.arguments Function.undocumented
    cases f.kind <;> simp [hnames]
  unfold definition
  rw [harguments]
  rfl

theorem declarationCode_undocumented (d : Declaration) :
    declarationCode d.undocumented = declarationCode d := by
  cases d with
  | typeAlias a => rfl
  | enumeration e => rfl
  | callback c => rfl
  | function f => exact congrArg (fun line => [line]) (definition_undocumented f)
  | compound c =>
    have hmembers : definition ∘ Function.undocumented = definition :=
      funext definition_undocumented
    simp [declarationCode, Declaration.undocumented, Compound.undocumented, Compound.fullName,
      hmembers]

/-- The code of a module can be told without its documentation. -/
theorem moduleCode_undocumented (m : Module) : moduleCode m.undocumented = moduleCode m := by
  unfold moduleCode Module.undocumented
  rw [List.flatMap_map]
  simp only [declarationCode_undocumented]

/-- **Documentation is never code.** When the labels of a module are one-line texts and no table
stands in a namespace that starts with a hyphen, the code of its stub is `moduleCode`, and every
module with the same labels and other documentation has the same code. -/
theorem codeLines_moduleText (m : Module) (h : ∀ label ∈ m.labels, OneLine label)
    (hhome : ∀ home ∈ m.tableHomes, home.toList.head? ≠ some '-') :
    codeLines (moduleText m) = moduleCode m ∧
      ∀ other : Module, other.undocumented = m.undocumented →
        codeLines (moduleText other) = codeLines (moduleText m) := by
  have hcode := codeLines_module h hhome
  refine ⟨hcode, fun other hother => ?_⟩
  have hlabels : other.labels = m.labels := by
    rw [← other.labels_undocumented, hother, m.labels_undocumented]
  have hhomes : other.tableHomes = m.tableHomes := by
    rw [← other.tableHomes_undocumented, hother, m.tableHomes_undocumented]
  rw [codeLines_module (hlabels ▸ h) (hhomes ▸ hhome), hcode, ← moduleCode_undocumented other,
    hother, moduleCode_undocumented]

/-- A module whose documentation holds line feeds, code and markup. -/
def documentedModule : Module where
  name := "Demo"
  declarations :=
    [.function ⟨"end", "|[\nend\n]|\n\nreturn @x\n", [⟨"x", .name "integer", true, "a\nb = 1"⟩],
      some ⟨.array .unknown, "\n"⟩, some "Demo", .static⟩,
     .enumeration ⟨"Mode", .bitfield, "Demo"⟩,
     .compound ⟨"Box", .record, [.value ⟨"size", .name "integer", "\n\nsize"⟩], "%NULL\n---\n", false,
      [], [⟨"open", "\nopen()", [⟨"self", .name "Demo.Box", false, "\n"⟩], none, some "Demo.Box",
        .method⟩], [], "Demo"⟩]

theorem codeLines_documentedModule :
    (∀ label ∈ documentedModule.labels, OneLine label) ∧
      (∀ home ∈ documentedModule.tableHomes, home.toList.head? ≠ some '-') ∧
      codeLines (moduleText documentedModule) =
        ["local Demo = \x7b\x7d", "function Demo.end__(x) end", "Demo.Mode = \x7b\x7d",
          "Demo.Box = \x7b\x7d", "function Demo.Box:open() end", "return Demo"] :=
  have hlabels : ∀ label ∈ documentedModule.labels, OneLine label := by decide
  have hhomes : ∀ home ∈ documentedModule.tableHomes, home.toList.head? ≠ some '-' := by decide
  ⟨hlabels, hhomes, (codeLines_moduleText documentedModule hlabels hhomes).1.trans (by decide)⟩

end GirStubs.Stub
