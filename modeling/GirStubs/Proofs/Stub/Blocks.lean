import GirStubs.Proofs.Stub.CodeLines
import GirStubs.Proofs.Text.BlankLines

/-!
# The blocks of a stub

The text of a module is joined from blocks with a blank line between any two. Every entry of a
block is solid: a comment has the comment mark on each line, and a definition is one line that is
not empty. So a block holds no blank line and ends with no line feed, whatever documentation it
carries (`solid_declarationBlocks`), and the blocks are found again in the text
(`blocks_moduleText`).
-/

namespace GirStubs.Stub

open Api Text
open Lua.Comment (commentMark)

/-! ## Solid entries -/

theorem solid_of_isComment {text : String} (h : IsComment text) : Solid text := by
  intro hmem
  obtain ⟨line, hline, hempty⟩ := List.mem_map.mp hmem
  have hmark := h.splitOn line hline
  rw [← String.toList_inj, String.toList_ofList] at hempty
  rw [hempty] at hmark
  exact absurd (List.prefix_nil.mp hmark) (by decide)

theorem solid_commented {comments : List String} {definition : String}
    (hcomments : ∀ entry ∈ comments, IsComment entry) (hdefinition : Solid definition) :
    Solid (unlines (comments ++ [definition])) := by
  refine solid_intercalate (by simp) (List.forall_mem_append.mpr ⟨fun entry hentry => ?_, ?_⟩)
  · exact solid_of_isComment (hcomments entry hentry)
  · exact List.forall_mem_singleton.mpr hdefinition

theorem solid_tableDefinition {name : String} (h : OneLine name) :
    Solid (tableDefinition name) := by
  refine solid_of_oneLine (oneLine_tableDefinition h) fun hempty => ?_
  exact absurd (String.append_eq_empty_iff.mp hempty).2 (by decide)

theorem solid_function {f : Function} (h : ∀ label ∈ f.labels, OneLine label) :
    Solid (function f) := by
  rw [function, functionEntries_eq]
  refine solid_commented (isComment_functionComments h)
    (solid_of_oneLine (oneLine_definition h) fun hempty => ?_)
  exact absurd (String.append_eq_empty_iff.mp hempty).2 (by decide)

theorem solid_compoundBlocks {c : Compound} (h : ∀ label ∈ c.labels, OneLine label) :
    ∀ block ∈ compoundBlocks c, Solid block := by
  rw [compoundBlocks, List.forall_mem_cons, List.forall_mem_map, compoundEntries_eq]
  refine ⟨?_, fun f hf => solid_function (oneLine_labels_of_mem_members h hf)⟩
  exact solid_commented (isComment_compoundComments h) (solid_tableDefinition (oneLine_fullName h))

theorem solid_enumeration {e : Enumeration}
    (h : ∀ label ∈ (Declaration.enumeration e).labels, OneLine label) : Solid (enumeration e) := by
  rw [enumeration_eq]
  exact solid_commented (List.forall_mem_singleton.mpr (isComment_enumLine h))
    (solid_tableDefinition (oneLine_enumerationName h))

/-- **No block of a declaration holds a blank line.** -/
theorem solid_declarationBlocks {d : Declaration} (h : ∀ label ∈ d.labels, OneLine label) :
    ∀ block ∈ declarationBlocks d, Solid block := by
  cases d with
  | typeAlias a => exact List.forall_mem_singleton.mpr (solid_of_isComment (isComment_typeAlias h))
  | enumeration e => exact List.forall_mem_singleton.mpr (solid_enumeration h)
  | callback c =>
    exact List.forall_mem_singleton.mpr (solid_of_isComment (isComment_callbackAlias h))
  | function f => exact List.forall_mem_singleton.mpr (solid_function h)
  | compound c => exact solid_compoundBlocks h

theorem solid_openingBlocks {name : String} (h : OneLine name) :
    ∀ block ∈ openingBlocks name, Solid block := by
  have hlocal : OneLine ("local " ++ name ++ " = \x7b\x7d") := by
    simp only [oneLine_append]
    exact ⟨⟨by decide, h⟩, by decide⟩
  have hne : "local " ++ name ++ " = \x7b\x7d" ≠ "" := fun hempty =>
    absurd (String.append_eq_empty_iff.mp hempty).2 (by decide)
  obtain ⟨hmeta, hclass⟩ := isComment_opening h
  have htable : Solid (unlines (["---@class " ++ name] ++ ["local " ++ name ++ " = \x7b\x7d"])) :=
    solid_commented (List.forall_mem_singleton.mpr hclass) (solid_of_oneLine hlocal hne)
  rw [openingBlocks, List.forall_mem_cons, List.forall_mem_singleton]
  exact ⟨solid_of_isComment hmeta, htable⟩

/-! ## Joined blocks -/

theorem openingBlocks_eq (name : String) :
    openingBlocks name =
      ["---@meta " ++ name, "---@class " ++ name ++ "\nlocal " ++ name ++ " = \x7b\x7d"] := by
  have hclass : unlines ["---@class " ++ name, "local " ++ name ++ " = \x7b\x7d"] =
      "---@class " ++ name ++ "\nlocal " ++ name ++ " = \x7b\x7d" := by
    rw [← String.toList_inj]
    simp [unlines]
  rw [openingBlocks, hclass]

theorem declarationBlocks_ne_nil (d : Declaration) : declarationBlocks d ≠ [] := by
  cases d <;> exact List.cons_ne_nil _ _

/-- Groups of blocks that are joined one by one are joined as a whole. -/
theorem unblocks_flatten {groups : List (List String)} (h : ∀ group ∈ groups, group ≠ []) :
    unblocks (groups.map unblocks) = unblocks groups.flatten := by
  induction groups with
  | nil => rfl
  | cons group rest ih =>
    rw [List.forall_mem_cons] at h
    by_cases hrest : rest = []
    · simp [hrest, unblocks]
    · obtain ⟨next, hnext⟩ := List.exists_mem_of_ne_nil rest hrest
      have hflat : rest.flatten ≠ [] := fun hempty =>
        h.2 next hnext (List.flatten_eq_nil_iff.mp hempty next hnext)
      have hih := ih h.2
      unfold unblocks at hih ⊢
      rw [List.map_cons, String.intercalate_cons_of_ne_nil (by simpa using hrest), hih,
        List.flatten_cons, String.intercalate_append_of_ne_nil h.1 hflat]

/-- A module that declares something is its blocks, joined. -/
theorem moduleText_eq_unblocks {m : Module} (hne : m.declarations ≠ []) :
    moduleText m =
      unblocks (openingBlocks m.name ++ m.declarations.flatMap declarationBlocks ++
        ["return " ++ m.name ++ "\n"]) := by
  have hdeclarations : unblocks (m.declarations.map declaration) =
      unblocks (m.declarations.flatMap declarationBlocks) := by
    have hgroups : ∀ group ∈ m.declarations.map declarationBlocks, group ≠ [] :=
      List.forall_mem_map.mpr fun d _ => declarationBlocks_ne_nil d
    have hjoined := unblocks_flatten hgroups
    rwa [List.map_map] at hjoined
  have hflat : m.declarations.flatMap declarationBlocks ≠ [] := by
    obtain ⟨d, rest, hd⟩ := List.exists_cons_of_ne_nil hne
    rw [hd, List.flatMap_cons]
    exact List.append_ne_nil_of_left_ne_nil (declarationBlocks_ne_nil d) _
  have hopening : openingBlocks m.name ≠ [] := List.cons_ne_nil _ _
  have hreturn : ["return " ++ m.name ++ "\n"] ≠ [] := List.cons_ne_nil _ _
  unfold unblocks at hdeclarations
  unfold moduleText unblocks
  rw [hdeclarations, String.intercalate_append_of_ne_nil (by simp) hreturn,
    String.intercalate_append_of_ne_nil hopening (by simp), String.intercalate_singleton,
    String.intercalate_append_of_ne_nil (by simp [hopening]) hreturn,
    String.intercalate_append_of_ne_nil hopening hflat]

/-- The text falls apart into the blocks it was joined from. -/
theorem blocks_eq_declarationBlocks {m : Module} (hne : m.declarations ≠ [])
    (h : ∀ label ∈ m.labels, OneLine label) :
    blocks (moduleText m) =
      openingBlocks m.name ++ m.declarations.flatMap declarationBlocks ++
        ["return " ++ m.name ++ "\n"] := by
  have hname : OneLine m.name := h m.name List.mem_cons_self
  have hsolid : ∀ block ∈ openingBlocks m.name ++ m.declarations.flatMap declarationBlocks,
      Solid block := by
    refine List.forall_mem_append.mpr ⟨solid_openingBlocks hname, fun block hblock => ?_⟩
    obtain ⟨d, hd, hmem⟩ := List.mem_flatMap.mp hblock
    refine solid_declarationBlocks (fun label hlabel => h label ?_) block hmem
    exact List.mem_cons_of_mem _ (List.mem_flatMap.mpr ⟨d, hd, hlabel⟩)
  have hreturn : OneLine ("return " ++ m.name) := (oneLine_append _ _).mpr ⟨by decide, hname⟩
  rw [moduleText_eq_unblocks hne, unblocks, blocks_intercalate hsolid, blocks_line hreturn]

/-- **The blocks of a module are found again in its text**: those that open it, those of each
declaration in order, and the one that returns the table. A declaration has one block, but a
compound type has one for itself, one for each method, and one for each function. -/
theorem blocks_moduleText (m : Module) (hne : m.declarations ≠ [])
    (h : ∀ label ∈ m.labels, OneLine label) :
    blocks (moduleText m) =
      ["---@meta " ++ m.name, "---@class " ++ m.name ++ "\nlocal " ++ m.name ++ " = \x7b\x7d"] ++
        (m.declarations.flatMap fun d =>
          match d with
          | .typeAlias a => [typeAlias a]
          | .enumeration e => [enumeration e]
          | .callback c => [callbackAlias c]
          | .function f => [function f]
          | .compound c =>
            [unlines (compoundEntries c)] ++ c.methods.map function ++ c.functions.map function) ++
        ["return " ++ m.name ++ "\n"] := by
  rw [blocks_eq_declarationBlocks hne h, openingBlocks_eq]
  congr 3
  funext d
  cases d with
  | compound c => exact congrArg (List.cons _) List.map_append
  | typeAlias a => rfl
  | enumeration e => rfl
  | callback c => rfl
  | function f => rfl

theorem blocks_documentedModule :
    documentedModule.declarations ≠ [] ∧ (∀ label ∈ documentedModule.labels, OneLine label) ∧
      blocks (moduleText documentedModule) =
        ["---@meta Demo", "---@class Demo\nlocal Demo = \x7b\x7d",
          "--- # function Demo.end()\n---\n--- ```c\n--- end\n--- ```\n--- \n" ++
            "--- return `x`\n---\n---\n--- ---\n---\n" ++
            "---@param x? integer # a b = 1\n---@return unknown[] # \n" ++
            "function Demo.end__(x) end",
          "---@enum Demo.Mode\nDemo.Mode = \x7b\x7d",
          "--- # record Demo.Box\n---\n--- `nil`\n--- ---\n---\n---\n--- ---\n---\n" ++
            "---@class Demo.Box\n---@field size integer # size\nDemo.Box = \x7b\x7d",
          "--- # method Demo.Box:open()\n---\n--- --- `open()`\n---\n--- ---\n---\n" ++
            "---@param self Demo.Box # \nfunction Demo.Box:open() end",
          "return Demo\n"] :=
  have hne : documentedModule.declarations ≠ [] := List.cons_ne_nil _ _
  have hlabels : ∀ label ∈ documentedModule.labels, OneLine label := by decide
  ⟨hne, hlabels, (blocks_moduleText documentedModule hne hlabels).trans (by decide +kernel)⟩

end GirStubs.Stub
