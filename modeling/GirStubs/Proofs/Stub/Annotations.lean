import GirStubs.Stub.Render

/-!
# Annotations among the entries of a function

The annotations of a function are those of its parameters and of its value. What stands in front of
them is no annotation, whatever the documentation holds, since its comment lines have a space behind
the mark (`not_isAnnotationEntry_headingEntries`); and neither is the definition behind them.
-/

namespace GirStubs.Stub

open Api
open Lua.Comment (linePrefix linesText)

/-- What every annotation starts with. -/
def annotationMark : List Char := "---@".toList

def IsAnnotationEntry (entry : String) : Prop := annotationMark <+: entry.toList

/-- An entry that starts with something else does not start with the mark. -/
theorem not_prefix_of_lead {mark lead : List Char} {entry : String} (h : lead <+: entry.toList)
    (hlead : ¬lead <+: mark ∧ ¬mark <+: lead) : ¬mark <+: entry.toList := by
  intro hmark
  rcases List.prefix_or_prefix_of_prefix h hmark with hshort | hlong
  · exact hlead.1 hshort
  · exact hlead.2 hlong

theorem not_isAnnotationEntry_documentation (doc : String) :
    ∀ entry ∈ documentation doc, ¬IsAnnotationEntry entry := by
  unfold documentation
  split
  · exact List.forall_mem_nil _
  · next hdoc =>
    have hlines : linePrefix <+: (linesText doc).toList := by
      rw [linesText, String.toList_ofList, Lua.Comment.lines,
        if_neg fun h => hdoc (String.toList_eq_nil_iff.mp h)]
      exact List.prefix_append _ _
    refine List.forall_mem_cons.mpr ⟨not_prefix_of_lead hlines (by decide), ?_⟩
    exact List.forall_mem_singleton.mpr (not_prefix_of_lead (List.prefix_refl _) (by decide))

/-- The entries of a function in front of its annotations. -/
def headingEntries (f : Function) : List String :=
  ["--- # " ++ kindWord f.kind ++ " " ++ qualifier f ++ f.name ++ "()", "---"] ++
    documentation f.doc

theorem not_isAnnotationEntry_headingEntries (f : Function) :
    ∀ entry ∈ headingEntries f, ¬IsAnnotationEntry entry := by
  have hhead : "--- # ".toList <+:
      ("--- # " ++ kindWord f.kind ++ " " ++ qualifier f ++ f.name ++ "()").toList := by
    simp only [String.toList_append, List.append_assoc]
    exact List.prefix_append _ _
  have hrule : ¬annotationMark <+: "---".toList := by
    decide
  simp only [headingEntries, List.forall_mem_append, List.forall_mem_cons]
  exact ⟨⟨not_prefix_of_lead hhead (by decide), hrule, List.forall_mem_nil _⟩,
    not_isAnnotationEntry_documentation f.doc⟩

theorem not_isAnnotationEntry_definition (f : Function) : ¬IsAnnotationEntry (definition f) := by
  have hword : "function ".toList <+: (definition f).toList := by
    simp only [definition, String.toList_append, List.append_assoc]
    exact List.prefix_append _ _
  exact not_prefix_of_lead hword (by decide)

theorem prefix_parameter (p : Parameter) : "---@param ".toList <+: (parameter p).toList := by
  simp only [parameter, String.toList_append, List.append_assoc]
  exact List.prefix_append _ _

theorem prefix_returnValue (r : ReturnValue) : "---@return ".toList <+: (returnValue r).toList := by
  simp only [returnValue, String.toList_append, List.append_assoc]
  exact List.prefix_append _ _

end GirStubs.Stub
