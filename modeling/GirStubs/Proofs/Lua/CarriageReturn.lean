import GirStubs.Lua.Identifier
import GirStubs.Proofs.Lua.Fences
import GirStubs.Proofs.Lua.TypeExpr
import GirStubs.Proofs.Text.CarriageReturn

/-!
# Carriage returns in comments and names

No carriage return is brought in where a documentation text or a name is made fit for a program. A
trailing comment loses those that its text has (`not_hasReturn_trailingText`), since it is folded. A
long comment is cut into lines at line feeds only, and keeps them.
-/

namespace GirStubs.Lua

open Text Unicode

/-! ## Comments -/

namespace Comment

theorem return_not_mem_lines {text : List Char} (h : '\r' ∉ text) : '\r' ∉ lines text := by
  unfold lines
  split
  · exact List.not_mem_nil
  · rw [List.mem_append, not_or, block_eq]
    refine ⟨by decide, fun hmem => ?_⟩
    have hmarked : '\r' ∉ markLines (fenceCode text) :=
      not_mem_replaceAll (by decide) (not_mem_fenceCode (by decide +kernel) (by decide) h)
    exact not_mem_quoteMarkup (by decide) (by decide) hmarked (mem_of_mem_trim hmem)

theorem hasReturn_of_linesText {text : String} (h : HasReturn (linesText text)) :
    HasReturn text := by
  rw [HasReturn, linesText, String.toList_ofList] at h
  by_contra hnone
  exact return_not_mem_lines hnone h

@[simp]
theorem not_hasReturn_trailingText (text : String) : ¬HasReturn (trailingText text) := by
  rw [HasReturn, trailingText, String.toList_ofList]
  exact not_mem_trailing (by decide) (by decide) (by decide) text.toList

end Comment

/-! ## Names and types -/

@[simp]
theorem hasReturn_safeIdentifier (name : String) :
    HasReturn (safeIdentifier name) ↔ HasReturn name := by
  have hmark : ¬HasReturn "__" := by decide
  unfold safeIdentifier
  split
  · simp [hmark]
  · split
    · simp [hmark]
    · rfl

theorem hasReturn_render (t : TypeExpr) : HasReturn t.render ↔ AnyReturn t.leaves := by
  induction t with
  | name text => simp [TypeExpr.render, TypeExpr.leaves]
  | array element ih =>
    have hbrackets : ¬HasReturn "[]" := by decide
    rw [TypeExpr.render, hasReturn_append, ih]
    simp [TypeExpr.leaves, hbrackets]
  | table key value ihkey ihvalue =>
    have htable : ¬HasReturn "table<" := by decide
    have hcomma : ¬HasReturn ", " := by decide
    have hclose : ¬HasReturn ">" := by decide
    simp only [TypeExpr.render, hasReturn_append, ihkey, ihvalue, TypeExpr.leaves, anyReturn_append]
    simp [htable, hcomma, hclose]

end GirStubs.Lua
