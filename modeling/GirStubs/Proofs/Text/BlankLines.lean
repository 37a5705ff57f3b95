import GirStubs.Proofs.Text.Lines

/-! # Blank lines

`blocks` cuts a text at every two line feeds, from left to right. A text is solid when none of its
lines is empty; such a text is not cut, and a blank line behind it is found where it stands
(`blocks_append`). So solid texts that are joined with blank lines come apart again
(`blocks_intercalate`).
-/

namespace GirStubs.Text

/-- The parts of a text between two line feeds in a row; the cut goes on behind both. -/
def cutBlankLines : List Char → List (List Char)
  | [] => [[]]
  | '\n' :: '\n' :: rest => [] :: cutBlankLines rest
  | c :: rest => (cutBlankLines rest).modifyHead (c :: ·)

def blocks (text : String) : List String := (cutBlankLines text.toList).map String.ofList

example : blocks "a\n\n\nb\n\n" = ["a", "\nb", ""] := by decide

/-- No line of the text is empty. -/
def Solid (text : String) : Prop := "" ∉ lines text

/-! ## Solid texts -/

theorem solid_append (first second : String) :
    Solid (first ++ "\n" ++ second) ↔ Solid first ∧ Solid second := by
  rw [Solid, lines_append, List.mem_append, not_or]
  rfl

theorem solid_of_oneLine {text : String} (h : OneLine text) (hne : text ≠ "") : Solid text := by
  rw [Solid, lines_of_oneLine h, List.mem_singleton]
  exact Ne.symm hne

theorem solid_intercalate {entries : List String} (hne : entries ≠ [])
    (h : ∀ entry ∈ entries, Solid entry) : Solid ("\n".intercalate entries) := by
  induction entries with
  | nil => exact absurd rfl hne
  | cons entry rest ih =>
    rw [List.forall_mem_cons] at h
    by_cases hrest : rest = []
    · simpa [hrest] using h.1
    · rw [String.intercalate_cons_of_ne_nil hrest, solid_append]
      exact ⟨h.1, ih hrest h.2⟩

/-- The same on the characters of a text. -/
theorem solid_iff {text : String} : Solid text ↔ [] ∉ text.toList.splitOn '\n' := by
  have hempty : "" = String.ofList [] := rfl
  rw [Solid, lines, hempty, List.mem_map]
  simp only [String.ofList_inj, exists_eq_right]

theorem exists_cons_of_solid {text : List Char} (h : [] ∉ text.splitOn '\n') :
    ∃ c rest, text = c :: rest ∧ c ≠ '\n' := by
  cases text with
  | nil => exact absurd List.mem_cons_self h
  | cons c rest =>
    refine ⟨c, rest, rfl, ?_⟩
    rintro rfl
    refine h ?_
    rw [← List.nil_append ('\n' :: rest), List.splitOn_append_cons_self]
    exact List.mem_append_left _ List.mem_cons_self

/-! ## Cuts -/

theorem cutBlankLines_cons {c : Char} (hc : c ≠ '\n') (rest : List Char) :
    cutBlankLines (c :: rest) = (cutBlankLines rest).modifyHead (c :: ·) := by
  rw [cutBlankLines]
  intro _ h _
  exact hc h

theorem cutBlankLines_lineFeed {c : Char} (hc : c ≠ '\n') (rest : List Char) :
    cutBlankLines ('\n' :: c :: rest) = (cutBlankLines (c :: rest)).modifyHead ('\n' :: ·) := by
  rw [cutBlankLines]
  intro _ _ h
  exact hc (List.cons.inj h).1

theorem cutBlankLines_append {line : List Char} (h : '\n' ∉ line) (rest : List Char) :
    cutBlankLines (line ++ rest) = (cutBlankLines rest).modifyHead (line ++ ·) := by
  induction line with
  | nil => exact (congrFun List.modifyHead_id _).symm
  | cons c line ih =>
    rw [List.mem_cons, not_or] at h
    rw [List.cons_append, cutBlankLines_cons (Ne.symm h.1), ih h.2, List.modifyHead_modifyHead]
    rfl

/-- A blank line behind a solid text is found where it stands. By induction along the lines: behind
each line feed in the text stands a line that is not empty. -/
theorem cutBlankLines_solid {text : List Char} (h : [] ∉ text.splitOn '\n') (rest : List Char) :
    cutBlankLines (text ++ '\n' :: '\n' :: rest) = text :: cutBlankLines rest := by
  revert h
  refine line_induction
    (motive := fun text => [] ∉ text.splitOn '\n' →
      cutBlankLines (text ++ '\n' :: '\n' :: rest) = text :: cutBlankLines rest) ?_ ?_ text
  · intro line hline _
    rw [cutBlankLines_append hline, cutBlankLines, List.modifyHead_cons, List.append_nil]
  · intro line more hline ih h
    rw [List.splitOn_append_cons_self_of_not_mem hline, List.mem_cons, not_or] at h
    obtain ⟨c, tail, rfl, hc⟩ := exists_cons_of_solid h.2
    have hcut := ih h.2
    rw [List.cons_append] at hcut
    rw [List.append_assoc, cutBlankLines_append hline, List.cons_append, List.cons_append,
      cutBlankLines_lineFeed hc, hcut]
    rfl

theorem blocks_append {block : String} (h : Solid block) (rest : String) :
    blocks (block ++ "\n\n" ++ rest) = block :: blocks rest := by
  have htext : (block ++ "\n\n" ++ rest).toList = block.toList ++ '\n' :: '\n' :: rest.toList := by
    simp
  rw [blocks, htext, cutBlankLines_solid (solid_iff.mp h), List.map_cons, String.ofList_toList]
  rfl

/-- A line with its line feed is one part. -/
theorem blocks_line {line : String} (h : OneLine line) :
    blocks (line ++ "\n") = [line ++ "\n"] := by
  have hcut : cutBlankLines ['\n'] = [['\n']] := rfl
  rw [blocks, String.toList_append, cutBlankLines_append h]
  simp [hcut]

/-- **Solid texts come apart** at the blank lines that they are joined with, and what stands behind
the last of them is cut on its own. -/
theorem blocks_intercalate {solid : List String} (h : ∀ block ∈ solid, Solid block)
    (last : String) :
    blocks ("\n\n".intercalate (solid ++ [last])) = solid ++ blocks last := by
  induction solid with
  | nil => rw [List.nil_append, String.intercalate_singleton, List.nil_append]
  | cons block rest ih =>
    rw [List.forall_mem_cons] at h
    rw [List.cons_append, String.intercalate_cons_of_ne_nil (by simp), blocks_append h.1, ih h.2,
      List.cons_append]

end GirStubs.Text
