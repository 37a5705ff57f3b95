/-! # Lines

A text is cut into lines at its line feeds, and at nothing else. The lines of two
texts with a line feed between them are those of the first and then those of the
second (`lines_append`), so the lines of a text that is put together from entries
are read off entry by entry. `line_induction` is the induction along the lines.
-/

namespace GirStubs.Text

/-- The lines of a text: what stands between its line feeds. -/
def lines (text : String) : List String := (text.toList.splitOn '\n').map String.ofList

/-- The text has no line feed. -/
def OneLine (text : String) : Prop := '\n' ∉ text.toList

instance (text : String) : Decidable (OneLine text) := inferInstanceAs (Decidable (_ ∉ _))

@[simp]
theorem oneLine_append (first second : String) :
    OneLine (first ++ second) ↔ OneLine first ∧ OneLine second := by
  simp [OneLine, not_or]

theorem lines_of_oneLine {text : String} (h : OneLine text) : lines text = [text] := by
  rw [lines, List.splitOn_eq_singleton h]
  simp

theorem lines_append (first second : String) :
    lines (first ++ "\n" ++ second) = lines first ++ lines second := by
  have htext : (first ++ "\n" ++ second).toList = first.toList ++ '\n' :: second.toList := by
    simp
  rw [lines, htext, List.splitOn_append_cons_self, List.map_append]
  rfl

/-- **Induction along the lines**: the last line, or a line with more behind its line feed. -/
theorem line_induction {motive : List Char → Prop}
    (last : ∀ line, '\n' ∉ line → motive line)
    (more : ∀ line rest, '\n' ∉ line → motive rest → motive (line ++ '\n' :: rest))
    (text : List Char) : motive text := by
  induction hsize : text.length using Nat.strongRecOn generalizing text with
  | _ size ih =>
    by_cases hmem : '\n' ∈ text
    · obtain ⟨line, rest, rfl, hline⟩ := List.eq_append_cons_of_mem hmem
      rw [List.length_append, List.length_cons] at hsize
      exact more line rest hline (ih rest.length (by omega) rest rfl)
    · exact last text hmem

theorem not_mem_of_mem_splitOn {text line : List Char} (h : line ∈ text.splitOn '\n') :
    '\n' ∉ line := by
  revert h
  refine line_induction (motive := fun text => line ∈ text.splitOn '\n' → '\n' ∉ line) ?_ ?_ text
  · intro last hlast h
    rw [List.splitOn_eq_singleton hlast, List.mem_singleton] at h
    exact h ▸ hlast
  · intro first rest hfirst ih h
    rw [List.splitOn_append_cons_self_of_not_mem hfirst, List.mem_cons] at h
    rcases h with rfl | h
    · exact hfirst
    · exact ih h

theorem not_mem_intercalate {c : Char} {separator : String} {entries : List String}
    (hsep : c ∉ separator.toList) (h : ∀ entry ∈ entries, c ∉ entry.toList) :
    c ∉ (separator.intercalate entries).toList := by
  induction entries with
  | nil => simp
  | cons entry rest ih =>
    rw [List.forall_mem_cons] at h
    by_cases hrest : rest = []
    · simpa [hrest] using h.1
    · rw [String.intercalate_cons_of_ne_nil hrest, String.toList_append, String.toList_append,
        List.mem_append, List.mem_append, not_or, not_or]
      exact ⟨⟨h.1, hsep⟩, ih h.2⟩

theorem oneLine_intercalate {separator : String} {entries : List String}
    (hsep : OneLine separator) (h : ∀ entry ∈ entries, OneLine entry) :
    OneLine (separator.intercalate entries) :=
  not_mem_intercalate hsep h

end GirStubs.Text
