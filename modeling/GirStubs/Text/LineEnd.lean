/-! # Line ends

A line ends with a line feed, a carriage return, or the two together.
`unifyLineEnds` spells each of them as one line feed.
-/

namespace GirStubs.Text

/-- The text with every line end spelled as one line feed. -/
def unifyLineEnds : List Char → List Char
  | [] => []
  | '\r' :: '\n' :: rest => '\n' :: unifyLineEnds rest
  | '\r' :: rest => '\n' :: unifyLineEnds rest
  | c :: rest => c :: unifyLineEnds rest

/-- No carriage return is left. -/
theorem not_mem_unifyLineEnds (text : List Char) : '\r' ∉ unifyLineEnds text := by
  fun_induction unifyLineEnds text with
  | case1 => simp
  | case2 rest ih => simpa using ih
  | case3 rest _ ih => simpa using ih
  | case4 c rest _ plain ih =>
    rw [List.mem_cons, not_or]
    exact ⟨fun same => plain (same ▸ rfl), ih⟩

/-- A text without carriage returns is kept. -/
theorem unifyLineEnds_of_not_mem {text : List Char} (h : '\r' ∉ text) :
    unifyLineEnds text = text := by
  fun_induction unifyLineEnds text with
  | case1 => rfl
  | case2 rest ih => simp at h
  | case3 rest _ ih => simp at h
  | case4 c rest _ _ ih => rw [ih fun mem => h (List.mem_cons_of_mem _ mem)]

end GirStubs.Text
