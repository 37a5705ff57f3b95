import GirStubs.Proofs.Lua.Markup
import GirStubs.Proofs.Text.Lines

/-! # Documentation stays in its comment

The rules that quote markup look over no character that separates words, so they leave
the marks alone that `markLines` has put behind the line feeds (`quoteMarkup_markLines`).
What is trimmed off afterwards is white space and takes no mark apart. Hence every line
of `lines text` starts with the mark of a comment (`commentLines_lines`), and
`trailing text` is one line (`not_mem_trailing`).
-/

namespace GirStubs.Lua.Comment

open Text Unicode

/-! ## Comment lines -/

/-- What makes a line a comment for documentation. -/
def commentMark : List Char := "---".toList

/-- Behind every line feed stands the mark of a comment. -/
def MarkedLines : List Char → Prop
  | [] => True
  | c :: rest => (c = '\n' → commentMark <+: rest) ∧ MarkedLines rest

/-- Every line of the text is a comment. -/
def CommentLines (text : List Char) : Prop := commentMark <+: text ∧ MarkedLines text

theorem markedLines_append_of_not_mem {line : List Char} (h : '\n' ∉ line) (rest : List Char) :
    MarkedLines (line ++ rest) ↔ MarkedLines rest := by
  induction line with
  | nil => rfl
  | cons c line ih =>
    rw [List.mem_cons, not_or] at h
    simp [MarkedLines, ih h.2, Ne.symm h.1]

theorem MarkedLines.of_not_mem {line : List Char} (h : '\n' ∉ line) : MarkedLines line := by
  rw [← List.append_nil line, markedLines_append_of_not_mem h]
  trivial

theorem MarkedLines.right {before behind : List Char} (h : MarkedLines (before ++ behind)) :
    MarkedLines behind := by
  induction before with
  | nil => exact h
  | cons c before ih => exact ih h.2

/-- A mark is not taken apart when what is cut off at the end holds no hyphen. -/
theorem MarkedLines.left {before behind : List Char} (h : MarkedLines (before ++ behind))
    (hbehind : '-' ∉ behind) : MarkedLines before := by
  induction before with
  | nil => trivial
  | cons c before ih =>
    refine ⟨fun hc => ?_, ih h.2⟩
    cases behind with
    | nil => simpa using h.1 hc
    | cons d behind =>
      have hd : d ∉ commentMark := by
        intro hmem
        have hhyphen : d = '-' := by simpa [commentMark] using hmem
        exact hbehind (hhyphen ▸ List.mem_cons_self)
      have hmark : commentMark.isPrefixOf (before ++ d :: behind) :=
        List.isPrefixOf_iff_prefix.mpr (h.1 hc)
      rw [isPrefixOf_append_cons hd] at hmark
      exact List.isPrefixOf_iff_prefix.mp hmark

theorem MarkedLines.trim {text : List Char} (h : MarkedLines text) : MarkedLines (trim text) := by
  obtain ⟨before, behind, htext, -, hblank⟩ := trim_split text
  have hhyphen : '-' ∉ behind := fun hmem => absurd (hblank '-' hmem) (by decide)
  rw [htext, List.append_assoc] at h
  exact h.right.left hhyphen

/-- A line feed in a text is no part of the mark at its start. -/
theorem commentMark_prefix_line {line rest : List Char}
    (h : commentMark <+: line ++ '\n' :: rest) : commentMark <+: line := by
  have hmark := List.isPrefixOf_iff_prefix.mpr h
  rw [isPrefixOf_append_cons (by decide)] at hmark
  exact List.isPrefixOf_iff_prefix.mp hmark

theorem CommentLines.splitOn {text : List Char} (h : CommentLines text) :
    ∀ line ∈ text.splitOn '\n', commentMark <+: line := by
  revert h
  refine line_induction
    (motive := fun text => CommentLines text → ∀ line ∈ text.splitOn '\n', commentMark <+: line)
    ?_ ?_ text
  · intro line hline h other hother
    rw [List.splitOn_eq_singleton hline, List.mem_singleton] at hother
    exact hother ▸ h.1
  · intro line rest hline ih h other hother
    have hrest := (markedLines_append_of_not_mem hline _).mp h.2
    rw [List.splitOn_append_cons_self_of_not_mem hline, List.mem_cons] at hother
    rcases hother with rfl | hother
    · exact commentMark_prefix_line h.1
    · exact ih ⟨hrest.1 rfl, hrest.2⟩ other hother

/-! ## Marks behind line feeds -/

theorem markLines_of_not_mem {line : List Char} (h : '\n' ∉ line) : markLines line = line := by
  unfold markLines
  rw [replaceAll_singleton]
  induction line with
  | nil => rfl
  | cons c line ih =>
    rw [List.mem_cons, not_or] at h
    rw [List.flatMap_cons, if_neg (Ne.symm h.1), ih h.2, List.singleton_append]

theorem markLines_append (before behind : List Char) :
    markLines (before ++ behind) = markLines before ++ markLines behind := by
  simp [markLines, replaceAll_singleton]

theorem markLines_append_cons (before behind : List Char) :
    markLines (before ++ '\n' :: behind) =
      markLines before ++ '\n' :: (linePrefix ++ markLines behind) := by
  simp [markLines, replaceAll_singleton]

theorem markedLines_markLines (text : List Char) : MarkedLines (markLines text) := by
  refine line_induction (motive := fun text => MarkedLines (markLines text)) ?_ ?_ text
  · intro line hline
    rw [markLines_of_not_mem hline]
    exact .of_not_mem hline
  · intro line rest hline ih
    rw [markLines_append_cons, markLines_of_not_mem hline, markedLines_append_of_not_mem hline]
    refine ⟨fun _ => ⟨' ' :: markLines rest, rfl⟩, ?_⟩
    rwa [markedLines_append_of_not_mem (by decide)]

theorem quoteMarkup_linePrefix_append (text : List Char) :
    quoteMarkup (linePrefix ++ text) = linePrefix ++ quoteMarkup text :=
  quoteMarkup_append_of_separates (List.all_eq_true.mp (by decide)) text

/-- **Quoting and marking commute**: the marks behind the line feeds hold no markup and cut none. -/
theorem quoteMarkup_markLines (text : List Char) :
    quoteMarkup (markLines text) = markLines (quoteMarkup text) := by
  refine line_induction
    (motive := fun text => quoteMarkup (markLines text) = markLines (quoteMarkup text)) ?_ ?_ text
  · intro line hline
    rw [markLines_of_not_mem hline,
      markLines_of_not_mem (not_mem_quoteMarkup (by decide) (by decide) hline)]
  · intro line rest hline ih
    rw [markLines_append_cons, markLines_of_not_mem hline, quoteMarkup_append_cons (by decide),
      quoteMarkup_append_cons (by decide), quoteMarkup_linePrefix_append, ih,
      markLines_append_cons,
      markLines_of_not_mem (not_mem_quoteMarkup (by decide) (by decide) hline)]

/-! ## The two kinds of comment -/

/-- **Every line of a long comment is marked**, whatever the documentation holds. -/
theorem commentLines_lines {text : List Char} (h : text ≠ []) : CommentLines (lines text) := by
  unfold lines
  rw [if_neg h, block_eq, quoteMarkup_markLines]
  refine ⟨⟨' ' :: trim (markLines (quoteMarkup (fenceCode text))), rfl⟩, ?_⟩
  rw [markedLines_append_of_not_mem (by decide)]
  exact (markedLines_markLines _).trim

/-- **A trailing comment is one line**, and of all white space it has spaces only. -/
theorem not_mem_trailing {c : Char} (hc : separates c) (hblank : isWhiteSpace c) (hspace : c ≠ ' ')
    (text : List Char) : c ∉ trailing text := by
  unfold trailing
  split
  · exact List.not_mem_nil
  · rw [List.mem_append, not_or, block_eq]
    constructor
    · intro hmem
      obtain rfl | rfl | rfl : c = ' ' ∨ c = '#' ∨ c = ' ' := by simpa [marker] using hmem
      · exact hspace rfl
      · exact absurd hc (by decide)
      · exact hspace rfl
    · intro hmem
      have hfold : c ∉ foldBlanks text := by
        intro hfold
        rcases mem_foldBlanks hfold with h | h
        · exact hspace h
        · exact absurd (h.2.symm.trans hblank) (by decide)
      have hquote : c ≠ '\x60' := by
        rintro rfl
        exact absurd hblank (by decide)
      exact not_mem_quoteMarkup hc hquote hfold (mem_of_mem_trim hmem)

end GirStubs.Lua.Comment
