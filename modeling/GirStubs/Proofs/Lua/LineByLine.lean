import GirStubs.Proofs.Lua.Fences
import GirStubs.Proofs.Text.BlankEnds

/-!
# Comments line by line

The marks of a long comment are put in before the white space at the ends is trimmed off. So a
comment is its text line by line (`commented`) just when the trimming takes no line feed off
(`trim_markLines_iff`): one that it takes off at the start leaves its mark in front of the first
line, and one at the end leaves a mark with nothing behind it. Since code is put in fences and
markup is quoted line by line, the white space at the ends is that of the documentation itself.
-/

namespace GirStubs.Lua.Comment

open Text Unicode

/-- Every line of the text behind a mark. -/
def commented (text : List Char) : List Char :=
  ['\n'].intercalate ((text.splitOn '\n').map (linePrefix ++ ·))

theorem commented_eq (text : List Char) : commented text = linePrefix ++ markLines text := by
  unfold commented
  refine line_induction
    (motive := fun text => ['\n'].intercalate ((text.splitOn '\n').map (linePrefix ++ ·)) =
      linePrefix ++ markLines text) ?_ ?_ text
  · intro line hline
    rw [List.splitOn_eq_singleton hline, markLines_of_not_mem hline]
    exact List.intercalate_singleton
  · intro line rest hline ih
    have hmore : (rest.splitOn '\n').map (linePrefix ++ ·) ≠ [] := by
      simp [List.splitOn_ne_nil]
    rw [List.splitOn_append_cons_self_of_not_mem hline, List.map_cons,
      List.intercalate_cons_of_ne_nil hmore, ih, markLines_append_cons, markLines_of_not_mem hline]
    simp

/-! ## Marks and white space -/

theorem trimmed_markLines {text : List Char} (h : Trimmed text) : Trimmed (markLines text) := by
  have hfeed : isWhiteSpace '\n' := by
    decide
  have hmark : ∀ {c : Char}, isWhiteSpace c = false → markLines [c] = [c] := by
    intro c hc
    refine markLines_of_not_mem fun hmem => ?_
    rw [← List.mem_singleton.mp hmem, hfeed] at hc
    cases hc
  constructor
  · cases text with
    | nil => exact h.head
    | cons c rest =>
      rw [← List.singleton_append, markLines_append, hmark (h.head c rfl)]
      exact h.head
  · obtain rfl | ⟨front, c, rfl⟩ := List.eq_nil_or_concat text
    · exact h.last
    · have hc : isWhiteSpace c = false := h.last c (by simp)
      rw [List.concat_eq_append, markLines_append, hmark hc]
      simpa using hc

theorem count_markLines (text : List Char) :
    (markLines text).count '-' = text.count '-' + 3 * text.count '\n' := by
  have hmark : ('\n' :: linePrefix).count '-' = 3 := by
    decide
  refine line_induction
    (motive := fun text => (markLines text).count '-' = text.count '-' + 3 * text.count '\n')
    ?_ ?_ text
  · intro line hline
    rw [markLines_of_not_mem hline, List.count_eq_zero_of_not_mem hline]
    rfl
  · intro line rest hline ih
    rw [markLines_append_cons, markLines_of_not_mem hline, List.count_append, ← List.cons_append,
      List.count_append, hmark, ih, List.count_append, List.count_append,
      List.count_cons_of_ne (by decide), List.count_cons_self,
      List.count_eq_zero_of_not_mem hline]
    omega

/-- **Trimming and marking commute** where no line feed is trimmed off, and nowhere else: a line
feed that is trimmed off leaves its mark. -/
theorem trim_markLines_iff {text : List Char} :
    trim (markLines text) = markLines (trim text) ↔ ¬StartsBlank text ∧ ¬EndsBlank text := by
  constructor
  · -- Trimming takes no hyphen off, and marking puts in three for each line feed that is there.
    intro hsame
    have hcount := congrArg (List.count '-') hsame
    rw [count_trim (by decide), count_markLines, count_markLines, count_trim (by decide)] at hcount
    rw [← not_or]
    intro hblank
    have hless := count_trim_lt hblank
    omega
  · rintro ⟨hstart, hend⟩
    obtain ⟨before, behind, htext, hbefore, hbehind, hfront, hback⟩ :=
      exists_trim_split hstart hend
    have hmarked : markLines text = before ++ markLines (trim text) ++ behind := by
      have hparts := congrArg markLines htext
      rwa [markLines_append, markLines_append, markLines_of_not_mem hfront,
        markLines_of_not_mem hback] at hparts
    rw [hmarked, trim_eq_of_trimmed hbefore hbehind (trimmed_markLines (trimmed_trim text))]

theorem commentMark_prefix_trim {text : List Char} (h : StartsBlank text) :
    commentMark <+: trim (markLines text) := by
  obtain ⟨line, rest, rfl, hline, hblank⟩ := h.exists_line
  have hfront : isBlank (line ++ ['\n']) := by
    rw [isBlank_append, hblank]
    decide
  have hmarked : markLines (line ++ '\n' :: rest) =
      (line ++ ['\n']) ++ (commentMark ++ ' ' :: markLines rest) ++ [] := by
    rw [markLines_append_cons, markLines_of_not_mem hline]
    simp [linePrefix, commentMark]
  rw [hmarked, trim_append hfront rfl]
  exact prefix_trim (eq_false_of_any (by decide)) _

theorem commentMark_suffix_trim {text : List Char} (h : EndsBlank text) :
    commentMark <:+ trim (markLines text) := by
  obtain ⟨front, line, rfl, hline, hblank⟩ := h.exists_line
  have hback : isBlank (' ' :: line) := by
    rw [← List.singleton_append, isBlank_append, hblank]
    decide
  have hmarked : markLines (front ++ '\n' :: line) =
      [] ++ ((markLines front ++ ['\n']) ++ commentMark) ++ ' ' :: line := by
    rw [markLines_append_cons, markLines_of_not_mem hline]
    simp [linePrefix, commentMark]
  rw [hmarked, trim_append rfl hback]
  exact suffix_trim (eq_false_of_any (by decide)) _

/-! ## Rules and white space -/

theorem visible_of_markupRule {rule : Rule} (hrule : rule ∈ markupRules) : rule.Visible := by
  intro c rest taken written h
  obtain ⟨source, behind, word, hsource, hne, -, rfl, hall⟩ := of_markupRule hrule h
  obtain ⟨first, more, rfl⟩ := List.exists_cons_of_ne_nil hne
  obtain ⟨rfl, -⟩ := List.cons.inj hsource
  exact ⟨isWhiteSpace_of_separates (hall c (by simp)), rfl⟩

theorem literal_visible {c : Char} {word replacement : List Char} (hc : isWhiteSpace c = false)
    (hreplacement : isBlank replacement = false) :
    (literal (c :: word) replacement).Visible := by
  intro d rest taken written h
  obtain ⟨hstarts, -, rfl⟩ := literal_eq_some h
  obtain ⟨rfl, -⟩ := List.cons_prefix_cons.mp hstarts
  exact ⟨hc, hreplacement⟩

theorem annotatedFence_visible : annotatedFence.Visible := by
  intro c rest taken written h
  obtain ⟨language, behind, hcons, -, -, -, rfl⟩ := annotatedFence_eq_some h
  have hc : c = '|' := (List.cons.inj hcons).1
  exact ⟨hc ▸ by decide, rfl⟩

theorem visible_of_fenceRule {rule : Rule} (hrule : rule ∈ fenceRules) : rule.Visible := by
  simp only [fenceRules, List.mem_cons, List.not_mem_nil, or_false] at hrule
  obtain rfl | rfl | rfl := hrule
  · exact annotatedFence_visible
  · exact literal_visible (by decide) (by decide)
  · exact literal_visible (by decide) (by decide)

theorem stopsAt_of_fenceRule {rule : Rule} (hrule : rule ∈ fenceRules) : rule.StopsAt '\n' := by
  simp only [fenceRules, List.mem_cons, List.not_mem_nil, or_false] at hrule
  obtain rfl | rfl | rfl := hrule
  · exact annotatedFence_stopsAt
  · exact literal_stopsAt (by decide) (by decide) _
  · exact literal_stopsAt (by decide) (by decide) _

theorem lineWise_quoteMarkup : LineWise quoteMarkup where
  append := quoteMarkup_append_cons (by decide)
  not_mem := not_mem_quoteMarkup (by decide) (by decide)
  blank := isBlank_rewriteAll fun _ => visible_of_markupRule

theorem lineWise_fenceCode : LineWise fenceCode where
  append := rewriteAll_append_cons fun _ => stopsAt_of_fenceRule
  not_mem := not_mem_fenceCode (by decide +kernel) (by decide)
  blank := isBlank_rewriteAll fun _ => visible_of_fenceRule

/-! ## Comments -/

theorem lines_of_ne_nil {text : List Char} (h : text ≠ []) :
    lines text = linePrefix ++ trim (markLines (quoteMarkup (fenceCode text))) := by
  rw [lines, if_neg h, block_eq, quoteMarkup_markLines]

/-- **A comment is its text line by line**, unless the white space at an end of the text holds a
line feed: then the comment starts with a mark in front of its first line, or it ends with a mark
that has nothing behind it. -/
theorem lines_eq_commented_iff {text : List Char} (h : text ≠ []) :
    (lines text = commented (block (fenceCode text)) ↔ ¬StartsBlank text ∧ ¬EndsBlank text) ∧
      (StartsBlank text → linePrefix ++ commentMark <+: lines text) ∧
      (EndsBlank text → commentMark <:+ lines text) := by
  have hstart : StartsBlank (quoteMarkup (fenceCode text)) ↔ StartsBlank text := by
    rw [lineWise_quoteMarkup.startsBlank_iff, lineWise_fenceCode.startsBlank_iff]
  have hend : EndsBlank (quoteMarkup (fenceCode text)) ↔ EndsBlank text := by
    rw [lineWise_quoteMarkup.endsBlank_iff, lineWise_fenceCode.endsBlank_iff]
  rw [lines_of_ne_nil h]
  refine ⟨?_, fun hblank => ?_, fun hblank => ?_⟩
  · rw [commented_eq, block_eq, List.append_cancel_left_eq, trim_markLines_iff, hstart, hend]
  · exact (List.prefix_append_right_inj _).mpr (commentMark_prefix_trim (hstart.mpr hblank))
  · exact (commentMark_suffix_trim (hend.mpr hblank)).trans (List.suffix_append _ _)

/-- Line feeds at both ends, and at none. -/
theorem lines_blankEnds :
    linePrefix ++ commentMark <+: lines "\na\n".toList ∧ commentMark <:+ lines "\na\n".toList ∧
      lines "a\nb".toList = commented (block (fenceCode "a\nb".toList)) := by
  obtain ⟨-, hstart, hend⟩ := lines_eq_commented_iff (show "\na\n".toList ≠ [] by decide)
  obtain ⟨hplain, -⟩ := lines_eq_commented_iff (show "a\nb".toList ≠ [] by decide)
  exact ⟨hstart (by decide), hend (by decide), hplain.mpr ⟨by decide, by decide⟩⟩

theorem not_forall_lines_eq_commented :
    ¬∀ text, text ≠ [] → lines text = commented (block (fenceCode text)) := by
  intro h
  have hmarks : lines "\na\n".toList ≠ commented (block (fenceCode "\na\n".toList)) := by
    decide
  exact hmarks (h _ (by decide))

end GirStubs.Lua.Comment
