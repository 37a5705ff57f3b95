import GirStubs.Proofs.Lua.LineByLine

/-!
# Code in a long comment

A comment reproduces a piece of code line by line between two fences (`splitOn_lines_withCode`).
The rules for markup are run over the code too, so its lines come out as they were just when it
holds no markup: the sign in front of a directive or a decorator counts as a reference, and so does
an empty argument list.
-/

namespace GirStubs.Lua.Comment

open Text Unicode

/-- The text with a piece of code behind it, each mark around the code on a line of its own. -/
def withCode (before : List Char) (opening : Opening) (code : List Char) : List Char :=
  before ++ '\n' :: (opening.spelled ++ '\n' :: (code ++ '\n' :: [']', '|']))

/-- The opening mark names its language on its line. -/
def Opening.Named (opening : Opening) : Prop :=
  ∀ language, opening = .annotated language → language ≠ [] ∧ '\n' ∉ language

/-- What the comment has behind the mark on the line that opens the code. -/
def Opening.line (opening : Opening) : List Char := quoteMarkup (fenceCode opening.spelled)

/-- Some language is read, and if it holds the mark behind it, the first part of it. -/
theorem exists_languageUpTo (mark : List Char) {language : List Char} (hne : language ≠ [])
    (hfeed : '\n' ∉ language) (behind : List Char) :
    ∃ found, languageUpTo mark (language ++ (mark ++ behind)) = some found := by
  induction language with
  | nil => exact absurd rfl hne
  | cons c rest ih =>
    rw [List.mem_cons, not_or] at hfeed
    rw [List.cons_append, languageUpTo, if_neg (Ne.symm hfeed.1)]
    split
    · exact ⟨[c], rfl⟩
    · next hmark =>
      have hrest : rest ≠ [] := by
        rintro rfl
        exact hmark (List.isPrefixOf_iff_prefix.mpr (List.prefix_append _ _))
      obtain ⟨found, hfound⟩ := ih hrest hfeed.2
      exact ⟨c :: found, by rw [hfound]; rfl⟩

theorem replaceAll_fence_append {a b : Char} (ha : a ≠ '\x60') (replacement rest : List Char) :
    replaceAll [a, b] replacement (fence ++ rest) =
      fence ++ replaceAll [a, b] replacement rest := by
  have hnone : ∀ rest, literal [a, b] replacement ('\x60' :: rest) = none :=
    fun rest => literal_pair_eq_none_iff.mpr fun hpair => ha hpair.1.symm
  have hmisses : (literal [a, b] replacement).Misses rest fence :=
    ⟨hnone _, hnone _, hnone _, trivial⟩
  exact rewrite_append_of_misses hmisses

theorem fence_prefix_fenceCode {opening : Opening} (h : opening.Named) :
    fence <+: fenceCode opening.spelled := by
  cases opening with
  | bare => decide
  | annotated language =>
    obtain ⟨hne, hfeed⟩ := h language rfl
    obtain ⟨found, hfound⟩ := exists_languageUpTo languageStop hne hfeed []
    have hmatch := annotatedFence_of_languageUpTo hfound
    rw [List.append_nil, ← List.append_assoc] at hmatch
    obtain ⟨rest, hrest⟩ : fence <+: rewrite annotatedFence (Opening.annotated language).spelled :=
      (List.prefix_append _ _).trans (prefix_rewrite (Opening.spelled_ne_nil _) hmatch)
    have hcode : fenceCode (Opening.annotated language).spelled =
        replaceAll [']', '|'] fence (replaceAll ['|', '['] (fence ++ ['c'])
          (rewrite annotatedFence (Opening.annotated language).spelled)) := rfl
    rw [hcode, ← hrest, replaceAll_fence_append (by decide), replaceAll_fence_append (by decide)]
    exact List.prefix_append _ _

/-- **Code opens with a fence**, whatever its language. -/
theorem fence_prefix_line {opening : Opening} (h : opening.Named) : fence <+: opening.line := by
  obtain ⟨rest, hrest⟩ := fence_prefix_fenceCode h
  have hseparates : ∀ c ∈ fence, separates c := List.all_eq_true.mp (by decide)
  rw [Opening.line, ← hrest, quoteMarkup_append_of_separates hseparates]
  exact List.prefix_append _ _

theorem not_mem_spelled {opening : Opening} (h : opening.Named) : '\n' ∉ opening.spelled := by
  cases opening with
  | bare => decide
  | annotated language =>
    have hmarks : '\n' ∉ languageStart ∧ '\n' ∉ languageStop := by
      decide
    simp [Opening.spelled, hmarks, (h language rfl).2]

theorem lineWise_quoted : LineWise fun text => quoteMarkup (fenceCode text) :=
  lineWise_quoteMarkup.comp lineWise_fenceCode

theorem not_mem_line {opening : Opening} (h : opening.Named) : '\n' ∉ opening.line :=
  lineWise_quoted.not_mem (not_mem_spelled h)

theorem isBlank_markLines {text : List Char} (h : isBlank text = false) :
    isBlank (markLines text) = false := by
  obtain ⟨c, hc, hblank⟩ := List.all_eq_false.mp h
  refine List.all_eq_false.mpr ⟨c, ?_, hblank⟩
  rw [markLines, replaceAll_singleton, List.mem_flatMap]
  refine ⟨c, hc, ?_⟩
  split <;> simp [*]

/-- The lines of a comment are those of its text, each behind a mark. -/
theorem splitOn_commented (text : List Char) :
    (commented text).splitOn '\n' = (text.splitOn '\n').map (linePrefix ++ ·) := by
  have hmark : '\n' ∉ linePrefix := by
    decide
  refine List.splitOn_intercalate '\n' (List.forall_mem_map.mpr fun line hline => ?_) ?_
  · rw [List.mem_append, not_or]
    exact ⟨hmark, not_mem_of_mem_splitOn hline⟩
  · simp [List.splitOn_ne_nil]

section Code

variable {before code : List Char} {opening : Opening} (hbefore : LacksMarks before)
  (hcode : LacksMarks code)

include hbefore hcode in
theorem quoted_withCode :
    quoteMarkup (fenceCode (withCode before opening code)) =
      quoteMarkup before ++
        '\n' :: (opening.line ++ '\n' :: (quoteMarkup code ++ '\n' :: fence)) := by
  have hclosing : quoteMarkup (fenceCode [']', '|']) = fence := by
    decide
  rw [withCode, lineWise_quoted.append, lineWise_quoted.append, lineWise_quoted.append,
    fenceCode_of_lacksMarks hbefore, fenceCode_of_lacksMarks hcode, hclosing, Opening.line]

include hbefore hcode in
theorem lines_withCode (hblank : isBlank before = false) (hnamed : opening.Named) :
    lines (withCode before opening code) =
      linePrefix ++ (markLines (quoteMarkup before)).dropWhile isWhiteSpace ++
        '\n' :: (linePrefix ++ opening.line ++
          '\n' :: (commented (quoteMarkup code) ++ '\n' :: (linePrefix ++ fence))) := by
  have hne : withCode before opening code ≠ [] := by
    simp [withCode]
  have hmarked : isBlank (markLines (quoteMarkup before)) = false := by
    rw [← lineWise_quoteMarkup.blank] at hblank
    exact isBlank_markLines hblank
  have hfence : fence ≠ [] ∧ (∀ c ∈ fence, isWhiteSpace c = false) ∧ '\n' ∉ fence :=
    ⟨by decide, eq_false_of_any (by decide), by decide⟩
  have hsplit : markLines (quoteMarkup (fenceCode (withCode before opening code))) =
      markLines (quoteMarkup before) ++ (('\n' :: (linePrefix ++ opening.line ++
        '\n' :: (commented (quoteMarkup code) ++ '\n' :: linePrefix))) ++ fence) := by
    rw [quoted_withCode hbefore hcode, markLines_append_cons, markLines_append_cons,
      markLines_append_cons, markLines_of_not_mem (not_mem_line hnamed),
      markLines_of_not_mem hfence.2.2, commented_eq]
    simp
  -- The text ends with a fence, so only the start of what stands before the code is trimmed.
  rw [lines_of_ne_nil hne, hsplit, trim_append_word hfence.2.1 hmarked hfence.1]
  simp

include hbefore hcode in
/-- **Code is reproduced line by line** between two fences, and its lines come out as they were just
when it holds no markup. -/
theorem splitOn_lines_withCode (hblank : isBlank before = false) (hnamed : opening.Named) :
    (lines (withCode before opening code)).splitOn '\n' =
        (linePrefix ++ (markLines (quoteMarkup before)).dropWhile isWhiteSpace).splitOn '\n' ++
          [linePrefix ++ opening.line] ++ (code.splitOn '\n').map (linePrefix ++ quoteMarkup ·) ++
          [linePrefix ++ fence] ∧
      fence <+: opening.line ∧
      ((code.splitOn '\n').map (linePrefix ++ quoteMarkup ·) =
          (code.splitOn '\n').map (linePrefix ++ ·) ↔ ¬HoldsMarkup code) := by
  refine ⟨?_, fence_prefix_line hnamed, ?_⟩
  · have hline : '\n' ∉ linePrefix ++ opening.line := by
      have hmark : '\n' ∉ linePrefix := by
        decide
      rw [List.mem_append, not_or]
      exact ⟨hmark, not_mem_line hnamed⟩
    have hfence : '\n' ∉ linePrefix ++ fence := by
      decide
    rw [lines_withCode hbefore hcode hblank hnamed, List.splitOn_append_cons_self,
      List.splitOn_append_cons_self_of_not_mem hline, List.splitOn_append_cons_self,
      splitOn_commented, lineWise_quoteMarkup.splitOn, List.splitOn_eq_singleton hfence,
      List.map_map]
    simp [Function.comp_def]
  · have hmarks : (code.splitOn '\n').map (linePrefix ++ quoteMarkup ·) =
        ((code.splitOn '\n').map quoteMarkup).map (linePrefix ++ ·) := by
      rw [List.map_map]
      rfl
    have hinjective : Function.Injective (linePrefix ++ ·) := List.append_right_injective linePrefix
    rw [hmarks, (List.map_injective_iff.mpr hinjective).eq_iff,
      lineWise_quoteMarkup.map_eq_self_iff, quoteMarkup_eq_self_iff]

/-- Code in C without markup, and in Python with a decorator. -/
theorem splitOn_lines_withCode_languages :
    (lines (withCode "See:".toList .bare "int x;\n x = 1;".toList)).splitOn '\n' =
        ["--- See:".toList, "--- ```c".toList, "--- int x;".toList, "---  x = 1;".toList,
          "--- ```".toList] ∧
      fence <+: (Opening.annotated "Python".toList).line ∧ HoldsMarkup "@cache\ndef f".toList := by
  have hsee : LacksMarks "See:".toList := by
    decide +kernel
  have hassignment : LacksMarks "int x;\n x = 1;".toList := by
    decide +kernel
  have hdecorator : LacksMarks "@cache\ndef f".toList := by
    decide +kernel
  have hbareNamed : Opening.bare.Named := nofun
  have hpythonNamed : (Opening.annotated "Python".toList).Named := by
    rintro language ⟨⟩
    decide
  have hbare := splitOn_lines_withCode hsee hassignment (by decide) hbareNamed
  have hpython := splitOn_lines_withCode hsee hdecorator (by decide) hpythonNamed
  have hchanged : ¬(("@cache\ndef f".toList.splitOn '\n').map (linePrefix ++ quoteMarkup ·) =
      ("@cache\ndef f".toList.splitOn '\n').map (linePrefix ++ ·)) := by
    decide +kernel
  refine ⟨hbare.1.trans (by decide +kernel), hpython.2.1, ?_⟩
  exact not_not.mp fun hplain => hchanged (hpython.2.2.mpr hplain)

/-- An include directive. -/
theorem not_forall_splitOn_lines_withCode :
    ¬∀ before code : List Char, isBlank before = false → LacksMarks before → LacksMarks code →
      ∃ front opening, fence <+: opening ∧
        (lines (withCode before .bare code)).splitOn '\n' =
          front ++ [linePrefix ++ opening] ++ (code.splitOn '\n').map (linePrefix ++ ·) ++
            [linePrefix ++ fence] := by
  intro h
  obtain ⟨front, opening, -, hlines⟩ := h "See:".toList "#include <glib.h>".toList (by decide)
    (by decide +kernel) (by decide +kernel)
  have hline : linePrefix ++ "#include <glib.h>".toList ∈
      (lines (withCode "See:".toList .bare "#include <glib.h>".toList)).splitOn '\n' := by
    have hcode : "#include <glib.h>".toList.splitOn '\n' = ["#include <glib.h>".toList] := by
      decide +kernel
    rw [hlines, hcode]
    exact List.mem_append_left _ (List.mem_append_right _ (List.mem_singleton_self _))
  exact absurd hline (by decide +kernel)

end Code

end GirStubs.Lua.Comment
