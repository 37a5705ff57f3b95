import GirStubs.Proofs.Lua.Comment
import GirStubs.Proofs.Lua.LineByLine
import GirStubs.Proofs.Text.Words

/-!
# Comments on one line

A comment behind an annotation is the words of its documentation, each with its markup quoted, and
one space between them (`trailing_eq`): quoting works word by word, so the folding in front of it
and the trimming behind it leave the words alone. How the documentation is wrapped, indented or
padded makes no difference (`trailing_words`).
-/

namespace GirStubs.Lua.Comment

open Text Unicode

theorem separates_of_isWhiteSpace {c : Char} (h : isWhiteSpace c) : separates c := by
  by_contra hc
  rw [isWhiteSpace_of_separates (by simpa using hc)] at h
  cases h

theorem wordWise_quoteMarkup : WordWise quoteMarkup where
  append hc := quoteMarkup_append_cons (separates_of_isWhiteSpace hc)
  unbroken {word} hword c hmem := by
    by_contra hc
    rw [Bool.not_eq_false] at hc
    have hquote : c ≠ '\x60' := by
      rintro rfl
      exact absurd hc (by decide)
    refine not_mem_quoteMarkup (separates_of_isWhiteSpace hc) hquote (fun hin => ?_) hmem
    rw [hword c hin] at hc
    cases hc
  blank := lineWise_quoteMarkup.blank

/-- **A comment behind an annotation** is its words, quoted one by one. -/
theorem trailing_eq {text : List Char} (h : text ≠ []) :
    trailing text = marker ++ spaced ((words text).map quoteMarkup) := by
  rw [trailing, if_neg h, block_eq, wordWise_quoteMarkup.trim_map_foldBlanks]

theorem lacksPair_trailing {text : List Char} (h : text ≠ []) :
    LacksPair ' ' ' ' (trailing text) := by
  have hwords : ∀ word ∈ (words text).map quoteMarkup, word ≠ [] ∧ Unbroken word := by
    rw [← wordWise_quoteMarkup.words_map]
    exact fun _ => mem_words
  obtain ⟨htrimmed, hpair⟩ := trimmed_spaced hwords
  rw [trailing_eq h, lacksPair_append]
  refine ⟨by decide, hpair, fun hseam => ?_⟩
  exact absurd (htrimmed.head ' ' hseam.2) (by decide)

/-- **Comments behind annotations depend on the words alone**: they are one line, the words of the
documentation with their markup quoted and single spaces between them, whatever white space stands
around the words there. -/
theorem trailing_words {text : List Char} (h : text ≠ []) :
    trailing text = marker ++ spaced ((words text).map quoteMarkup) ∧
      marker <+: trailing text ∧ (∀ c ∈ trailing text, isWhiteSpace c → c = ' ') ∧
      LacksPair ' ' ' ' (trailing text) ∧
      ∀ other, words other = words text → words text ≠ [] → trailing other = trailing text := by
  refine ⟨trailing_eq h, trailing_eq h ▸ List.prefix_append _ _, fun c hc hblank => ?_,
    lacksPair_trailing h, fun other hsame hwords => ?_⟩
  · by_contra hspace
    exact not_mem_trailing (separates_of_isWhiteSpace hblank) hblank hspace text hc
  · have hother : other ≠ [] := by
      rintro rfl
      exact hwords hsame.symm
    rw [trailing_eq h, trailing_eq hother, hsame]

/-- A text that is wrapped and indented, and one that is padded. -/
theorem trailing_words_wrapped :
    LacksPair ' ' ' ' (trailing "the\n  @name".toList) ∧
      trailing " the @name\t".toList = trailing "the\n  @name".toList := by
  obtain ⟨-, -, -, hpair, hsame⟩ := trailing_words (show "the\n  @name".toList ≠ [] by decide)
  exact ⟨hpair, hsame " the @name\t".toList (by decide) (by decide)⟩

end GirStubs.Lua.Comment
