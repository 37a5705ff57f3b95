import GirStubs.Text.Blank
import Mathlib.Data.List.TakeWhile

/-! # Trimmed and folded texts

`trim` cuts white space off the two ends (`trim_split`), so whatever it keeps stood
in the text, and it keeps all of a text that is trimmed already (`trim_eq_of_trimmed`).
`foldBlanks` leaves a space as the only white space.
-/

namespace GirStubs.Text

open Unicode

/-- A text is what `trim` keeps of it, with white space around. -/
theorem trim_split (text : List Char) :
    ∃ before behind, text = before ++ trim text ++ behind ∧
      (∀ c ∈ before, isWhiteSpace c) ∧ ∀ c ∈ behind, isWhiteSpace c := by
  let kept := text.dropWhile isWhiteSpace
  refine ⟨text.takeWhile isWhiteSpace, (kept.reverse.takeWhile isWhiteSpace).reverse, ?_, ?_, ?_⟩
  · have hkept : kept = trim text ++ (kept.reverse.takeWhile isWhiteSpace).reverse := by
      unfold trim
      rw [← List.reverse_append, List.takeWhile_append_dropWhile, List.reverse_reverse]
    rw [List.append_assoc, ← hkept, List.takeWhile_append_dropWhile]
  · exact fun c hc => List.all_eq_true.mp List.all_takeWhile c hc
  · intro c hc
    exact List.all_eq_true.mp List.all_takeWhile c (List.mem_reverse.mp hc)

theorem trim_isInfix (text : List Char) : trim text <:+: text := by
  obtain ⟨before, behind, htext, -, -⟩ := trim_split text
  exact ⟨before, behind, htext.symm⟩

theorem isBlank_iff {text : List Char} : isBlank text ↔ trim text = [] := by
  constructor
  · intro h
    have hall : ∀ c ∈ text, isWhiteSpace c := List.all_eq_true.mp h
    rw [trim, List.dropWhile_eq_nil_iff.mpr hall]
    rfl
  · intro h
    obtain ⟨before, behind, htext, hbefore, hbehind⟩ := trim_split text
    rw [htext, h, List.append_nil, isBlank, List.all_eq_true]
    exact List.forall_mem_append.mpr ⟨hbefore, hbehind⟩

/-- What holds of no character of a word is false of each. -/
theorem eq_false_of_any {p : Char → Bool} {word : List Char} (h : word.any p = false) :
    ∀ c ∈ word, p c = false := by
  simpa using h

theorem isBlank_append (before behind : List Char) :
    isBlank (before ++ behind) = (isBlank before && isBlank behind) :=
  List.all_append

theorem isBlank_reverse (text : List Char) : isBlank text.reverse = isBlank text :=
  List.all_reverse

theorem mem_of_mem_trim {c : Char} {text : List Char} (h : c ∈ trim text) : c ∈ text :=
  (trim_isInfix text).subset h

theorem count_trim {c : Char} (hc : isWhiteSpace c = false) (text : List Char) :
    (trim text).count c = text.count c := by
  obtain ⟨before, behind, htext, hbefore, hbehind⟩ := trim_split text
  have hnone : ∀ {part : List Char}, (∀ d ∈ part, isWhiteSpace d) → part.count c = 0 :=
    fun hpart => List.count_eq_zero_of_not_mem fun hmem => by simp [hpart c hmem] at hc
  have hcount := congrArg (List.count c) htext
  rw [List.count_append, List.count_append, hnone hbefore, hnone hbehind] at hcount
  omega

/-! ## Texts that are trimmed already -/

/-- No white space stands at either end. -/
structure Trimmed (text : List Char) : Prop where
  head : ∀ c ∈ text.head?, isWhiteSpace c = false
  last : ∀ c ∈ text.getLast?, isWhiteSpace c = false

theorem trim_of_trimmed {text : List Char} (h : Trimmed text) : trim text = text := by
  have hfront : text.dropWhile isWhiteSpace = text := by
    cases text with
    | nil => rfl
    | cons c rest => simp [h.head c rfl]
  have hback : text.reverse.dropWhile isWhiteSpace = text.reverse := by
    cases hreverse : text.reverse with
    | nil => rfl
    | cons c rest =>
      have hlast : text.getLast? = some c := by
        rw [← List.head?_reverse, hreverse]
        rfl
      simp [h.last c hlast]
  rw [trim, hfront, hback, List.reverse_reverse]

theorem trim_append {before behind : List Char} (hbefore : isBlank before)
    (hbehind : isBlank behind) (text : List Char) :
    trim (before ++ text ++ behind) = trim text := by
  have hfront : ∀ c ∈ before, isWhiteSpace c := List.all_eq_true.mp hbefore
  have hback : ∀ c ∈ behind.reverse, isWhiteSpace c := by
    simpa using List.all_eq_true.mp hbehind
  unfold trim
  rw [List.append_assoc, List.dropWhile_append_of_pos hfront, List.dropWhile_append]
  split
  · next hempty =>
    rw [List.isEmpty_iff.mp hempty, List.dropWhile_eq_nil_iff.mpr (List.all_eq_true.mp hbehind)]
  · rw [List.reverse_append, List.dropWhile_append_of_pos hback]

/-- `trim` keeps what stands between white space when it is trimmed itself. -/
theorem trim_eq_of_trimmed {before text behind : List Char} (hbefore : isBlank before)
    (hbehind : isBlank behind) (h : Trimmed text) : trim (before ++ text ++ behind) = text := by
  rw [trim_append hbefore hbehind, trim_of_trimmed h]

theorem head_dropWhile_isWhiteSpace (text : List Char) :
    ∀ c ∈ (text.dropWhile isWhiteSpace).head?, isWhiteSpace c = false := by
  intro c hc
  have hhead := List.head?_dropWhile_not isWhiteSpace text
  rw [Option.mem_def.mp hc] at hhead
  exact hhead

theorem trimmed_trim (text : List Char) : Trimmed (trim text) := by
  obtain ⟨behind, hsplit⟩ : trim text <+: text.dropWhile isWhiteSpace := by
    rw [← List.reverse_suffix, trim, List.reverse_reverse]
    exact List.dropWhile_suffix _
  constructor
  · intro c hc
    refine head_dropWhile_isWhiteSpace text c ?_
    rw [← hsplit, List.head?_append, Option.mem_def.mp hc]
    rfl
  · intro c hc
    rw [trim, List.getLast?_reverse] at hc
    exact head_dropWhile_isWhiteSpace _ c hc

/-! ## Words in a text -/

section Word

variable {word : List Char} (hword : ∀ c ∈ word, isWhiteSpace c = false)

include hword in
theorem dropWhile_append_word (hne : word ≠ []) (before rest : List Char) :
    (before ++ (word ++ rest)).dropWhile isWhiteSpace =
      before.dropWhile isWhiteSpace ++ (word ++ rest) := by
  obtain ⟨c, more, rfl⟩ := List.exists_cons_of_ne_nil hne
  rw [List.dropWhile_append]
  split
  · next hempty => simp [List.isEmpty_iff.mp hempty, hword c List.mem_cons_self]
  · rfl

include hword in
/-- Around a word without white space, only the white space at the two ends is trimmed off. -/
theorem trim_around (hne : word ≠ []) (before behind : List Char) :
    trim (before ++ (word ++ behind)) =
      before.dropWhile isWhiteSpace ++
        (word ++ (behind.reverse.dropWhile isWhiteSpace).reverse) := by
  have hreverse : ∀ front : List Char, (front ++ (word ++ behind)).reverse =
      behind.reverse ++ (word.reverse ++ front.reverse) := by
    simp
  rw [trim, dropWhile_append_word hword hne, hreverse,
    dropWhile_append_word (by simpa using hword) (by simpa using hne)]
  simp

include hword in
theorem isInfix_trim {text : List Char} (h : word <:+: text) : word <:+: trim text := by
  by_cases hne : word = []
  · exact hne ▸ List.nil_infix
  · obtain ⟨before, behind, rfl⟩ := h
    rw [List.append_assoc, trim_around hword hne, ← List.append_assoc]
    exact ⟨_, _, rfl⟩

include hword in
/-- A word without white space is kept at the start of a text. -/
theorem prefix_trim (rest : List Char) : word <+: trim (word ++ rest) := by
  by_cases hne : word = []
  · exact hne ▸ List.nil_prefix
  · have htrim := trim_around hword hne [] rest
    rw [List.nil_append] at htrim
    exact htrim ▸ List.prefix_append _ _

include hword in
/-- A word without white space is kept at the end of a text. -/
theorem suffix_trim (rest : List Char) : word <:+ trim (rest ++ word) := by
  by_cases hne : word = []
  · exact hne ▸ List.nil_suffix
  · have htrim := trim_around hword hne rest []
    simp only [List.append_nil, List.reverse_nil, List.dropWhile_nil] at htrim
    exact htrim ▸ List.suffix_append _ _

include hword in
/-- Of a text that ends in a word, only the white space at the start is trimmed off. -/
theorem trim_append_word {before : List Char} (hbefore : isBlank before = false) (hne : word ≠ [])
    (between : List Char) :
    trim (before ++ (between ++ word)) =
      before.dropWhile isWhiteSpace ++ (between ++ word) := by
  have hkept : ¬(before.dropWhile isWhiteSpace).isEmpty := by
    intro hnil
    rw [List.isEmpty_iff, List.dropWhile_eq_nil_iff, ← List.all_eq_true] at hnil
    exact absurd hnil (by simpa [isBlank] using hbefore)
  have htrim := trim_around hword hne (before ++ between) []
  simpa [List.dropWhile_append, hkept] using htrim

end Word

/-! ## Folded texts -/

theorem mem_foldBlanksAfter {c : Char} {text : List Char} {afterBlank : Bool}
    (h : c ∈ foldBlanksAfter afterBlank text) : c = ' ' ∨ (c ∈ text ∧ isWhiteSpace c = false) := by
  induction text generalizing afterBlank with
  | nil => simp [foldBlanksAfter] at h
  | cons d rest ih =>
    have hrest : ∀ {b}, c ∈ foldBlanksAfter b rest →
        c = ' ' ∨ (c ∈ d :: rest ∧ isWhiteSpace c = false) :=
      fun hb => (ih hb).imp_right fun hin => ⟨List.mem_cons_of_mem _ hin.1, hin.2⟩
    unfold foldBlanksAfter at h
    split at h
    · split at h
      · exact hrest h
      · rcases List.mem_cons.mp h with rfl | h
        · exact Or.inl rfl
        · exact hrest h
    · next hd =>
      rcases List.mem_cons.mp h with rfl | h
      · exact Or.inr ⟨List.mem_cons_self, by simpa using hd⟩
      · exact hrest h

/-- A folded text holds spaces and the characters of the text that are no white space. -/
theorem mem_foldBlanks {c : Char} {text : List Char} (h : c ∈ foldBlanks text) :
    c = ' ' ∨ (c ∈ text ∧ isWhiteSpace c = false) :=
  mem_foldBlanksAfter h

end GirStubs.Text
