import GirStubs.Proofs.Text.Blank
import GirStubs.Proofs.Text.Pairs

/-!
# Words

The words of a text are what stands between its white space. Folded and trimmed, a text is its words
with one space between them (`trim_foldBlanks`). A function that works word by word (`WordWise`) may
run before the folding or after it (`WordWise.map_foldBlanksAfter`), so what is left of its value is
its values at the words (`WordWise.trim_map_foldBlanks`). `word_induction` is the induction along
the words.
-/

namespace GirStubs.Text

open Unicode

/-- There is no white space in the text. -/
def Unbroken (text : List Char) : Prop := ∀ c ∈ text, isWhiteSpace c = false

/-- The words of a text: what stands between its white space. -/
def words (text : List Char) : List (List Char) :=
  (text.splitOnP isWhiteSpace).filter (· ≠ [])

/-- Words with one space between them. -/
def spaced (words : List (List Char)) : List Char := [' '].intercalate words

/-- **Induction along the words**: a text without white space, or one with more behind its first
white space. -/
theorem word_induction {motive : List Char → Prop}
    (last : ∀ word, Unbroken word → motive word)
    (more : ∀ word c rest, Unbroken word → isWhiteSpace c → motive rest →
      motive (word ++ c :: rest))
    (text : List Char) : motive text := by
  induction hsize : text.length using Nat.strongRecOn generalizing text with
  | _ size ih =>
    cases hfind : text.find? isWhiteSpace with
    | none => exact last text fun c hc => by simpa using List.find?_eq_none.mp hfind c hc
    | some c =>
      obtain ⟨hc, word, rest, rfl, hword⟩ := List.find?_eq_some_iff_append.mp hfind
      rw [List.length_append, List.length_cons] at hsize
      exact more word c rest (fun d hd => by simpa using hword d hd) hc
        (ih rest.length (by omega) rest rfl)

theorem Unbroken.isBlank_iff {word : List Char} (h : Unbroken word) : isBlank word ↔ word = [] := by
  cases word with
  | nil => simp [isBlank]
  | cons c rest => simp [isBlank, h c List.mem_cons_self]

theorem Unbroken.trimmed {word : List Char} (h : Unbroken word) : Trimmed word :=
  ⟨fun c hc => h c (List.mem_of_head? hc), fun c hc => h c (List.mem_of_getLast? hc)⟩

theorem words_of_unbroken {word : List Char} (h : Unbroken word) :
    words word = if word = [] then [] else [word] := by
  rw [words, List.splitOnP_eq_singleton h]
  split <;> simp [*]

/-- **Words split at white space.** -/
theorem words_append_cons {c : Char} (hc : isWhiteSpace c) (before behind : List Char) :
    words (before ++ c :: behind) = words before ++ words behind := by
  rw [words, words, words, List.splitOnP_append_cons _ _ hc, List.filter_append]

theorem mem_words {text word : List Char} (h : word ∈ words text) : word ≠ [] ∧ Unbroken word := by
  revert h
  refine word_induction (motive := fun text => word ∈ words text → word ≠ [] ∧ Unbroken word)
    ?_ ?_ text
  · intro last hlast h
    rw [words_of_unbroken hlast] at h
    split at h
    · cases h
    · next hne =>
      rw [List.mem_singleton.mp h]
      exact ⟨hne, hlast⟩
  · intro first c rest hfirst hc ih h
    rw [words_append_cons hc, List.mem_append, words_of_unbroken hfirst] at h
    rcases h with h | h
    · split at h
      · cases h
      · next hne =>
        rw [List.mem_singleton.mp h]
        exact ⟨hne, hfirst⟩
    · exact ih h

/-! ## Spaced words -/

theorem spaced_singleton (word : List Char) : spaced [word] = word := List.intercalate_singleton

theorem spaced_cons (word : List Char) {words : List (List Char)} (hne : words ≠ []) :
    spaced (word :: words) = word ++ ' ' :: spaced words := by
  rw [spaced, List.intercalate_cons_of_ne_nil hne, List.append_assoc, List.singleton_append]
  rfl

theorem prefix_spaced (word : List Char) (words : List (List Char)) :
    word <+: spaced (word :: words) := by
  by_cases hne : words = []
  · exact hne ▸ (spaced_singleton word).symm ▸ List.prefix_rfl
  · exact spaced_cons word hne ▸ List.prefix_append _ _

/-- Spaced words start and end in a word, and no two spaces are neighbours in them. -/
theorem trimmed_spaced {words : List (List Char)} (h : ∀ word ∈ words, word ≠ [] ∧ Unbroken word) :
    Trimmed (spaced words) ∧ LacksPair ' ' ' ' (spaced words) := by
  induction words with
  | nil => exact ⟨Unbroken.trimmed (List.forall_mem_nil _), lacksPair_of_not_mem List.not_mem_nil⟩
  | cons word words ih =>
    obtain ⟨⟨hne, hword⟩, hwords⟩ := List.forall_mem_cons.mp h
    obtain ⟨htrimmed, hpair⟩ := ih hwords
    have hspace : ' ' ∉ word := fun hmem => absurd (hword _ hmem) (by decide)
    cases words with
    | nil =>
      rw [spaced_singleton]
      exact ⟨hword.trimmed, lacksPair_of_not_mem hspace⟩
    | cons second more =>
      rw [spaced_cons _ (List.cons_ne_nil _ _)]
      refine ⟨⟨fun c hc => ?_, fun c hc => ?_⟩, ?_⟩
      · rw [List.head?_append_of_ne_nil _ hne] at hc
        exact hword.trimmed.head c hc
      · have hsecond : spaced (second :: more) ≠ [] := fun hnil =>
          (List.forall_mem_cons.mp hwords).1.1 (List.prefix_nil.mp (hnil ▸ prefix_spaced second more))
        rw [List.append_cons, List.getLast?_append_of_ne_nil _ hsecond] at hc
        exact htrimmed.last c hc
      · refine lacksPair_append_of_not_mem hspace (lacksPair_cons.mpr ⟨fun hhead => ?_, hpair⟩)
        exact absurd (htrimmed.head ' ' hhead.2) (by decide)

/-! ## Folding -/

theorem foldBlanksAfter_of_unbroken {word : List Char} (h : Unbroken word) (afterBlank : Bool) :
    foldBlanksAfter afterBlank word = word := by
  induction word generalizing afterBlank with
  | nil => rfl
  | cons c rest ih =>
    obtain ⟨hc, hrest⟩ := List.forall_mem_cons.mp h
    rw [foldBlanksAfter, hc, if_neg Bool.false_ne_true, ih hrest]

/-- The first white space behind a word is folded to a space, which stands for none at the start
when there is one in front already. -/
theorem foldBlanksAfter_append_cons {word : List Char} (hword : Unbroken word) {c : Char}
    (hc : isWhiteSpace c) (afterBlank : Bool) (rest : List Char) :
    foldBlanksAfter afterBlank (word ++ c :: rest) =
      if word = [] ∧ afterBlank then foldBlanksAfter true rest
      else word ++ ' ' :: foldBlanksAfter true rest := by
  induction word generalizing afterBlank with
  | nil => simp [foldBlanksAfter, hc]
  | cons d word ih =>
    obtain ⟨hd, hword⟩ := List.forall_mem_cons.mp hword
    have hrest : foldBlanksAfter false (word ++ c :: rest) =
        word ++ ' ' :: foldBlanksAfter true rest := by
      rw [ih hword, if_neg fun hblank => Bool.false_ne_true hblank.2]
    rw [List.cons_append, foldBlanksAfter, hd, if_neg Bool.false_ne_true, hrest,
      if_neg fun hnil => List.cons_ne_nil _ _ hnil.1, List.cons_append]

theorem foldBlanksAfter_true (text : List Char) :
    ∃ behind, foldBlanksAfter true text = spaced (words text) ++ behind ∧ isBlank behind := by
  refine word_induction
    (motive := fun text => ∃ behind, foldBlanksAfter true text = spaced (words text) ++ behind ∧
      isBlank behind) ?_ ?_ text
  · intro word hword
    refine ⟨[], ?_, rfl⟩
    rw [foldBlanksAfter_of_unbroken hword, words_of_unbroken hword, List.append_nil]
    split
    · next hnil => exact hnil
    · exact (spaced_singleton word).symm
  · rintro word c rest hword hc ⟨behind, hrest, hbehind⟩
    rw [foldBlanksAfter_append_cons hword hc, words_append_cons hc, words_of_unbroken hword, hrest]
    by_cases hnil : word = []
    · rw [if_pos ⟨hnil, rfl⟩, if_pos hnil]
      exact ⟨behind, rfl, hbehind⟩
    · rw [if_neg fun h => hnil h.1, if_neg hnil, List.singleton_append]
      by_cases hmore : words rest = []
      · rw [hmore, spaced_singleton]
        exact ⟨' ' :: behind, rfl, hbehind⟩
      · rw [spaced_cons _ hmore]
        exact ⟨behind, by simp, hbehind⟩

/-- **What is left of a folded text** are its words with one space between them. -/
theorem trim_foldBlanks (text : List Char) : trim (foldBlanks text) = spaced (words text) := by
  obtain ⟨before, hbefore, hfold⟩ : ∃ before, isBlank before ∧
      foldBlanks text = before ++ foldBlanksAfter true text := by
    cases text with
    | nil => exact ⟨[], rfl, rfl⟩
    | cons c rest =>
      cases hc : isWhiteSpace c with
      | true => exact ⟨[' '], rfl, by simp [foldBlanks, foldBlanksAfter, hc]⟩
      | false => exact ⟨[], rfl, by simp [foldBlanks, foldBlanksAfter, hc]⟩
  obtain ⟨behind, htrue, hbehind⟩ := foldBlanksAfter_true text
  rw [hfold, htrue, ← List.append_assoc]
  exact trim_eq_of_trimmed hbefore hbehind (trimmed_spaced fun _ => mem_words).1

/-! ## Functions that work word by word -/

/-- The function rewrites the two sides of white space on their own, brings none in, and leaves
blank texts and no others blank. -/
structure WordWise (f : List Char → List Char) : Prop where
  append : ∀ {c}, isWhiteSpace c → ∀ before behind,
    f (before ++ c :: behind) = f before ++ c :: f behind
  unbroken : ∀ {word}, Unbroken word → Unbroken (f word)
  blank : ∀ text, isBlank (f text) = isBlank text

section WordWise

variable {f : List Char → List Char} (hf : WordWise f)

include hf in
theorem WordWise.eq_nil_iff {word : List Char} (h : Unbroken word) : f word = [] ↔ word = [] := by
  rw [← (hf.unbroken h).isBlank_iff, hf.blank, h.isBlank_iff]

include hf in
theorem WordWise.words_map (text : List Char) : words (f text) = (words text).map f := by
  have hone : ∀ {word}, Unbroken word → words (f word) = (words word).map f := by
    intro word hword
    rw [words_of_unbroken hword, words_of_unbroken (hf.unbroken hword)]
    simp only [hf.eq_nil_iff hword]
    split <;> rfl
  refine word_induction (motive := fun text => words (f text) = (words text).map f)
    (fun _ => hone) ?_ text
  intro word c rest hword hc ih
  rw [hf.append hc, words_append_cons hc, words_append_cons hc, ih, hone hword, List.map_append]

include hf in
/-- **Folding commutes** with what works word by word. -/
theorem WordWise.map_foldBlanksAfter (afterBlank : Bool) (text : List Char) :
    f (foldBlanksAfter afterBlank text) = foldBlanksAfter afterBlank (f text) := by
  revert afterBlank
  refine word_induction
    (motive := fun text => ∀ afterBlank,
      f (foldBlanksAfter afterBlank text) = foldBlanksAfter afterBlank (f text)) ?_ ?_ text
  · intro word hword afterBlank
    rw [foldBlanksAfter_of_unbroken hword, foldBlanksAfter_of_unbroken (hf.unbroken hword)]
  · intro word c rest hword hc ih afterBlank
    rw [hf.append hc, foldBlanksAfter_append_cons hword hc,
      foldBlanksAfter_append_cons (hf.unbroken hword) hc, apply_ite f, hf.append (by decide), ih]
    simp only [hf.eq_nil_iff hword]

include hf in
theorem WordWise.trim_map_foldBlanks (text : List Char) :
    trim (f (foldBlanks text)) = spaced ((words text).map f) := by
  rw [foldBlanks, hf.map_foldBlanksAfter, ← hf.words_map]
  exact trim_foldBlanks (f text)

end WordWise

end GirStubs.Text
