import GirStubs.Proofs.Lua.Comment
import GirStubs.Proofs.Text.Pairs
import GirStubs.Proofs.Unicode.Lowercase

/-!
# Code in fences

Code stands between an opening mark, with or without a language, and a closing one. Three rules in
turn put it in fences, and no mark is left, whatever the text (`lacksMarks_fenceCode`). A document
that is spelled as plain pieces with code between them (`Fenced`) is converted piece by piece
(`fenceCode_spelled`): the seams make no mark of their own, since no piece behind a closing mark
starts with a bracket.
-/

namespace GirStubs.Lua.Comment

open Text Unicode

/-! ## Languages -/

theorem languageUpTo_eq_some {mark text language : List Char}
    (h : languageUpTo mark text = some language) :
    language ≠ [] ∧ '\n' ∉ language ∧ language ++ mark <+: text := by
  induction text generalizing language with
  | nil => cases h
  | cons c rest ih =>
    unfold languageUpTo at h
    split at h
    · cases h
    next hc =>
      split at h
      · next hmark =>
        cases h
        refine ⟨List.cons_ne_nil _ _, by simpa using Ne.symm hc, ?_⟩
        exact List.cons_prefix_cons.mpr ⟨rfl, List.isPrefixOf_iff_prefix.mp hmark⟩
      · obtain ⟨more, hmore, rfl⟩ := Option.map_eq_some_iff.mp h
        obtain ⟨-, hfeed, hstarts⟩ := ih hmore
        refine ⟨List.cons_ne_nil _ _, ?_, List.cons_prefix_cons.mpr ⟨rfl, hstarts⟩⟩
        rw [List.mem_cons, not_or]
        exact ⟨Ne.symm hc, hfeed⟩

/-- A language reaches up to the first quote. -/
theorem languageUpTo_append {language : List Char} (hne : language ≠ []) (hfeed : '\n' ∉ language)
    (hquote : '"' ∉ language) (behind : List Char) :
    languageUpTo languageStop (language ++ (languageStop ++ behind)) = some language := by
  induction language with
  | nil => exact absurd rfl hne
  | cons c rest ih =>
    rw [List.mem_cons, not_or] at hfeed hquote
    rw [List.cons_append, languageUpTo, if_neg (Ne.symm hfeed.1)]
    cases rest with
    | nil =>
      have hstop : languageStop.isPrefixOf ([] ++ (languageStop ++ behind)) :=
        List.isPrefixOf_iff_prefix.mpr (List.prefix_append _ _)
      rw [if_pos hstop]
    | cons d more =>
      rw [List.mem_cons, not_or] at hquote
      have hstop : ¬languageStop.isPrefixOf (d :: more ++ (languageStop ++ behind)) := by
        simp [languageStop, List.isPrefixOf, hquote.2.1]
      rw [if_neg hstop, ih (List.cons_ne_nil _ _) hfeed.2 (by simpa using hquote.2)]
      rfl

theorem languageUpTo_append_cons {mark : List Char} (hmark : '\n' ∉ mark)
    (text behind : List Char) :
    languageUpTo mark (text ++ '\n' :: behind) = languageUpTo mark text := by
  induction text with
  | nil => simp [languageUpTo]
  | cons c rest ih =>
    rw [List.cons_append, languageUpTo, languageUpTo, isPrefixOf_append_cons hmark, ih]

theorem annotatedFence_eq_some {text written : List Char} {taken : Nat}
    (h : annotatedFence text = some (taken, written)) :
    ∃ language rest, text = languageStart ++ language ++ languageStop ++ rest ∧ language ≠ [] ∧
      '\n' ∉ language ∧ taken = (languageStart ++ language ++ languageStop).length ∧
      written = fence ++ lowercase language := by
  unfold annotatedFence at h
  split at h
  · next hstart =>
    obtain ⟨behind, rfl⟩ := List.isPrefixOf_iff_prefix.mp hstart
    obtain ⟨language, hlanguage, hfound⟩ := Option.map_eq_some_iff.mp h
    rw [List.drop_left] at hlanguage
    obtain ⟨hne, hfeed, rest, rfl⟩ := languageUpTo_eq_some hlanguage
    simp only [Prod.mk.injEq] at hfound
    refine ⟨language, rest, by simp, hne, hfeed, ?_, hfound.2.symm⟩
    rw [← hfound.1, List.length_append, List.length_append]
  · cases h

theorem annotatedFence_of_languageUpTo {text language : List Char}
    (h : languageUpTo languageStop text = some language) :
    annotatedFence (languageStart ++ text) =
      some (languageStart.length + language.length + languageStop.length,
        fence ++ lowercase language) := by
  have hstart : languageStart.isPrefixOf (languageStart ++ text) :=
    List.isPrefixOf_iff_prefix.mpr (List.prefix_append _ _)
  rw [annotatedFence, if_pos hstart, List.drop_left, h, Option.map_some]

theorem annotatedFence_bounded : annotatedFence.Bounded := by
  intro text taken written h
  obtain ⟨language, rest, rfl, -, -, rfl, -⟩ := annotatedFence_eq_some h
  have hstart : languageStart.length = 17 := rfl
  simp only [List.length_append]
  omega

theorem annotatedFence_stopsAt : annotatedFence.StopsAt '\n' := by
  refine ⟨annotatedFence_bounded, fun text behind => ?_⟩
  unfold annotatedFence
  rw [isPrefixOf_append_cons (by decide)]
  split
  · next hstart =>
    have hsize := (List.isPrefixOf_iff_prefix.mp hstart).length_le
    rw [List.drop_append_of_le_length hsize, languageUpTo_append_cons (by decide)]
  · rfl

theorem annotatedFence_needsPair : annotatedFence.NeedsPair '|' '[' := by
  intro c rest h
  obtain ⟨found, hfound⟩ := Option.ne_none_iff_exists'.mp h
  obtain ⟨language, behind, hcons, -⟩ := annotatedFence_eq_some hfound
  have hstart : languageStart = '|' :: '[' :: "<!-- language=\"".toList := rfl
  rw [hstart] at hcons
  obtain ⟨rfl, rfl⟩ := List.cons.inj hcons
  exact ⟨rfl, rfl⟩

/-! ## Texts without marks -/

/-- The rules that put code in fences. -/
def fenceRules : List Rule :=
  [annotatedFence, literal ['|', '['] (fence ++ ['c']), literal [']', '|'] fence]

theorem fenceCode_eq (text : List Char) : fenceCode text = rewriteAll fenceRules text := rfl

/-- No mark around code is in the text. -/
structure LacksMarks (text : List Char) : Prop where
  opening : LacksPair '|' '[' text
  closing : LacksPair ']' '|' text

instance (text : List Char) : Decidable (LacksMarks text) :=
  decidable_of_iff (LacksPair '|' '[' text ∧ LacksPair ']' '|' text)
    ⟨fun h => ⟨h.1, h.2⟩, fun h => ⟨h.opening, h.closing⟩⟩

theorem LacksMarks.rewriteAll {rules : List Rule} {text : List Char} (h : LacksMarks text)
    (hopening : ∀ rule ∈ rules, rule.WritesNeither '|' '[')
    (hclosing : ∀ rule ∈ rules, rule.WritesNeither ']' '|') :
    LacksMarks (rewriteAll rules text) :=
  ⟨h.opening.rewriteAll hopening, h.closing.rewriteAll hclosing⟩

theorem LacksMarks.of_isInfix {text part : List Char} (h : LacksMarks text)
    (hpart : part <:+: text) : LacksMarks part :=
  ⟨h.opening.of_isInfix hpart, h.closing.of_isInfix hpart⟩

/-- **No mark is left.** The last rule brings no opening mark back. -/
theorem lacksMarks_fenceCode (text : List Char) : LacksMarks (fenceCode text) := by
  have hopening : LacksPair '|' '['
      (replaceAll ['|', '['] (fence ++ ['c']) (rewrite annotatedFence text)) :=
    lacksPair_replaceAll (by decide) (by decide) (by decide) _
  have hlast : (literal [']', '|'] fence).WritesNeither '|' '[' :=
    literal_writesNeither (by decide) (by decide) (by decide)
  exact ⟨hopening.rewrite hlast, lacksPair_replaceAll (by decide) (by decide) (by decide) _⟩

theorem fenceCode_of_lacksMarks {text : List Char} (h : LacksMarks text) :
    fenceCode text = text := by
  have hannotated : annotatedFence.Misses [] text :=
    misses_of_lacksPair annotatedFence_needsPair h.opening (by simp)
  have hopening : (literal ['|', '['] (fence ++ ['c'])).Misses [] text :=
    misses_of_lacksPair (literal_needsPair _) h.opening (by simp)
  have hclosing : (literal [']', '|'] fence).Misses [] text :=
    misses_of_lacksPair (literal_needsPair _) h.closing (by simp)
  rw [fenceCode_eq, fenceRules, rewriteAll, rewriteAll, rewriteAll, rewrite_of_misses hannotated,
    rewrite_of_misses hopening, rewrite_of_misses hclosing, rewriteAll]

theorem writesNeither_of_markupRule {a b : Char} (ha : separates a) (hb : separates b)
    (hquote : a ≠ '\x60' ∧ b ≠ '\x60') {rule : Rule} (hrule : rule ∈ markupRules) :
    rule.WritesNeither a b := by
  intro text taken written h
  obtain ⟨source, rest, word, -, -, -, rfl, hall⟩ := of_markupRule hrule h
  have hword := (List.forall_mem_append.mp hall).2
  exact ⟨List.cons_ne_nil _ _, not_mem_quoted hquote.1 (not_mem_of_separates ha hword),
    not_mem_quoted hquote.2 (not_mem_of_separates hb hword)⟩

/-- No comment holds a mark around code, whatever its text. -/
theorem lacksMarks_lines (text : List Char) : LacksMarks (lines text) := by
  have hmarked : LacksMarks (markLines (fenceCode text)) := by
    change LacksMarks (rewriteAll [literal ['\n'] ('\n' :: linePrefix)] (fenceCode text))
    refine (lacksMarks_fenceCode text).rewriteAll ?_ ?_
    · exact List.forall_mem_singleton.mpr
        (literal_writesNeither (by decide) (by decide) (by decide))
    · exact List.forall_mem_singleton.mpr
        (literal_writesNeither (by decide) (by decide) (by decide))
  have hquoted : LacksMarks (quoteMarkup (markLines (fenceCode text))) :=
    hmarked.rewriteAll
      (fun _ => writesNeither_of_markupRule (by decide) (by decide) (by decide))
      (fun _ => writesNeither_of_markupRule (by decide) (by decide) (by decide))
  have hblock : LacksMarks (block (markLines (fenceCode text))) :=
    hquoted.of_isInfix (trim_isInfix _)
  unfold lines
  split
  · exact ⟨by decide, by decide⟩
  · exact ⟨lacksPair_append_of_not_mem (by decide) hblock.opening,
      lacksPair_append_of_not_mem (by decide) hblock.closing⟩

/-! ## Characters without a capital -/

theorem not_mem_fence_append {c : Char} (hc : HasNoCapital c) (hfence : c ∉ fence)
    {language : List Char} (h : c ∉ language) : c ∉ fence ++ lowercase language := by
  rw [List.mem_append, not_or]
  exact ⟨hfence, not_mem_lowercase hc h⟩

/-- Putting code in fences brings in quotes and letters only. -/
theorem not_mem_fenceCode {c : Char} (hc : HasNoCapital c) (hfence : c ∉ fence ++ ['c'])
    {text : List Char} (h : c ∉ text) : c ∉ fenceCode text := by
  have hquotes : c ∉ fence := fun hmem => hfence (List.mem_append_left _ hmem)
  refine not_mem_replaceAll hquotes (not_mem_replaceAll hfence ?_)
  refine not_mem_rewrite (fun other taken written hother hmatch => ?_) h
  obtain ⟨language, rest, rfl, -, -, -, rfl⟩ := annotatedFence_eq_some hmatch
  simp only [List.mem_append, not_or] at hother
  exact not_mem_fence_append hc hquotes hother.1.1.2

/-! ## Documents with code -/

/-- How a piece of code is opened. -/
inductive Opening where
  | bare
  /-- In a named language. -/
  | annotated (language : List Char)
  deriving DecidableEq, Repr

/-- The mark that opens a piece of code. -/
def Opening.spelled : Opening → List Char
  | .bare => ['|', '[']
  | .annotated language => languageStart ++ language ++ languageStop

/-- The fence that opens a piece of code. -/
def Opening.fenced : Opening → List Char
  | .bare => fence ++ ['c']
  | .annotated language => fence ++ lowercase language

/-- The name of a language can be read back from its mark. -/
structure IsLanguage (language : List Char) : Prop where
  ne_nil : language ≠ []
  plain : ∀ c ∈ ['\n', '"', '|', '[', ']'], c ∉ language

/-- A piece of code, and the text behind it up to the next one. -/
structure Fenced where
  opening : Opening
  code : List Char
  behind : List Char
  deriving DecidableEq, Repr

namespace Fenced

/-- The code with its closing mark, and the text behind it. -/
def body (f : Fenced) : List Char := f.code ++ ']' :: '|' :: f.behind

/-- The piece with marks around its code. -/
def spelled (f : Fenced) : List Char := f.opening.spelled ++ f.body

/-- The piece with fences around its code. -/
def converted (f : Fenced) : List Char := f.opening.fenced ++ f.code ++ fence ++ f.behind

/-- Neither part of the piece holds a mark, and no mark can be read over a seam. -/
structure WellFormed (f : Fenced) : Prop where
  language : ∀ language, f.opening = .annotated language → IsLanguage language
  code : LacksMarks f.code
  behind : LacksMarks f.behind
  behind_head : f.behind.head? ≠ some '['
  code_head : f.opening = .bare → ¬"<!-- language=\"".toList <+: f.code

end Fenced

/-- The mark or fence that is left once the languages have been read. -/
def Opening.named : Opening → List Char
  | .bare => Opening.bare.spelled
  | .annotated language => fence ++ lowercase language

theorem Opening.head?_spelled (opening : Opening) : opening.spelled.head? = some '|' := by
  cases opening <;> rfl

theorem Opening.spelled_ne_nil (opening : Opening) : opening.spelled ≠ [] :=
  List.ne_nil_of_mem (List.mem_of_head? opening.head?_spelled)

theorem Opening.head?_fenced (opening : Opening) : opening.fenced.head? = some '\x60' := by
  cases opening <;> rfl

theorem Opening.head?_named (opening : Opening) :
    opening.named.head? = some '|' ∨ opening.named.head? = some '\x60' := by
  cases opening
  · exact Or.inl rfl
  · exact Or.inr rfl

namespace Fenced

section WellFormed

variable {f : Fenced} (h : f.WellFormed)

include h in
theorem not_mem_fenced {c : Char} (hc : c ∈ ['|', '[', ']']) : c ∉ f.opening.fenced := by
  obtain ⟨hcapital, hfence, hmem⟩ : HasNoCapital c ∧ c ∉ fence ++ ['c'] ∧
      c ∈ ['\n', '"', '|', '[', ']'] := by
    simp only [List.mem_cons, List.not_mem_nil, or_false] at hc
    obtain rfl | rfl | rfl := hc
    all_goals decide +kernel
  cases hopening : f.opening with
  | bare => exact hfence
  | annotated language =>
    rw [List.mem_append, not_or] at hfence
    exact not_mem_fence_append hcapital hfence.1 ((h.language language hopening).plain c hmem)

include h in
theorem lacksPair_body : LacksPair '|' '[' f.body := by
  have hbehind : LacksPair '|' '[' (']' :: '|' :: f.behind) := by
    simp [h.behind.opening, h.behind_head]
  exact lacksPair_append.mpr ⟨h.code.opening, hbehind, by simp⟩

variable {rest : List Char}

include h in
/-- The first rule reads the languages, and leaves bare marks alone. -/
theorem rewrite_spelled (hrest : rest.head? ≠ some '[') :
    rewrite annotatedFence (f.spelled ++ rest) =
      f.opening.named ++ f.body ++ rewrite annotatedFence rest := by
  have hbody : annotatedFence.Misses rest f.body :=
    misses_of_lacksPair annotatedFence_needsPair (lacksPair_body h) hrest
  unfold spelled
  cases hopening : f.opening with
  | bare =>
    have hbare : annotatedFence ('|' :: '[' :: (f.body ++ rest)) = none := by
      have hcode : ¬"<!-- language=\"".toList.isPrefixOf (f.body ++ rest) := by
        rw [body, List.append_assoc, List.cons_append, isPrefixOf_append_cons (by decide)]
        exact fun hstarts => h.code_head hopening (List.isPrefixOf_iff_prefix.mp hstarts)
      have hstart : languageStart = '|' :: '[' :: "<!-- language=\"".toList := rfl
      rw [annotatedFence, if_neg]
      simpa [hstart, List.isPrefixOf] using hcode
    have hbracket : annotatedFence ('[' :: (f.body ++ rest)) = none := by
      by_contra hmatch
      exact absurd (annotatedFence_needsPair _ _ hmatch).1 (by decide)
    exact rewrite_append_of_misses ⟨hbare, hbracket, hbody⟩
  | annotated language =>
    obtain ⟨hne, hplain⟩ := h.language language hopening
    have hmatch : annotatedFence
        ((languageStart ++ language ++ languageStop) ++ (f.body ++ rest)) =
        some ((languageStart ++ language ++ languageStop).length,
          fence ++ lowercase language) := by
      have hlanguage :=
        languageUpTo_append hne (hplain _ (by simp)) (hplain _ (by simp)) (f.body ++ rest)
      rw [List.append_assoc, List.append_assoc, annotatedFence_of_languageUpTo hlanguage,
        List.length_append, List.length_append]
    rw [Opening.spelled, List.append_assoc, rewrite_append_of_match (by simp [hne]) hmatch,
      rewrite_append_of_misses hbody]
    simp [Opening.named]

include h in
/-- The second rule replaces the bare marks. -/
theorem replaceAll_named (hrest : rest.head? ≠ some '[') :
    replaceAll ['|', '['] (fence ++ ['c']) (f.opening.named ++ f.body ++ rest) =
      f.opening.fenced ++ f.body ++ replaceAll ['|', '['] (fence ++ ['c']) rest := by
  have hfenced : '|' ∉ f.opening.fenced := not_mem_fenced h (by simp)
  cases hopening : f.opening with
  | bare =>
    have hnamed : Opening.bare.named ++ f.body ++ rest = '|' :: '[' :: (f.body ++ rest) := rfl
    rw [hnamed, replaceAll_pair_cons_cons, replaceAll_pair_append (lacksPair_body h) hrest,
      Opening.fenced, List.append_assoc, List.append_assoc, List.append_assoc]
  | annotated language =>
    rw [hopening] at hfenced
    exact replaceAll_pair_append (lacksPair_append_of_not_mem hfenced (lacksPair_body h)) hrest

include h in
/-- The third rule replaces the closing mark. -/
theorem replaceAll_fenced (hrest : rest.head? ≠ some '|') :
    replaceAll [']', '|'] fence (f.opening.fenced ++ f.body ++ rest) =
      f.converted ++ replaceAll [']', '|'] fence rest := by
  have hcode : LacksPair ']' '|' (f.opening.fenced ++ f.code) :=
    lacksPair_append_of_not_mem (not_mem_fenced h (by simp)) h.code.closing
  have hsplit : f.opening.fenced ++ f.body ++ rest =
      (f.opening.fenced ++ f.code) ++ ']' :: '|' :: (f.behind ++ rest) := by
    simp [body]
  rw [hsplit, replaceAll_pair_append hcode (by simp), replaceAll_pair_cons_cons,
    replaceAll_pair_append h.behind.closing hrest, converted]
  simp

end WellFormed

end Fenced

section Document

variable {before : List Char} {pieces : List Fenced} (hbefore : LacksMarks before)
  (hpieces : ∀ f ∈ pieces, f.WellFormed)

include hbefore hpieces in
/-- **A document is converted piece by piece.** -/
theorem fenceCode_spelled :
    fenceCode (before ++ pieces.flatMap Fenced.spelled) =
      before ++ pieces.flatMap Fenced.converted := by
  -- Before and behind each rule a piece starts with a stroke or a quote, so none completes a mark.
  have hfirst : rewrite annotatedFence (pieces.flatMap Fenced.spelled) =
      pieces.flatMap (fun f => f.opening.named ++ f.body) ∧
      (pieces.flatMap Fenced.spelled).head? ≠ some '[' :=
    rewrite_flatMap (fun rest => rest.head? ≠ some '[') (by simp)
      (fun f _ rest => by simp [Fenced.spelled, f.opening.head?_spelled])
      fun f hf rest hrest => Fenced.rewrite_spelled (hpieces f hf) hrest
  have hsecond : replaceAll ['|', '['] (fence ++ ['c'])
        (pieces.flatMap fun f => f.opening.named ++ f.body) =
      pieces.flatMap (fun f => f.opening.fenced ++ f.body) ∧
      (pieces.flatMap fun f => f.opening.named ++ f.body).head? ≠ some '[' :=
    rewrite_flatMap (fun rest => rest.head? ≠ some '[') (by simp)
      (fun f _ rest => by rcases f.opening.head?_named with hhead | hhead <;> simp [hhead])
      fun f hf rest hrest => Fenced.replaceAll_named (hpieces f hf) hrest
  have hthird : replaceAll [']', '|'] fence
        (pieces.flatMap fun f => f.opening.fenced ++ f.body) =
      pieces.flatMap Fenced.converted ∧
      (pieces.flatMap fun f => f.opening.fenced ++ f.body).head? ≠ some '|' :=
    rewrite_flatMap (fun rest => rest.head? ≠ some '|') (by simp)
      (fun f _ rest => by simp [f.opening.head?_fenced])
      fun f hf rest hrest => Fenced.replaceAll_fenced (hpieces f hf) hrest
  have hmisses : annotatedFence.Misses (pieces.flatMap Fenced.spelled) before :=
    misses_of_lacksPair annotatedFence_needsPair hbefore.opening hfirst.2
  have hlast : fenceCode (before ++ pieces.flatMap Fenced.spelled) =
      replaceAll [']', '|'] fence (replaceAll ['|', '['] (fence ++ ['c'])
        (rewrite annotatedFence (before ++ pieces.flatMap Fenced.spelled))) := rfl
  rw [hlast, rewrite_append_of_misses hmisses, hfirst.1,
    replaceAll_pair_append hbefore.opening hsecond.2, hsecond.1,
    replaceAll_pair_append hbefore.closing hthird.2, hthird.1]

include hbefore hpieces in
/-- What has been converted is not converted again. -/
theorem fenceCode_converted :
    fenceCode (before ++ pieces.flatMap Fenced.converted) =
      before ++ pieces.flatMap Fenced.converted := by
  have hconverted := fenceCode_spelled hbefore hpieces
  rw [← hconverted]
  exact fenceCode_of_lacksMarks (lacksMarks_fenceCode _)

include hbefore hpieces in
/-- **The comment of a document is that of its converted pieces**, and no comment holds a mark
around code, whatever its text. -/
theorem lines_spelled :
    lines (before ++ pieces.flatMap Fenced.spelled) =
        lines (before ++ pieces.flatMap Fenced.converted) ∧
      ∀ text, LacksMarks (lines text) := by
  refine ⟨?_, lacksMarks_lines⟩
  cases pieces with
  | nil => rfl
  | cons f rest =>
    have hspelled : before ++ (f :: rest).flatMap Fenced.spelled ≠ [] := by
      simp [Fenced.spelled, Fenced.body]
    have hconverted : before ++ (f :: rest).flatMap Fenced.converted ≠ [] := by
      simp [Fenced.converted, fence]
    rw [lines, lines, if_neg hspelled, if_neg hconverted, fenceCode_spelled hbefore hpieces,
      fenceCode_converted hbefore hpieces]

/-- Strokes and brackets at every seam. -/
theorem lines_spelled_seams :
    lines "see ]|[[x|]||b]|[<!-- language=\"Perl\" -->]y[]|".toList =
      lines "see ]```c[x|```|b]```perl]y[```".toList := by
  have hplain : LacksMarks "see ]".toList ∧ LacksMarks "[x|".toList ∧ LacksMarks "|b]".toList ∧
      LacksMarks "]y[".toList ∧ LacksMarks [] := by
    decide +kernel
  obtain ⟨hbefore, hcode, hbehind, hcode', hend⟩ := hplain
  have hlanguage : IsLanguage "Perl".toList := ⟨by decide, by simp⟩
  have hbare : Fenced.WellFormed ⟨.bare, "[x|".toList, "|b]".toList⟩ :=
    ⟨nofun, hcode, hbehind, by decide, fun _ => by decide⟩
  have hannotated : Fenced.WellFormed ⟨.annotated "Perl".toList, "]y[".toList, []⟩ :=
    ⟨by rintro language ⟨⟩; exact hlanguage, hcode', hend, by decide, nofun⟩
  exact (lines_spelled hbefore
    (List.forall_mem_cons.mpr ⟨hbare, List.forall_mem_singleton.mpr hannotated⟩)).1

end Document

end GirStubs.Lua.Comment
