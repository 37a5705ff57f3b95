import GirStubs.Proofs.Text.Rewriting
import Mathlib.Data.List.Chain

/-!
# Pairs of characters

A mark of two characters stands in a text when they are neighbours there. Rewriting brings no such
pair in, provided that what is written for a match is not empty and holds neither of the two
(`lacksPair_rewrite`). A rule whose matches all start with a pair misses a text that lacks it
(`misses_of_lacksPair`).
-/

namespace GirStubs.Text

variable {a b : Char}

/-- The two characters are nowhere neighbours in the text. -/
def LacksPair (a b : Char) (text : List Char) : Prop := ¬[a, b] <:+: text

instance (text : List Char) : Decidable (LacksPair a b text) := inferInstanceAs (Decidable ¬_)

theorem lacksPair_iff_isChain {text : List Char} :
    LacksPair a b text ↔ text.IsChain fun c d => ¬(c = a ∧ d = b) := by
  constructor
  · intro h
    refine (List.isChain_isInfix text).imp fun c d hpair => ?_
    rintro ⟨rfl, rfl⟩
    exact h hpair
  · intro h hpair
    exact List.isChain_pair.mp ( List.IsChain.infix h hpair) ⟨rfl, rfl⟩

@[simp]
theorem lacksPair_cons {c : Char} {rest : List Char} :
    LacksPair a b (c :: rest) ↔ ¬(c = a ∧ rest.head? = some b) ∧ LacksPair a b rest := by
  rw [lacksPair_iff_isChain, lacksPair_iff_isChain, List.isChain_cons]
  refine and_congr_left fun _ => ?_
  cases rest.head? <;> simp

theorem lacksPair_append {before behind : List Char} :
    LacksPair a b (before ++ behind) ↔
      LacksPair a b before ∧ LacksPair a b behind ∧
        ¬(before.getLast? = some a ∧ behind.head? = some b) := by
  rw [lacksPair_iff_isChain, lacksPair_iff_isChain, lacksPair_iff_isChain, List.isChain_append]
  refine and_congr_right fun _ => and_congr_right fun _ => ?_
  cases before.getLast? <;> cases behind.head? <;> simp

theorem LacksPair.of_isInfix {text part : List Char} (h : LacksPair a b text)
    (hpart : part <:+: text) : LacksPair a b part :=
  fun hpair => h (hpair.trans hpart)

theorem lacksPair_of_not_mem {text : List Char} (h : a ∉ text) : LacksPair a b text :=
  fun hpair => h (hpair.subset List.mem_cons_self)

theorem lacksPair_append_of_not_mem {before behind : List Char} (ha : a ∉ before)
    (h : LacksPair a b behind) : LacksPair a b (before ++ behind) :=
  lacksPair_append.mpr
    ⟨lacksPair_of_not_mem ha, h, fun hseam => ha (List.mem_of_getLast? hseam.1)⟩

/-! ## Rewriting -/

/-- What is written for a match is not empty, and neither of the two characters is in it. -/
def Rule.WritesNeither (rule : Rule) (a b : Char) : Prop :=
  ∀ text taken written, rule text = some (taken, written) →
    written ≠ [] ∧ a ∉ written ∧ b ∉ written

/-- Every match starts with the pair. -/
def Rule.NeedsPair (rule : Rule) (a b : Char) : Prop :=
  ∀ c rest, rule (c :: rest) ≠ none → c = a ∧ rest.head? = some b

section Rule

variable {rule : Rule}

/-- **Rewriting brings no pair in** that it does not keep: no seam between what is kept and what is
written makes one. -/
theorem lacksPair_rewrite (h : rule.WritesNeither a b) {text : List Char}
    (hkept : ∀ c rest, c :: rest <:+ text → rule (c :: rest) = none →
      ¬(c = a ∧ rest.head? = some b)) :
    LacksPair a b (rewrite rule text) := by
  -- Where the text goes on with another character than `b`, so does the rewritten one.
  suffices hboth : LacksPair a b (rewrite rule text) ∧
      ((rewrite rule text).head? = some b → text.head? = some b) from hboth.1
  revert hkept
  refine rewrite_induction rule
    (motive := fun text out =>
      (∀ c rest, c :: rest <:+ text → rule (c :: rest) = none →
        ¬(c = a ∧ rest.head? = some b)) →
      LacksPair a b out ∧ (out.head? = some b → text.head? = some b)) ?_ ?_ ?_ text
  · exact fun _ => ⟨lacksPair_of_not_mem List.not_mem_nil, id⟩
  · intro c rest hmatch ih hkept
    obtain ⟨hout, hhead⟩ := ih fun d more hmore => hkept d more (hmore.trans (List.suffix_cons ..))
    refine ⟨lacksPair_cons.mpr ⟨fun hpair => ?_, hout⟩, id⟩
    exact hkept c rest (List.suffix_refl _) hmatch ⟨hpair.1, hhead hpair.2⟩
  · intro c rest taken written hmatch ih hkept
    have hdrop : rest.drop (taken - 1) <:+ c :: rest :=
      (List.drop_suffix _ _).trans (List.suffix_cons ..)
    obtain ⟨hout, -⟩ := ih fun d more hmore => hkept d more (hmore.trans hdrop)
    obtain ⟨hne, ha, hb⟩ := h _ _ _ hmatch
    refine ⟨lacksPair_append_of_not_mem ha hout, fun hhead => ?_⟩
    rw [List.head?_append_of_ne_nil _ hne] at hhead
    exact absurd (List.mem_of_head? hhead) hb

theorem LacksPair.rewrite (h : rule.WritesNeither a b) {text : List Char}
    (htext : LacksPair a b text) : LacksPair a b (rewrite rule text) :=
  lacksPair_rewrite h fun _ _ hsuffix _ =>
    (lacksPair_cons.mp (htext.of_isInfix hsuffix.isInfix)).1

theorem LacksPair.rewriteAll {rules : List Rule} (h : ∀ rule ∈ rules, rule.WritesNeither a b)
    {text : List Char} (htext : LacksPair a b text) : LacksPair a b (rewriteAll rules text) := by
  induction rules generalizing text with
  | nil => exact htext
  | cons rule rules ih =>
    rw [List.forall_mem_cons] at h
    exact ih h.2 (htext.rewrite h.1)

/-- A rule whose matches start with a pair misses a text that lacks it, unless what stands behind
the text completes one. -/
theorem misses_of_lacksPair (h : rule.NeedsPair a b) {text behind : List Char}
    (htext : LacksPair a b text) (hbehind : behind.head? ≠ some b) : rule.Misses behind text := by
  induction text with
  | nil => trivial
  | cons c rest ih =>
    obtain ⟨hpair, hrest⟩ := lacksPair_cons.mp htext
    refine ⟨?_, ih hrest⟩
    by_contra hmatch
    obtain ⟨rfl, hhead⟩ := h c (rest ++ behind) hmatch
    cases rest with
    | nil => exact hbehind hhead
    | cons d rest => exact hpair ⟨rfl, hhead⟩

end Rule

/-! ## A pair as a word -/

theorem literal_pair_eq_none_iff {replacement rest : List Char} {c : Char} :
    literal [a, b] replacement (c :: rest) = none ↔ ¬(c = a ∧ rest.head? = some b) := by
  rw [literal, ite_eq_right_iff]
  cases rest with
  | nil => simp [List.isPrefixOf]
  | cons d rest => simp [List.isPrefixOf, eq_comm (a := a), eq_comm (a := b)]

theorem literal_needsPair (replacement : List Char) :
    (literal [a, b] replacement).NeedsPair a b :=
  fun _ _ hmatch => not_not.mp fun hpair => hmatch (literal_pair_eq_none_iff.mpr hpair)

theorem literal_writesNeither {word replacement : List Char} (hne : replacement ≠ [])
    (ha : a ∉ replacement) (hb : b ∉ replacement) :
    (literal word replacement).WritesNeither a b := by
  intro text taken written hmatch
  obtain ⟨-, -, rfl⟩ := literal_eq_some hmatch
  exact ⟨hne, ha, hb⟩

/-- No pair is left where it is replaced everywhere. -/
theorem lacksPair_replaceAll {replacement : List Char} (hne : replacement ≠ [])
    (ha : a ∉ replacement) (hb : b ∉ replacement) (text : List Char) :
    LacksPair a b (replaceAll [a, b] replacement text) :=
  lacksPair_rewrite (literal_writesNeither hne ha hb) fun _ _ _ hmatch =>
    literal_pair_eq_none_iff.mp hmatch

theorem replaceAll_pair_append {replacement text behind : List Char} (htext : LacksPair a b text)
    (hbehind : behind.head? ≠ some b) :
    replaceAll [a, b] replacement (text ++ behind) =
      text ++ replaceAll [a, b] replacement behind :=
  rewrite_append_of_misses (misses_of_lacksPair (literal_needsPair _) htext hbehind)

theorem replaceAll_pair_cons_cons (replacement behind : List Char) :
    replaceAll [a, b] replacement (a :: b :: behind) =
      replacement ++ replaceAll [a, b] replacement behind := by
  have hmatch : literal [a, b] replacement (a :: b :: behind) = some (2, replacement) := by
    simp [literal, List.isPrefixOf]
  exact rewrite_append_of_match (show [a, b] ≠ [] from List.cons_ne_nil _ _) hmatch

end GirStubs.Text
