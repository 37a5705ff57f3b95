import GirStubs.Text.Rewrite

/-! # Rewriting around separators

A rule stops at a character when no match starts at it, reaches over it or looks
behind it. Such a rule rewrites the two sides of the character on their own
(`rewrite_append_cons`), and if it never writes the character either, the rewritten
text is cut by it into the same number of parts (`not_mem_rewrite`). A text that a rule
misses is kept (`rewrite_append_of_misses`), so a text in pieces is rewritten piece by
piece (`rewrite_flatMap`). When each match leaves more of some character than it takes,
a text that comes out as it was has been missed (`rewriteAll_eq_self_iff`).
-/

namespace GirStubs.Text

/-- A match takes at least one character and no more than there are. -/
def Rule.Bounded (rule : Rule) : Prop :=
  ∀ text taken written, rule text = some (taken, written) → 0 < taken ∧ taken ≤ text.length

/-- No match starts at `c`, reaches over it, or depends on what stands behind it. -/
structure Rule.StopsAt (rule : Rule) (c : Char) : Prop where
  bounded : rule.Bounded
  blind : ∀ text behind, rule (text ++ c :: behind) = rule text

theorem Rule.Bounded.nil {rule : Rule} (h : rule.Bounded) : rule [] = none := by
  cases hmatch : rule [] with
  | none => rfl
  | some found =>
    have hsize := h [] found.1 found.2 hmatch
    simp only [List.length_nil] at hsize
    omega

/-- **Induction along a rewriting**: a character is kept, or a match is replaced. -/
theorem rewrite_induction (rule : Rule) {motive : List Char → List Char → Prop}
    (nil : motive [] [])
    (keep : ∀ c rest, rule (c :: rest) = none → motive rest (rewrite rule rest) →
      motive (c :: rest) (c :: rewrite rule rest))
    (replace : ∀ c rest taken written, rule (c :: rest) = some (taken, written) →
      motive (rest.drop (taken - 1)) (rewrite rule (rest.drop (taken - 1))) →
      motive (c :: rest) (written ++ rewrite rule (rest.drop (taken - 1))))
    (text : List Char) : motive text (rewrite rule text) := by
  induction hsize : text.length using Nat.strongRecOn generalizing text with
  | _ size ih =>
    cases text with
    | nil => exact nil
    | cons c rest =>
      rw [List.length_cons] at hsize
      cases hmatch : rule (c :: rest) with
      | none =>
        rw [rewrite_cons_none hmatch]
        exact keep c rest hmatch (ih rest.length (by omega) rest rfl)
      | some found =>
        rw [rewrite_cons_some hmatch]
        have hdrop : (rest.drop (found.1 - 1)).length < size := by
          rw [List.length_drop]
          omega
        exact replace c rest found.1 found.2 hmatch (ih _ hdrop _ rfl)

/-- `rewrite_induction` with the text of a match in place of its size. -/
theorem Rule.Bounded.induction {rule : Rule} (h : rule.Bounded)
    {motive : List Char → List Char → Prop} (nil : motive [] [])
    (keep : ∀ c rest, rule (c :: rest) = none → motive rest (rewrite rule rest) →
      motive (c :: rest) (c :: rewrite rule rest))
    (replace : ∀ source behind written, rule (source ++ behind) = some (source.length, written) →
      motive behind (rewrite rule behind) →
      motive (source ++ behind) (written ++ rewrite rule behind))
    (text : List Char) : motive text (rewrite rule text) := by
  refine rewrite_induction rule nil keep ?_ text
  intro c rest taken written hmatch ih
  obtain ⟨htaken, hsize⟩ := h _ _ _ hmatch
  obtain ⟨size, rfl⟩ := Nat.exists_eq_add_of_lt htaken
  have hsource : c :: rest = (c :: rest.take size) ++ rest.drop size := by simp
  have hlength : 0 + size + 1 = (c :: rest.take size).length := by
    rw [List.length_cons] at hsize ⊢
    rw [List.length_take]
    omega
  rw [hlength, hsource] at hmatch
  rw [Nat.add_sub_cancel, Nat.zero_add] at ih ⊢
  rw [hsource]
  exact replace _ _ _ hmatch ih

/-- A match is replaced, and the scan goes on behind it. -/
theorem rewrite_append_of_match {rule : Rule} {source written behind : List Char}
    (hne : source ≠ []) (h : rule (source ++ behind) = some (source.length, written)) :
    rewrite rule (source ++ behind) = written ++ rewrite rule behind := by
  obtain ⟨c, rest, rfl⟩ := List.exists_cons_of_ne_nil hne
  rw [List.cons_append] at h ⊢
  rw [rewrite_cons_some h, List.length_cons, Nat.add_sub_cancel, List.drop_left]

/-- The two parts of a text are rewritten on their own, when what stands behind the seam changes no
match in front of it. -/
theorem rewrite_append {rule : Rule} (hbounded : rule.Bounded) {before behind : List Char}
    (h : ∀ text, text ≠ [] → text <:+ before → rule (text ++ behind) = rule text) :
    rewrite rule (before ++ behind) = rewrite rule before ++ rewrite rule behind := by
  revert h
  refine hbounded.induction
    (motive := fun text out =>
      (∀ tail, tail ≠ [] → tail <:+ text → rule (tail ++ behind) = rule tail) →
        rewrite rule (text ++ behind) = out ++ rewrite rule behind) ?_ ?_ ?_ before
  · exact fun _ => rfl
  · intro c rest hmatch ih h
    have hnone : rule (c :: (rest ++ behind)) = none :=
      (h _ (List.cons_ne_nil _ _) (List.suffix_refl _)).trans hmatch
    rw [List.cons_append, rewrite_cons_none hnone, List.cons_append,
      ih fun tail hne htail => h tail hne (htail.trans (List.suffix_cons ..))]
  · intro source rest written hmatch ih h
    have hne : source ≠ [] := by
      rintro rfl
      exact absurd (hbounded _ _ _ hmatch).1 (Nat.lt_irrefl 0)
    have hsome := (h _ (by simp [hne]) (List.suffix_refl _)).trans hmatch
    rw [List.append_assoc] at hsome ⊢
    rw [rewrite_append_of_match hne hsome, List.append_assoc,
      ih fun tail htail hsuffix => h tail htail (hsuffix.trans (List.suffix_append _ _))]

/-- The two sides of a character that a rule stops at are rewritten on their own. -/
theorem rewrite_append_cons {rule : Rule} {c : Char} (h : rule.StopsAt c)
    (before behind : List Char) :
    rewrite rule (before ++ c :: behind) = rewrite rule before ++ c :: rewrite rule behind := by
  have hnone : rule (c :: behind) = none := (h.blind [] behind).trans h.bounded.nil
  rw [rewrite_append h.bounded fun text _ _ => h.blind text behind, rewrite_cons_none hnone]

/-- A character that stands in no replacement is not brought in. -/
theorem not_mem_rewrite {rule : Rule} {c : Char}
    (hwritten : ∀ text taken written, c ∉ text → rule text = some (taken, written) → c ∉ written)
    {text : List Char} (h : c ∉ text) : c ∉ rewrite rule text := by
  revert h
  refine rewrite_induction rule (motive := fun text out => c ∉ text → c ∉ out)
    ?_ ?_ ?_ text
  · exact id
  · intro d rest _ ih h
    rw [List.mem_cons, not_or] at h ⊢
    exact ⟨h.1, ih h.2⟩
  · intro d rest taken written hmatch ih h
    rw [List.mem_append, not_or]
    refine ⟨hwritten _ _ _ h hmatch, ih fun hmem => h ?_⟩
    exact List.mem_cons_of_mem _ (List.mem_of_mem_drop hmem)

/-! ## Texts that a rule misses -/

/-- No match starts in the text, with `behind` standing behind it. -/
def Rule.Misses (rule : Rule) (behind : List Char) : List Char → Prop
  | [] => True
  | c :: rest => rule (c :: (rest ++ behind)) = none ∧ rule.Misses behind rest

section Misses

variable {rule : Rule}

theorem Rule.Misses.right {before behind text : List Char}
    (h : rule.Misses behind (before ++ text)) : rule.Misses behind text := by
  induction before with
  | nil => exact h
  | cons c before ih => exact ih h.2

theorem misses_iff {text : List Char} :
    rule.Misses [] text ↔
      ∀ before c rest, text = before ++ c :: rest → rule (c :: rest) = none := by
  constructor
  · rintro h before c rest rfl
    simpa using h.right.1
  · intro h
    induction text with
    | nil => trivial
    | cons c rest ih =>
      refine ⟨by simpa using h [] c rest rfl, ih fun before d more hmore => ?_⟩
      exact h (c :: before) d more (by rw [hmore, List.cons_append])

theorem rewrite_append_of_misses {behind text : List Char} (h : rule.Misses behind text) :
    rewrite rule (text ++ behind) = text ++ rewrite rule behind := by
  induction text with
  | nil => rfl
  | cons c rest ih => rw [List.cons_append, rewrite_cons_none h.1, ih h.2, List.cons_append]

/-- What is written for a match at the start stands there. -/
theorem prefix_rewrite {text written : List Char} {taken : Nat} (hne : text ≠ [])
    (h : rule text = some (taken, written)) : written <+: rewrite rule text := by
  obtain ⟨c, rest, rfl⟩ := List.exists_cons_of_ne_nil hne
  rw [rewrite_cons_some h]
  exact List.prefix_append _ _

theorem rewrite_of_misses {text : List Char} (h : rule.Misses [] text) :
    rewrite rule text = text := by
  simpa using rewrite_append_of_misses h

/-- **A text in pieces is rewritten piece by piece**, when each piece is rewritten on its own in
front of every text that may stand behind it. -/
theorem rewrite_flatMap {α : Type} {before after : α → List Char} {pieces : List α}
    (mayFollow : List Char → Prop) (hend : mayFollow [])
    (hmore : ∀ piece ∈ pieces, ∀ behind, mayFollow (before piece ++ behind))
    (hstep : ∀ piece ∈ pieces, ∀ behind, mayFollow behind →
      rewrite rule (before piece ++ behind) = after piece ++ rewrite rule behind) :
    rewrite rule (pieces.flatMap before) = pieces.flatMap after ∧
      mayFollow (pieces.flatMap before) := by
  induction pieces with
  | nil => exact ⟨rfl, hend⟩
  | cons piece rest ih =>
    rw [List.forall_mem_cons] at hmore hstep
    obtain ⟨hrest, hfollow⟩ := ih hmore.2 hstep.2
    rw [List.flatMap_cons, List.flatMap_cons]
    exact ⟨by rw [hstep.1 _ hfollow, hrest], hmore.1 _⟩

end Misses

/-! ## Several rules in turn -/

/-- Rewrites by one rule after the other. -/
def rewriteAll : List Rule → List Char → List Char
  | [], text => text
  | rule :: rules, text => rewriteAll rules (rewrite rule text)

section Rules

variable {rules : List Rule} {c : Char}

theorem rewriteAll_append_cons (h : ∀ rule ∈ rules, rule.StopsAt c) (before behind : List Char) :
    rewriteAll rules (before ++ c :: behind) =
      rewriteAll rules before ++ c :: rewriteAll rules behind := by
  induction rules generalizing before behind with
  | nil => rfl
  | cons rule rules ih =>
    rw [List.forall_mem_cons] at h
    rw [rewriteAll, rewrite_append_cons h.1, ih h.2]
    rfl

theorem not_mem_rewriteAll
    (hwritten : ∀ rule ∈ rules, ∀ text taken written, rule text = some (taken, written) →
      c ∉ written) {text : List Char} (h : c ∉ text) : c ∉ rewriteAll rules text := by
  induction rules generalizing text with
  | nil => exact h
  | cons rule rules ih =>
    rw [List.forall_mem_cons] at hwritten
    exact ih hwritten.2 (not_mem_rewrite (fun _ _ _ _ => hwritten.1 _ _ _) h)

/-- Each match leaves more of the character than it takes. -/
def Rule.Adds (rule : Rule) (c : Char) : Prop :=
  ∀ text taken written, rule text = some (taken, written) →
    0 < taken ∧ (text.take taken).count c < written.count c

/-- A rule that adds a character misses the text or leaves more of that character in it. -/
theorem misses_or_count_lt {rule : Rule} (h : rule.Adds c) (text : List Char) :
    rule.Misses [] text ∨ text.count c < (rewrite rule text).count c := by
  refine rewrite_induction rule
    (motive := fun text out => rule.Misses [] text ∨ text.count c < out.count c) ?_ ?_ ?_ text
  · exact Or.inl trivial
  · intro d rest hmatch ih
    rcases ih with hmisses | hmore
    · exact Or.inl ⟨by rwa [List.append_nil], hmisses⟩
    · rw [List.count_cons, List.count_cons]
      exact Or.inr (by omega)
  · intro d rest taken written hmatch ih
    obtain ⟨htaken, hwritten⟩ := h _ _ _ hmatch
    have hsplit : d :: rest = (d :: rest).take taken ++ rest.drop (taken - 1) := by
      obtain ⟨size, rfl⟩ := Nat.exists_eq_add_of_lt htaken
      simp
    have hbehind : (rest.drop (taken - 1)).count c ≤
        (rewrite rule (rest.drop (taken - 1))).count c := by
      rcases ih with hmisses | hmore
      · exact Nat.le_of_eq (by rw [rewrite_of_misses hmisses])
      · exact Nat.le_of_lt hmore
    refine Or.inr ?_
    rw [hsplit, List.count_append, List.count_append]
    omega

theorem count_le_rewriteAll (h : ∀ rule ∈ rules, rule.Adds c) (text : List Char) :
    text.count c ≤ (rewriteAll rules text).count c := by
  induction rules generalizing text with
  | nil => exact Nat.le_refl _
  | cons rule rules ih =>
    rw [List.forall_mem_cons] at h
    rw [rewriteAll]
    rcases misses_or_count_lt h.1 text with hmisses | hmore
    · rw [rewrite_of_misses hmisses]
      exact ih h.2 text
    · exact Nat.le_trans (Nat.le_of_lt hmore) (ih h.2 _)

/-- **Rewriting shows**: a text comes out as it was only when every rule misses it. -/
theorem rewriteAll_eq_self_iff (h : ∀ rule ∈ rules, rule.Adds c) {text : List Char} :
    rewriteAll rules text = text ↔ ∀ rule ∈ rules, rule.Misses [] text := by
  induction rules with
  | nil => simp [rewriteAll]
  | cons rule rules ih =>
    rw [List.forall_mem_cons] at h
    rw [List.forall_mem_cons, ← ih h.2, rewriteAll]
    constructor
    · intro hsame
      rcases misses_or_count_lt h.1 text with hmisses | hmore
      · rw [rewrite_of_misses hmisses] at hsame
        exact ⟨hmisses, hsame⟩
      · have hcount := count_le_rewriteAll h.2 (rewrite rule text)
        rw [hsame] at hcount
        omega
    · rintro ⟨hmisses, hsame⟩
      rwa [rewrite_of_misses hmisses]

end Rules

/-! ## Words -/

theorem literal_eq_some {word replacement text written : List Char} {taken : Nat}
    (h : literal word replacement text = some (taken, written)) :
    word <+: text ∧ taken = word.length ∧ written = replacement := by
  unfold literal at h
  split at h
  · next hword =>
    simp only [Option.some.injEq, Prod.mk.injEq] at h
    exact ⟨List.isPrefixOf_iff_prefix.mp hword, h.1.symm, h.2.symm⟩
  · cases h

theorem literal_eq_none_iff {word replacement text : List Char} :
    literal word replacement text = none ↔ ¬word <+: text := by
  rw [literal, ite_eq_right_iff, List.isPrefixOf_iff_prefix]
  simp

theorem literal_bounded {word : List Char} (hword : word ≠ []) (replacement : List Char) :
    (literal word replacement).Bounded := by
  intro text taken written h
  obtain ⟨hstarts, rfl, -⟩ := literal_eq_some h
  exact ⟨List.length_pos_iff.mpr hword, hstarts.length_le⟩

/-- A text in front of a character is not made to start with a word by what stands behind that
character, when the word does not hold it. -/
theorem isPrefixOf_append_cons {word : List Char} {c : Char} (hc : c ∉ word)
    (text behind : List Char) :
    word.isPrefixOf (text ++ c :: behind) = word.isPrefixOf text := by
  induction word generalizing text with
  | nil => simp
  | cons d word ih =>
    rw [List.mem_cons, not_or] at hc
    cases text with
    | nil => simp [List.isPrefixOf, Ne.symm hc.1]
    | cons e text => simp [List.isPrefixOf, ih hc.2]

theorem literal_stopsAt {word : List Char} {c : Char} (hword : word ≠ []) (hc : c ∉ word)
    (replacement : List Char) : (literal word replacement).StopsAt c := by
  refine ⟨literal_bounded hword replacement, fun text behind => ?_⟩
  unfold literal
  rw [isPrefixOf_append_cons hc]

theorem not_mem_replaceAll {word replacement text : List Char} {c : Char} (hc : c ∉ replacement)
    (h : c ∉ text) : c ∉ replaceAll word replacement text := by
  refine not_mem_rewrite (fun other taken written _ hmatch => ?_) h
  obtain ⟨-, -, rfl⟩ := literal_eq_some hmatch
  exact hc

theorem misses_literal_iff {word : List Char} (hword : word ≠ []) (replacement : List Char)
    {text : List Char} : (literal word replacement).Misses [] text ↔ ¬word <:+: text := by
  simp only [misses_iff, literal_eq_none_iff]
  constructor
  · rintro h ⟨before, behind, rfl⟩
    obtain ⟨c, rest, rfl⟩ := List.exists_cons_of_ne_nil hword
    exact h before c (rest ++ behind) (by simp) ⟨behind, rfl⟩
  · intro h before c rest htext hmatch
    refine h (hmatch.isInfix.trans ?_)
    exact htext ▸ List.suffix_append before _ |>.isInfix

/-- A word of one character is replaced wherever that character stands. -/
theorem replaceAll_singleton (c : Char) (replacement text : List Char) :
    replaceAll [c] replacement text = text.flatMap fun d => if d = c then replacement else [d] := by
  induction text with
  | nil => rfl
  | cons d rest ih =>
    unfold replaceAll at ih ⊢
    by_cases hd : d = c
    · have hsome : literal [c] replacement (d :: rest) = some (1, replacement) := by
        simp [literal, List.isPrefixOf, hd]
      rw [rewrite_cons_some hsome, List.flatMap_cons, if_pos hd, ← ih]
      rfl
    · have hnone : literal [c] replacement (d :: rest) = none := by
        simp [literal, List.isPrefixOf, Ne.symm hd]
      rw [rewrite_cons_none hnone, List.flatMap_cons, if_neg hd, ih]
      rfl

end GirStubs.Text
